import PhoneAudio.Json.Reader
import PhoneAudio.Proofs.Json.Grammar

/-!
# Reading numerals

A written numeral is read with the digits it is written with, if what stands behind it could
not be a part of it (`Stops`). Each part of a numeral ends where the next one begins, since
no part begins with a digit but the first.
-/

namespace PhoneAudio.Json

variable {rest : List Char}

/-- Nothing that could go on a numeral comes first. -/
def Stops (rest : List Char) : Prop :=
  ∀ c ∈ rest.head?, c.isDigit = false ∧ c ≠ '.' ∧ c ≠ 'e' ∧ c ≠ 'E'

/-- No digit comes first. -/
def StopsDigits (rest : List Char) : Prop := ∀ c ∈ rest.head?, c.isDigit = false

theorem Stops.stopsDigits (h : Stops rest) : StopsDigits rest := fun c hc => (h c hc).1

/-! ## Digits -/

theorem isDigit_digitChar {digit : Nat} (h : digit < 10) :
    (Nat.digitChar digit).isDigit = true := by
  revert digit
  decide

theorem value_digitChar {digit : Nat} (h : digit < 10) :
    (Nat.digitChar digit).toNat - '0'.toNat = digit := by
  revert digit
  decide

theorem WritesDigits.isDigit {row : List Nat} {text : List Char} (h : WritesDigits row text) :
    ∀ c ∈ text, c.isDigit = true := by
  intro c hmem
  rw [h.text_eq] at hmem
  obtain ⟨digit, hdigit, rfl⟩ := List.mem_map.mp hmem
  exact isDigit_digitChar (h.small digit hdigit)

theorem WritesDigits.exists_cons {row : List Nat} {text : List Char} (h : WritesDigits row text) :
    ∃ c more, text = c :: more ∧ c.isDigit = true := by
  obtain ⟨digit, others, rfl⟩ := List.exists_cons_of_ne_nil h.nonempty
  refine ⟨_, _, h.text_eq, isDigit_digitChar (h.small digit (by simp))⟩

theorem digits?_of_writes {row : List Nat} {text : List Char} (h : WritesDigits row text)
    (hrest : StopsDigits rest) : digits? (text ++ rest) = some (row, rest) := by
  have hhead : rest.takeWhile Char.isDigit = [] ∧ rest.dropWhile Char.isDigit = rest := by
    cases rest with
    | nil => exact ⟨rfl, rfl⟩
    | cons c more =>
      have hc : ¬c.isDigit = true := by simp [hrest c rfl]
      exact ⟨List.takeWhile_cons_of_neg hc, List.dropWhile_cons_of_neg hc⟩
  have hread : digits (text ++ rest) = (row, rest) := by
    rw [digits, List.takeWhile_append_of_pos h.isDigit, List.dropWhile_append_of_pos h.isDigit,
      hhead.1, hhead.2, List.append_nil, h.text_eq, List.map_map]
    refine congrArg (·, rest) ((List.map_congr_left fun digit hmem => ?_).trans (List.map_id row))
    exact value_digitChar (h.small digit hmem)
  rw [digits?, hread]
  obtain ⟨digit, others, rfl⟩ := List.exists_cons_of_ne_nil h.nonempty
  rfl

/-! ## Parts -/

theorem whole?_of_writes {whole : List Nat} {text : List Char} (h : WritesDigits whole text)
    (hzero : whole.head? = some 0 → whole = [0]) (hrest : StopsDigits rest) :
    whole? (text ++ rest) = some (whole, rest) := by
  by_cases hfirst : whole.head? = some 0
  · have hwhole := hzero hfirst
    have htext := h.text_eq
    rw [hwhole] at htext ⊢
    rw [htext]
    rfl
  · rw [whole?.eq_2, digits?_of_writes h hrest]
    intro more hmore
    obtain ⟨digit, others, rfl⟩ := List.exists_cons_of_ne_nil h.nonempty
    have hdigit := h.small digit (by simp)
    rw [h.text_eq, List.map_cons, List.cons_append] at hmore
    have hchar := congrArg (fun c => c.toNat - '0'.toNat) (List.cons.inj hmore).1
    rw [value_digitChar hdigit] at hchar
    exact hfirst (by simp [hchar])

theorem fraction?_of_writes {fraction : Option (List Nat)} {text : List Char}
    (h : WritesFraction fraction text) (hrest : StopsDigits rest) (hpoint : rest.head? ≠ some '.') :
    fraction? (text ++ rest) = some (fraction, rest) := by
  cases h with
  | none =>
    rw [List.nil_append, fraction?.eq_2]
    rintro more rfl
    exact hpoint rfl
  | some hdigits =>
    rw [List.cons_append, fraction?, digits?_of_writes hdigits hrest]
    rfl

theorem power?_of_writes (negative : Bool) {row : List Nat} {text : List Char}
    (h : WritesDigits row text) (hrest : StopsDigits rest) :
    power? negative (text ++ rest) =
      some (some (if negative then -(Text.ofDigits row : Int) else Text.ofDigits row), rest) := by
  rw [power?, digits?_of_writes h hrest]
  rfl

theorem exponent?_of_writes {exponent : Option Int} {text : List Char}
    (h : WritesExponent exponent text) (hrest : Stops rest) :
    exponent? (text ++ rest) = some (exponent, rest) := by
  cases h with
  | none =>
    rw [List.nil_append]
    cases rest with
    | nil => rfl
    | cons c more =>
      obtain ⟨-, -, he, hE⟩ := hrest c rfl
      simp [exponent?.eq_def, he, hE]
  | bare hmark hdigits =>
    obtain ⟨c, more, htext, hc⟩ := hdigits.exists_cons
    have hsign : c ≠ '-' ∧ c ≠ '+' := by
      constructor <;> (rintro rfl; exact absurd hc (by decide))
    have hpower := power?_of_writes false hdigits hrest.stopsDigits
    rw [htext, List.cons_append] at hpower ⊢
    rw [List.cons_append, exponent?.eq_4 _ _ (fun _ hrow => hsign.1 (List.cons.inj hrow).1)
      (fun _ hrow => hsign.2 (List.cons.inj hrow).1), if_pos hmark]
    exact hpower
  | plus hmark hdigits =>
    rw [List.cons_append, List.cons_append, exponent?.eq_3, if_pos hmark]
    exact power?_of_writes false hdigits hrest.stopsDigits
  | minus hmark hdigits =>
    rw [List.cons_append, List.cons_append, exponent?.eq_2, if_pos hmark]
    exact power?_of_writes true hdigits hrest.stopsDigits

/-! ## Numerals -/

/-- An exponent and what comes after it begin with neither a digit nor a point. -/
theorem head?_exponent {exponent : Option Int} {text : List Char}
    (h : WritesExponent exponent text) (hrest : Stops rest) :
    ∀ c ∈ (text ++ rest).head?, c.isDigit = false ∧ c ≠ '.' := by
  have hmarks : ∀ mark : Char, mark = 'e' ∨ mark = 'E' → mark.isDigit = false ∧ mark ≠ '.' := by
    rintro mark (rfl | rfl) <;> decide
  intro c hc
  cases h with
  | none => exact ⟨(hrest c hc).1, (hrest c hc).2.1⟩
  | bare hmark hdigits => exact Option.mem_some_iff.mp hc ▸ hmarks _ hmark
  | plus hmark hdigits => exact Option.mem_some_iff.mp hc ▸ hmarks _ hmark
  | minus hmark hdigits => exact Option.mem_some_iff.mp hc ▸ hmarks _ hmark

theorem stopsDigits_fraction {fraction : Option (List Nat)} {text : List Char}
    (h : WritesFraction fraction text) (hrest : StopsDigits rest) :
    StopsDigits (text ++ rest) := by
  intro c hc
  cases h with
  | none => exact hrest c hc
  | some hdigits =>
    cases hc
    rfl

/-- A written numeral is read up to where it stops. -/
theorem number?_of_writes {numeral : Numeral} {text : List Char} (h : WritesNumeral numeral text)
    (hrest : Stops rest) : number? (text ++ rest) = some (.number numeral, rest) := by
  obtain @⟨negative, whole, fraction, exponent, first, second, third, hwhole, hzero, hfraction,
    hexponent⟩ := h
  have hafter := head?_exponent hexponent hrest
  have hdigits : StopsDigits (third ++ rest) := fun c hc => (hafter c hc).1
  have hunsigned : unsigned? negative (first ++ (second ++ (third ++ rest))) =
      some (.number ⟨negative, whole, fraction, exponent⟩, rest) := by
    rw [unsigned?, whole?_of_writes hwhole hzero (stopsDigits_fraction hfraction hdigits)]
    simp only [Option.bind_eq_bind, Option.bind_some]
    rw [fraction?_of_writes hfraction hdigits fun hpoint => (hafter '.' hpoint).2 rfl]
    simp only [Option.bind_some]
    rw [exponent?_of_writes hexponent hrest]
    rfl
  obtain ⟨c, more, hfirst, hc⟩ := hwhole.exists_cons
  cases negative with
  | true => simpa [number?] using hunsigned
  | false =>
    have hsign : c ≠ '-' := by
      rintro rfl
      exact absurd hc (by decide)
    rw [hfirst] at hunsigned ⊢
    simp only [List.cons_append, List.append_assoc, Bool.false_eq_true, if_false,
      List.nil_append] at hunsigned ⊢
    rw [number?.eq_2 _ fun _ hrow => hsign (List.cons.inj hrow).1]
    exact hunsigned

end PhoneAudio.Json
