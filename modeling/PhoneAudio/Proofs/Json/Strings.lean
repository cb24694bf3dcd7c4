import PhoneAudio.Json.Reader
import PhoneAudio.Proofs.Json.Grammar

/-!
# Reading strings

A written string is read as what it writes, whatever stands behind its closing quote
(`string?_of_writes`). The reader collects the codes of a string first and joins the halves
of surrogate pairs after that. For the second step it is shown that the codes are joined to a
text exactly if they encode it (`joinPairs_eq_some_iff`); so a string that is no text is read
as such, too.
-/

namespace PhoneAudio.Json

open Text

/-! ## Codes -/

theorem shortEscape?_of_mem {letter c : Char} (h : (letter, c) ∈ shortEscapes) :
    shortEscape? letter = some c ∧ letter ≠ 'u' := by
  have hall : ∀ pair ∈ shortEscapes,
      shortEscape? pair.1 = some pair.2 ∧ pair.1 ≠ 'u' := by decide
  exact hall _ h

theorem digitValue?_of_isHexDigit {c : Char} {value : Nat} (h : IsHexDigit c value) :
    Hex.digitValue? c = some value := by
  obtain ⟨hsmall, rfl | rfl⟩ := h
  · exact Hex.digitValue?_digitChar hsmall
  · revert value
    decide

theorem read?_of_isHexDigit {a b c d : Char} {w x y z : Nat} (ha : IsHexDigit a w)
    (hb : IsHexDigit b x) (hc : IsHexDigit c y) (hd : IsHexDigit d z) :
    Hex.read? [a, b, c, d] = some (((w * 16 + x) * 16 + y) * 16 + z) := by
  simp [Hex.read?, digitValue?_of_isHexDigit ha, digitValue?_of_isHexDigit hb,
    digitValue?_of_isHexDigit hc, digitValue?_of_isHexDigit hd]

/-- The codes of a string are read up to its closing quote. -/
theorem codes_of_writes {units : List Nat} {written : List Char} (h : Codes units written)
    (rest : List Char) : codes (written ++ '"' :: rest) = some (units, rest) := by
  induction h with
  | nil => rfl
  | plain hcontrol hquote hslash h ih =>
    rw [List.cons_append, codes.eq_5 _ _ hquote (fun _ _ _ _ _ hc => absurd hc hslash)
      (fun _ _ hc => absurd hc hslash), if_neg (by simp [hslash]; omega), ih]
    rfl
  | short hletter h ih =>
    obtain ⟨hshort, hnot⟩ := shortEscape?_of_mem hletter
    rw [List.cons_append, List.cons_append, codes.eq_4 _ _ (fun _ _ _ _ _ hu => absurd hu hnot),
      hshort, ih]
    rfl
  | code ha hb hc hd h ih =>
    simp only [List.cons_append]
    rw [codes, read?_of_isHexDigit ha hb hc hd, ih]
    rfl

/-- A character is no half of a surrogate pair. -/
theorem toNat_cases (c : Char) :
    c.toNat < 0xD800 ∨ 0xE000 ≤ c.toNat ∧ c.toNat < 0x110000 := by
  have hvalid := c.valid
  simp only [UInt32.isValidChar, Nat.isValidChar] at hvalid
  show c.val.toNat < _ ∨ _ ≤ c.val.toNat ∧ c.val.toNat < _
  omega

/-- Every code is below the number of characters. -/
theorem lt_of_mem_codes {units : List Nat} {written : List Char} (h : Codes units written) :
    ∀ unit ∈ units, unit < 0x110000 := by
  have hchar : ∀ c : Char, c.toNat < 0x110000 := fun c => by
    have := toNat_cases c
    omega
  induction h with
  | nil => simp
  | plain _ _ _ h ih => exact List.forall_mem_cons.mpr ⟨hchar _, ih⟩
  | short _ h ih => exact List.forall_mem_cons.mpr ⟨hchar _, ih⟩
  | code ha hb hc hd h ih =>
    obtain ⟨ha, -⟩ := ha
    obtain ⟨hb, -⟩ := hb
    obtain ⟨hc, -⟩ := hc
    obtain ⟨hd, -⟩ := hd
    exact List.forall_mem_cons.mpr ⟨by omega, ih⟩

/-! ## Surrogate pairs -/

/-- The code of a character stands for it. -/
theorem joinPairs_own (c : Char) (units : List Nat) :
    joinPairs (c.toNat :: units) = (joinPairs units).map (c :: ·) := by
  have hleading : isLeading c.toNat = false := by
    have := toNat_cases c
    simp [isLeading]
    omega
  have htrailing : isTrailing c.toNat = false := by
    have := toNat_cases c
    simp [isTrailing]
    omega
  cases units with
  | nil => simp [joinPairs, hleading, htrailing]
  | cons next rest =>
    rw [joinPairs, hleading, htrailing, Char.ofNat_toNat]
    cases joinPairs (next :: rest) <;> rfl

/-- The halves of a pair stand for the character that they are made of. -/
theorem joinPairs_pair (c : Char) (hhigh : 0x10000 ≤ c.toNat) (units : List Nat) :
    joinPairs ((0xD800 + (c.toNat - 0x10000) / 0x400) ::
      (0xDC00 + (c.toNat - 0x10000) % 0x400) :: units) = (joinPairs units).map (c :: ·) := by
  obtain hlow | ⟨-, hlimit⟩ := toNat_cases c
  · omega
  have hfirst : (c.toNat - 0x10000) / 0x400 < 0x400 := by omega
  have hsecond : (c.toNat - 0x10000) % 0x400 < 0x400 := Nat.mod_lt _ (by decide)
  have hwhole : 0x10000 + (0xD800 + (c.toNat - 0x10000) / 0x400 - 0xD800) * 0x400 +
      (0xDC00 + (c.toNat - 0x10000) % 0x400 - 0xDC00) = c.toNat := by omega
  generalize (c.toNat - 0x10000) / 0x400 = first at hfirst hwhole ⊢
  generalize (c.toNat - 0x10000) % 0x400 = second at hsecond hwhole ⊢
  have hleading : isLeading (0xD800 + first) = true := by
    simp [isLeading]
    omega
  have hnot : isTrailing (0xD800 + first) = false := by
    simp [isTrailing]
    omega
  have htrailing : isTrailing (0xDC00 + second) = true := by
    simp [isTrailing]
    omega
  rw [joinPairs, hwhole, Char.ofNat_toNat]
  simp only [hleading, hnot, htrailing, Bool.false_eq_true, if_true, if_false]
  cases joinPairs units <;> rfl

theorem toNat_ofNat {code : Nat} (h : code.isValidChar) : (Char.ofNat code).toNat = code := by
  rw [Char.ofNat, dif_pos h]
  rfl

theorem toNat_ofNat_of_unpaired {unit : Nat} (hlimit : unit < 0x110000)
    (hleading : isLeading unit = false) (htrailing : isTrailing unit = false) :
    (Char.ofNat unit).toNat = unit := by
  have hvalid : unit.isValidChar := by
    simp [isLeading, isTrailing] at hleading htrailing
    simp only [Nat.isValidChar]
    omega
  exact toNat_ofNat hvalid

/-- Two halves are those of the character that they stand for. -/
theorem exists_pair {unit next : Nat} (hleading : isLeading unit = true)
    (htrailing : isTrailing next = true) :
    let c := Char.ofNat (0x10000 + (unit - 0xD800) * 0x400 + (next - 0xDC00))
    0x10000 ≤ c.toNat ∧ unit = 0xD800 + (c.toNat - 0x10000) / 0x400 ∧
      next = 0xDC00 + (c.toNat - 0x10000) % 0x400 := by
  intro c
  simp only [isLeading, isTrailing, Bool.and_eq_true, decide_eq_true_eq] at hleading htrailing
  have hvalid : (0x10000 + (unit - 0xD800) * 0x400 + (next - 0xDC00)).isValidChar := by
    simp only [Nat.isValidChar]
    omega
  have hcode : c.toNat = 0x10000 + (unit - 0xD800) * 0x400 + (next - 0xDC00) :=
    toNat_ofNat hvalid
  omega

/-- Codes are joined to a text exactly if they encode it. -/
theorem joinPairs_eq_some_iff {units : List Nat} (hunits : ∀ unit ∈ units, unit < 0x110000)
    {text : List Char} : joinPairs units = some text ↔ Encodes text units := by
  constructor
  · intro h
    induction units using joinPairs.induct generalizing text with
    | case1 =>
      cases h
      exact .nil
    | case2 unit hsurrogate => simp [joinPairs, hsurrogate] at h
    | case3 unit hplain =>
      rw [joinPairs, if_neg hplain] at h
      cases h
      simp only [Bool.or_eq_true, not_or, Bool.not_eq_true] at hplain
      have hown := Encodes.own (c := Char.ofNat unit) .nil
      rw [toNat_ofNat_of_unpaired (hunits unit (by simp)) hplain.1 hplain.2] at hown
      exact hown
    | case4 unit next rest htrailing => simp [joinPairs, htrailing] at h
    | case5 unit next rest hnot hleading htrailing ih =>
      simp only [joinPairs, hnot, hleading, htrailing, if_true] at h
      obtain ⟨more, hmore, htext⟩ := Option.bind_eq_some_iff.mp h
      cases htext
      obtain ⟨hhigh, hunit, hnext⟩ := exists_pair hleading htrailing
      have hrest := ih (fun other hmem => hunits other
        (List.mem_cons_of_mem _ (List.mem_cons_of_mem _ hmem))) hmore
      have hpair := Encodes.pair hhigh hrest
      rw [← hunit, ← hnext] at hpair
      exact hpair
    | case6 unit next rest hnot hleading hnext => simp [joinPairs, hnot, hleading, hnext] at h
    | case7 unit next rest hnot hleading ih =>
      simp only [joinPairs, hnot, hleading] at h
      obtain ⟨more, hmore, htext⟩ := Option.bind_eq_some_iff.mp h
      cases htext
      have hown := Encodes.own (c := Char.ofNat unit)
        (ih (fun other hmem => hunits other (List.mem_cons_of_mem _ hmem)) hmore)
      rw [toNat_ofNat_of_unpaired (hunits unit (by simp)) (by simpa using hleading)
        (by simpa using hnot)] at hown
      exact hown
  · intro h
    induction h with
    | nil => rfl
    | own h ih =>
      rw [joinPairs_own, ih fun unit hmem => hunits unit (List.mem_cons_of_mem _ hmem)]
      rfl
    | pair hhigh h ih =>
      rw [joinPairs_pair _ hhigh, ih fun unit hmem =>
        hunits unit (List.mem_cons_of_mem _ (List.mem_cons_of_mem _ hmem))]
      rfl

/-! ## Strings -/

/-- A written string is read up to and with its closing quote. -/
theorem string?_of_writes {string : Option String} {written : List Char}
    (h : WritesString string written) (rest : List Char) :
    ∃ body, written ++ rest = '"' :: body ∧ string? body = some (string, rest) := by
  have hbody : ∀ {units : List Nat} {inside : List Char}, Codes units inside →
      string? (inside ++ '"' :: rest) = some ((joinPairs units).map String.ofList, rest) := by
    intro units inside hcodes
    rw [string?, codes_of_writes hcodes]
    rfl
  cases h with
  | text hcodes hencodes =>
    refine ⟨_, by simp, (hbody hcodes).trans ?_⟩
    rw [(joinPairs_eq_some_iff (lt_of_mem_codes hcodes)).mpr hencodes, Option.map_some,
      String.ofList_toList]
  | broken hcodes hnone =>
    refine ⟨_, by simp, (hbody hcodes).trans ?_⟩
    have hjoined : joinPairs _ = none := Option.eq_none_iff_forall_ne_some.mpr fun text htext =>
      hnone text ((joinPairs_eq_some_iff (lt_of_mem_codes hcodes)).mp htext)
    rw [hjoined]
    rfl

end PhoneAudio.Json
