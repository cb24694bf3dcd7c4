import Mathlib.Algebra.Group.Nat.Defs
import PhoneAudio.Text.Blank
import PhoneAudio.Text.Digits

/-!
# Written numbers

What the reader of a duration accepts, said without the reader: a *word* is a row of one
or more decimal digits, possibly behind a plus sign, that stands for a number below
`2 ^ 64` (`IsWord`). The reader accepts these texts and no others (`word?_eq_some_iff`).

The other way round a number has many spellings, since blanks around it, a plus sign and
leading zeros do not count. A `Spelling` is one choice of them. Whatever the choice, the
written number without its blanks is a word for the number (`Spelling.trim_write`,
`Spelling.isWord_numeral`).
-/

namespace PhoneAudio.Text

/-! ## Blanks -/

/-- A text that begins and ends with other characters than blanks is left as it is. -/
theorem trim_eq_self {text : List Char} (hfirst : ∀ c ∈ text.head?, isBlank c = false)
    (hlast : ∀ c ∈ text.getLast?, isBlank c = false) : trim text = text := by
  have hdrop : ∀ row : List Char, (∀ c ∈ row.head?, isBlank c = false) →
      row.dropWhile isBlank = row := by
    intro row hrow
    cases row with
    | nil => rfl
    | cons c rest => rw [List.dropWhile_cons_of_neg (by simp [hrow c rfl])]
  rw [trim, hdrop text hfirst, hdrop text.reverse (by simpa using hlast), List.reverse_reverse]

theorem trim_of_noBlank {text : List Char} (h : ∀ c ∈ text, isBlank c = false) :
    trim text = text :=
  trim_eq_self (fun c hc => h c (List.mem_of_mem_head? hc))
    (fun c hc => h c (List.mem_of_mem_getLast? hc))

/-- Blanks at either end do not count. -/
theorem trim_pad {before after : List Char} (hbefore : ∀ c ∈ before, isBlank c = true)
    (hafter : ∀ c ∈ after, isBlank c = true) (text : List Char) :
    trim (before ++ text ++ after) = trim text := by
  have hreverse : ∀ c ∈ after.reverse, isBlank c = true := by simpa using hafter
  rw [trim, trim, List.append_assoc, List.dropWhile_append_of_pos hbefore, List.dropWhile_append]
  split
  next hblank =>
    -- a text of blanks alone leaves nothing, and the blanks behind it leave nothing
    rw [List.isEmpty_iff.mp hblank, ← List.append_nil after,
      List.dropWhile_append_of_pos hafter]
    rfl
  next =>
    rw [List.reverse_append, List.dropWhile_append_of_pos hreverse]

/-- A character that is no blank is not lost. -/
theorem mem_trim {c : Char} {text : List Char} (hc : isBlank c = false) (h : c ∈ text) :
    c ∈ trim text := by
  have hdrop : ∀ row : List Char, c ∈ row → c ∈ row.dropWhile isBlank := by
    intro row hmem
    induction row with
    | nil => exact hmem
    | cons first rest ih =>
      rw [List.dropWhile_cons]
      split
      next hfirst =>
        rcases List.mem_cons.mp hmem with rfl | hrest
        · exact absurd hfirst (by simp [hc])
        · exact ih hrest
      next => exact hmem
  rw [trim, List.mem_reverse]
  exact hdrop _ (List.mem_reverse.mpr (hdrop _ h))

/-! ## Words -/

/-- One or more decimal digits, and the number they stand for. -/
structure IsDecimal (digits : List Char) (value : Nat) : Prop where
  nonempty : digits ≠ []
  isDigit : ∀ c ∈ digits, c.isDigit = true
  ofDigitChars : Nat.ofDigitChars 10 digits 0 = value

/-- A decimal number with an optional plus sign in front, of sixty-four bits at most. -/
def IsWord (text : List Char) (value : Nat) : Prop :=
  (IsDecimal text value ∨ ∃ digits, text = '+' :: digits ∧ IsDecimal digits value) ∧
    value < 2 ^ 64

theorem digitValue?_eq (c : Char) :
    digitValue? c = if c.isDigit = true then some (c.toNat - '0'.toNat) else none := by
  have hdigit : ('0' ≤ c ∧ c ≤ '9') ↔ c.isDigit = true := by
    rw [Char.isDigit_iff_toNat]
    rfl
  rw [digitValue?]
  by_cases h : c.isDigit = true
  · rw [if_pos h, if_pos (hdigit.mpr h)]
  · rw [if_neg h, if_neg (mt hdigit.mp h)]

/-- The digits of a text are read one by one. -/
theorem mapM_digitValue? {text : List Char} (h : ∀ c ∈ text, c.isDigit = true) :
    text.mapM digitValue? = some (text.map fun c => c.toNat - '0'.toNat) := by
  induction text with
  | nil => rfl
  | cons c rest ih =>
    rw [List.mapM_cons, digitValue?_eq, if_pos (h c (by simp)),
      ih fun other hmem => h other (List.mem_cons_of_mem c hmem)]
    rfl

theorem isDigit_of_mapM {text : List Char} {values : List Nat}
    (h : text.mapM digitValue? = some values) : ∀ c ∈ text, c.isDigit = true := by
  induction text generalizing values with
  | nil => simp
  | cons c rest ih =>
    rw [List.mapM_cons, digitValue?_eq, Option.bind_eq_bind, Option.bind_eq_some_iff] at h
    obtain ⟨digit, hdigit, h⟩ := h
    obtain ⟨more, hmore, -⟩ := Option.bind_eq_some_iff.mp h
    intro other hmem
    rcases List.mem_cons.mp hmem with rfl | hrest
    · exact (Option.ite_none_right_eq_some.mp hdigit).1
    · exact ih hmore other hrest

theorem number?_eq_some_iff {text : List Char} {value : Nat} :
    number? text = some value ↔ IsDecimal text value := by
  have hvalue : ofDigits (text.map fun c => c.toNat - '0'.toNat) =
      Nat.ofDigitChars 10 text 0 := by
    rw [ofDigits, List.foldl_map, Nat.ofDigitChars_eq_foldl]
    simp only [Nat.mul_comm]
  unfold number?
  split
  next =>
    constructor
    · exact fun h => nomatch h
    · exact fun h => absurd rfl h.nonempty
  next c rest =>
    constructor
    · intro h
      obtain ⟨values, hread, hsum⟩ := Option.map_eq_some_iff.mp h
      have hdigits := isDigit_of_mapM hread
      obtain rfl := Option.some.inj ((mapM_digitValue? hdigits).symm.trans hread)
      exact ⟨by simp, hdigits, hvalue.symm.trans hsum⟩
    · rintro ⟨-, hdigits, hsum⟩
      rw [mapM_digitValue? hdigits, Option.map_some, hvalue, hsum]

/-- The plus sign is no digit. -/
theorem IsDecimal.head_ne {text rest : List Char} {value : Nat} (h : IsDecimal text value) :
    text ≠ '+' :: rest := by
  rintro rfl
  exact absurd (h.isDigit '+' (by simp)) (by decide)

/-- The reader accepts words and nothing else. -/
theorem word?_eq_some_iff {text : List Char} {value : Nat} :
    word? text = some value ↔ IsWord text value := by
  unfold word?
  dsimp only
  rw [IsWord, Option.filter_eq_some_iff, decide_eq_true_iff, number?_eq_some_iff]
  refine and_congr ?_ Iff.rfl
  split
  next rest =>
    constructor
    · exact fun h => .inr ⟨rest, rfl, h⟩
    · rintro (h | ⟨digits, heq, h⟩)
      · exact absurd rfl h.head_ne
      · obtain rfl := (List.cons.inj heq).2
        exact h
  next hplain =>
    constructor
    · exact .inl
    · rintro (h | ⟨digits, heq, -⟩)
      · exact h
      · exact absurd heq (hplain digits)

/-- Only digits and the plus sign stand in a word. -/
theorem IsWord.isDigit_or {text : List Char} {value : Nat} (h : IsWord text value) {c : Char}
    (hc : c ∈ text) : c.isDigit = true ∨ c = '+' := by
  rcases h.1 with hplain | ⟨digits, rfl, hsigned⟩
  · exact .inl (hplain.isDigit c hc)
  · rcases List.mem_cons.mp hc with rfl | hmem
    · exact .inr rfl
    · exact .inl (hsigned.isDigit c hmem)

theorem isBlank_of_isDigit {c : Char} (h : c.isDigit = true) : isBlank c = false := by
  obtain ⟨hlow, hhigh⟩ := Char.isDigit_iff_toNat.mp h
  have hlow : 48 ≤ c.toNat := hlow
  have hhigh : c.toNat ≤ 57 := hhigh
  simp only [isBlank, Bool.or_eq_false_iff, Bool.and_eq_false_iff, decide_eq_false_iff_not,
    beq_eq_false_iff_ne]
  omega

theorem IsWord.isBlank {text : List Char} {value : Nat} (h : IsWord text value) :
    ∀ c ∈ text, isBlank c = false := by
  intro c hc
  rcases h.isDigit_or hc with hdigit | rfl
  · exact isBlank_of_isDigit hdigit
  · decide

theorem IsWord.ne_nil {text : List Char} {value : Nat} (h : IsWord text value) : text ≠ [] := by
  rcases h.1 with hplain | ⟨digits, rfl, -⟩
  · exact hplain.nonempty
  · simp

/-- A text that begins and ends with words has no blanks to lose. -/
theorem IsWord.trim_append {first last : List Char} {a b : Nat} (hfirst : IsWord first a)
    (hlast : IsWord last b) (middle : List Char) :
    trim (first ++ (middle ++ last)) = first ++ (middle ++ last) := by
  refine trim_eq_self ?_ ?_
  · intro c hc
    rw [List.head?_append, List.head?_eq_some_head hfirst.ne_nil, Option.some_or] at hc
    obtain rfl := Option.some.inj hc
    exact hfirst.isBlank _ (List.head_mem _)
  · intro c hc
    rw [← List.append_assoc, List.getLast?_append, List.getLast?_eq_some_getLast hlast.ne_nil,
      Option.some_or] at hc
    obtain rfl := Option.some.inj hc
    exact hlast.isBlank _ (List.getLast_mem _)

/-- No comma stands in a word, nor among the blanks around it. -/
theorem IsWord.comma_notMem {text : List Char} {value : Nat} (h : IsWord (trim text) value) :
    ',' ∉ text := by
  intro hmem
  rcases h.isDigit_or (mem_trim (by decide) hmem) with hdigit | hplus
  · exact absurd hdigit (by decide)
  · exact absurd hplus (by decide)

/-! ## Spellings -/

/-- One way to write a number: with blanks around it, a plus sign or none, and some zeros
in front of its digits. -/
structure Spelling where
  before : List Char
  signed : Bool
  zeros : Nat
  after : List Char
  blank_before : ∀ c ∈ before, isBlank c = true
  blank_after : ∀ c ∈ after, isBlank c = true

namespace Spelling

/-- The number without the blanks around it. -/
def numeral (spelling : Spelling) (value : Nat) : List Char :=
  (if spelling.signed then ['+'] else []) ++
    (List.replicate spelling.zeros '0' ++ Nat.toDigits 10 value)

def write (spelling : Spelling) (value : Nat) : List Char :=
  spelling.before ++ spelling.numeral value ++ spelling.after

theorem isDecimal_digits (zeros value : Nat) :
    IsDecimal (List.replicate zeros '0' ++ Nat.toDigits 10 value) value := by
  refine ⟨?_, ?_, ?_⟩
  · simp [Nat.toDigits_ne_nil]
  · intro c hc
    rcases List.mem_append.mp hc with hzero | hdigit
    · rw [List.eq_of_mem_replicate hzero]
      rfl
    · exact Nat.isDigit_of_mem_toDigits (by decide) (by decide) hdigit
  · rw [Nat.ofDigitChars_append, Nat.ofDigitChars_replicate_zero, Nat.mul_zero,
      Nat.ofDigitChars_ten_toDigits]

theorem isWord_numeral (spelling : Spelling) {value : Nat} (h : value < 2 ^ 64) :
    IsWord (spelling.numeral value) value := by
  refine ⟨?_, h⟩
  unfold numeral
  split
  · exact .inr ⟨_, rfl, isDecimal_digits _ value⟩
  · exact .inl (isDecimal_digits _ value)

theorem trim_write (spelling : Spelling) {value : Nat} (h : value < 2 ^ 64) :
    trim (spelling.write value) = spelling.numeral value := by
  rw [write, trim_pad spelling.blank_before spelling.blank_after]
  exact trim_of_noBlank (spelling.isWord_numeral h).isBlank

end Spelling

end PhoneAudio.Text
