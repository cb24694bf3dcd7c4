import Mathlib.Data.List.DropRight
import PhoneAudio.Proofs.Json.Numerals
import PhoneAudio.Proofs.Json.Strings

/-!
# Reading values

Every text of the grammar is read as the value that it writes (`read?_of_writes`): with any
gaps, escapes and numerals, and however deep its arrays and objects are nested. The induction
is on how the text is written. It covers the items of arrays and the members of objects as
well as the values, and says of each of them how many steps are enough for it
(`Phrase.IsRead`); the characters of a text are always enough.
-/

namespace PhoneAudio.Json

variable {text rest gap : List Char}

/-! ## Gaps -/

theorem isGap_of_mem (h : IsGap gap) : ∀ c ∈ gap, isGap c = true := by
  intro c hmem
  rcases h c hmem with rfl | rfl | rfl | rfl <;> decide

theorem skipGaps_append (h : IsGap gap) (text : List Char) :
    skipGaps (gap ++ text) = skipGaps text :=
  List.dropWhile_append_of_pos (isGap_of_mem h)

theorem skipGaps_cons {c : Char} (h : isGap c = false) (text : List Char) :
    skipGaps (c :: text) = c :: text :=
  List.dropWhile_cons_of_neg (by simp [h])

theorem skipGaps_skipGaps (text : List Char) : skipGaps (skipGaps text) = skipGaps text :=
  List.dropWhile_idempotent isGap text

/-- A value ends at a gap, and at whatever may stand behind it. -/
theorem stops_append (h : IsGap gap) (hrest : Stops rest) : Stops (gap ++ rest) := by
  cases gap with
  | nil => exact hrest
  | cons c more =>
    intro other hother
    cases hother
    rcases h c (by simp) with rfl | rfl | rfl | rfl <;> decide

theorem stops_nil : Stops [] := fun c hc => absurd hc (by simp)

theorem stops_cons {c : Char} (h : c = ',' ∨ c = ']' ∨ c = '\x7d') (rest : List Char) :
    Stops (c :: rest) := by
  intro other hother
  cases hother
  rcases h with rfl | rfl | rfl <;> decide

/-! ## The readers skip gaps -/

theorem value?_skipGaps (steps : Nat) (text : List Char) :
    value? steps (skipGaps text) = value? steps text := by
  cases steps with
  | zero => rfl
  | succ steps => rw [value?.eq_2, value?.eq_2, skipGaps_skipGaps]

theorem value?_append (h : IsGap gap) (steps : Nat) (text : List Char) :
    value? steps (gap ++ text) = value? steps text := by
  rw [← value?_skipGaps, skipGaps_append h, value?_skipGaps]

theorem items?_skipGaps (steps : Nat) (text : List Char) :
    items? steps (skipGaps text) = items? steps text := by
  cases steps with
  | zero => rfl
  | succ steps => rw [items?.eq_2, items?.eq_2, value?_skipGaps]

theorem members?_skipGaps (steps : Nat) (text : List Char) :
    members? steps (skipGaps text) = members? steps text := by
  cases steps with
  | zero => rfl
  | succ steps => rw [members?.eq_2, members?.eq_2, skipGaps_skipGaps]

/-! ## How a phrase begins -/

/-- A numeral begins with a digit or a minus sign. -/
theorem WritesNumeral.exists_cons {numeral : Numeral} (h : WritesNumeral numeral text) :
    ∃ c more, text = c :: more ∧ (c.isDigit = true ∨ c = '-') := by
  obtain @⟨negative, whole, fraction, exponent, first, second, third, hwhole, -, -, -⟩ := h
  obtain ⟨c, more, rfl, hc⟩ := hwhole.exists_cons
  cases negative with
  | true => exact ⟨'-', _, rfl, .inr rfl⟩
  | false => exact ⟨c, _, rfl, .inl hc⟩

theorem isGap_of_numeral {c : Char} (hc : c.isDigit = true ∨ c = '-') : isGap c = false := by
  rcases hc with hdigit | rfl
  · rw [Char.isDigit_iff_toNat] at hdigit
    have hne : ∀ other : Char, other.toNat < 48 → c ≠ other := by
      rintro other hother rfl
      have := hdigit.1
      change 48 ≤ c.toNat at this
      omega
    simp [isGap, hne ' ' (by decide), hne '\n' (by decide), hne '\t' (by decide),
      hne '\r' (by decide)]
  · decide

/-- What a phrase begins with once the gap before it is skipped: it is not the end of an array,
and in the case of members it is a quote. -/
def Phrase.Begins : Phrase → List Char → Prop
  | .value _, text => ∃ c more, text = c :: more ∧ isGap c = false ∧ c ≠ ']'
  | .items _, text =>
    ∃ gap c more, text = gap ++ c :: more ∧ IsGap gap ∧ isGap c = false ∧ c ≠ ']'
  | .members _, text => ∃ gap more, text = gap ++ '"' :: more ∧ IsGap gap

theorem WritesString.exists_cons {string : Option String} (h : WritesString string text) :
    ∃ more, text = '"' :: more := by
  cases h with
  | text => exact ⟨_, rfl⟩
  | broken => exact ⟨_, rfl⟩

theorem begins_of_writes {phrase : Phrase} (h : Writes phrase text) : phrase.Begins text := by
  induction h with
  | null => exact ⟨'n', _, rfl, by decide⟩
  | true => exact ⟨'t', _, rfl, by decide⟩
  | false => exact ⟨'f', _, rfl, by decide⟩
  | number h =>
    obtain ⟨c, more, rfl, hc⟩ := h.exists_cons
    refine ⟨c, more, rfl, ?_, ?_⟩
    · exact isGap_of_numeral hc
    · rintro rfl
      exact absurd hc (by decide)
  | string h =>
    obtain ⟨more, rfl⟩ := h.exists_cons
    exact ⟨'"', more, rfl, by decide⟩
  | emptyArray => exact ⟨'[', _, rfl, by decide⟩
  | array => exact ⟨'[', _, rfl, by decide⟩
  | emptyObject => exact ⟨'\x7b', _, rfl, by decide⟩
  | object => exact ⟨'\x7b', _, rfl, by decide⟩
  | item hbefore _ _ ih =>
    obtain ⟨c, more, rfl, hc⟩ := ih
    exact ⟨_, c, _, rfl, hbefore, hc⟩
  | items hbefore _ _ _ ih _ =>
    obtain ⟨c, more, rfl, hc⟩ := ih
    exact ⟨_, c, _, rfl, hbefore, hc⟩
  | member hbefore hname =>
    obtain ⟨more, rfl⟩ := hname.exists_cons
    exact ⟨_, _, rfl, hbefore⟩
  | members hbefore hname =>
    obtain ⟨more, rfl⟩ := hname.exists_cons
    exact ⟨_, _, rfl, hbefore⟩

/-! ## Phrases -/

/-- What it is to read a phrase that a text writes: given at least so many steps, the reader of
such phrases finds the phrase, and what stands behind it is left. -/
def Phrase.IsRead : Phrase → List Char → Prop
  | .value found, text => ∀ steps rest, text.length ≤ steps → Stops rest →
    value? steps (text ++ rest) = some (found, rest)
  | .items found, text => ∀ steps rest, text.length < steps →
    items? steps (text ++ ']' :: rest) = some (found, rest)
  | .members found, text => ∀ steps rest, text.length < steps →
    members? steps (text ++ '\x7d' :: rest) = some (found, rest)

/-- A value is read in at least one step. -/
theorem isRead_value {found : Json} (hne : text ≠ [])
    (h : ∀ steps rest, text.length ≤ steps + 1 → Stops rest →
      value? (steps + 1) (text ++ rest) = some (found, rest)) :
    Phrase.IsRead (.value found) text := by
  intro steps rest hsteps hrest
  have hlength := List.length_pos_of_ne_nil hne
  obtain ⟨fewer, rfl⟩ : ∃ fewer, steps = fewer + 1 := ⟨steps - 1, by omega⟩
  exact h fewer rest hsteps hrest

theorem value?_of_numeral {c : Char} (hc : c.isDigit = true ∨ c = '-') (steps : Nat)
    (more : List Char) : value? (steps + 1) (c :: more) = number? (c :: more) := by
  have hne : ∀ other : Char, other.isDigit = false → other ≠ '-' → c ≠ other := by
    rintro other hdigit hsign rfl
    exact hc.elim (fun h => by simp [hdigit] at h) hsign
  have hfirst : c ≠ 'n' ∧ c ≠ 't' ∧ c ≠ 'f' ∧ c ≠ '"' ∧ c ≠ '[' ∧ c ≠ '\x7b' :=
    ⟨hne _ (by decide) (by decide), hne _ (by decide) (by decide), hne _ (by decide) (by decide),
      hne _ (by decide) (by decide), hne _ (by decide) (by decide), hne _ (by decide) (by decide)⟩
  rw [value?.eq_2, skipGaps_cons (isGap_of_numeral hc)]
  simp [hfirst]

theorem isRead_number {numeral : Numeral} (h : WritesNumeral numeral text) :
    Phrase.IsRead (.value (.number numeral)) text := by
  obtain ⟨c, more, rfl, hc⟩ := h.exists_cons
  refine isRead_value (List.cons_ne_nil _ _) fun steps rest _ hrest => ?_
  rw [← number?_of_writes h hrest]
  exact value?_of_numeral hc steps _

theorem isRead_string {string : Option String} (h : WritesString string text) :
    Phrase.IsRead (.value (.string string)) text := by
  obtain ⟨more, htext⟩ := h.exists_cons
  refine isRead_value (by simp [htext]) fun steps rest _ _ => ?_
  obtain ⟨body, hbody, hread⟩ := string?_of_writes h rest
  rw [value?.eq_2, hbody, skipGaps_cons (by decide)]
  simp [hread]

theorem isRead_array {items : List Json} (hbegins : Phrase.Begins (.items items) text)
    (ih : Phrase.IsRead (.items items) text) :
    Phrase.IsRead (.value (.array items)) ('[' :: (text ++ [']'])) := by
  refine isRead_value (List.cons_ne_nil _ _) fun steps rest hsteps _ => ?_
  have hitems := ih steps rest (by simp at hsteps; omega)
  obtain ⟨gap, c, more, rfl, hgap, hc, hclose⟩ := hbegins
  rw [← items?_skipGaps, List.append_assoc, skipGaps_append hgap, List.cons_append,
    skipGaps_cons hc] at hitems
  rw [value?.eq_2, List.cons_append, skipGaps_cons (by decide)]
  simp only [List.append_assoc, List.cons_append, List.nil_append]
  rw [skipGaps_append hgap, skipGaps_cons hc]
  simp [hitems, hclose]

theorem isRead_emptyArray (hgap : IsGap gap) :
    Phrase.IsRead (.value (.array [])) ('[' :: (gap ++ [']'])) := by
  refine isRead_value (List.cons_ne_nil _ _) fun steps rest hsteps _ => ?_
  rw [value?.eq_2, List.cons_append, skipGaps_cons (by decide)]
  simp only [List.append_assoc, List.cons_append, List.nil_append]
  rw [skipGaps_append hgap, skipGaps_cons (by decide)]
  rfl

theorem isRead_emptyObject (hgap : IsGap gap) :
    Phrase.IsRead (.value (.object [])) ('\x7b' :: (gap ++ ['\x7d'])) := by
  refine isRead_value (List.cons_ne_nil _ _) fun steps rest hsteps _ => ?_
  rw [value?.eq_2, List.cons_append, skipGaps_cons (by decide)]
  simp only [List.append_assoc, List.cons_append, List.nil_append]
  rw [skipGaps_append hgap, skipGaps_cons (by decide)]
  rfl

theorem isRead_object {members : List (Option String × Json)}
    (hbegins : Phrase.Begins (.members members) text)
    (ih : Phrase.IsRead (.members members) text) :
    Phrase.IsRead (.value (.object members)) ('\x7b' :: (text ++ ['\x7d'])) := by
  refine isRead_value (List.cons_ne_nil _ _) fun steps rest hsteps _ => ?_
  have hmembers := ih steps rest (by simp at hsteps; omega)
  obtain ⟨gap, more, rfl, hgap⟩ := hbegins
  rw [← members?_skipGaps, List.append_assoc, skipGaps_append hgap, List.cons_append,
    skipGaps_cons (by decide)] at hmembers
  rw [value?.eq_2, List.cons_append, skipGaps_cons (by decide)]
  simp only [List.append_assoc, List.cons_append, List.nil_append]
  rw [skipGaps_append hgap, skipGaps_cons (by decide)]
  simp [hmembers]

/-- One item, with what stands behind it. -/
theorem value?_item {value : Json} {before after : List Char} {c : Char}
    (ih : Phrase.IsRead (.value value) text) (hbefore : IsGap before) (hafter : IsGap after)
    (hc : c = ',' ∨ c = ']' ∨ c = '\x7d') {steps : Nat} (hsteps : text.length ≤ steps)
    (rest : List Char) :
    value? steps (before ++ (text ++ (after ++ c :: rest))) = some (value, after ++ c :: rest) := by
  rw [value?_append hbefore]
  exact ih steps _ hsteps (stops_append hafter (stops_cons hc rest))

theorem isRead_item {value : Json} {before after : List Char}
    (ih : Phrase.IsRead (.value value) text) (hbefore : IsGap before) (hafter : IsGap after) :
    Phrase.IsRead (.items [value]) (before ++ (text ++ after)) := by
  intro steps rest hsteps
  obtain ⟨steps, rfl⟩ : ∃ fewer, steps = fewer + 1 := ⟨steps - 1, by omega⟩
  simp only [List.length_append] at hsteps
  have hfewer : text.length ≤ steps := by omega
  have hvalue := value?_item ih hbefore hafter (.inr (.inl rfl)) (c := ']') hfewer rest
  rw [items?.eq_2]
  simp only [List.append_assoc, hvalue, Option.bind_eq_bind, Option.bind_some]
  rw [skipGaps_append hafter, skipGaps_cons (by decide)]
  rfl

theorem isRead_items {value : Json} {more : List Json} {before after others : List Char}
    (ih : Phrase.IsRead (.value value) text) (ihmore : Phrase.IsRead (.items more) others)
    (hbefore : IsGap before) (hafter : IsGap after) :
    Phrase.IsRead (.items (value :: more)) (before ++ (text ++ (after ++ ',' :: others))) := by
  intro steps rest hsteps
  obtain ⟨steps, rfl⟩ : ∃ fewer, steps = fewer + 1 := ⟨steps - 1, by omega⟩
  simp only [List.length_append, List.length_cons] at hsteps
  have hfewer : text.length ≤ steps := by omega
  have hvalue := value?_item ih hbefore hafter (.inl rfl) (c := ',') hfewer
    (others ++ ']' :: rest)
  have hmore := ihmore steps rest (by omega)
  rw [items?.eq_2]
  simp only [List.append_assoc, List.cons_append, hvalue, Option.bind_eq_bind, Option.bind_some]
  rw [skipGaps_append hafter, skipGaps_cons (by decide)]
  simp [hmore]

/-- The name of a member and its value, with what stands behind it. -/
theorem members?_member {name : Option String} {value : Json}
    {before label beforeColon afterColon after : List Char} {c : Char} (hbefore : IsGap before)
    (hname : WritesString name label) (hcolon : IsGap beforeColon) (hcolon' : IsGap afterColon)
    (ih : Phrase.IsRead (.value value) text) (hafter : IsGap after)
    (hc : c = ',' ∨ c = '\x7d') {steps : Nat} (hsteps : text.length ≤ steps)
    (rest : List Char) :
    members? (steps + 1) (before ++ (label ++
        (beforeColon ++ ':' :: (afterColon ++ (text ++ (after ++ c :: rest)))))) =
      match c :: rest with
      | '\x7d' :: rest => some ([(name, value)], rest)
      | ',' :: rest => do
        let (more, rest) ← members? steps rest
        some ((name, value) :: more, rest)
      | _ => none := by
  obtain ⟨body, hbody, hread⟩ := string?_of_writes hname
    (beforeColon ++ ':' :: (afterColon ++ (text ++ (after ++ c :: rest))))
  have hvalue := value?_item ih hcolon' hafter (hc.imp_right .inr) hsteps rest
  have hgap : isGap c = false := by rcases hc with rfl | rfl <;> decide
  rw [members?.eq_2, skipGaps_append hbefore, hbody, skipGaps_cons (by decide)]
  simp only [hread, Option.bind_eq_bind, Option.bind_some]
  rw [skipGaps_append hcolon, skipGaps_cons (by decide)]
  simp only [hvalue, Option.bind_some]
  rw [skipGaps_append hafter]
  rcases hc with rfl | rfl <;> simp only [skipGaps_cons hgap]

theorem isRead_member {name : Option String} {value : Json}
    {before label beforeColon afterColon after : List Char} (hbefore : IsGap before)
    (hname : WritesString name label) (hcolon : IsGap beforeColon) (hcolon' : IsGap afterColon)
    (ih : Phrase.IsRead (.value value) text) (hafter : IsGap after) :
    Phrase.IsRead (.members [(name, value)])
      (before ++ (label ++ (beforeColon ++ ':' :: (afterColon ++ (text ++ after))))) := by
  intro steps rest hsteps
  obtain ⟨steps, rfl⟩ : ∃ fewer, steps = fewer + 1 := ⟨steps - 1, by omega⟩
  simp only [List.length_append, List.length_cons] at hsteps
  have hfewer : text.length ≤ steps := by omega
  have hmember := members?_member hbefore hname hcolon hcolon' ih hafter (.inr rfl)
    (c := '\x7d') hfewer rest
  simpa only [List.append_assoc, List.cons_append] using hmember

theorem isRead_members {name : Option String} {value : Json}
    {more : List (Option String × Json)}
    {before label beforeColon afterColon after others : List Char} (hbefore : IsGap before)
    (hname : WritesString name label) (hcolon : IsGap beforeColon) (hcolon' : IsGap afterColon)
    (ih : Phrase.IsRead (.value value) text) (hafter : IsGap after)
    (ihmore : Phrase.IsRead (.members more) others) :
    Phrase.IsRead (.members ((name, value) :: more))
      (before ++ (label ++
        (beforeColon ++ ':' :: (afterColon ++ (text ++ (after ++ ',' :: others)))))) := by
  intro steps rest hsteps
  obtain ⟨steps, rfl⟩ : ∃ fewer, steps = fewer + 1 := ⟨steps - 1, by omega⟩
  simp only [List.length_append, List.length_cons] at hsteps
  have hfewer : text.length ≤ steps := by omega
  have hmember := members?_member hbefore hname hcolon hcolon' ih hafter (.inl rfl)
    (c := ',') hfewer (others ++ '\x7d' :: rest)
  have hmore := ihmore steps rest (by omega)
  simp only [hmore, Option.bind_eq_bind, Option.bind_some] at hmember
  simpa only [List.append_assoc, List.cons_append] using hmember

theorem isRead_of_writes {phrase : Phrase} (h : Writes phrase text) : phrase.IsRead text := by
  induction h with
  | null => exact isRead_value (by decide) fun _ _ _ _ => rfl
  | true => exact isRead_value (by decide) fun _ _ _ _ => rfl
  | false => exact isRead_value (by decide) fun _ _ _ _ => rfl
  | number h => exact isRead_number h
  | string h => exact isRead_string h
  | emptyArray hgap => exact isRead_emptyArray hgap
  | array h ih => exact isRead_array (begins_of_writes h) ih
  | emptyObject hgap => exact isRead_emptyObject hgap
  | object h ih => exact isRead_object (begins_of_writes h) ih
  | item hbefore _ hafter ih => exact isRead_item ih hbefore hafter
  | items hbefore _ hafter _ ih ihmore => exact isRead_items ih ihmore hbefore hafter
  | member hbefore hname hcolon hcolon' _ hafter ih =>
    exact isRead_member hbefore hname hcolon hcolon' ih hafter
  | members hbefore hname hcolon hcolon' _ hafter _ ih ihmore =>
    exact isRead_members hbefore hname hcolon hcolon' ih hafter ihmore

/-- A text is read as the value that it writes. -/
theorem read?_of_writes {value : Json} {text : String} (h : WritesText value text) :
    read? text = some value := by
  obtain ⟨before, written, after, hbefore, hwrites, hafter, htext⟩ := h
  have hstops : Stops after := by
    have := stops_append hafter stops_nil
    rwa [List.append_nil] at this
  have hvalue := isRead_of_writes hwrites (text.toList.length + 1) after
    (by rw [htext]; simp; omega) hstops
  rw [← value?_append hbefore, ← htext] at hvalue
  have hend : skipGaps after = [] := by
    rw [← List.append_nil after, skipGaps_append hafter]
    rfl
  simp only [read?, hvalue, Option.bind_eq_bind, Option.bind_some, hend]

end PhoneAudio.Json
