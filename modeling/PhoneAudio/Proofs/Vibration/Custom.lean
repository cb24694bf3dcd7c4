import PhoneAudio.Proofs.Text.Numeral
import PhoneAudio.Vibration.Pattern

/-!
# The grammar of custom patterns

A custom pattern is three durations with commas between them. The grammar is said by
`Spells`: the text has exactly three fields between its commas, and each of them is,
without the blanks around it, a word for its duration. The reader looks for the first two
commas only and leaves the rest to the third field; that a third comma spoils the pattern
comes from the reader of numbers, which accepts none.
-/

namespace PhoneAudio.Vibration

open Text

/-- The three durations that a text of three fields stands for. -/
def Spells (text : List Char) (a b c : Nat) : Prop :=
  ∃ first second third, text.splitOn ',' = [first, second, third] ∧
    IsWord (trim first) a ∧ IsWord (trim second) b ∧ IsWord (trim third) c

/-! ## Fields -/

theorem cutAtComma?_eq_none_iff {text : List Char} : cutAtComma? text = none ↔ ',' ∉ text := by
  induction text with
  | nil => simp [cutAtComma?]
  | cons c rest ih =>
    rw [cutAtComma?]
    split
    next hc => simp [hc]
    next hc => simp [ih, Ne.symm hc]

theorem eq_of_cutAtComma? {text before after : List Char}
    (h : cutAtComma? text = some (before, after)) :
    text = before ++ ',' :: after ∧ ',' ∉ before := by
  induction text generalizing before with
  | nil => cases h
  | cons c rest ih =>
    rw [cutAtComma?] at h
    split at h
    next hc =>
      obtain ⟨rfl, rfl⟩ := Prod.mk.inj (Option.some.inj h)
      exact ⟨by rw [hc]; rfl, by simp⟩
    next hc =>
      obtain ⟨⟨before, after⟩, hrest, hcut⟩ := Option.map_eq_some_iff.mp h
      obtain ⟨rfl, rfl⟩ := Prod.mk.inj hcut
      obtain ⟨rfl, hbefore⟩ := ih hrest
      exact ⟨rfl, by simp [hbefore, Ne.symm hc]⟩

/-- A cut takes the first field off. -/
theorem splitOn_of_cutAtComma? {text before after : List Char}
    (h : cutAtComma? text = some (before, after)) :
    text.splitOn ',' = before :: after.splitOn ',' := by
  obtain ⟨rfl, hbefore⟩ := eq_of_cutAtComma? h
  exact List.splitOn_append_cons_self_of_not_mem hbefore after

theorem cutAtComma?_of_splitOn {text before : List Char} {fields : List (List Char)}
    (h : text.splitOn ',' = before :: fields) (hfields : fields ≠ []) :
    ∃ after, cutAtComma? text = some (before, after) ∧ after.splitOn ',' = fields := by
  cases hcut : cutAtComma? text with
  | none =>
    rw [List.splitOn_eq_singleton (cutAtComma?_eq_none_iff.mp hcut)] at h
    exact absurd (List.cons.inj h).2.symm hfields
  | some cut =>
    rw [splitOn_of_cutAtComma? hcut] at h
    obtain ⟨rfl, hrest⟩ := List.cons.inj h
    exact ⟨cut.2, rfl, hrest⟩

/-! ## Durations -/

theorem duration?_eq_ok_iff {field : List Char} {value : Nat} :
    duration? field = .ok value ↔ IsWord (trim field) value := by
  rw [← word?_eq_some_iff, duration?]
  split
  next duration hread => simp [hread]
  next hread => simp [hread]

/-- Three fields are read one after the other. -/
theorem durations?_of_cuts {text first second third rest : List Char}
    (hfirst : cutAtComma? text = some (first, rest))
    (hsecond : cutAtComma? rest = some (second, third)) {a b c : Nat} :
    durations? text = .ok (a, b, c) ↔
      IsWord (trim first) a ∧ IsWord (trim second) b ∧ IsWord (trim third) c := by
  rw [← duration?_eq_ok_iff, ← duration?_eq_ok_iff, ← duration?_eq_ok_iff, durations?, hfirst]
  dsimp only
  rw [hsecond]
  cases ha : duration? first with
  | error flaw => simp [bind, Except.bind]
  | ok =>
    cases hb : duration? second with
    | error flaw => simp [bind, Except.bind, hb]
    | ok =>
      cases hc : duration? third with
      | error flaw => simp [bind, Except.bind, hb, hc]
      | ok => simp [bind, Except.bind, hb, hc]

/-- The reader accepts what the grammar spells, and nothing else. -/
theorem durations?_eq_ok_iff {text : List Char} {a b c : Nat} :
    durations? text = .ok (a, b, c) ↔ Spells text a b c := by
  constructor
  · intro h
    cases hfirst : cutAtComma? text with
    | none => simp [durations?, hfirst] at h
    | some cut =>
      cases hsecond : cutAtComma? cut.2 with
      | none => simp [durations?, hfirst, hsecond] at h
      | some cut' =>
        obtain ⟨ha, hb, hc⟩ := (durations?_of_cuts hfirst hsecond).mp h
        refine ⟨cut.1, cut'.1, cut'.2, ?_, ha, hb, hc⟩
        rw [splitOn_of_cutAtComma? hfirst, splitOn_of_cutAtComma? hsecond,
          List.splitOn_eq_singleton hc.comma_notMem]
  · rintro ⟨first, second, third, hfields, ha, hb, hc⟩
    obtain ⟨rest, hfirst, hrest⟩ := cutAtComma?_of_splitOn hfields (by simp)
    obtain ⟨last, hsecond, hlast⟩ := cutAtComma?_of_splitOn hrest (by simp)
    -- what is left after the second comma is the third field
    have hthird : last = third := by
      have hjoin : [','].intercalate (last.splitOn ',') = last := List.intercalate_splitOn ','
      rw [hlast] at hjoin
      simpa using hjoin.symm
    exact (durations?_of_cuts hfirst hsecond).mpr ⟨ha, hb, hthird ▸ hc⟩

/-! ## Effects -/

/-- The pauses alone keep three pulses from being empty. -/
theorem sound_threePulses (a b c : Nat) : (threePulses a b c).Sound where
  segments := by simp [threePulses]
  lengths := rfl
  loop := by simp [threePulses]
  length := ⟨400, by simp [threePulses], by decide⟩

theorem effect?_threePulses (a b c : Nat) :
    (threePulses a b c).effect? = .ok (.waveform (threePulses a b c)) := by
  rw [Waveform.effect?, (Waveform.flaw?_eq_none_iff _).mpr (sound_threePulses a b c)]

theorem customEffect?_of_blank {written : String} (h : trim written.toList = []) :
    customEffect? (some written) = .ok (.waveform (threePulses 0 800 800)) := by
  rw [customEffect?, Option.getD_some, h]
  exact effect?_threePulses 0 800 800

theorem customEffect?_of_written {written : String} (h : trim written.toList ≠ []) :
    customEffect? (some written) =
      (durations? (trim written.toList)).map fun (a, b, c) => .waveform (threePulses a b c) := by
  rw [customEffect?, Option.getD_some]
  split
  next hblank => exact absurd hblank h
  next =>
    cases durations? (trim written.toList) with
    | error flaw => rfl
    | ok durations => exact effect?_threePulses _ _ _

theorem not_spells_nil (a b c : Nat) : ¬ Spells [] a b c := by
  rintro ⟨first, second, third, hfields, -⟩
  simp at hfields

/-- A pattern is accepted if it is blank, or if the grammar spells it. -/
theorem customEffect?_eq_ok_iff {written : String} {effect : Effect} :
    customEffect? (some written) = .ok effect ↔
      (trim written.toList = [] ∧ effect = .waveform (threePulses 0 800 800)) ∨
      ∃ a b c, Spells (trim written.toList) a b c ∧ effect = .waveform (threePulses a b c) := by
  by_cases hblank : trim written.toList = []
  · rw [customEffect?_of_blank hblank, hblank]
    constructor
    · exact fun h => .inl ⟨rfl, (Except.ok.inj h).symm⟩
    · rintro (⟨-, rfl⟩ | ⟨a, b, c, hspells, -⟩)
      · rfl
      · exact absurd hspells (not_spells_nil a b c)
  · rw [customEffect?_of_written hblank]
    constructor
    · intro h
      cases hread : durations? (trim written.toList) with
      | error flaw =>
        rw [hread] at h
        cases h
      | ok durations =>
        rw [hread] at h
        exact .inr ⟨_, _, _, durations?_eq_ok_iff.mp hread, (Except.ok.inj h).symm⟩
    · rintro (⟨h, -⟩ | ⟨a, b, c, hspells, rfl⟩)
      · exact absurd h hblank
      · rw [durations?_eq_ok_iff.mpr hspells]
        rfl

/-! ## Writing -/

/-- Three durations with commas between them, each in a spelling of its own. -/
def writePattern (p q r : Spelling) (a b c : Nat) : List Char :=
  p.write a ++ ',' :: (q.write b ++ ',' :: r.write c)

variable (p q r : Spelling) {a b c : Nat}

theorem spells_writePattern (ha : a < 2 ^ 64) (hb : b < 2 ^ 64) (hc : c < 2 ^ 64) :
    Spells (writePattern p q r a b c) a b c := by
  have hword : ∀ (spelling : Spelling) {value : Nat}, value < 2 ^ 64 →
      IsWord (trim (spelling.write value)) value := by
    intro spelling value h
    rw [spelling.trim_write h]
    exact spelling.isWord_numeral h
  refine ⟨p.write a, q.write b, r.write c, ?_, hword p ha, hword q hb, hword r hc⟩
  rw [writePattern, List.splitOn_append_cons_self_of_not_mem (hword p ha).comma_notMem,
    List.splitOn_append_cons_self_of_not_mem (hword q hb).comma_notMem,
    List.splitOn_eq_singleton (hword r hc).comma_notMem]

/-- The blanks around a pattern are those before its first field and behind its last. -/
theorem trim_writePattern (ha : a < 2 ^ 64) (hc : c < 2 ^ 64) :
    trim (writePattern p q r a b c) =
      writePattern { p with before := [], blank_before := List.forall_mem_nil _ } q
        { r with after := [], blank_after := List.forall_mem_nil _ } a b c := by
  have hbody := (p.isWord_numeral ha).trim_append (r.isWord_numeral hc)
    (p.after ++ ',' :: (q.write b ++ ',' :: r.before))
  have hsplit : writePattern p q r a b c = p.before ++ (p.numeral a ++
      ((p.after ++ ',' :: (q.write b ++ ',' :: r.before)) ++ r.numeral c)) ++ r.after := by
    simp [writePattern, Spelling.write]
  rw [hsplit, trim_pad p.blank_before r.blank_after, hbody]
  simp [writePattern, Spelling.write, Spelling.numeral]

theorem customEffect?_writePattern (ha : a < 2 ^ 64) (hb : b < 2 ^ 64) (hc : c < 2 ^ 64) :
    customEffect? (some (String.ofList (writePattern p q r a b c))) =
      .ok (.waveform (threePulses a b c)) := by
  refine customEffect?_eq_ok_iff.mpr (.inr ⟨a, b, c, ?_, rfl⟩)
  rw [String.toList_ofList, trim_writePattern p q r ha hc]
  exact spells_writePattern _ q _ ha hb hc

/-- A text of a custom pattern is accepted exactly if it is blank or has, without the
blanks around it, three fields between commas that are each a word for a number below
`2 ^ 64`; it stands for seven segments with these three durations, a blank text for those
of `0,800,800`. Whatever three such numbers are written, with blanks, plus signs and zeros
at will, they are read back. A phone that plays the user's own pattern plays what is
accepted, and the simple pattern in place of what is not. -/
theorem customEffect?_reads_grammar :
    (∀ (written : String) (effect : Effect), customEffect? (some written) = .ok effect ↔
      (trim written.toList = [] ∧
        effect = .waveform ⟨[0, 0, 400, 800, 400, 800, 400], sevenBeats, some 1⟩) ∨
      ∃ a b c, Spells (trim written.toList) a b c ∧
        effect = .waveform ⟨[0, a, 400, b, 400, c, 400], sevenBeats, some 1⟩) ∧
    (∀ (p q r : Spelling) (a b c : UInt64),
      customEffect? (some (String.ofList (writePattern p q r a.toNat b.toNat c.toNat))) =
        .ok (.waveform ⟨[0, a.toNat, 400, b.toNat, 400, c.toNat, 400], sevenBeats, some 1⟩)) ∧
    ∀ written : String,
      (∀ effect, customEffect? (some written) = .ok effect →
        ringEffect .custom true (some written) = effect) ∧
      ((∀ effect, customEffect? (some written) ≠ .ok effect) →
        ringEffect .custom true (some written) = simpleEffect) := by
  refine ⟨fun written effect => customEffect?_eq_ok_iff, fun p q r a b c => ?_,
    fun written => ⟨fun effect h => ?_, fun h => ?_⟩⟩
  · exact customEffect?_writePattern p q r a.toNat_lt b.toNat_lt c.toNat_lt
  · simp [ringEffect, h]
  · cases hread : customEffect? (some written) with
    | ok effect => exact absurd hread (h effect)
    | error flaw => simp [ringEffect, hread]

example : (customEffect? (some "1,2,3,4")).toOption = none := by decide +kernel

end PhoneAudio.Vibration
