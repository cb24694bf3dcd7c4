import Mathlib.Tactic.SplitIfs
import PhoneAudio.Text.Flag
import PhoneAudio.Text.Quoted

/-!
# Texts of one line

A text is a *line* if no line break is in it. Rows of lines that are written one below the
other are read back by splitting at the line breaks (`splitOn_join`), so nothing that is a
line can be taken for two of them, or for the end of a row. Whatever a quoted text holds, it
is a line (`isLine_quoted`): a line break in it is written by its escape.
-/

namespace PhoneAudio.Text

/-- A text without a line break. -/
def IsLine (text : String) : Prop := '\n' ∉ text.toList

instance (text : String) : Decidable (IsLine text) := inferInstanceAs (Decidable (_ ∉ _))

theorem IsLine.append {first second : String} (h₁ : IsLine first) (h₂ : IsLine second) :
    IsLine (first ++ second) := by
  rw [IsLine, String.toList_append, List.mem_append]
  exact not_or.mpr ⟨h₁, h₂⟩

theorem isLine_ofList {text : List Char} (h : '\n' ∉ text) : IsLine (String.ofList text) := by
  rw [IsLine, String.toList_ofList]
  exact h

/-- Lines that each end in a line break, as a row that is joined by line breaks. -/
theorem toList_join_lines (lines : List String) :
    (String.join (lines.map (· ++ "\n"))).toList =
      ['\n'].intercalate (lines.map String.toList ++ [[]]) := by
  induction lines with
  | nil => rfl
  | cons line rest ih =>
    obtain ⟨next, others, hrest⟩ := List.exists_cons_of_ne_nil
      (List.append_ne_nil_of_right_ne_nil (rest.map String.toList) (List.cons_ne_nil [] []))
    rw [List.map_cons, List.map_cons, String.join_cons, String.toList_append,
      String.toList_append, ih, List.cons_append, hrest, List.intercalate_cons_cons]
    rfl

/-- The lines of a text are those that it was put together from. -/
theorem splitOn_join {lines : List String} (h : ∀ line ∈ lines, IsLine line) :
    (String.join (lines.map (· ++ "\n"))).toList.splitOn '\n' =
      lines.map String.toList ++ [[]] := by
  rw [toList_join_lines]
  refine List.splitOn_intercalate '\n' ?_ (by simp)
  intro row hrow
  rcases List.mem_append.mp hrow with hline | hlast
  · obtain ⟨line, hmem, rfl⟩ := List.mem_map.mp hline
    exact h line hmem
  · rw [List.mem_singleton.mp hlast]
    exact List.not_mem_nil

/-! ## Digits -/

theorem Hex.break_notMem_shortest (n : Nat) : '\n' ∉ Hex.shortest n := by
  induction n using Nat.strongRecOn with
  | ind n ih =>
    rw [Hex.shortest, Nat.toDigits_eq_if (by decide)]
    split
    · simp
    · rw [List.mem_append, not_or]
      exact ⟨ih (n / 16) (by omega), by simp⟩

theorem Hex.break_notMem_fixed (width n : Nat) : '\n' ∉ Hex.fixed width n := by
  induction width generalizing n with
  | zero => exact List.not_mem_nil
  | succ width ih =>
    rw [Hex.fixed, List.mem_append, not_or]
    exact ⟨ih (n / 16), by simp⟩

/-! ## Quoted texts -/

/-- No character is written with a line break. -/
theorem break_notMem_escape (c : Char) : '\n' ∉ escape c := by
  unfold escape
  split_ifs with hquote hslash hbreak hreturn htab hzero hmarkless
  · decide
  · decide
  · decide
  · decide
  · decide
  · decide
  · simpa using Hex.break_notMem_shortest c.toNat
  · simpa using Ne.symm hbreak

/-- A quoted text does not break the line it stands in. -/
theorem isLine_quoted (text : String) : IsLine (quoted text) := by
  apply isLine_ofList
  have hescapes : '\n' ∉ text.toList.flatMap escape := by
    intro hmem
    obtain ⟨c, -, hbreak⟩ := List.mem_flatMap.mp hmem
    exact break_notMem_escape c hbreak
  simpa using hescapes

theorem isLine_quotedOption (text : Option String) : IsLine (quotedOption text) := by
  cases text with
  | none => decide
  | some text =>
    exact (IsLine.append (by decide) (isLine_quoted text)).append (by decide)

theorem isLine_flag (value : Bool) : IsLine (flag value) := by cases value <;> decide

end PhoneAudio.Text
