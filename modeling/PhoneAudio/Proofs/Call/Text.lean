import PhoneAudio.Call.Basic
import PhoneAudio.Proofs.Text.Line

/-!
# What a written call tells

The written form of an identity is read back as that identity (`CallId.read?_text`), so two
calls that are written alike have the same identity. They are in the same state as well,
since every identity is written in the same length and no two states share a label
(`Call.text_inj`). Both are written on one line.
-/

namespace PhoneAudio

open Text

namespace CallId

/-! ## Identities -/

/-- The digits of a written form stand between its hyphens. -/
theorem digits_hyphenate {digits : List Char} (h : digits.length = 32) :
    (hyphenate digits).length = 36 ∧
      (hyphenate digits).take 8 ++ ((hyphenate digits).drop 9).take 4 ++
        ((hyphenate digits).drop 14).take 4 ++ ((hyphenate digits).drop 19).take 4 ++
        (hyphenate digits).drop 24 = digits := by
  have hcut : ∀ (count : Nat) (row : List Char), count ≤ row.length →
      ∃ first rest, row = first ++ rest ∧ first.length = count := fun count row hcount =>
    ⟨row.take count, row.drop count, (List.take_append_drop count row).symm,
      List.length_take_of_le hcount⟩
  obtain ⟨a, rest, rfl, ha⟩ := hcut 8 digits (by omega)
  rw [List.length_append] at h
  obtain ⟨b, rest, rfl, hb⟩ := hcut 4 rest (by omega)
  rw [List.length_append] at h
  obtain ⟨c, rest, rfl, hc⟩ := hcut 4 rest (by omega)
  rw [List.length_append] at h
  obtain ⟨d, e, rfl, hd⟩ := hcut 4 rest (by omega)
  rw [List.length_append] at h
  have hwritten : hyphenate (a ++ (b ++ (c ++ (d ++ e)))) =
      a ++ '-' :: (b ++ '-' :: (c ++ '-' :: (d ++ '-' :: e))) := by
    simp (disch := omega) [hyphenate, List.drop_append, List.drop_eq_nil_of_le, ha, hb, hc]
  rw [hwritten]
  constructor
  · simp only [List.length_append, List.length_cons]
    omega
  · simp (disch := omega) [List.drop_append, List.drop_eq_nil_of_le, ha, hb, hc, hd]

theorem ofDigits?_fixed (id : CallId) : ofDigits? (Hex.fixed 32 id.toNat) = some id := by
  have hfits : id.toNat < Nat.pow 16 32 := id.number.isLt
  rw [ofDigits?, if_pos (Hex.length_fixed 32 id.toNat), Hex.read?_fixed, Nat.mod_eq_of_lt hfits,
    Option.map_some, ofNat, toNat, BitVec.ofNat_toNat, BitVec.setWidth_eq]

/-- What is written is read back. -/
theorem read?_text (id : CallId) : read? id.text = some id := by
  obtain ⟨hlength, hdigits⟩ := digits_hyphenate (Hex.length_fixed 32 id.toNat)
  have hwritten : id.text.toList = hyphenate (Hex.fixed 32 id.toNat) := String.toList_ofList
  unfold read?
  dsimp only
  rw [hwritten, hlength]
  show ofHyphenated? (hyphenate (Hex.fixed 32 id.toNat)) = some id
  unfold ofHyphenated?
  dsimp only
  rw [hdigits, if_pos rfl, ofDigits?_fixed]

theorem text_injective : Function.Injective text := by
  intro id other h
  exact Option.some.inj ((read?_text id).symm.trans ((congrArg read? h).trans (read?_text other)))

theorem length_text (id : CallId) : id.text.toList.length = 36 := by
  rw [text, String.toList_ofList]
  exact (digits_hyphenate (Hex.length_fixed 32 id.toNat)).1

/-- Hyphens are put in between digits, and nothing else is. -/
theorem isLine_text (id : CallId) : IsLine id.text := by
  have hdigits : ∀ row, row ⊆ Hex.fixed 32 id.toNat → '\n' ∉ row :=
    fun row hsub hmem => Hex.break_notMem_fixed 32 id.toNat (hsub hmem)
  have hgroup : ∀ start, '\n' ∉ ((Hex.fixed 32 id.toNat).drop start).take 4 :=
    fun start => hdigits _ fun c hc => List.drop_subset start _ (List.take_subset 4 _ hc)
  apply isLine_ofList
  simp only [characters, hyphenate, List.mem_append, not_or]
  refine ⟨⟨⟨⟨⟨⟨⟨⟨?_, by decide⟩, hgroup 8⟩, by decide⟩, hgroup 12⟩, by decide⟩, hgroup 16⟩,
    by decide⟩, ?_⟩
  · exact hdigits _ (List.take_subset 8 _)
  · exact hdigits _ (List.drop_subset 20 _)

end CallId

namespace Call

/-! ## Calls -/

theorem State.label_injective : Function.Injective State.label := by
  intro state other h
  cases state <;> cases other <;> first | rfl | exact absurd h (by decide)

theorem State.isLine_label (state : State) : IsLine state.label := by
  cases state <;> decide

theorem isLine_text (call : Call) : IsLine call.text :=
  (((IsLine.append (by decide) call.id.isLine_text).append (by decide)).append
    (State.isLine_label call.state)).append (by decide)

/-- A written call tells who it is and in which state it is. -/
theorem text_inj {call other : Call} :
    call.text = other.text ↔ call.id = other.id ∧ call.state = other.state := by
  constructor
  · intro h
    have htexts :
        "TC@".toList ++ (call.id.text.toList ++
          (" [".toList ++ (call.state.label.toList ++ "]".toList))) =
        "TC@".toList ++ (other.id.text.toList ++
          (" [".toList ++ (other.state.label.toList ++ "]".toList))) := by
      simpa [text] using congrArg String.toList h
    obtain ⟨hid, hrest⟩ := List.append_inj (List.append_cancel_left htexts)
      (by rw [CallId.length_text, CallId.length_text])
    have hlabel := List.append_cancel_right (List.append_cancel_left hrest)
    exact ⟨CallId.text_injective (String.toList_inj.mp hid),
      State.label_injective (String.toList_inj.mp hlabel)⟩
  · rintro ⟨hid, hstate⟩
    rw [text, text, hid, hstate]

end Call

end PhoneAudio
