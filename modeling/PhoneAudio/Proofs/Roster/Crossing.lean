import PhoneAudio.Roster.Basic

/-!
# What the crossings tell

A listener that hears of nothing but crossings knows which groups are occupied:
a group that filled is, one that emptied is not. For one group the crossings are a
row of signals, and what is known of the group is its last signal. The crossings
between two headcounts hold a signal of a group exactly if it is occupied in one
of them and not in the other, so the signals of a group strictly alternate.
-/

namespace PhoneAudio

namespace Crossing

/-- The group that fills or empties. -/
def group : Crossing → Group
  | filled group => group
  | emptied group => group

def isFilled : Crossing → Bool
  | filled _ => true
  | emptied _ => false

/-- What a listener knows about the groups after one more crossing. -/
def hear (occupied : Group → Bool) (crossing : Crossing) : Group → Bool :=
  fun group => if crossing.group = group then crossing.isFilled else occupied group

/-- What a listener knows about the groups who heard all crossings from the start. -/
def mirror (crossings : List Crossing) : Group → Bool := crossings.foldl hear fun _ => false

/-- The crossings of one group: whether it filled, each time. -/
def signals (group : Group) (crossings : List Crossing) : List Bool :=
  (crossings.filter fun crossing => crossing.group = group).map isFilled

/-- The signals strictly alternate, beginning with the given one. -/
def Alternates : Bool → List Bool → Prop
  | _, [] => True
  | next, signal :: rest => signal = next ∧ Alternates (!next) rest

theorem signals_append (group : Group) (first second : List Crossing) :
    signals group (first ++ second) = signals group first ++ signals group second := by
  simp [signals]

theorem signals_cons (group : Group) (crossing : Crossing) (rest : List Crossing) :
    signals group (crossing :: rest) =
      if crossing.group = group then crossing.isFilled :: signals group rest
      else signals group rest := by
  by_cases h : crossing.group = group <;> simp [signals, h]

/-- Another signal than the last one keeps the alternation. -/
theorem alternates_concat {next signal : Bool} {row : List Bool} (h : Alternates next row)
    (hsignal : signal = !row.getLastD (!next)) : Alternates next (row ++ [signal]) := by
  induction row generalizing next with
  | nil => exact ⟨by simpa using hsignal, trivial⟩
  | cons first rest ih =>
    obtain ⟨rfl, hrest⟩ := h
    refine ⟨rfl, ih hrest ?_⟩
    rw [hsignal, List.getLastD_cons, Bool.not_not]

/-- What is known about a group is its last signal, or what was known before. -/
theorem foldl_hear (occupied : Group → Bool) (crossings : List Crossing) (group : Group) :
    crossings.foldl hear occupied group = (signals group crossings).getLastD (occupied group) := by
  induction crossings generalizing occupied with
  | nil => rfl
  | cons crossing rest ih =>
    rw [List.foldl_cons, ih, hear, signals_cons]
    split
    · rw [List.getLastD_cons]
    · rfl

theorem mirror_eq_getLastD (crossings : List Crossing) (group : Group) :
    mirror crossings group = (signals group crossings).getLastD false :=
  foldl_hear _ crossings group

/-! ## Between two headcounts -/

theorem filter_all (select : Group → Bool) (group : Group) :
    (Group.all.filter select).filter (fun other => other = group) =
      if select group then [group] else [] := by
  have hone : Group.all.filter (fun other => other = group) = [group] := by
    cases group <;> rfl
  rw [List.filter_filter]
  simp only [Bool.and_comm]
  rw [← List.filter_filter, hone]
  cases h : select group <;> simp [h]

theorem signals_map_emptied (select : Group → Bool) (group : Group) :
    signals group ((Group.all.filter select).map emptied) =
      if select group then [false] else [] := by
  rw [signals, List.filter_map, List.map_map]
  show ((Group.all.filter select).filter fun other => other = group).map (fun _ => false) = _
  rw [filter_all]
  split <;> rfl

theorem signals_map_filled (select : Group → Bool) (group : Group) :
    signals group ((Group.all.filter select).map filled) =
      if select group then [true] else [] := by
  rw [signals, List.filter_map, List.map_map]
  show ((Group.all.filter select).filter fun other => other = group).map (fun _ => true) = _
  rw [filter_all]
  split <;> rfl

/-- A group has a signal exactly if it is occupied in one of the headcounts only. -/
theorem signals_between (before after : Headcount) (group : Group) :
    signals group (between before after) =
      if decide (0 < before.get group) = decide (0 < after.get group) then []
      else [decide (0 < after.get group)] := by
  rw [between, signals_append, signals_map_emptied, signals_map_filled]
  cases hbefore : before.get group <;> cases hafter : after.get group <;> simp

/-- Who knows which groups were occupied and hears what happened knows which groups are. -/
theorem foldl_hear_between {occupied : Group → Bool} {before : Headcount}
    (h : ∀ group, occupied group = decide (0 < before.get group)) (after : Headcount) :
    (between before after).foldl hear occupied = fun group => decide (0 < after.get group) := by
  funext group
  rw [foldl_hear, signals_between, h]
  split
  · next hsame => exact hsame
  · rfl

/-- No group is told of twice. -/
theorem nodup_between (before after : Headcount) :
    ((between before after).map Crossing.group).Nodup := by
  rw [List.nodup_iff_count]
  intro group
  have hcount : ((between before after).map Crossing.group).count group =
      (signals group (between before after)).length := by
    rw [List.count, List.countP_map, List.countP_eq_length_filter, signals, List.length_map]
    rfl
  rw [hcount, signals_between]
  split
  · exact Nat.zero_le 1
  · exact Nat.le_refl 1

theorem between_self (count : Headcount) : between count count = [] := by
  have hnone : ∀ group, (0 < count.get group && count.get group == 0) = false := by
    intro group
    cases count.get group <;> rfl
  have hnone' : ∀ group, (count.get group == 0 && 0 < count.get group) = false := by
    intro group
    cases count.get group <;> rfl
  simp [between, hnone, hnone']

/-- The emptied groups come before the filled ones. -/
theorem between_eq_append (before after : Headcount) :
    ∃ emptiedGroups filledGroups : List Group,
      between before after = emptiedGroups.map emptied ++ filledGroups.map filled :=
  ⟨_, _, rfl⟩

/-! ## A listener -/

/-- A listener has heard, of each group, a row of alternating signals that begins with
its filling, and knows whether it is occupied. -/
def Mirrors (crossings : List Crossing) (occupied : Group → Bool) : Prop :=
  ∀ group, Alternates true (signals group crossings) ∧ mirror crossings group = occupied group

/-- A listener who knows one headcount and hears what happens until another one knows
the other one. -/
theorem Mirrors.append_between {crossings : List Crossing} {before : Headcount}
    (h : Mirrors crossings fun group => 0 < before.get group) (after : Headcount) :
    Mirrors (crossings ++ between before after) fun group => 0 < after.get group := by
  intro group
  obtain ⟨halternates, hmirror⟩ := h group
  rw [mirror_eq_getLastD] at hmirror ⊢
  rw [signals_append, signals_between]
  split
  next hsame =>
    rw [List.append_nil]
    exact ⟨halternates, hmirror.trans hsame⟩
  next hother =>
    constructor
    · apply alternates_concat halternates
      rw [Bool.not_true, hmirror]
      exact Bool.eq_not.mpr (Ne.symm hother)
    · simp

end Crossing

end PhoneAudio
