import Mathlib.Data.List.Nodup
import PhoneAudio.Proofs.Roster.Crossing

/-!
# Rosters under arbitrary use

A switchboard inserts a call only where it stands in no group. A roster is used here in any
way its operations allow: any member may be inserted in any group, also in several at once
and also beside another member of its identity, and any identity may be removed.

The one thing that every operation keeps is that no group holds an identity twice
(`Distinct`). What a whole run keeps of the members that stay is their order: newcomers go
behind them (`Carries`, closed under one run after another). The crossings between two
headcounts say which groups fell empty or filled, so they turn the occupancy of one moment
into that of the other, whatever happened between.
-/

namespace PhoneAudio.Roster

variable {α : Type} (ident : α → CallId)

/-- What may be done to a roster. -/
inductive Operation (α : Type) where
  | insert (group : Group) (member : α)
  | remove (id : CallId)

def Operation.removes (id : CallId) : Operation α → Bool
  | .insert _ _ => false
  | .remove other => other == id

def perform (roster : Roster α) : Operation α → Roster α
  | .insert group member => roster.insert ident group member
  | .remove id => (roster.remove ident id).1

/-- The roster after some operations, in order. -/
def after (roster : Roster α) (operations : List (Operation α)) : Roster α :=
  operations.foldl (perform ident) roster

theorem has_iff (roster : Roster α) (group : Group) (id : CallId) :
    roster.has ident group id = true ↔ ∃ member ∈ roster.get group, ident member = id := by
  simp only [has, List.any_eq_true, beq_iff_eq]

/-! ## No identity twice -/

/-- No group holds two members of one identity. Two groups may. -/
def Distinct (roster : Roster α) : Prop := ∀ group, ((roster.get group).map ident).Nodup

theorem distinct_empty : Distinct ident ({} : Roster α) := by
  intro group
  cases group <;> exact List.nodup_nil

variable {ident} {roster : Roster α}

theorem Distinct.insert (h : roster.Distinct ident) (group : Group) (member : α) :
    (roster.insert ident group member).Distinct ident := by
  intro other
  rw [get_insert]
  split
  · next hnew =>
    obtain ⟨rfl, habsent⟩ := hnew
    rw [List.map_append, List.map_singleton, ← List.concat_eq_append, List.nodup_concat]
    refine ⟨fun hmem => ?_, h group⟩
    obtain ⟨old, hold, hident⟩ := List.mem_map.mp hmem
    exact Bool.false_ne_true (habsent.symm.trans ((has_iff ident _ _ _).mpr ⟨old, hold, hident⟩))
  · exact h other

theorem Distinct.erase (h : roster.Distinct ident) (id : CallId) :
    (roster.erase ident id).Distinct ident := by
  intro group
  rw [get_erase]
  exact (h group).sublist (List.filter_sublist.map ident)

theorem Distinct.perform (h : roster.Distinct ident) (operation : Operation α) :
    (roster.perform ident operation).Distinct ident := by
  cases operation with
  | insert group member => exact h.insert group member
  | remove id => exact h.erase id

theorem Distinct.after (h : roster.Distinct ident) (operations : List (Operation α)) :
    (roster.after ident operations).Distinct ident := by
  induction operations generalizing roster with
  | nil => exact h
  | cons operation rest ih => exact ih (h.perform operation)

/-! ## One operation -/

variable (ident)

/-- What an insertion leaves: everything, if the identity is in the group, and one member
more at the end of the group if not. -/
structure Inserts (group : Group) (member : α) (before after : Roster α) : Prop where
  known : before.has ident group (ident member) = true → after = before
  added : before.has ident group (ident member) = false →
    after.get group = before.get group ++ [member]
  others : ∀ other, other ≠ group → after.get other = before.get other

theorem inserts (roster : Roster α) (group : Group) (member : α) :
    Inserts ident group member roster (roster.insert ident group member) where
  known hknown := by rw [insert, if_pos hknown]
  added habsent := by rw [get_insert, if_pos ⟨rfl, habsent⟩]
  others other hother := by rw [get_insert, if_neg fun hboth => hother hboth.1.symm]

/-- What a removal leaves and tells: every group keeps its members of another identity in
their order, and it is told whether there was one to take out. -/
structure Removes (id : CallId) (before : Roster α) (outcome : Roster α × Bool) : Prop where
  told : outcome.2 = (before.groupOf? ident id).isSome
  homeless : outcome.1.groupOf? ident id = none
  gone : ∀ group, outcome.1.has ident group id = false
  ordered : ∀ group, (outcome.1.get group).Sublist (before.get group)
  rest : ∀ group member, ident member ≠ id →
    (member ∈ outcome.1.get group ↔ member ∈ before.get group)

theorem isSome_groupOf?_iff (roster : Roster α) (id : CallId) :
    (roster.groupOf? ident id).isSome = true ↔ ∃ group, roster.has ident group id = true := by
  rw [groupOf?, List.find?_isSome]
  exact exists_congr fun group => and_iff_right (Group.mem_all group)

theorem headcount_eq_iff (first second : Roster α) :
    first.headcount = second.headcount ↔
      ∀ group, (first.get group).length = (second.get group).length := by
  constructor
  · intro h group
    rw [← get_headcount, ← get_headcount, h]
  · intro h
    simp only [headcount, Headcount.mk.injEq]
    exact ⟨h .active, h .ringing, h .holding, h .processing⟩

/-- A group gets smaller exactly if the identity was in it. -/
theorem length_erase_eq_iff (roster : Roster α) (id : CallId) (group : Group) :
    ((roster.erase ident id).get group).length = (roster.get group).length ↔
      roster.has ident group id = false := by
  rw [get_erase, List.length_filter_eq_length_iff, has, List.any_eq_false]
  simp only [bne_iff_ne, ne_eq, beq_iff_eq]

theorem remove_told (roster : Roster α) (id : CallId) :
    (roster.remove ident id).2 = (roster.groupOf? ident id).isSome := by
  rw [Bool.eq_iff_iff, isSome_groupOf?_iff, remove, bne_iff_ne, ne_eq, headcount_eq_iff]
  simp only [length_erase_eq_iff, not_forall, Bool.not_eq_false]

theorem has_erase (roster : Roster α) (id : CallId) (group : Group) :
    (roster.erase ident id).has ident group id = false := by
  rw [has, List.any_eq_false, get_erase]
  intro member hmem
  simpa using (List.mem_filter.mp hmem).2

theorem removes (roster : Roster α) (id : CallId) :
    Removes ident id roster (roster.remove ident id) where
  told := remove_told ident roster id
  homeless := by
    rw [← Option.not_isSome_iff_eq_none, isSome_groupOf?_iff]
    rintro ⟨group, hgroup⟩
    exact Bool.false_ne_true ((has_erase ident roster id group).symm.trans hgroup)
  gone := has_erase ident roster id
  ordered group := by
    rw [remove, get_erase]
    exact List.filter_sublist
  rest group member hother := by
    rw [remove, get_erase, List.mem_filter]
    exact and_iff_left (bne_iff_ne.mpr hother)

/-! ## Many operations -/

/-- The members whose identity none of the operations removes. -/
def stays (operations : List (Operation α)) (member : α) : Bool :=
  !operations.any (Operation.removes (ident member))

/-- A group holds, after some operations, its old members that none of them removed, in
their old order, and behind them members that the operations inserted into it. -/
def Carries (operations : List (Operation α)) (before after : Roster α) : Prop :=
  ∀ group, ∃ newcomers, after.get group =
      (before.get group).filter (stays ident operations) ++ newcomers ∧
    ∀ member ∈ newcomers, .insert group member ∈ operations

variable {ident}

theorem carries_nil (roster : Roster α) : Carries ident [] roster roster := by
  intro group
  refine ⟨[], ?_, fun _ hmem => absurd hmem List.not_mem_nil⟩
  rw [List.append_nil]
  exact (List.filter_eq_self.mpr fun _ _ => rfl).symm

theorem Carries.trans {first second : List (Operation α)} {s t u : Roster α}
    (hfirst : Carries ident first s t) (hsecond : Carries ident second t u) :
    Carries ident (first ++ second) s u := by
  intro group
  obtain ⟨early, ht, hearly⟩ := hfirst group
  obtain ⟨late, hu, hlate⟩ := hsecond group
  refine ⟨early.filter (stays ident second) ++ late, ?_, fun member hmem => ?_⟩
  · rw [hu, ht, List.filter_append, List.filter_filter, List.append_assoc]
    congr 1
    refine List.filter_congr fun member _ => ?_
    rw [stays, stays, stays, List.any_append, Bool.not_or, Bool.and_comm]
  · rw [List.mem_append] at hmem ⊢
    obtain hmem | hmem := hmem
    · exact .inl (hearly member (List.mem_filter.mp hmem).1)
    · exact .inr (hlate member hmem)

theorem carries_perform (roster : Roster α) (operation : Operation α) :
    Carries ident [operation] roster (roster.perform ident operation) := by
  intro group
  cases operation with
  | insert other member =>
    have hall : (roster.get group).filter (stays ident [.insert other member]) =
        roster.get group := List.filter_eq_self.mpr fun _ _ => rfl
    rw [hall, perform, get_insert]
    split
    · next hnew =>
      refine ⟨[member], rfl, fun newcomer hmem => ?_⟩
      rw [List.mem_singleton.mp hmem, hnew.1]
      exact List.mem_cons_self
    · exact ⟨[], (List.append_nil _).symm, fun _ hmem => absurd hmem List.not_mem_nil⟩
  | remove id =>
    refine ⟨[], ?_, fun _ hmem => absurd hmem List.not_mem_nil⟩
    rw [perform, remove, get_erase, List.append_nil]
    refine List.filter_congr fun member _ => ?_
    simp [stays, Operation.removes, bne, BEq.comm]

theorem carries_after (roster : Roster α) (operations : List (Operation α)) :
    Carries ident operations roster (roster.after ident operations) := by
  induction operations generalizing roster with
  | nil => exact carries_nil roster
  | cons operation rest ih => exact (carries_perform roster operation).trans (ih _)

/-! ## Two insertions, and one that is undone -/

theorem has_insert_of_ne (roster : Roster α) {group other : Group} (h : group ≠ other)
    (member : α) (id : CallId) :
    (roster.insert ident group member).has ident other id = roster.has ident other id := by
  rw [has, get_insert, if_neg fun hboth => h hboth.1]
  rfl

/-- Members of different groups may be inserted in either order. -/
theorem insert_comm (roster : Roster α) {group other : Group} (h : group ≠ other)
    (first second : α) :
    (roster.insert ident group first).insert ident other second =
      (roster.insert ident other second).insert ident group first := by
  ext1 seat
  rw [get_insert, get_insert, get_insert, get_insert, has_insert_of_ne _ h,
    has_insert_of_ne _ h.symm]
  by_cases hfirst : group = seat
  · have hsecond : other ≠ seat := fun hsame => h (hfirst.trans hsame.symm)
    simp [hsecond]
  · simp [hfirst]

/-- Where a call does not stand, nothing is struck for it. -/
theorem filter_others {row : List α} {id : CallId}
    (h : row.any (fun member => ident member == id) = false) :
    row.filter (fun member => ident member != id) = row := by
  rw [List.filter_eq_self]
  intro member hmem
  simpa using List.any_eq_false.mp h member hmem

/-- A member that stood in no group is inserted and erased without a trace. -/
theorem erase_insert {roster : Roster α} {member : α}
    (h : ∀ group, roster.has ident group (ident member) = false) (group : Group) :
    (roster.insert ident group member).erase ident (ident member) = roster := by
  ext1 seat
  rw [get_erase, get_insert]
  split
  · rw [List.filter_append, filter_others (h seat)]
    simp
  · exact filter_others (h seat)

/-! ## Two moments -/

/-- The crossings between two rosters tell which groups of the second are occupied, to
whoever knows it of the first. -/
theorem hear_crossings (first second : Roster α) :
    (Crossing.between first.headcount second.headcount).foldl Crossing.hear first.isOccupied =
      second.isOccupied := by
  rw [Crossing.foldl_hear_between first.isOccupied_eq]
  exact funext fun group => (second.isOccupied_eq group).symm

/-- A roster that began empty and met any operations. No group of it holds an identity
twice. Inserting a member leaves it as it is, if its identity is in the group, and appends
the member to the group if not. Removing an identity tells whether some group had it, leaves
it in none and takes nothing else out. Through all later operations, those that stay keep
their order, in front of all newcomers. And the crossings between its headcount and that of
any other moment turn the one occupancy into the other, with no group told of twice. -/
theorem after_any_operations (ident : α → CallId) (operations : List (Operation α)) :
    let roster := ({} : Roster α).after ident operations
    roster.Distinct ident ∧
      (∀ group member, Inserts ident group member roster (roster.insert ident group member)) ∧
      (∀ id, Removes ident id roster (roster.remove ident id)) ∧
      (∀ later, Carries ident later roster
        (({} : Roster α).after ident (operations ++ later))) ∧
      ∀ others,
        let other := ({} : Roster α).after ident others
        (Crossing.between roster.headcount other.headcount).foldl Crossing.hear
            roster.isOccupied = other.isOccupied ∧
          ((Crossing.between roster.headcount other.headcount).map Crossing.group).Nodup := by
  intro roster
  refine ⟨(distinct_empty ident).after operations, inserts ident roster, removes ident roster,
    fun later => ?_, fun others => ⟨hear_crossings roster _, Crossing.nodup_between _ _⟩⟩
  rw [after, List.foldl_append]
  exact carries_after roster later

example :
    let roster := ({} : Roster Nat).after .ofNat
      [.insert .ringing 1, .insert .ringing 2, .insert .holding 1, .insert .ringing 1]
    roster = { ringing := [1, 2], holding := [1] } ∧
      roster.remove .ofNat (.ofNat 1) = ({ ringing := [2] }, true) := by decide

end PhoneAudio.Roster
