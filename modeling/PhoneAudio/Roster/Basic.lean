import PhoneAudio.Call.Id
import PhoneAudio.Roster.Group

/-!
# Rosters

A roster keeps the members of the four groups, each group in the order of
arrival. Members are told apart by their identity, which the operations take as
a function, as they do the state of a member.
-/

namespace PhoneAudio

/-- The members of the four groups, oldest first. -/
structure Roster (α : Type) where
  active : List α := []
  ringing : List α := []
  holding : List α := []
  processing : List α := []
deriving DecidableEq

namespace Roster

variable {α : Type} (ident : α → CallId)

def get (roster : Roster α) : Group → List α
  | .active => roster.active
  | .ringing => roster.ringing
  | .holding => roster.holding
  | .processing => roster.processing

def modify (roster : Roster α) (group : Group) (change : List α → List α) : Roster α :=
  match group with
  | .active => { roster with active := change roster.active }
  | .ringing => { roster with ringing := change roster.ringing }
  | .holding => { roster with holding := change roster.holding }
  | .processing => { roster with processing := change roster.processing }

/-- Whether a group has a member with an identity. -/
def has (roster : Roster α) (group : Group) (id : CallId) : Bool :=
  (roster.get group).any fun member => ident member == id

/-- Adds a member to a group. One that is already there keeps its position. -/
def insert (roster : Roster α) (group : Group) (member : α) : Roster α :=
  if roster.has ident group (ident member) then roster
  else roster.modify group (· ++ [member])

/-- Takes every member with an identity out of every group. -/
def erase (roster : Roster α) (id : CallId) : Roster α :=
  let keep := fun member => ident member != id
  { active := roster.active.filter keep
    ringing := roster.ringing.filter keep
    holding := roster.holding.filter keep
    processing := roster.processing.filter keep }

def headcount (roster : Roster α) : Headcount :=
  { active := roster.active.length
    ringing := roster.ringing.length
    holding := roster.holding.length
    processing := roster.processing.length }

/-- Erases an identity and tells whether a group got smaller by it. -/
def remove (roster : Roster α) (id : CallId) : Roster α × Bool :=
  let rest := roster.erase ident id
  (rest, rest.headcount != roster.headcount)

/-- The first group with a member of an identity. -/
def groupOf? (roster : Roster α) (id : CallId) : Option Group :=
  Group.all.find? fun group => roster.has ident group id

def isOccupied (roster : Roster α) (group : Group) : Bool := !(roster.get group).isEmpty

/-- The member in front. Active ones come before ringing ones and those before held
ones. Of the active ones it is the last that is still connecting, or else the
oldest; of the others it is the oldest. -/
def front? (state : α → Call.State) (roster : Roster α) : Option α :=
  match roster.active with
  | [] => roster.ringing.head?.or roster.holding.head?
  | oldest :: others =>
    ((oldest :: others).reverse.find? fun member => state member = .connecting).or (some oldest)

/-! ## What the operations do to a group -/

theorem get_modify (roster : Roster α) (group other : Group) (change : List α → List α) :
    (roster.modify group change).get other =
      if group = other then change (roster.get group) else roster.get other := by
  cases group <;> cases other <;> rfl

theorem get_insert (roster : Roster α) (group other : Group) (member : α) :
    (roster.insert ident group member).get other =
      if group = other ∧ roster.has ident group (ident member) = false then
        roster.get other ++ [member]
      else roster.get other := by
  unfold insert
  cases h : roster.has ident group (ident member) with
  | true => simp
  | false =>
    simp only [Bool.false_eq_true, if_false, and_true, get_modify]
    split
    · next same => rw [same]
    · rfl

@[simp] theorem get_erase (roster : Roster α) (id : CallId) (group : Group) :
    (roster.erase ident id).get group =
      (roster.get group).filter fun member => ident member != id := by
  cases group <;> rfl

@[simp] theorem get_headcount (roster : Roster α) (group : Group) :
    roster.headcount.get group = (roster.get group).length := by
  cases group <;> rfl

theorem isOccupied_iff (roster : Roster α) (group : Group) :
    roster.isOccupied group = true ↔ roster.get group ≠ [] := by
  rw [isOccupied, Bool.not_eq_true', List.isEmpty_eq_false_iff]

theorem isOccupied_eq (roster : Roster α) (group : Group) :
    roster.isOccupied group = decide (0 < roster.headcount.get group) := by
  rw [isOccupied, get_headcount]
  cases roster.get group <;> rfl

@[ext] theorem ext {first second : Roster α} (h : ∀ group, first.get group = second.get group) :
    first = second := by
  have ha := h .active
  have hr := h .ringing
  have hh := h .holding
  have hp := h .processing
  cases first
  cases second
  simp_all [get]

end Roster

end PhoneAudio
