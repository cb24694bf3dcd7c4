import PhoneAudio.Call.Basic

/-!
# Tables of calls

The calls of a session stand in a table, and every part of the program refers to
a call by its place there. Two places may hold calls of one identity: such calls
count as the same wherever identities are compared, yet each has a log and
attributes of its own.
-/

namespace PhoneAudio

/-- The calls of a session, by place. -/
structure CallTable (n : Nat) where
  calls : Vector Call n

namespace CallTable

variable {n : Nat}

def get (table : CallTable n) (place : Fin n) : Call := table.calls[place]

def modify (table : CallTable n) (place : Fin n) (change : Call → Call) : CallTable n :=
  ⟨table.calls.set place (change (table.get place))⟩

def id (table : CallTable n) (place : Fin n) : CallId := (table.get place).id

/-- The change that a revision makes to one call. -/
def revise (table : CallTable n) (place : Fin n) (revision : Call.Revision) : CallTable n :=
  table.modify place (·.revise revision)

def record (table : CallTable n) (place : Fin n) (event : Call.Event)
    (detail : Option String) : CallTable n :=
  table.modify place (·.record event detail)

theorem get_modify (table : CallTable n) (place other : Fin n) (change : Call → Call) :
    (table.modify place change).get other =
      if place = other then change (table.get place) else table.get other := by
  simp only [get, modify, Fin.getElem_fin, Vector.getElem_set, Fin.ext_iff]

/-- A change that keeps a property of the changed call keeps it everywhere. -/
theorem get_modify_of_eq {α : Type} (view : Call → α) (table : CallTable n) (place other : Fin n)
    {change : Call → Call} (h : ∀ call, view (change call) = view call) :
    view ((table.modify place change).get other) = view (table.get other) := by
  rw [get_modify]
  split
  · next same => rw [h, same]
  · rfl

@[simp] theorem id_record (table : CallTable n) (place other : Fin n)
    (event : Call.Event) (detail : Option String) :
    (table.record place event detail).id other = table.id other :=
  get_modify_of_eq Call.id table place other fun _ => rfl

@[simp] theorem attributes_record (table : CallTable n) (place other : Fin n)
    (event : Call.Event) (detail : Option String) :
    ((table.record place event detail).get other).toAttributes =
      (table.get other).toAttributes :=
  get_modify_of_eq Call.toAttributes table place other fun _ => rfl

@[simp] theorem id_revise (table : CallTable n) (place other : Fin n)
    (revision : Call.Revision) : (table.revise place revision).id other = table.id other :=
  get_modify_of_eq Call.id table place other fun _ => by simp

end CallTable

end PhoneAudio
