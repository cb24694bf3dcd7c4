import PhoneAudio.Call.State

/-!
# Groups of calls

A tracked call belongs to at most one of four groups, by its state alone. Others
hear about a group only when it fills or empties; the change between two
headcounts is a list of such crossings, the emptied groups first.
-/

namespace PhoneAudio

/-- The four groups. -/
inductive Group where
  /-- Active, dialing or connecting. -/
  | active
  | ringing
  | holding
  | processing
deriving DecidableEq

namespace Group

def all : List Group := [active, ringing, holding, processing]

def name : Group → String
  | active => "ActiveDialingOrConnecting"
  | ringing => "Ringing"
  | holding => "Holding"
  | processing => "AudioProcessing"

/-- The group as a report shows it. -/
def label : Group → String
  | active => "Active dialing, or connecting calls"
  | ringing => "Ringing calls"
  | holding => "Holding calls"
  | processing => "Audio processing calls"

instance : Text.Vocabulary Group := ⟨all, name⟩

/-- The group of a call in a state. An answered call counts as active if it may
speed up answering, and as ringing until the network acknowledges it if not. -/
def ofState? (state : Call.State) (speedUpAnswer : Bool) : Option Group :=
  match state with
  | .connecting => some active
  | .dialing => some active
  | .pulling => some active
  | .active => some active
  | .ringing => some ringing
  | .simulatedRinging => some ringing
  | .answered => some (if speedUpAnswer then active else ringing)
  | .onHold => some holding
  | .audioProcessing => some processing
  | .created => none
  | .selectAccount => none
  | .disconnecting => none
  | .disconnected => none
  | .aborted => none

theorem mem_all (group : Group) : group ∈ all := by cases group <;> decide

end Group

/-! ## Headcounts and crossings -/

/-- The sizes of the four groups at one instant. -/
structure Headcount where
  active : Nat := 0
  ringing : Nat := 0
  holding : Nat := 0
  processing : Nat := 0
deriving DecidableEq

namespace Headcount

def get (count : Headcount) : Group → Nat
  | .active => count.active
  | .ringing => count.ringing
  | .holding => count.holding
  | .processing => count.processing

def toList (count : Headcount) : List Nat := Group.all.map count.get

end Headcount

/-- A group that fills or empties. -/
inductive Crossing where
  | filled (group : Group)
  | emptied (group : Group)
deriving DecidableEq

namespace Crossing

def text : Crossing → String
  | filled group => "Filled(" ++ group.name ++ ")"
  | emptied group => "Emptied(" ++ group.name ++ ")"

/-- The crossings from one headcount to a later one. -/
def between (before after : Headcount) : List Crossing :=
  (Group.all.filter fun group => 0 < before.get group && after.get group == 0).map emptied ++
    (Group.all.filter fun group => before.get group == 0 && 0 < after.get group).map filled

example : between { ringing := 2 } { holding := 1 } = [.emptied .ringing, .filled .holding] := by
  decide

end Crossing

end PhoneAudio
