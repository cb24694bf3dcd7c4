import PhoneAudio.Text.Vocabulary

/-!
# The event log of a call

Every call keeps a log of what was done about it. The log has room for a fixed
number of entries, at least one; a new entry pushes out the oldest when there is
no room left.
-/

namespace PhoneAudio.Call

/-- What can be recorded against a call. -/
inductive Event where
  | startRinger
  | stopRinger
  | skipRinging
  | startVibrator
  | stopVibrator
  | skipVibration
  | startWaitingTone
  | stopWaitingTone
deriving DecidableEq

namespace Event

def all : List Event :=
  [startRinger, stopRinger, skipRinging, startVibrator, stopVibrator, skipVibration,
    startWaitingTone, stopWaitingTone]

def name : Event → String
  | startRinger => "StartRinger"
  | stopRinger => "StopRinger"
  | skipRinging => "SkipRinging"
  | startVibrator => "StartVibrator"
  | stopVibrator => "StopVibrator"
  | skipVibration => "SkipVibration"
  | startWaitingTone => "StartCallWaitingTone"
  | stopWaitingTone => "StopCallWaitingTone"

instance : Text.Vocabulary Event := ⟨all, name⟩

end Event

/-- One entry of a log. -/
structure Entry where
  event : Event
  detail : Option String
deriving DecidableEq

/-- A log with room for `capacity` entries, oldest first. -/
structure EventLog where
  capacity : Nat
  entries : List Entry
deriving DecidableEq

namespace EventLog

/-- The room of a log when nothing else is asked for. -/
def usualCapacity : Nat := 64

/-- An empty log; no log is without room for one entry. -/
def empty (capacity : Nat) : EventLog := ⟨max capacity 1, []⟩

/-- Appends an entry and drops the oldest one of a full log. -/
def record (log : EventLog) (entry : Entry) : EventLog :=
  if log.entries.length = log.capacity then
    { log with entries := log.entries.drop 1 ++ [entry] }
  else { log with entries := log.entries ++ [entry] }

def has (log : EventLog) (event : Event) : Bool := log.entries.any (·.event == event)

@[simp] theorem capacity_record (log : EventLog) (entry : Entry) :
    (log.record entry).capacity = log.capacity := by
  unfold record
  split <;> rfl

/-- A log that is not beyond its capacity keeps the newest entries there is room for. -/
theorem entries_record {log : EventLog} (entry : Entry) (hroom : 0 < log.capacity)
    (hlength : log.entries.length ≤ log.capacity) :
    (log.record entry).entries =
      (log.entries ++ [entry]).drop (log.entries.length + 1 - log.capacity) := by
  unfold record
  split
  · next full =>
    rw [List.drop_append_of_le_length (by omega)]
    simp only [full, Nat.add_sub_cancel_left]
  · next notFull =>
    rw [show log.entries.length + 1 - log.capacity = 0 by omega]
    rfl

example : (((empty 2).record ⟨.startRinger, none⟩).record ⟨.skipRinging, none⟩).record
    ⟨.stopRinger, none⟩ = ⟨2, [⟨.skipRinging, none⟩, ⟨.stopRinger, none⟩]⟩ := by decide

end EventLog

end PhoneAudio.Call
