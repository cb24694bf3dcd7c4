import PhoneAudio.Vibration.Effect

/-!
# The vibration gate

At most one vibration runs at a time, and the gate knows on whose behalf. A start
is refused while another vibration runs. Every cancellation counts up the
generation of the gate, so that a start that was planned before it can be told
from one that was planned after it. The generation is a sixty-four-bit word and
wraps around.

The motor behind the gate is told to vibrate when a start is accepted and to stop
when a running vibration ends; what it was told is kept in order.
-/

namespace PhoneAudio

/-- What the motor is told. -/
inductive Motor.Command where
  | vibrate (effect : Vibration.Effect) (usage : Vibration.Usage)
  | stop
deriving DecidableEq

/-- The gate. `running` is `none` at rest and otherwise tells for whom the
vibration runs, if for anyone. -/
structure Gate (α : Type) where
  running : Option (Option α) := none
  generation : UInt64 := 0
  sent : List Motor.Command := []
deriving DecidableEq

namespace Gate

variable {α : Type}

def isRunning (gate : Gate α) : Bool := gate.running.isSome

/-- For whom the running vibration runs. -/
def owner? (gate : Gate α) : Option α := gate.running.join

/-- Starts a vibration unless one runs, and tells whether it did. -/
def start (gate : Gate α) (owner : Option α) (effect : Vibration.Effect)
    (usage : Vibration.Usage) : Gate α × Bool :=
  if gate.isRunning then (gate, false)
  else
    ({ gate with running := some owner, sent := gate.sent ++ [.vibrate effect usage] }, true)

/-- Starts a vibration only if nothing was cancelled since the generation was read. -/
def startIfCurrent (gate : Gate α) (generation : UInt64) (owner : Option α)
    (effect : Vibration.Effect) (usage : Vibration.Usage) : Gate α × Bool :=
  if gate.generation = generation then gate.start owner effect usage else (gate, false)

/-- Begins a new generation and stops the running vibration. The result tells for
whom the stopped vibration ran, or that there was none. -/
def cancel (gate : Gate α) : Gate α × Option (Option α) :=
  match gate.running with
  | none => ({ gate with generation := gate.generation + 1 }, none)
  | some owner =>
    ({ running := none, generation := gate.generation + 1, sent := gate.sent ++ [.stop] },
      some owner)

/-- The end of a brief vibration of a generation. It stops what runs, unless a
cancellation came before it; it does not begin a new generation. -/
def finish (gate : Gate α) (generation : UInt64) : Gate α :=
  if gate.generation = generation ∧ gate.isRunning then
    { gate with running := none, sent := gate.sent ++ [.stop] }
  else gate

/-! ## Generations -/

@[simp] theorem generation_start (gate : Gate α) (owner : Option α) (effect : Vibration.Effect)
    (usage : Vibration.Usage) : (gate.start owner effect usage).1.generation = gate.generation := by
  unfold start
  split <;> rfl

@[simp] theorem generation_startIfCurrent (gate : Gate α) (generation : UInt64)
    (owner : Option α) (effect : Vibration.Effect) (usage : Vibration.Usage) :
    (gate.startIfCurrent generation owner effect usage).1.generation = gate.generation := by
  unfold startIfCurrent
  split
  · exact generation_start gate owner effect usage
  · rfl

@[simp] theorem generation_cancel (gate : Gate α) :
    gate.cancel.1.generation = gate.generation + 1 := by
  unfold cancel
  split <;> rfl

@[simp] theorem generation_finish (gate : Gate α) (generation : UInt64) :
    (gate.finish generation).generation = gate.generation := by
  unfold finish
  split <;> rfl

/-- A start that was planned before a cancellation is refused after it. -/
theorem startIfCurrent_cancel (gate : Gate α) (owner : Option α) (effect : Vibration.Effect)
    (usage : Vibration.Usage) :
    gate.cancel.1.startIfCurrent gate.generation owner effect usage = (gate.cancel.1, false) := by
  have h : gate.generation + 1 ≠ gate.generation := by simp
  rw [startIfCurrent, if_neg (by rwa [generation_cancel])]

end Gate

end PhoneAudio
