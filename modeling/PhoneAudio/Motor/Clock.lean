import PhoneAudio.Motor.Gate

/-!
# Brief vibrations

A brief vibration ends by itself when its time is over. Its end is put on an
agenda, in the order of the deadlines, and comes to pass when the clock reaches
it. It does so with an asynchronous runtime and without one, where a thread of its
own waits for it. Only a vibration that is to wait before it starts needs a runtime.
-/

namespace PhoneAudio

/-- The end of a brief vibration that was started in some generation. -/
structure Ending where
  deadline : Nat
  generation : UInt64
deriving DecidableEq

namespace Ending

/-- Puts an ending on an agenda behind all that are due no later. -/
def schedule (ending : Ending) : List Ending → List Ending
  | [] => [ending]
  | next :: rest =>
    if next.deadline ≤ ending.deadline then next :: ending.schedule rest
    else ending :: next :: rest

end Ending

/-- A gate with a clock and an agenda of endings. -/
structure Motor (α : Type) where
  gate : Gate α := {}
  /-- Whether there is a runtime to wait in. Endings come with it and without it. -/
  timed : Bool := true
  now : Nat := 0
  agenda : List Ending := []
deriving DecidableEq

namespace Motor

variable {α : Type}

def start (motor : Motor α) (owner : Option α) (effect : Vibration.Effect)
    (usage : Vibration.Usage) : Motor α × Bool :=
  let (gate, started) := motor.gate.start owner effect usage
  ({ motor with gate := gate }, started)

def startIfCurrent (motor : Motor α) (generation : UInt64) (owner : Option α)
    (effect : Vibration.Effect) (usage : Vibration.Usage) : Motor α × Bool :=
  let (gate, started) := motor.gate.startIfCurrent generation owner effect usage
  ({ motor with gate := gate }, started)

def cancel (motor : Motor α) : Motor α × Option (Option α) :=
  let (gate, stopped) := motor.gate.cancel
  ({ motor with gate := gate }, stopped)

def finish (motor : Motor α) (generation : UInt64) : Motor α :=
  { motor with gate := motor.gate.finish generation }

/-- Arranges the end of the vibration that runs, some milliseconds from now. -/
def endAfter (motor : Motor α) (length : Nat) : Motor α :=
  let ending : Ending := ⟨motor.now + length, motor.gate.generation⟩
  { motor with agenda := ending.schedule motor.agenda }

/-- A vibration on nobody's behalf that ends by itself, unless one runs. -/
def buzz (motor : Motor α) (effect : Vibration.Effect) (usage : Vibration.Usage)
    (length : Nat) : Motor α × Bool :=
  let (motor, started) := motor.start none effect usage
  (if started then motor.endAfter length else motor, started)

/-- Lets endings come to pass in their order. -/
def passAll (motor : Motor α) (endings : List Ending) : Motor α :=
  endings.foldl (fun motor ending => motor.finish ending.generation) motor

/-- Lets every ending up to a deadline come to pass. -/
def passUntil (motor : Motor α) (deadline : Nat) : Motor α :=
  { motor with agenda := motor.agenda.filter (deadline < ·.deadline) }.passAll
    (motor.agenda.filter (·.deadline ≤ deadline))

/-- Lets the first endings of the agenda come to pass. -/
def passFirst (motor : Motor α) (count : Nat) : Motor α :=
  { motor with agenda := motor.agenda.drop count }.passAll (motor.agenda.take count)

/-- How many endings are due now. They are the first ones of the agenda. -/
def dueCount (motor : Motor α) : Nat := (motor.agenda.filter (·.deadline ≤ motor.now)).length

/-- What is due now comes to pass. -/
def settle (motor : Motor α) : Motor α := motor.passUntil motor.now

/-- The clock moves on, and what falls due on the way comes to pass. -/
def advance (motor : Motor α) (milliseconds : Nat) : Motor α :=
  { motor.passUntil (motor.now + milliseconds) with now := motor.now + milliseconds }

/-! ## What comes to pass -/

/-- Endings concern the gate alone. -/
theorem passAll_eq (motor : Motor α) (endings : List Ending) :
    motor.passAll endings =
      { motor with
        gate := endings.foldl (fun gate ending => gate.finish ending.generation) motor.gate } := by
  induction endings generalizing motor with
  | nil => rfl
  | cons ending rest ih => exact ih (motor.finish ending.generation)

theorem passUntil_eq (motor : Motor α) (deadline : Nat) :
    motor.passUntil deadline =
      { motor with
        gate := (motor.passAll (motor.agenda.filter (·.deadline ≤ deadline))).gate
        agenda := motor.agenda.filter (deadline < ·.deadline) } := by
  simp only [passUntil, passAll_eq]

theorem generation_passAll (motor : Motor α) (endings : List Ending) :
    (motor.passAll endings).gate.generation = motor.gate.generation := by
  induction endings generalizing motor with
  | nil => rfl
  | cons ending rest ih =>
    exact (ih (motor.finish ending.generation)).trans (Gate.generation_finish _ _)

/-! ## Operations -/

/-- What can be done with a motor. -/
inductive Operation (α : Type) where
  | start (owner : Option α) (effect : Vibration.Effect) (usage : Vibration.Usage)
  | startIfCurrent (generation : UInt64) (owner : Option α) (effect : Vibration.Effect)
      (usage : Vibration.Usage)
  | cancel
  | buzz (effect : Vibration.Effect) (usage : Vibration.Usage) (length : Nat)
  | settle
  | advance (milliseconds : Nat)

/-- What an operation reports: nothing, whether a vibration started, or for whom
the one ran that was stopped. -/
inductive Outcome (α : Type) where
  | nothing
  | started (accepted : Bool)
  | stopped (owner : Option (Option α))
deriving DecidableEq

def perform (motor : Motor α) : Operation α → Motor α × Outcome α
  | .start owner effect usage => (motor.start owner effect usage).map id .started
  | .startIfCurrent generation owner effect usage =>
    (motor.startIfCurrent generation owner effect usage).map id .started
  | .cancel => motor.cancel.map id .stopped
  | .buzz effect usage length => (motor.buzz effect usage length).map id .started
  | .settle => (motor.settle, .nothing)
  | .advance milliseconds => (motor.advance milliseconds, .nothing)

/-- The state after a run of operations. -/
def run (motor : Motor α) (operations : List (Operation α)) : Motor α :=
  operations.foldl (fun motor operation => (motor.perform operation).1) motor

/-! ## Starts -/

variable {motor : Motor α}

/-- Nothing starts while a vibration runs. -/
theorem start_of_running (h : motor.gate.isRunning) (owner : Option α)
    (effect : Vibration.Effect) (usage : Vibration.Usage) :
    motor.start owner effect usage = (motor, false) := by
  simp only [start, Gate.start, if_pos h]

theorem start_of_rest (h : ¬ motor.gate.isRunning) (owner : Option α)
    (effect : Vibration.Effect) (usage : Vibration.Usage) :
    motor.start owner effect usage = ((motor.start owner effect usage).1, true) := by
  simp only [start, Gate.start, if_neg h]

theorem perform_start_of_running (h : motor.gate.isRunning) (owner : Option α)
    (effect : Vibration.Effect) (usage : Vibration.Usage) :
    motor.perform (.start owner effect usage) = (motor, .started false) := by
  rw [perform, start_of_running h]
  rfl

theorem perform_buzz_of_running (h : motor.gate.isRunning) (effect : Vibration.Effect)
    (usage : Vibration.Usage) (length : Nat) :
    motor.perform (.buzz effect usage length) = (motor, .started false) := by
  rw [perform, buzz, start_of_running h]
  rfl

theorem buzz_of_rest (h : ¬ motor.gate.isRunning) (effect : Vibration.Effect)
    (usage : Vibration.Usage) (length : Nat) :
    motor.buzz effect usage length =
      ((motor.start none effect usage).1.endAfter length, true) := by
  rw [buzz, start_of_rest h]
  rfl

/-- A brief vibration starts like any other: its end is only arranged. -/
theorem gate_buzz (motor : Motor α) (effect : Vibration.Effect) (usage : Vibration.Usage)
    (length : Nat) :
    (motor.buzz effect usage length).1.gate = (motor.gate.start none effect usage).1 := by
  unfold buzz
  dsimp only
  split <;> rfl

/-- A start that was planned is a start if nothing was cancelled since. -/
theorem perform_startIfCurrent (motor : Motor α) (generation : UInt64) (owner : Option α)
    (effect : Vibration.Effect) (usage : Vibration.Usage) :
    motor.perform (.startIfCurrent generation owner effect usage) =
      if motor.gate.generation = generation then motor.perform (.start owner effect usage)
      else (motor, .started false) := by
  simp only [perform, startIfCurrent, Gate.startIfCurrent, start]
  split <;> rfl

end Motor

end PhoneAudio
