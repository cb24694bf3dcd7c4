import PhoneAudio.Motor.Clock
import PhoneAudio.Proofs.Speech

/-!
# What the motor is told

Whether something vibrates, and what for, can be read off what the motor was told:
the last vibration that it was told to start runs until it is told to stop. A gate
lets two kinds of vibrations through. One that runs on behalf of a call belongs to a
ring, and one that runs on nobody's behalf is brief.

`Says topics g h` says that from `g` to `h` only commands on the listed topics were
told, and that they account for what the gate lets run.
-/

namespace PhoneAudio

/-- What a command to the motor is about. -/
inductive Motor.Topic where
  | vibration (usage : Vibration.Usage)
  | stop
deriving DecidableEq

namespace Motor.Command

def topic : Motor.Command → Motor.Topic
  | .vibrate _ usage => .vibration usage
  | .stop => .stop

/-- What runs after one more command. A tap is over at once. -/
def heard (running : Option Vibration.Usage) : Motor.Command → Option Vibration.Usage
  | .vibrate _ .feedback => running
  | .vibrate _ .ringtone => some .ringtone
  | .vibrate _ .voiceCommunication => some .voiceCommunication
  | .stop => none

end Motor.Command

namespace Gate

variable {α : Type}

/-- What a vibration on somebody's behalf, or on nobody's, is for. -/
def usageOf (owner : Option α) : Vibration.Usage :=
  if owner.isSome then .ringtone else .voiceCommunication

/-- What the running vibration is for. -/
def usage? (gate : Gate α) : Option Vibration.Usage := gate.running.map usageOf

/-- From `g` to `h` only commands on the listed topics were told, and they account for
what runs. -/
def Says (topics : List Motor.Topic) (g h : Gate α) : Prop :=
  Adds Motor.Command.topic Motor.Command.heard topics g.sent g.usage? h.sent h.usage?

variable {topics more : List Motor.Topic} {g h k : Gate α}

theorem says_silently (hsent : h.sent = g.sent) (hrunning : h.running = g.running) :
    Says topics g h :=
  Adds.silently topics hsent (congrArg (Option.map usageOf) hrunning)

theorem Says.mono (hsaid : Says topics g h) (sub : topics ⊆ more) : Says more g h :=
  Adds.mono hsaid sub

theorem Says.trans (h₁ : Says topics g h) (h₂ : Says more h k) : Says (topics ++ more) g k :=
  Adds.trans h₁ h₂

/-! ## The steps of a gate -/

/-- What a start tells the motor, if anything. -/
theorem sent_start (gate : Gate α) (owner : Option α) (effect : Vibration.Effect)
    (usage : Vibration.Usage) :
    (gate.start owner effect usage).1.sent = gate.sent ∨
      (gate.start owner effect usage).1.sent = gate.sent ++ [.vibrate effect usage] := by
  unfold start
  split
  · exact .inl rfl
  · exact .inr rfl

theorem says_start (gate : Gate α) (owner : Option α) (effect : Vibration.Effect) :
    Says [.vibration (usageOf owner)] gate (gate.start owner effect (usageOf owner)).1 := by
  unfold start
  split
  · exact says_silently rfl rfl
  · refine Adds.single rfl ?_
    cases owner <;> rfl

theorem says_startIfCurrent (gate : Gate α) (generation : UInt64) (owner : Option α)
    (effect : Vibration.Effect) :
    Says [.vibration (usageOf owner)] gate
      (gate.startIfCurrent generation owner effect (usageOf owner)).1 := by
  unfold startIfCurrent
  split
  · exact says_start gate owner effect
  · exact says_silently rfl rfl

theorem says_cancel (gate : Gate α) : Says [.stop] gate gate.cancel.1 := by
  unfold cancel
  split
  · exact says_silently rfl rfl
  · exact Adds.single rfl rfl

theorem says_finish (gate : Gate α) (generation : UInt64) :
    Says [.stop] gate (gate.finish generation) := by
  unfold finish
  split
  · exact Adds.single rfl rfl
  · exact says_silently rfl rfl

end Gate

namespace Motor

variable {α : Type}

/-! ## The steps of a motor -/

theorem says_buzz (motor : Motor α) (effect : Vibration.Effect) (length : Nat) :
    Gate.Says [.vibration .voiceCommunication] motor.gate
      (motor.buzz effect .voiceCommunication length).1.gate := by
  rw [gate_buzz]
  exact motor.gate.says_start none effect

theorem says_passAll (motor : Motor α) (endings : List Ending) :
    Gate.Says [.stop] motor.gate (motor.passAll endings).gate := by
  induction endings generalizing motor with
  | nil => exact Gate.says_silently rfl rfl
  | cons ending rest ih =>
    have hfinish := motor.gate.says_finish ending.generation
    exact (hfinish.trans (ih (motor.finish ending.generation))).mono (by decide)

end Motor

end PhoneAudio
