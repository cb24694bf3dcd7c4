import PhoneAudio.Alerter.Inputs
import PhoneAudio.Call.Table
import PhoneAudio.Motor.Clock
import PhoneAudio.VolumeCurve

/-!
# The alerter

The alerter makes an incoming call heard, felt and seen. Its state holds the call
that rings, the waiting tone, the wait for word of the ringtone's haptics, the
voice volume that a carrier ring overrides, and the motor. What it tells the
devices, and what it records against calls, is kept in order.
-/

namespace PhoneAudio

/-- What the alerter does to the outside, in the order in which it does it. -/
inductive Alerter.Command (n : Nat) where
  | play (ringtone : Ringtone) (curve : Option VolumeCurve) (vibrates : Bool)
  | stopRingtone
  | motor (command : Motor.Command)
  | setVolume (stream : Stream) (level : Nat)
  | watchVolume (token : Nat)
  | unwatchVolume (token : Nat)
  | flash (on : Bool)
  | startTone (tone : Tone) (player : Nat)
  | stopTone (tone : Tone) (player : Nat)
  | note (call : Fin n) (event : Call.Event) (detail : Option String)
deriving DecidableEq

/-- What a request to ring decided about vibrating. -/
structure Alerter.Plan (n : Nat) where
  call : Fin n
  effect : Vibration.Effect
  /-- The effect if the player never tells about haptics. -/
  fallback : Vibration.Effect
  enabled : Bool
  contact : Bool
  playsHaptics : Bool
  rampsByPattern : Bool
deriving DecidableEq

/-- A plan that waits for word from the ringtone player, up to a deadline. When it is
new, and again when word comes, it stands in line behind the endings that are due;
once it was looked at without result it rests. -/
structure Alerter.Wait (n : Nat) where
  plan : Alerter.Plan n
  generation : UInt64
  deadline : Nat
  signal : HapticsSignal
  /-- How many endings are ahead of it in line, if it does not rest. -/
  ahead : Option Nat
deriving DecidableEq

/-- The voice volume to go back to after a carrier ring, with the token under which
its changes are watched. -/
structure VolumeOverride where
  saved : Nat
  token : Nat
deriving DecidableEq

/-- A waiting tone: for which call, and on which player. -/
structure WaitingTone (n : Nat) where
  call : Fin n
  player : Nat
deriving DecidableEq

/-- The alerter with the calls, the settings and the surroundings it works on. -/
structure Alerter (n : Nat) where
  calls : CallTable n
  profile : DeviceProfile := {}
  settings : Settings := {}
  /-- The vibration of a ring by the current settings. -/
  ringEffect : Vibration.Effect := ({} : Settings).ringEffect false
  surroundings : Surroundings := {}
  motor : Motor (Fin n) := {}
  ringing : Option (Fin n) := none
  waiting : Option (WaitingTone n) := none
  wait : Option (Alerter.Wait n) := none
  override : Option VolumeOverride := none
  flashing : Bool := false
  /-- The ringtone player plays. -/
  playing : Bool := false
  /-- How many tone players there were. -/
  players : Nat := 0
  /-- How many watches on the volume there were. -/
  watches : Nat := 0
  /-- The tokens of the watches that are on. -/
  watching : List Nat := []
  sent : List (Alerter.Command n) := []

namespace Alerter

variable {n : Nat}

/-- A quiet alerter. -/
def idle (calls : CallTable n) (profile : DeviceProfile) (settings : Settings)
    (surroundings : Surroundings) (timed : Bool) : Alerter n :=
  { calls, profile, settings, surroundings
    ringEffect := settings.ringEffect profile.simplePatterns
    motor := { timed } }

/-- New settings, with the vibration of a ring by them. -/
def applySettings (s : Alerter n) (settings : Settings) : Alerter n :=
  { s with
    settings := settings
    ringEffect := settings.ringEffect s.profile.simplePatterns }

def call (s : Alerter n) (place : Fin n) : Call := s.calls.get place

def send (s : Alerter n) (command : Command n) : Alerter n :=
  { s with sent := s.sent ++ [command] }

/-- Records an event against a call. -/
def note (s : Alerter n) (place : Fin n) (event : Call.Event) (detail : Option String) :
    Alerter n :=
  { s with calls := s.calls.record place event detail }.send (.note place event detail)

@[simp] theorem attributes_note (s : Alerter n) (place other : Fin n) (event : Call.Event)
    (detail : Option String) :
    ((s.note place event detail).call other).toAttributes = (s.call other).toAttributes :=
  s.calls.attributes_record place other event detail

@[simp] theorem id_note (s : Alerter n) (place other : Fin n) (event : Call.Event)
    (detail : Option String) : ((s.note place event detail).call other).id = (s.call other).id :=
  s.calls.id_record place other event detail

/-- Lets the motor work; what it was told is passed on. -/
def onMotor {β : Type} (s : Alerter n) (act : Motor (Fin n) → Motor (Fin n) × β) :
    Alerter n × β :=
  let (motor, result) := act { s.motor with gate := { s.motor.gate with sent := [] } }
  ({ s with
      motor := { motor with gate := { motor.gate with sent := [] } }
      sent := s.sent ++ motor.gate.sent.map .motor }, result)

/-! ## Volumes -/

/-- A changed volume is heard by the override that watches the voice volume. -/
def hearVolume (s : Alerter n) (stream : Stream) (level : Nat) : Alerter n :=
  match stream, s.override with
  | .voiceCall, some override =>
    if override.token ∈ s.watching then { s with override := some { override with saved := level } }
    else s
  | _, _ => s

/-- A volume changes, and whoever watches it hears of the change. -/
def changeVolume (s : Alerter n) (stream : Stream) (level : Nat) : Alerter n :=
  { s with surroundings := s.surroundings.setVolume level stream }.hearVolume stream level

/-- The alerter sets a volume itself. -/
def setVolume (s : Alerter n) (stream : Stream) (level : Nat) : Alerter n :=
  (s.send (.setVolume stream level)).changeVolume stream level

/-- Begins to watch the volume, under a token of its own. -/
def watchVolume (s : Alerter n) : Alerter n × Nat :=
  let token := s.watches + 1
  ({ s with watches := token, watching := s.watching ++ [token] }.send (.watchVolume token), token)

def unwatchVolume (s : Alerter n) (token : Nat) : Alerter n :=
  { s with watching := s.watching.filter (· ≠ token) }.send (.unwatchVolume token)

/-! ## Tones -/

/-- Starts a tone on a new player and tells which. -/
def startTone (s : Alerter n) (tone : Tone) : Alerter n × Nat :=
  let player := s.players + 1
  ({ s with players := player }.send (.startTone tone player), player)

def stopTone (s : Alerter n) (tone : Tone) (player : Nat) : Alerter n :=
  s.send (.stopTone tone player)

/-- Ends the waiting tone, if one plays. -/
def stopWaiting (s : Alerter n) : Alerter n :=
  match s.waiting with
  | none => s
  | some waiting =>
    ({ s with waiting := none }.note waiting.call .stopWaitingTone none).stopTone .waiting
      waiting.player

end Alerter

end PhoneAudio
