import PhoneAudio.Call.Basic
import PhoneAudio.Fault

/-!
# The surroundings of the alerter

Everything that the alerter asks about and does not decide: volumes and ringer
mode, what the motor and the ringtone player can do, who may ring, and whether
somebody else rings already.
-/

namespace PhoneAudio

/-- How the user wants the phone to ring. -/
inductive RingerMode where
  | silent
  | vibrate
  | normal
deriving DecidableEq

namespace RingerMode

def all : List RingerMode := [silent, vibrate, normal]

def name : RingerMode → String
  | silent => "Silent"
  | vibrate => "Vibrate"
  | normal => "Normal"

instance : Text.Vocabulary RingerMode := ⟨all, name⟩

end RingerMode

/-- A stream of audio with a volume of its own. -/
inductive Stream where
  | ring
  | voiceCall
deriving DecidableEq

namespace Stream

def all : List Stream := [ring, voiceCall]

def name : Stream → String
  | ring => "Ring"
  | voiceCall => "VoiceCall"

instance : Text.Vocabulary Stream := ⟨all, name⟩

end Stream

/-- Word from the ringtone player whether the media has haptics of its own. -/
inductive HapticsSignal where
  | known (coupled : Bool)
  /-- The player gave up and will never tell. -/
  | lost
  /-- The player has not told yet. -/
  | awaited
deriving DecidableEq

/-- The answers of the surroundings. -/
structure Surroundings where
  ringVolume : Nat := 5
  voiceVolume : Nat := 3
  ringerMode : RingerMode := .normal
  hasMotor : Bool := true
  /-- The phone can play the haptics that media carry. -/
  playsHaptics : Bool := true
  /-- The vibration that a ringtone carries, if it has one and it can be read. -/
  ringtoneEffect : Ringtone → Except Fault (Option Vibration.Effect) := fun _ => .ok none
  defaultRingtone : Option Ringtone := none
  /-- What the ringtone player says about haptics, if it says anything. -/
  hapticsSignal : Option HapticsSignal := some (.known false)
  /-- Whether a tone player that is told to start does so. -/
  tonesStart : Bool := true
  /-- The connected dialer rings by itself. -/
  dialerRings : Bool := false
  /-- Whether a caller may ring at all. -/
  admits : Option String → Bool := fun _ => true
  hasFlash : Bool := true

namespace Surroundings

/-- The ringtone of a call: its own, or else the phone's. -/
def ringtoneOf (surroundings : Surroundings) (call : Call) : Option Ringtone :=
  call.ringtone.or surroundings.defaultRingtone

def volume (surroundings : Surroundings) : Stream → Nat
  | .ring => surroundings.ringVolume
  | .voiceCall => surroundings.voiceVolume

def setVolume (surroundings : Surroundings) (level : Nat) : Stream → Surroundings
  | .ring => { surroundings with ringVolume := level }
  | .voiceCall => { surroundings with voiceVolume := level }

end Surroundings

end PhoneAudio
