import PhoneAudio.Number.Single
import PhoneAudio.Vibration.Pattern

/-!
# Settings

What the user set, and what the phone was built for. A change of the settings
replaces them as a whole; the device profile never changes.
-/

namespace PhoneAudio

/-- A ring that starts at some volume and grows for some seconds. -/
structure Crescendo where
  start : Number.Single
  seconds : Nat
deriving DecidableEq

/-- The user's settings. -/
structure Settings where
  pattern : Vibration.Pattern := .simple
  /-- Three durations in milliseconds, as the user wrote them. -/
  customPattern : Option String := none
  vibrateWhenRinging : Bool := true
  rampingRinger : Bool := false
  /-- With the ramping ringer, vibrate as the ringtone says and not by the pattern. -/
  coupledVibration : Bool := false
  crescendo : Option Crescendo := none
  flashOnRing : Bool := false
  /-- A tap when a waiting tone starts. -/
  tapOnWaiting : Bool := false
  theaterMode : Bool := false
  /-- Beep when an outgoing call is answered; missing if it was never set. -/
  connectedTone : Option Bool := none
  vibrateOnConnect : Bool := true
deriving DecidableEq

/-- Why settings are refused. -/
inductive Settings.Flaw where
  | unreadable
  | startVolume
  | duration
  /-- Any other field, with the reason against it. -/
  | field (name reason : String)
deriving DecidableEq

namespace Settings

namespace Flaw

/-- The field that is to blame. -/
def fieldName : Flaw → String
  | unreadable => "settings"
  | startVolume => "increasing_ring.start_volume"
  | duration => "increasing_ring.ramp_up_secs"
  | field name _ => name

def reason : Flaw → String
  | unreadable => "not a settings text"
  | startVolume => "must be within 0.0..=1.0"
  | duration => "must be greater than zero"
  | field _ reason => reason

end Flaw

/-- The first value out of its range. A growing ring starts between silence and
full volume and takes at least a second. -/
def flaw? (settings : Settings) : Option Flaw :=
  match settings.crescendo with
  | none => none
  | some ring =>
    if !ring.start.inUnit then some .startVolume
    else if ring.seconds = 0 then some .duration
    else none

/-! ## Changing one setting -/

def withPattern (settings : Settings) (pattern : Vibration.Pattern) : Settings :=
  { settings with pattern := pattern }

/-- A pattern of the user's own is also the one picked. -/
def withCustomPattern (settings : Settings) (written : String) : Settings :=
  { settings with pattern := .custom, customPattern := some written }

def withRampingRinger (settings : Settings) (on coupled : Bool) : Settings :=
  { settings with rampingRinger := on, coupledVibration := coupled }

def withCrescendo (settings : Settings) (start : Number.Single) (seconds : Nat) : Settings :=
  { settings with crescendo := some ⟨start, seconds⟩ }

/-- The vibration that accompanies a ring on a phone with or without simple patterns. -/
def ringEffect (settings : Settings) (simplePatterns : Bool) : Vibration.Effect :=
  Vibration.ringEffect settings.pattern simplePatterns settings.customPattern

/-- The ramping ringer vibrates by the pattern, whatever the ringtone carries. -/
def rampsByPattern (settings : Settings) : Bool :=
  settings.rampingRinger && !settings.coupledVibration

end Settings

/-- What the phone was built for. -/
structure DeviceProfile where
  /-- Simple patterns are played in place of the long pulse. -/
  simplePatterns : Bool := false
  /-- How long to wait for word of the ringtone's own haptics, in milliseconds. -/
  hapticsTimeout : Nat := 1000
  /-- The length of the buzz when an outgoing call is answered, in milliseconds. -/
  connectBuzz : Nat := 100
deriving DecidableEq

end PhoneAudio
