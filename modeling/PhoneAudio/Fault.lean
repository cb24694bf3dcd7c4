import PhoneAudio.Call.Id
import PhoneAudio.Settings
import PhoneAudio.Vibration.Effect

/-!
# Faults

Everything that can be wrong with what the program is given, by cause.
-/

namespace PhoneAudio

/-- What can be wrong. -/
inductive Fault where
  /-- No route has this number. -/
  | route (value : Int)
  | vibration (flaw : Vibration.Flaw)
  | configuration (flaw : Settings.Flaw)
  /-- A setting that was never written. -/
  | settingMissing (name : String)
  | callNotTracked (id : CallId)
deriving DecidableEq

namespace Fault

/-- The kind of a fault. -/
def kind : Fault → String
  | route _ => "InvalidRoute"
  | vibration _ => "InvalidVibrationEffect"
  | configuration _ => "InvalidConfiguration"
  | settingMissing _ => "SettingMissing"
  | callNotTracked _ => "CallNotTracked"

/-- The part of the program that a fault concerns. -/
def category : Fault → String
  | route _ => "route"
  | vibration _ => "vibration"
  | configuration _ => "configuration"
  | settingMissing _ => "configuration"
  | callNotTracked _ => "call"

def message : Fault → String
  | route value => "Invalid audio route: " ++ toString value
  | vibration flaw => "Invalid vibration effect: " ++ flaw.message
  | configuration flaw => "Invalid configuration: " ++ flaw.fieldName ++ " - " ++ flaw.reason
  | settingMissing name => "Setting not found: " ++ name
  | callNotTracked id => "Call not tracked: " ++ id.text

end Fault

end PhoneAudio
