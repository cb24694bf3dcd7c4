import PhoneAudio.Json.Decode
import PhoneAudio.Json.Reader
import PhoneAudio.Settings

/-!
# Settings as JSON text

A settings text lists any of the settings, and the missing ones take their usual
values. A text that is well formed is then checked for values out of range.
-/

namespace PhoneAudio

open Json

def Crescendo.ofJson? : Decoder Crescendo := fun value => do
  let record ← record? ["start_volume", "ramp_up_secs"] false value
  some {
    start := ← record.required "start_volume" single?
    seconds := ← record.required "ramp_up_secs" (below? UInt32.size) }

namespace Settings

/-- The names of the settings, in the order in which a list of them gives them. -/
def fieldNames : List String :=
  ["vibration_pattern", "custom_vibration_pattern", "vibrate_when_ringing", "ramping_ringer",
    "audio_coupled_vibration_for_ramping", "increasing_ring", "flash_on_ring",
    "incall_feedback_vibrate", "theater_mode", "call_connected_tone",
    "vibrate_on_outgoing_connect"]

/-- The settings of a record; a field that is not there keeps its usual value. -/
def ofRecord? (record : Record) : Option Settings := do
  let usual : Settings := {}
  some {
    pattern := ← record.orElse "vibration_pattern" usual.pattern word?
    customPattern := ←
      record.orElse "custom_vibration_pattern" usual.customPattern (nullable? text?)
    vibrateWhenRinging := ←
      record.orElse "vibrate_when_ringing" usual.vibrateWhenRinging bool?
    rampingRinger := ← record.orElse "ramping_ringer" usual.rampingRinger bool?
    coupledVibration := ←
      record.orElse "audio_coupled_vibration_for_ramping" usual.coupledVibration bool?
    crescendo := ←
      record.orElse "increasing_ring" usual.crescendo (nullable? Crescendo.ofJson?)
    flashOnRing := ← record.orElse "flash_on_ring" usual.flashOnRing bool?
    tapOnWaiting := ← record.orElse "incall_feedback_vibrate" usual.tapOnWaiting bool?
    theaterMode := ← record.orElse "theater_mode" usual.theaterMode bool?
    connectedTone := ←
      record.orElse "call_connected_tone" usual.connectedTone (nullable? bool?)
    vibrateOnConnect := ←
      record.orElse "vibrate_on_outgoing_connect" usual.vibrateOnConnect bool? }

def ofJson? : Decoder Settings := fun value => (record? fieldNames true value).bind ofRecord?

/-- The settings that a text gives, unless it is malformed or a value is out of range. -/
def ofText? (text : String) : Except Flaw Settings :=
  match (Json.read? text).bind ofJson? with
  | none => .error .unreadable
  | some settings =>
    match settings.flaw? with
    | some flaw => .error flaw
    | none => .ok settings

end Settings

namespace DeviceProfile

def fieldNames : List String :=
  ["use_simple_vibration_pattern", "haptics_signal_timeout_ms", "outgoing_call_vibration_ms"]

/-- A profile gives all its fields. -/
def ofJson? : Decoder DeviceProfile := fun value => do
  let record ← record? fieldNames false value
  some {
    simplePatterns := ← record.required "use_simple_vibration_pattern" bool?
    hapticsTimeout := ← record.required "haptics_signal_timeout_ms" (below? UInt64.size)
    connectBuzz := ← record.required "outgoing_call_vibration_ms" (below? UInt64.size) }

end DeviceProfile

end PhoneAudio
