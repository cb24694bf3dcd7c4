import PhoneAudio.Json.Decode
import PhoneAudio.Layer.Mode
import PhoneAudio.Layer.Route

/-!
# Messages of the layers as JSON values

The snapshot of a mode message, the requests to the route layer, and its report.
-/

namespace PhoneAudio

open Json

def Mode.Snapshot.ofJson? : Decoder Mode.Snapshot := fun value => do
  let record ← record?
    ["has_active_or_dialing_calls", "has_ringing_calls", "has_holding_calls",
      "has_audio_processing_calls", "is_tone_playing", "foreground_call_is_voip", "is_crs_call"]
    false value
  some {
    active := ← record.required "has_active_or_dialing_calls" bool?
    ringing := ← record.required "has_ringing_calls" bool?
    holding := ← record.required "has_holding_calls" bool?
    processing := ← record.required "has_audio_processing_calls" bool?
    tonePlaying := ← record.required "is_tone_playing" bool?
    voip := ← record.required "foreground_call_is_voip" bool?
    carrierRing := ← record.required "is_crs_call" bool? }

namespace Route

def Request.ofJson? : Decoder Request := fun value => do
  let (name, payload) ← choice? value
  match name with
  | "UserSwitchBluetooth" =>
    let record ← payload.bind (record? ["address"] false)
    (record.optional "address" text?).map .bluetooth
  | "UserSwitchBaselineRoute" =>
    let record ← payload.bind (record? ["include_bluetooth"] false)
    (record.required "include_bluetooth" bool?).map .baseline
  | "SwitchFocus" => (payload.bind word?).map .focus
  | name => if isBare payload then Request.bare.find? (·.label == name) else none

def Report.ofJson? : Decoder Report := fun value => do
  let record ← record? ["route", "is_muted", "supported_routes", "active_bluetooth_device"]
    false value
  some {
    route := ← record.required "route" word?
    muted := ← record.required "is_muted" bool?
    supported := ← record.required "supported_routes" (list? word?)
    bluetoothDevice := ← record.optional "active_bluetooth_device" text? }

end Route

end PhoneAudio
