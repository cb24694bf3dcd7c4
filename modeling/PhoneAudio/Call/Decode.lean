import PhoneAudio.Call.Basic
import PhoneAudio.Json.Decode

/-!
# Calls as JSON values

The traits, the ringtone and all the attributes of a call. The parent of a call is
given by its written identity.
-/

namespace PhoneAudio

open Json

def Ringtone.ofJson? : Decoder Ringtone := fun value => do
  let record ← record? ["uri"] false value
  some { uri := ← record.required "uri" text? }

def CallId.ofJson? : Decoder CallId := fun value => (text? value).bind CallId.read?

namespace Call

def Traits.ofJson? : Decoder Traits := fun value => do
  let record ← record?
    ["speed_up_answer", "self_managed", "silent_ringing_requested", "external_ringer"] false value
  some {
    speedUpAnswer := ← record.required "speed_up_answer" bool?
    selfManaged := ← record.required "self_managed" bool?
    silentRinging := ← record.required "silent_ringing_requested" bool?
    externalRinger := ← record.required "external_ringer" bool? }

def Attributes.fieldNames : List String :=
  ["state", "is_voip_audio_mode", "is_remotely_held", "ringback_requested", "contact_uri",
    "ringtone", "capabilities", "is_crs_call", "original_media_type", "video_state",
    "is_emergency", "is_external", "parent_call", "handover_in_progress", "disconnect_tone",
    "silenced"]

def Attributes.ofJson? : Decoder Attributes := fun value => do
  let record ← record? fieldNames false value
  some {
    state := ← record.required "state" word?
    voip := ← record.required "is_voip_audio_mode" bool?
    remotelyHeld := ← record.required "is_remotely_held" bool?
    ringback := ← record.required "ringback_requested" bool?
    contact := ← record.optional "contact_uri" text?
    ringtone := ← record.optional "ringtone" Ringtone.ofJson?
    traits := ← record.required "capabilities" Traits.ofJson?
    carrierRing := ← record.required "is_crs_call" bool?
    ringMedia := ← record.required "original_media_type" word?
    video := ← record.required "video_state" word?
    emergency := ← record.required "is_emergency" bool?
    external := ← record.required "is_external" bool?
    parent := ← record.optional "parent_call" CallId.ofJson?
    handover := ← record.required "handover_in_progress" bool?
    disconnectCause := ← record.optional "disconnect_tone" word?
    silenced := ← record.required "silenced" bool? }

end Call

end PhoneAudio
