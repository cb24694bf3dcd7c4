import PhoneAudio.Json.Decode
import PhoneAudio.Vibration.Effect
import PhoneAudio.VolumeCurve

/-!
# Vibrations and volume curves as JSON values

A value is taken for what it says: the shape of a waveform is not checked here.
-/

namespace PhoneAudio

open Json

namespace Vibration

def amplitude? : Decoder UInt8 := fun value => (below? 256 value).map UInt8.ofNat

def Waveform.ofJson? : Decoder Waveform := fun value => do
  let record ← record? ["timings", "amplitudes", "repeat"] false value
  some {
    timings := ← record.required "timings" (list? (below? UInt64.size))
    amplitudes := ← record.required "amplitudes" (list? amplitude?)
    loopFrom := ← record.optional "repeat" (below? UInt64.size) }

def Effect.ofJson? : Decoder Effect := fun value => do
  let (name, payload) ← choice? value
  match name with
  | "Thud" => if isBare payload then some .thud else none
  | "Waveform" => (payload.bind Waveform.ofJson?).map .waveform
  | _ => none

end Vibration

def VolumeCurve.ofJson? : Decoder VolumeCurve := fun value => do
  let record ← record? ["times", "volumes", "duration_ms"] false value
  some {
    times := ← record.required "times" (list? single?)
    volumes := ← record.required "volumes" (list? single?)
    duration := ← record.required "duration_ms" (below? UInt64.size) }

end PhoneAudio
