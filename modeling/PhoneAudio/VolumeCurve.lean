import PhoneAudio.Number.Single

/-!
# Volume curves

How loud a ringtone is over time: volumes at given shares of the whole duration,
with straight lines between them.
-/

namespace PhoneAudio

open Number

/-- Volumes at shares of a duration in milliseconds. -/
structure VolumeCurve where
  times : List Single
  volumes : List Single
  duration : Nat
deriving DecidableEq

namespace VolumeCurve

/-- A third and one millionth, added in single precision: just after the end of
the five silent seconds of a ramp of fifteen. -/
def afterSilence : Single := ⟨0x3EAAAACD⟩

/-- Silent while only the motor runs, then up to full volume. -/
def ramping : VolumeCurve :=
  ⟨[Single.zero, afterSilence, Single.one], [Single.zero, Single.zero, Single.one], 15000⟩

/-- From a first volume up to full volume over some seconds. -/
def rising (start : Single) (seconds : Nat) : VolumeCurve :=
  ⟨[Single.zero, Single.one], [start, Single.one], seconds * 1000⟩

end VolumeCurve

end PhoneAudio
