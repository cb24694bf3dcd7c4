import PhoneAudio.Text.Vocabulary

/-!
# Vibration effects

A vibration is a short thud or a waveform: segments with a length and a strength
each, and possibly a segment to loop back to. A waveform is sound if it has
segments, as many strengths as lengths, a loop that starts inside it, and a
length that is not zero.
-/

namespace PhoneAudio.Vibration

/-- What a vibration is played for. -/
inductive Usage where
  | ringtone
  | voiceCommunication
  | feedback
deriving DecidableEq

namespace Usage

def all : List Usage := [ringtone, voiceCommunication, feedback]

def name : Usage → String
  | ringtone => "Ringtone"
  | voiceCommunication => "VoiceCommunication"
  | feedback => "Feedback"

instance : Text.Vocabulary Usage := ⟨all, name⟩

end Usage

/-- Segments of the given lengths in milliseconds and strengths; `loopFrom` is the
segment to go on with after the last one. -/
structure Waveform where
  timings : List Nat
  amplitudes : List UInt8
  loopFrom : Option Nat
deriving DecidableEq

/-- A vibration that the motor can play. -/
inductive Effect where
  | waveform (shape : Waveform)
  /-- A single tap. -/
  | thud
deriving DecidableEq

/-- Why a vibration cannot be made. -/
inductive Flaw where
  | noSegments
  | unequalLengths (timings amplitudes : Nat)
  | loopOutside (start segments : Nat)
  | noLength
  | fieldsMissing (pattern : String)
  | notADuration (field : String)
  /-- The source of the vibration cannot be read, for the reason it gives. -/
  | unreadable (reason : String)
deriving DecidableEq

namespace Flaw

def message : Flaw → String
  | noSegments => "waveform has no segments"
  | unequalLengths timings amplitudes =>
    toString timings ++ " timings but " ++ toString amplitudes ++ " amplitudes"
  | loopOutside start segments =>
    "repeat index " ++ toString start ++ " out of range for " ++ toString segments ++
      " segments"
  | noLength => "waveform has zero length"
  | fieldsMissing pattern => "custom pattern '" ++ pattern ++ "' needs three values"
  | notADuration field => "'" ++ field ++ "' is not a duration"
  | unreadable reason => reason

end Flaw

namespace Waveform

/-- The first flaw in the shape of a waveform. -/
def flaw? (shape : Waveform) : Option Flaw :=
  if shape.timings = [] then some .noSegments
  else if shape.timings.length ≠ shape.amplitudes.length then
    some (.unequalLengths shape.timings.length shape.amplitudes.length)
  else
    match shape.loopFrom with
    | some start =>
      if shape.timings.length ≤ start then some (.loopOutside start shape.timings.length)
      else if shape.timings.all (· == 0) then some .noLength
      else none
    | none => if shape.timings.all (· == 0) then some .noLength else none

/-- The effect of a sound waveform. -/
def effect? (shape : Waveform) : Except Flaw Effect :=
  match shape.flaw? with
  | some flaw => .error flaw
  | none => .ok (.waveform shape)

/-- The four conditions on a waveform. -/
structure Sound (shape : Waveform) : Prop where
  segments : shape.timings ≠ []
  lengths : shape.timings.length = shape.amplitudes.length
  loop : ∀ start, shape.loopFrom = some start → start < shape.timings.length
  length : ∃ timing ∈ shape.timings, timing ≠ 0

/-- A waveform has no flaw exactly if it is sound. -/
theorem flaw?_eq_none_iff (shape : Waveform) : shape.flaw? = none ↔ shape.Sound := by
  constructor
  · intro h
    unfold flaw? at h
    split at h
    · simp at h
    · next hsegments =>
      split at h
      · simp at h
      · next hlengths =>
        split at h
        · next start hloop =>
          split at h
          · simp at h
          · split at h
            · simp at h
            · next hzero =>
              exact ⟨hsegments, by omega, fun s hs => by simp_all, by simp_all⟩
        · next hloop =>
          split at h
          · simp at h
          · exact ⟨hsegments, by omega, fun s hs => by simp_all, by simp_all⟩
  · rintro ⟨hsegments, hlengths, hloop, timing, hmem, hne⟩
    have hzero : shape.timings.all (· == 0) = false := by
      simpa using ⟨timing, hmem, hne⟩
    unfold flaw?
    cases hl : shape.loopFrom with
    | none => simp [hsegments, hlengths.symm, hzero]
    | some start => simp [hsegments, hlengths.symm, hzero, Nat.not_le.2 (hloop start hl)]

end Waveform

/-- A vibration that the motor can be asked for: a thud, or a sound waveform. -/
def Effect.Sound : Effect → Prop
  | .waveform shape => shape.Sound
  | .thud => True

end PhoneAudio.Vibration
