import PhoneAudio.Text.Vocabulary

/-!
# Tones

The tones that are played to a party of a call, and the tone that tells the user
why the network ended a call.
-/

namespace PhoneAudio

/-- A tone that a player can play. -/
inductive Tone where
  | busy
  | congestion
  | reorder
  | intercept
  | drop
  | unobtainable
  | callEnded
  /-- A second call comes in. -/
  | waiting
  /-- The remote party holds the call in front. -/
  | hold
  | videoUpgrade
  /-- An outgoing call was answered. -/
  | connected
deriving DecidableEq

namespace Tone

def all : List Tone :=
  [busy, congestion, reorder, intercept, drop, unobtainable, callEnded, waiting, hold,
    videoUpgrade, connected]

def name : Tone → String
  | busy => "Busy"
  | congestion => "Congestion"
  | reorder => "Reorder"
  | intercept => "Intercept"
  | drop => "CdmaDrop"
  | unobtainable => "UnobtainableNumber"
  | callEnded => "CallEnded"
  | waiting => "CallWaiting"
  | hold => "RemoteHold"
  | videoUpgrade => "VideoUpgrade"
  | connected => "CallConnected"

instance : Text.Vocabulary Tone := ⟨all, name⟩

end Tone

/-- The tone that the network attached to the end of a call. -/
inductive NetworkCause where
  | busy
  | congestion
  | reorder
  | intercept
  | drop
  | error
  | prompt
  | other
deriving DecidableEq

namespace NetworkCause

def all : List NetworkCause :=
  [busy, congestion, reorder, intercept, drop, error, prompt, other]

def name : NetworkCause → String
  | busy => "Busy"
  | congestion => "Congestion"
  | reorder => "Reorder"
  | intercept => "AbbreviatedIntercept"
  | drop => "CallDropLite"
  | error => "Error"
  | prompt => "Prompt"
  | other => "Other"

instance : Text.Vocabulary NetworkCause := ⟨all, name⟩

/-- The tone to play when a call ends for this cause, if there is one. -/
def tone? : NetworkCause → Option Tone
  | busy => some .busy
  | congestion => some .congestion
  | reorder => some .reorder
  | intercept => some .intercept
  | drop => some .drop
  | error => some .unobtainable
  | prompt => some .callEnded
  | other => none

end NetworkCause

end PhoneAudio
