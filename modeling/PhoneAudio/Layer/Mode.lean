import PhoneAudio.Roster.Group

/-!
# The mode layer

What the layer that decides on the audio mode is told: which groups fill or
empty, and a few changes that concern the mode alone. Every message comes with a
snapshot of the situation it leaves behind.
-/

namespace PhoneAudio.Mode

/-- A message to the mode layer. -/
inductive Message where
  | crossing (crossing : Crossing)
  | toneStarted
  | toneStopped
  /-- The call in front started or stopped being a voice-over-data call. -/
  | voipChanged
  | ringerModeChanged
  | operationsComplete
  /-- The only carrier ring was silenced. -/
  | carrierRingSilenced
deriving DecidableEq

namespace Message

def all : List Message :=
  Group.all.flatMap (fun group => [crossing (.filled group), crossing (.emptied group)]) ++
    [toneStarted, toneStopped, voipChanged, ringerModeChanged, operationsComplete,
      carrierRingSilenced]

def name : Message → String
  | crossing (.filled .active) => "NewActiveOrDialingCall"
  | crossing (.emptied .active) => "NoMoreActiveOrDialingCalls"
  | crossing (.filled .ringing) => "NewRingingCall"
  | crossing (.emptied .ringing) => "NoMoreRingingCalls"
  | crossing (.filled .holding) => "NewHoldingCall"
  | crossing (.emptied .holding) => "NoMoreHoldingCalls"
  | crossing (.filled .processing) => "NewAudioProcessingCall"
  | crossing (.emptied .processing) => "NoMoreAudioProcessingCalls"
  | toneStarted => "ToneStartedPlaying"
  | toneStopped => "ToneStoppedPlaying"
  | voipChanged => "ForegroundVoipModeChange"
  | ringerModeChanged => "RingerModeChange"
  | operationsComplete => "AudioOperationsComplete"
  | carrierRingSilenced => "CrsChangeSilence"

instance : Text.Vocabulary Message := ⟨all, name⟩

end Message

/-- The situation that a message leaves behind: which groups are occupied, whether
a tone plays, whether the call in front is a voice-over-data call, and whether a
carrier ring is on. -/
structure Snapshot where
  active : Bool := false
  ringing : Bool := false
  holding : Bool := false
  processing : Bool := false
  tonePlaying : Bool := false
  voip : Bool := false
  carrierRing : Bool := false
deriving DecidableEq

def Snapshot.flags (snapshot : Snapshot) : List Bool :=
  [snapshot.active, snapshot.ringing, snapshot.holding, snapshot.processing,
    snapshot.tonePlaying, snapshot.voip, snapshot.carrierRing]

end PhoneAudio.Mode
