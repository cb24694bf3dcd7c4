import PhoneAudio.Alerter.Surroundings

/-!
# The inputs of a ring decision

Eight facts decide whether a call is heard, whether the decision ends before
anything is rendered, and whether the calls need the audio focus.
-/

namespace PhoneAudio

/-- The facts about one request to ring. -/
structure RingInputs where
  volume : Bool := false
  contact : Bool := false
  /-- A ringtone is there, or the carrier sends the ring. -/
  source : Bool := false
  selfManaged : Bool := false
  silentRinging : Bool := false
  externalRinger : Bool := false
  theaterMode : Bool := false
  dialerRings : Bool := false
deriving DecidableEq

namespace RingInputs

def isAudible (inputs : RingInputs) : Bool :=
  inputs.volume && inputs.contact && inputs.source

/-- Nothing is rendered here. -/
def endsEarly (inputs : RingInputs) : Bool :=
  inputs.theaterMode || inputs.dialerRings || inputs.selfManaged || inputs.externalRinger ||
    inputs.silentRinging

/-- The focus is also needed to ring on a hands-free device or in an app. -/
def wantsFocus (inputs : RingInputs) (handsFree : Bool) : Bool :=
  inputs.isAudible || (handsFree && inputs.contact) || inputs.selfManaged

/-- The facts about a call, given whether there is something to ring with. -/
def ofCall (surroundings : Surroundings) (settings : Settings) (call : Call)
    (source : Bool) : RingInputs :=
  { volume := 0 < surroundings.ringVolume
    contact := surroundings.admits call.contact
    source := source
    selfManaged := call.traits.selfManaged
    silentRinging := call.traits.silentRinging
    externalRinger := call.traits.externalRinger
    theaterMode := settings.theaterMode
    dialerRings := surroundings.dialerRings }

end RingInputs

/-- The voice volume that renders a carrier's ring at a ring volume: the same up to
three, four for four and five, and five above. -/
def carrierVolume (ringVolume : Nat) : Nat :=
  if ringVolume < 4 then ringVolume else if 5 < ringVolume then 5 else 4

/-- Whether the motor runs alongside a ringtone that tells about its haptics: if the
media has none, if the phone cannot play them, or if the ramping ringer wants the
motor anyway. -/
def vibratesAlongside (coupled playsHaptics rampsByPattern : Bool) : Bool :=
  !coupled || !playsHaptics || rampsByPattern

end PhoneAudio
