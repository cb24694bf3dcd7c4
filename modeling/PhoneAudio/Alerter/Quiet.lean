import PhoneAudio.Alerter.Plan

/-!
# Falling quiet, and the waiting tone

Everything that a ring started is taken down when it stops. A call that comes in
during another one gets a waiting tone in place of a ring: the ring stops, the
motor may tap once, and the tone plays unless one plays already.
-/

namespace PhoneAudio.Alerter

variable {n : Nat}

/-- No call rings any more. -/
def endRing (s : Alerter n) : Alerter n :=
  match s.ringing with
  | none => s
  | some place => { s with ringing := none }.note place .stopRinger none

/-- Sets the voice volume back to where it was before the carrier ring. -/
def restoreVoice (s : Alerter n) : Alerter n :=
  match s.override with
  | none => s
  | some override =>
    -- the watch ends first and does not hear the volume go back
    ({ s with override := none }.unwatchVolume override.token).setVolume .voiceCall override.saved

/-- Takes down a carrier ring. -/
def stopCarrierRing (s : Alerter n) : Alerter n :=
  s.endRing.restoreVoice.cancelVibration

def flashOff (s : Alerter n) : Alerter n :=
  if s.flashing then
    if s.surroundings.hasFlash then { s with flashing := false }.send (.flash false)
    else { s with flashing := false }
  else s

def stopRingtone (s : Alerter n) : Alerter n :=
  { s with playing := false }.send .stopRingtone

/-- The call that rings has a ring of the carrier's. -/
def ringsByCarrier (s : Alerter n) : Bool :=
  match s.ringing with
  | none => false
  | some place => (s.call place).carrierRing

/-- Stops ringing and vibrating; this may be asked for at any time. -/
def stopRinging (s : Alerter n) : Alerter n :=
  if s.ringsByCarrier then s.stopCarrierRing
  else s.endRing.stopRingtone.cancelVibration.flashOff

/-- A tap of the motor, past the gate. -/
def tap (s : Alerter n) : Alerter n :=
  if s.settings.tapOnWaiting && s.surroundings.hasMotor then
    s.send (.motor (.vibrate .thud .feedback))
  else s

/-- Plays the waiting tone unless one plays. -/
def beginWaiting (s : Alerter n) (place : Fin n) (reason : Option String) : Alerter n :=
  match s.waiting with
  | some _ => s
  | none =>
    let (s, player) := (s.note place .startWaitingTone reason).startTone .waiting
    { s with waiting := some ⟨place, player⟩ }

/-- Announces a second call by the waiting tone, unless it is not to be heard. -/
def startWaiting (s : Alerter n) (place : Fin n) (reason : Option String) : Alerter n :=
  if s.settings.theaterMode then s
  else if s.surroundings.dialerRings then s.note place .skipRinging (some "Dialer handles")
  else if (s.call place).traits.selfManaged then s.note place .skipRinging (some "Self-managed")
  else (s.stopRinging.tap).beginWaiting place reason

/-- A short buzz when an outgoing call is answered, if the user wants one and
nothing vibrates. -/
def buzzOnConnect (s : Alerter n) : Alerter n × Bool :=
  if s.settings.vibrateOnConnect then
    s.onMotor (·.buzz Vibration.simpleEffect .voiceCommunication s.profile.connectBuzz)
  else (s, false)

end PhoneAudio.Alerter
