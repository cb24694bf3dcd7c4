import PhoneAudio.Alerter.Plan
import PhoneAudio.Text.Flag

/-!
# Starting to ring

A request to ring first decides whether anything is rendered here at all. If so,
a waiting tone ends, the call gets a note on the motor, an audible call starts to
ring, and the vibration is decided: by a plan for a ringtone, at once for a ring
that the carrier sends over the voice path. Both kinds of request tell whether
the calls need the audio focus.
-/

namespace PhoneAudio.Alerter

variable {n : Nat}

def inputs (s : Alerter n) (place : Fin n) (source : Bool) : RingInputs :=
  RingInputs.ofCall s.surroundings s.settings (s.call place) source

/-- Notes why nothing is rendered, where the reason is the caller's or the dialer's. -/
def noteEarlyEnd (s : Alerter n) (place : Fin n) (inputs : RingInputs) : Alerter n :=
  let s := if inputs.dialerRings then s.note place .skipRinging (some "Dialer handles") else s
  if inputs.silentRinging then s.note place .skipRinging (some "Silent ringing requested") else s

/-- Whether the settings and the ringer mode let the motor run. -/
def isMotorEnabled (s : Alerter n) : Bool :=
  if s.surroundings.hasMotor && (s.settings.vibrateWhenRinging || s.settings.rampingRinger) then
    s.surroundings.ringerMode != .silent
  else s.surroundings.ringerMode == .vibrate

/-- The facts behind `isMotorEnabled`, as a note gives them. -/
def motorDetail (s : Alerter n) : String :=
  "has_vibrator=" ++ Text.flag s.surroundings.hasMotor ++
    ", vibrate_when_ringing=" ++ Text.flag s.settings.vibrateWhenRinging ++
    ", ringer_mode=" ++ s.surroundings.ringerMode.name ++
    ", is_vibrating=" ++ Text.flag s.motor.gate.isRunning

def noteMotor (s : Alerter n) (place : Fin n) : Alerter n :=
  s.note place (if s.isMotorEnabled then .startVibrator else .skipVibration) (some s.motorDetail)

/-- The vibration of an audible ring: the ringtone's own, unless the ramping ringer
goes by the pattern or the ringtone has none that can be read. -/
def selectEffect (s : Alerter n) (place : Fin n) : Vibration.Effect :=
  if s.settings.rampsByPattern then s.ringEffect
  else
    match s.surroundings.ringtoneOf (s.call place) with
    | none => s.ringEffect
    | some ringtone =>
      match s.surroundings.ringtoneEffect ringtone with
      | .ok (some effect) => effect
      | .ok none => s.ringEffect
      | .error _ => s.ringEffect

/-- How loud the ringtone is over time, if not at full volume throughout. -/
def curve (s : Alerter n) : Option VolumeCurve :=
  if s.settings.rampingRinger then some .ramping
  else s.settings.crescendo.map fun ring => .rising ring.start ring.seconds

/-- The call rings from now on. -/
def beginRing (s : Alerter n) (place : Fin n) : Alerter n :=
  { s with ringing := some place }.note place .startRinger none

def plan (s : Alerter n) (place : Fin n) (contact enabled : Bool) (effect : Vibration.Effect) :
    Plan n :=
  { call := place, effect, fallback := s.ringEffect, enabled, contact
    playsHaptics := s.surroundings.playsHaptics
    rampsByPattern := s.settings.rampsByPattern }

/-- Plays the ringtone and decides about vibrating by what its player says. -/
def ringAloud (s : Alerter n) (place : Fin n) (ringtone : Ringtone) (contact enabled : Bool) :
    Alerter n :=
  let s := s.beginRing place
  let s := { s with playing := true }.send (.play ringtone s.curve enabled)
  let plan := s.plan place contact enabled (s.selectEffect place)
  match s.surroundings.hapticsSignal with
  | some signal => s.schedule signal plan
  | none => s.vibrateFor none place contact plan.effect enabled

/-- Notes why the ringtone is not heard, and decides about vibrating. -/
def ringSilently (s : Alerter n) (place : Fin n) (inputs : RingInputs) (enabled : Bool) :
    Alerter n :=
  let reason := "Inaudible: volume_above_zero=" ++ Text.flag inputs.volume ++
    ", contact_matches=" ++ Text.flag inputs.contact ++
    ", ringtone_present=" ++ Text.flag inputs.source
  let s := s.note place .skipRinging (some reason)
  s.vibrateFor none place inputs.contact s.ringEffect enabled

/-- Turns the flash on, if it is wanted, there, and not on already. -/
def flashOn (s : Alerter n) : Alerter n :=
  if !s.flashing && s.settings.flashOnRing && s.surroundings.hasFlash then
    { s with flashing := true }.send (.flash true)
  else s

/-- Renders a ring with the ringtone of the call, if it has one. -/
def renderRing (s : Alerter n) (place : Fin n) (ringtone : Option Ringtone)
    (inputs : RingInputs) : Alerter n :=
  let s := s.stopWaiting
  let enabled := s.isMotorEnabled
  let s := s.noteMotor place
  let s :=
    match ringtone with
    | some ringtone =>
      if inputs.isAudible then s.ringAloud place ringtone inputs.contact enabled
      else s.ringSilently place inputs enabled
    | none => s.ringSilently place inputs enabled
  s.flashOn

/-- Rings for a call. Without a call that rings nothing happens. -/
def startRinging (s : Alerter n) (place : Option (Fin n)) (handsFree : Bool) :
    Alerter n × Bool :=
  match place with
  | none => (s, false)
  | some place =>
    if (s.call place).state.isRinging then
      let ringtone := s.surroundings.ringtoneOf (s.call place)
      let inputs := s.inputs place ringtone.isSome
      (if inputs.endsEarly then s.noteEarlyEnd place inputs
        else s.renderRing place ringtone inputs,
        inputs.wantsFocus handsFree)
    else (s, false)

/-! ## Carrier rings -/

/-- Raises the voice volume to the ring volume. The level to go back to is the one
before the first raise; a raise on top of it is not taken for the user's choice. -/
def raiseVoice (s : Alerter n) : Alerter n :=
  let level := carrierVolume s.surroundings.ringVolume
  match s.override with
  | none =>
    let saved := s.surroundings.voiceVolume
    let (s, token) := (s.setVolume .voiceCall level).watchVolume
    { s with override := some ⟨saved, token⟩ }
  | some override =>
    -- the watch hears this write too, so the level to go back to is put in again
    { s.setVolume .voiceCall level with override := some override }

/-- Notes why a carrier ring is not heard. -/
def noteInaudibleCarrier (s : Alerter n) (place : Fin n) (inputs : RingInputs) : Alerter n :=
  s.note place .skipRinging (some ("Inaudible: volume_above_zero=" ++ Text.flag inputs.volume ++
    ", contact_matches=" ++ Text.flag inputs.contact ++ ", is_crs_call=true"))

/-- Renders a ring that the carrier sends over the voice path. -/
def renderCarrierRing (s : Alerter n) (place : Fin n) (inputs : RingInputs) : Alerter n :=
  let s := s.stopWaiting
  let enabled := s.isMotorEnabled
  let s := s.noteMotor place
  if inputs.isAudible then
    let s := s.beginRing place
    s.raiseVoice.vibrateFor none place inputs.contact (s.selectEffect place) enabled
  else
    (s.noteInaudibleCarrier place inputs).vibrateFor none place inputs.contact s.ringEffect enabled

/-- Rings for a call with a carrier ring. Without such a call that rings nothing
happens. -/
def startCarrierRing (s : Alerter n) (place : Option (Fin n)) (handsFree : Bool) :
    Alerter n × Bool :=
  match place with
  | none => (s, false)
  | some place =>
    if (s.call place).carrierRing && (s.call place).state.isRinging then
      let inputs := s.inputs place true
      (if inputs.endsEarly then s.noteEarlyEnd place inputs
        else s.renderCarrierRing place inputs,
        inputs.wantsFocus handsFree)
    else (s, false)

end PhoneAudio.Alerter
