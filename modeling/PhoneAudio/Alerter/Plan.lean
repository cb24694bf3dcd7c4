import PhoneAudio.Alerter.State

/-!
# Vibration plans

A request to ring decides about vibrating by a plan. The plan is carried out at
once when the ringtone player says nothing about haptics, and otherwise when it
does, or when it has been waited for long enough. A plan that waited starts its
vibration only if nothing was cancelled in the meantime.
-/

namespace PhoneAudio.Alerter

variable {n : Nat}

/-- Starts the vibration of a ring, in a given generation only if one is given. A
call whose vibration does not start while another one runs gets a note of it. -/
def vibrateFor (s : Alerter n) (generation : Option UInt64) (place : Fin n) (contact : Bool)
    (effect : Vibration.Effect) (enabled : Bool) : Alerter n :=
  let (s, started) :=
    if enabled && contact then
      s.onMotor fun motor =>
        match generation with
        | some generation => motor.startIfCurrent generation (some place) effect .ringtone
        | none => motor.start (some place) effect .ringtone
    else (s, false)
  if started then s
  else if s.motor.gate.isRunning then s.note place .skipVibration (some "already vibrating")
  else s

/-- Carries out a plan when the player told whether the media has haptics. -/
def carryOut (s : Alerter n) (generation : Option UInt64) (plan : Plan n) (coupled : Bool) :
    Alerter n :=
  if vibratesAlongside coupled plan.playsHaptics plan.rampsByPattern then
    s.vibrateFor generation plan.call plan.contact plan.effect plan.enabled
  else s.note plan.call .skipVibration (some "using audio-coupled haptics")

/-- Carries out a plan when the player never tells. -/
def fallBack (s : Alerter n) (generation : Option UInt64) (plan : Plan n) : Alerter n :=
  s.vibrateFor generation plan.call plan.contact plan.fallback plan.enabled

/-- Waits for the player, in place of any wait before; without a runtime nothing is
waited for, and the plan is carried out by what is known. -/
def schedule (s : Alerter n) (signal : HapticsSignal) (plan : Plan n) : Alerter n :=
  if s.motor.timed then
    { s with
      wait := some {
        plan
        generation := s.motor.gate.generation
        deadline := s.motor.now + s.profile.hapticsTimeout
        signal
        ahead := some s.motor.dueCount } }
  else
    match signal with
    | .known coupled => s.carryOut none plan coupled
    | .lost => s.fallBack none plan
    | .awaited => s.fallBack none plan

/-- Gives up a wait and stops what vibrates, with a note on its call. -/
def cancelVibration (s : Alerter n) : Alerter n :=
  let (s, stopped) := { s with wait := none }.onMotor Motor.cancel
  match stopped with
  | some (some place) => s.note place .stopVibrator none
  | _ => s

end PhoneAudio.Alerter
