import PhoneAudio.Switchboard.Front

/-!
# Mute and route control

Requests to the route layer. During an emergency call the user is not muted and
the audio stays off every device that might not be at the ear.
-/

namespace PhoneAudio.Switchboard

variable {n : Nat}

/-- Mutes or unmutes; during an emergency call muting turns into unmuting. -/
def mute (s : Switchboard n) (on : Bool) : Switchboard n :=
  s.sendRoute (if on && !s.inEmergency then .muteOn else .muteOff)

def toggleMute (s : Switchboard n) : Switchboard n :=
  if s.inEmergency then s else s.sendRoute .toggleMute

/-- Switches to the speaker on the switchboard's own account. -/
def autoSpeaker (s : Switchboard n) : Switchboard n :=
  if s.inEmergency then s else s.sendRoute .autoSpeaker

/-- The request for a route. Only the routes at the ear are open in an emergency. -/
def requestFor? (emergency : Bool) (route : Route) (address : Option String) :
    Option Route.Request :=
  match route with
  | .bluetooth => if emergency then none else some (.bluetooth address)
  | .speaker => if emergency then none else some .speaker
  | .wiredHeadset => if emergency then none else some .headset
  | .earpiece => some .earpiece
  | .wiredOrEarpiece => some (.baseline false)

/-- Switches the route, unless an emergency call rules it out. -/
def setRoute (s : Switchboard n) (route : Route) (address : Option String) : Switchboard n :=
  match requestFor? s.inEmergency route address with
  | some request => s.sendRoute request
  | none => s

/-- Switches to the route with a number; an unknown number is ignored. -/
def setRouteNumber (s : Switchboard n) (value : Int) (address : Option String) :
    Switchboard n :=
  match Route.ofNumber? value with
  | .ok route => s.setRoute route address
  | .error _ => s

/-- Switches to the baseline route; in an emergency it leaves bluetooth out. -/
def switchBaseline (s : Switchboard n) : Switchboard n :=
  s.sendRoute (.baseline (!s.inEmergency))

def setFocus (s : Switchboard n) (focus : Focus) : Switchboard n := s.sendRoute (.focus focus)

/-- A tone in the call starts or stops; the end of a disconnect tone is told. -/
def setTonePlaying (s : Switchboard n) (on : Bool) : Switchboard n :=
  let s := { s with tonePlaying := on }.sendMode (if on then .toneStarted else .toneStopped)
  if !on && s.disconnectTonePlaying then
    { s with disconnectTonePlaying := false }.send (.disconnectTone false)
  else s

/-! ## The alerter -/

/-- Rings for the call in front, by the carrier's ring if one is on. -/
def startRinging (s : Switchboard n) : Switchboard n × Bool :=
  let handsFree := s.handsFree
  let front := s.front
  if s.carrierMode then s.onAlerter (·.startCarrierRing front handsFree)
  else s.onAlerter (·.startRinging front handsFree)

/-- Plays the waiting tone for the only call that rings. -/
def startWaiting (s : Switchboard n) (reason : Option String) : Switchboard n :=
  match s.roster.ringing with
  | [place] => s.tellAlerter (·.startWaiting place reason)
  | _ => s

/-- Stops the ring and the waiting tone. -/
def fallQuiet (s : Switchboard n) : Switchboard n :=
  (s.tellAlerter Alerter.stopRinging).tellAlerter Alerter.stopWaiting

/-- Silences every ringing call and falls quiet. -/
def silenceRingers (s : Switchboard n) : Switchboard n :=
  let s := s.roster.ringing.foldl (fun s place =>
    s.tellAlerter fun alerter => (alerter.perform (.revise place .silence)).1) s
  let s :=
    if s.carrierMode && s.roster.ringing.length == 1 then s.sendMode .carrierRingSilenced else s
  s.fallQuiet

end PhoneAudio.Switchboard
