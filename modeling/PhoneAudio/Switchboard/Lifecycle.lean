import PhoneAudio.Switchboard.Control

/-!
# The life of a call

What the owner of a call tells about it: that it came, changed its state, went to
another device or into a conference, was answered or rejected, and that it ended.
Each accepted word changes the roster first, then tells what follows from it, and
last of all brings the hold tone up to date.
-/

namespace PhoneAudio.Switchboard

variable {n : Nat}

/-- No carrier ring is on any more. The speaker that an audio call was put on goes
back to the ear. -/
def endCarrierMode (s : Switchboard n) : Switchboard n :=
  let s := { s with carrierMode := false }
  let s :=
    if s.carrierMedia = some .audioOnly && !s.registry.wiredOrBluetooth then
      s.setRoute .earpiece none
    else s
  { s with carrierMedia := none }

/-- A call begins to ring. Without a device of its own a carrier ring goes to the
speaker. -/
def enterRinging (s : Switchboard n) (place : Fin n) : Switchboard n :=
  let s := { s with
    carrierMode := (s.call place).carrierRing
    carrierMedia := some (s.call place).ringMedia }
  if s.carrierMode && !s.registry.wiredOrBluetooth then s.setRoute .speaker none else s

/-- What follows from a call entering a state. -/
def enter (s : Switchboard n) (place : Fin n) (state : Call.State) : Switchboard n :=
  match state with
  | .ringing => s.enterRinging place
  | .simulatedRinging => s.enterRinging place
  | .dialing =>
    if (s.call place).ringback && s.isFront place then s.send (.startRingback place) else s
  | _ => s

/-- What follows from a call leaving a state. -/
def leave (s : Switchboard n) (place : Fin n) (state : Call.State) : Switchboard n :=
  if state = .dialing then s.send (.stopRingback place) else s

/-- Puts a call into the group of a state, if it has one. -/
def seat (s : Switchboard n) (place : Fin n) (state : Call.State) : Switchboard n :=
  match Group.ofState? state (s.call place).traits.speedUpAnswer with
  | some group => { s with roster := s.roster.insert s.ident group place }
  | none => s

/-- Tracks a call, unless one of its identity is tracked. -/
def track (s : Switchboard n) (place : Fin n) : Switchboard n :=
  if s.isTracked (s.ident place) then s
  else
    let before := s.roster.headcount
    let state := (s.call place).state
    let s := (s.seat place state).updateFront
    -- an emergency call counts from here on
    let s := { s with tracked := s.tracked ++ [place] }.updatePresence
    ((s.enter place state).tellCrossings before).adjustHoldTone

/-- Stops tracking the calls of an identity. -/
def untrack (s : Switchboard n) (place : Fin n) : Switchboard n :=
  let id := s.ident place
  if s.isTracked id then
    let before := s.roster.headcount
    let state := (s.call place).state
    let s := { s with roster := s.roster.erase s.ident id }.updateFront
    let s := { s with
      tracked := s.tracked.filter fun other => s.ident other != id }.updatePresence
    ((s.leave place state).tellCrossings before).adjustHoldTone
  else s

def added (s : Switchboard n) (place : Fin n) : Switchboard n :=
  if (s.call place).isIgnored then s else s.track place

def removed (s : Switchboard n) (place : Fin n) : Switchboard n :=
  if (s.call place).isIgnored then s else s.untrack place

/-! ## Tones at the beginning and the end -/

/-- An established call, or one on its way, that ends. -/
def isDisconnect (old new : Call.State) : Bool :=
  new = .disconnected && (old = .active || old = .dialing || old = .onHold)

/-- The tone that tells why a call ended. A call that is handed over has none, and
neither has one in the background of another. -/
def disconnectTone? (s : Switchboard n) (place : Fin n) : Option Tone :=
  if (s.call place).handover then none
  else if s.front.any (fun front => s.ident front != s.ident place) && 1 < s.tracked.length then
    none
  else (s.call place).disconnectCause.bind NetworkCause.tone?

/-- Plays a disconnect tone, and tells if it started. -/
def playDisconnectTone (s : Switchboard n) (tone : Tone) : Switchboard n :=
  let s := s.tellAlerter fun alerter => (alerter.startTone tone).1
  if s.alerter.surroundings.tonesStart then
    { s with disconnectTonePlaying := true }.send (.disconnectTone true)
  else s

/-- Plays a tone of a single beep or so, with no more thought about it. -/
def playTone (s : Switchboard n) (tone : Tone) : Switchboard n :=
  s.tellAlerter fun alerter => (alerter.startTone tone).1

/-- The tones that go with a change of state. -/
def playChangeTones (s : Switchboard n) (place : Fin n) (old new : Call.State) :
    Switchboard n :=
  let s :=
    if isDisconnect old new then
      match s.disconnectTone? place with
      | some tone => s.playDisconnectTone tone
      | none => s
    else s
  if old = .dialing && new = .active && s.alerter.settings.connectedTone = some true then
    s.playTone .connected
  else s

/-! ## Changes of a tracked call -/

/-- A call went from one state to another, which it already shows. -/
def stateChanged (s : Switchboard n) (place : Fin n) (old new : Call.State) : Switchboard n :=
  if (s.call place).isIgnored || !s.isTracked (s.ident place) then s
  else
    let before := s.roster.headcount
    -- a call that stays in its group goes to the end of it
    let s := { s with roster := s.roster.erase s.ident (s.ident place) }.seat place new
    let s := s.updatePresence.updateFront.playChangeTones place old new
    -- a call that moves to a simulated ring enters the carrier mode again below
    let s := if s.carrierMode && new ≠ .ringing then s.endCarrierMode else s
    (((s.leave place old).enter place new).tellCrossings before).adjustHoldTone

/-- A call went to another device, or was pulled back from there. -/
def externalChanged (s : Switchboard n) (place : Fin n) (external : Bool) : Switchboard n :=
  if external then s.untrack place
  else
    let s := s.track place
    if s.registry.autoSpeaker (s.call place).video then s.autoSpeaker else s

/-- A call joined a conference or left one. -/
def conferenceChanged (s : Switchboard n) (place : Fin n) : Switchboard n :=
  if (s.call place).parent.isNone then s.added place else s.untrack place

/-- Falls quiet if no call but the given one is in the ringing group. The change of
its state is yet to come, so it may still be there itself. -/
def quietUnlessOthersRing (s : Switchboard n) (place : Fin n) : Switchboard n :=
  match s.roster.ringing with
  | [] => s.fallQuiet
  | [only] => if s.ident only = s.ident place then s.fallQuiet else s
  | _ => s

def answered (s : Switchboard n) (place : Fin n) : Switchboard n :=
  if s.isTracked (s.ident place) then
    (if (s.call place).handover then s else s.mute false).quietUnlessOthersRing place
  else s

def rejected (s : Switchboard n) (place : Fin n) : Switchboard n :=
  s.quietUnlessOthersRing place

/-- The remote side of the call in front asks for another video. -/
def videoRequested (s : Switchboard n) (place : Fin n) (video : Video) : Switchboard n :=
  if s.isFront place && !(s.call place).video.isReceived && video.isReceived then
    s.playTone .videoUpgrade
  else s

def voipChanged (s : Switchboard n) (place : Fin n) : Switchboard n :=
  if s.isFront place then s.sendMode .voipChanged else s

/-- Ringback is played for the call in front and stopped for any other. -/
def ringbackRequested (s : Switchboard n) (place : Fin n) (on : Bool) : Switchboard n :=
  s.send (if on && s.isFront place then .startRingback place else .stopRingback place)

/-- The call in front began or changed its video. -/
def videoChanged (s : Switchboard n) (place : Fin n) (old new : Video) : Switchboard n :=
  if s.unheldFront.any (fun front => s.ident front == s.ident place) && !old.isVideo &&
      s.registry.autoSpeaker new then
    s.autoSpeaker
  else s

end PhoneAudio.Switchboard
