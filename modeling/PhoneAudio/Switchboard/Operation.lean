import PhoneAudio.Switchboard.Lifecycle

/-!
# Operations of the switchboard

All that can happen to a switchboard: words from the owners of the calls, requests
of the user, words from the mode layer, everything that can happen to its
alerter, and changes of the surroundings.
-/

namespace PhoneAudio.Switchboard

variable {n : Nat}

/-- What can happen to a switchboard. -/
inductive Operation (n : Nat) where
  | added (call : Fin n)
  | removed (call : Fin n)
  /-- A call moves to a state, and the switchboard is told at once. -/
  | moved (call : Fin n) (state : Call.State)
  /-- The switchboard is told of a change of state. -/
  | stateChanged (call : Fin n) (old new : Call.State)
  | externalChanged (call : Fin n) (external : Bool)
  | conferenceChanged (call : Fin n)
  | answered (call : Fin n)
  | rejected (call : Fin n)
  | videoRequested (call : Fin n) (video : Video)
  | holdToneRequested (call : Fin n)
  | voipChanged (call : Fin n)
  | ringbackRequested (call : Fin n) (on : Bool)
  | connectionChanged (call : Fin n)
  | videoChanged (call : Fin n) (old new : Video)
  | mute (on : Bool)
  | toggleMute
  | setRoute (route : Route) (address : Option String)
  | setRouteNumber (value : Int) (address : Option String)
  | switchBaseline
  | setFocus (focus : Focus)
  | ringerModeChanged
  | operationsComplete
  | setTonePlaying (on : Bool)
  | startRinging
  | stopRinging
  | startWaiting (reason : Option String)
  | stopWaiting
  | silenceRingers
  /-- Anything that can happen to the alerter. -/
  | alerter (operation : Alerter.Operation n)
  /-- The registry changes without a word. -/
  | registry (registry : Registry)
  /-- A step at the mailboxes of the layers, if there are any. -/
  | desks (operation : Desks.Operation)

/-- What an operation answers, if anything. -/
inductive Answer where
  | nothing
  | flag (value : Bool)
  | found (found : Desks.Found)

/-- A step at the mailboxes; without mailboxes there is nothing to do. -/
def atDesks (s : Switchboard n) (operation : Desks.Operation) : Switchboard n × Answer :=
  match s.desks with
  | none => (s, .nothing)
  | some desks =>
    let (desks, found) := desks.perform operation
    ({ s with desks := some desks }, .found found)

/-- The next state, and the answer. -/
def perform (s : Switchboard n) : Operation n → Switchboard n × Answer
  | .added place => (s.added place, .nothing)
  | .removed place => (s.removed place, .nothing)
  | .moved place state =>
    let old := (s.call place).state
    let s := s.tellAlerter fun alerter => (alerter.perform (.revise place (.state state))).1
    (s.stateChanged place old state, .nothing)
  | .stateChanged place old new => (s.stateChanged place old new, .nothing)
  | .externalChanged place external => (s.externalChanged place external, .nothing)
  | .conferenceChanged place => (s.conferenceChanged place, .nothing)
  | .answered place => (s.answered place, .nothing)
  | .rejected place => (s.rejected place, .nothing)
  | .videoRequested place video => (s.videoRequested place video, .nothing)
  | .holdToneRequested _ => (s.adjustHoldTone, .nothing)
  | .voipChanged place => (s.voipChanged place, .nothing)
  | .ringbackRequested place on => (s.ringbackRequested place on, .nothing)
  | .connectionChanged _ => (s.sendRoute .update, .nothing)
  | .videoChanged place old new => (s.videoChanged place old new, .nothing)
  | .mute on => (s.mute on, .nothing)
  | .toggleMute => (s.toggleMute, .nothing)
  | .setRoute route address => (s.setRoute route address, .nothing)
  | .setRouteNumber value address => (s.setRouteNumber value address, .nothing)
  | .switchBaseline => (s.switchBaseline, .nothing)
  | .setFocus focus => (s.setFocus focus, .nothing)
  | .ringerModeChanged => (s.sendMode .ringerModeChanged, .nothing)
  | .operationsComplete => (s.sendMode .operationsComplete, .nothing)
  | .setTonePlaying on => (s.setTonePlaying on, .nothing)
  | .startRinging => s.startRinging.map id .flag
  | .stopRinging => (s.tellAlerter Alerter.stopRinging, .nothing)
  | .startWaiting reason => (s.startWaiting reason, .nothing)
  | .stopWaiting => (s.tellAlerter Alerter.stopWaiting, .nothing)
  | .silenceRingers => (s.silenceRingers, .nothing)
  | .alerter operation =>
    (s.onAlerter (·.perform operation)).map id fun answer => answer.elim .nothing .flag
  | .registry registry => ({ s with registry := registry }, .nothing)
  | .desks operation => s.atDesks operation

/-- The state after a run of operations. -/
def run (s : Switchboard n) (operations : List (Operation n)) : Switchboard n :=
  operations.foldl (fun s operation => (s.perform operation).1) s

end PhoneAudio.Switchboard
