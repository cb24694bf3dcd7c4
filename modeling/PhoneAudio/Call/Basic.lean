import PhoneAudio.Call.EventLog
import PhoneAudio.Call.Id
import PhoneAudio.Call.State
import PhoneAudio.Call.Video
import PhoneAudio.Tone

/-!
# Calls

A call is its identity, the attributes that its owner may change, and the log of
what was done about it. What kind of call it is (its traits, its contact, its
ringtone, whether the carrier renders the ring, whether it is an emergency) is
settled when it is made; a revision changes one of the other attributes.
-/

namespace PhoneAudio

/-- A reference to ringing media. -/
structure Ringtone where
  uri : String
deriving DecidableEq

/-- What an app asked for when it placed a call. -/
structure Call.Traits where
  /-- Count the answered call as active at once. -/
  speedUpAnswer : Bool := false
  /-- The app renders its own audio and ring. -/
  selfManaged : Bool := false
  silentRinging : Bool := false
  /-- Something outside the phone renders the ring. -/
  externalRinger : Bool := false
deriving DecidableEq

/-- The attributes of a call. -/
structure Call.Attributes where
  state : Call.State := .created
  voip : Bool := false
  remotelyHeld : Bool := false
  ringback : Bool := false
  contact : Option String := none
  ringtone : Option Ringtone := none
  traits : Call.Traits := {}
  /-- The carrier sends the ring over the voice path. -/
  carrierRing : Bool := false
  /-- The media that a carrier ring was placed with. -/
  ringMedia : Video := .audioOnly
  video : Video := .audioOnly
  emergency : Bool := false
  /-- The call runs on another device. -/
  external : Bool := false
  /-- The conference that the call is a child of. -/
  parent : Option CallId := none
  handover : Bool := false
  disconnectCause : Option NetworkCause := none
  silenced : Bool := false
deriving DecidableEq

/-- A call. Two calls are the same if their identities are. -/
structure Call extends Call.Attributes where
  id : CallId
  log : Call.EventLog
deriving DecidableEq

namespace Call

/-- A change that the owner of a call, or the user, makes to it. -/
inductive Revision where
  | state (state : State)
  | voip (on : Bool)
  | remotelyHeld (on : Bool)
  | ringback (on : Bool)
  | video (video : Video)
  | external (on : Bool)
  | parent (parent : Option CallId)
  | handover (on : Bool)
  | disconnectCause (cause : Option NetworkCause)
  | silence
deriving DecidableEq

def revise (call : Call) : Revision → Call
  | .state state => { call with state := state }
  | .voip on => { call with voip := on }
  | .remotelyHeld on => { call with remotelyHeld := on }
  | .ringback on => { call with ringback := on }
  | .video video => { call with video := video }
  | .external on => { call with external := on }
  | .parent parent => { call with parent := parent }
  | .handover on => { call with handover := on }
  | .disconnectCause cause => { call with disconnectCause := cause }
  | .silence => { call with silenced := true }

def record (call : Call) (event : Event) (detail : Option String) : Call :=
  { call with log := call.log.record ⟨event, detail⟩ }

/-- Conference children and external calls get no audio handling here. -/
def isIgnored (call : Call) : Bool := call.parent.isSome || call.external

/-- The call as a report shows it. -/
def text (call : Call) : String := "TC@" ++ call.id.text ++ " [" ++ call.state.label ++ "]"

@[simp] theorem id_revise (call : Call) (revision : Revision) :
    (call.revise revision).id = call.id := by cases revision <;> rfl

@[simp] theorem log_revise (call : Call) (revision : Revision) :
    (call.revise revision).log = call.log := by cases revision <;> rfl

@[simp] theorem carrierRing_revise (call : Call) (revision : Revision) :
    (call.revise revision).carrierRing = call.carrierRing := by cases revision <;> rfl

@[simp] theorem emergency_revise (call : Call) (revision : Revision) :
    (call.revise revision).emergency = call.emergency := by cases revision <;> rfl

@[simp] theorem attributes_record (call : Call) (event : Event) (detail : Option String) :
    (call.record event detail).toAttributes = call.toAttributes := rfl

@[simp] theorem id_record (call : Call) (event : Event) (detail : Option String) :
    (call.record event detail).id = call.id := rfl

end Call

end PhoneAudio
