import PhoneAudio.Switchboard.State

/-!
# The call in front

When the roster changes, the call in front is chosen again, the user's presence
is told, and the hold tone starts or stops. The hold tone plays while the remote
party holds the active call in front and no call rings.
-/

namespace PhoneAudio.Switchboard

variable {n : Nat}

/-- Whether the hold tone has a reason to play. -/
def holdToneDue (s : Switchboard n) : Bool :=
  match s.unheldFront with
  | none => false
  | some place =>
    !s.roster.isOccupied .ringing && !s.registry.hasRingingCall &&
      (s.call place).state.isActive && (s.call place).remotelyHeld

/-- Starts or stops the hold tone as it is due. -/
def adjustHoldTone (s : Switchboard n) : Switchboard n :=
  match s.holdToneDue, s.holdTone with
  | true, none =>
    let (s, player) := s.onAlerter (·.startTone .hold)
    { s with holdTone := some player }
  | false, some player =>
    { s with holdTone := none }.tellAlerter (·.stopTone .hold player)
  | _, _ => s

/-- Chooses the call in front again and tells others if it is another one. -/
def updateFront (s : Switchboard n) : Switchboard n :=
  let old := s.front.map s.ident
  let front := s.roster.front? fun place => (s.call place).state
  let new := front.map s.ident
  let s := { s with front := front }
  if old = new then s
  else ((s.sendRoute .update).send (.frontChanged old new)).adjustHoldTone

/-- The user is in a call if some tracked call is not merely being processed. -/
def isInCall (s : Switchboard n) : Bool :=
  !s.tracked.all fun place => s.roster.has s.ident .processing (s.ident place)

def updatePresence (s : Switchboard n) : Switchboard n := s.send (.presence s.isInCall)

/-- Tells the mode layer which groups filled or emptied since a headcount. -/
def tellCrossings (s : Switchboard n) (before : Headcount) : Switchboard n :=
  (Crossing.between before s.roster.headcount).foldl
    (fun s crossing => s.sendMode (.crossing crossing)) s

end PhoneAudio.Switchboard
