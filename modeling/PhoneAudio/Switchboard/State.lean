import PhoneAudio.Alerter.Operation
import PhoneAudio.Layer.Desk
import PhoneAudio.Roster.Basic

/-!
# The switchboard

The switchboard knows which calls are tracked, in which group each of them is and
which one is in front, and owns the alerter. It tells the mode layer and the
route layer what changes. Everything it does to the outside is kept in order,
with what the alerter does among it.
-/

namespace PhoneAudio

/-- What the switchboard does to the outside, in the order in which it does it. -/
inductive Switchboard.Effect (n : Nat) where
  | alerter (command : Alerter.Command n)
  | mode (message : Mode.Message) (snapshot : Mode.Snapshot)
  | route (request : Route.Request)
  /-- Another call is in front. -/
  | frontChanged (old new : Option CallId)
  /-- Whether the user is in a call. -/
  | presence (inCall : Bool)
  | startRingback (call : Fin n)
  | stopRingback (call : Fin n)
  | disconnectTone (playing : Bool)
deriving DecidableEq

/-- What the switchboard asks about and does not decide. -/
structure Registry where
  /-- Some call rings, be it tracked or not. -/
  hasRingingCall : Bool := false
  wiredOrBluetooth : Bool := false
  /-- The directions of video for which the speaker comes on by itself. -/
  autoSpeaker : Video → Bool := fun _ => false
  /-- The answers of a route layer that is not behind a mailbox. -/
  handsFree : Bool := false
  report : Route.Report := {}

/-- The switchboard, with the alerter and the calls it works on. -/
structure Switchboard (n : Nat) where
  alerter : Alerter n
  registry : Registry := {}
  /-- The mailboxes of the two layers, if they are behind mailboxes. -/
  desks : Option Desks := none
  roster : Roster (Fin n) := {}
  /-- The tracked calls, in the order in which they were added. -/
  tracked : List (Fin n) := []
  front : Option (Fin n) := none
  tonePlaying : Bool := false
  disconnectTonePlaying : Bool := false
  /-- The player of the hold tone, while it plays. -/
  holdTone : Option Nat := none
  /-- A carrier ring is on. -/
  carrierMode : Bool := false
  /-- The media that the carrier ring was placed with. -/
  carrierMedia : Option Video := none
  sent : List (Switchboard.Effect n) := []

namespace Switchboard

variable {n : Nat}

/-- A switchboard that tracks no call, with a quiet alerter. -/
def idle (calls : CallTable n) (profile : DeviceProfile) (settings : Settings)
    (surroundings : Surroundings) (timed : Bool) (registry : Registry) (desks : Option Desks) :
    Switchboard n :=
  { alerter := .idle calls profile settings surroundings timed, registry, desks }

def call (s : Switchboard n) (place : Fin n) : Call := s.alerter.call place

def ident (s : Switchboard n) (place : Fin n) : CallId := (s.call place).id

def isTracked (s : Switchboard n) (id : CallId) : Bool :=
  s.tracked.any fun place => s.ident place == id

def inEmergency (s : Switchboard n) : Bool :=
  s.tracked.any fun place => (s.call place).emergency

/-- Whether a call is the one in front. -/
def isFront (s : Switchboard n) (place : Fin n) : Bool :=
  match s.front with
  | none => false
  | some front => s.ident front == s.ident place

/-- The call in front, unless it is on hold. -/
def unheldFront (s : Switchboard n) : Option (Fin n) :=
  s.front.filter fun place => (s.call place).state ≠ .onHold

/-- What the route layer last reported. -/
def report (s : Switchboard n) : Route.Report :=
  match s.desks with
  | none => s.registry.report
  | some desks => desks.route.report

/-- Whether a hands-free device is there. -/
def handsFree (s : Switchboard n) : Bool :=
  match s.desks with
  | none => s.registry.handsFree
  | some desks => desks.route.handsFree

/-! ## Sending -/

def send (s : Switchboard n) (effect : Effect n) : Switchboard n :=
  { s with sent := s.sent ++ [effect] }

/-- Lets the alerter work; what it does is passed on. -/
def onAlerter {β : Type} (s : Switchboard n) (act : Alerter n → Alerter n × β) :
    Switchboard n × β :=
  let (alerter, result) := act { s.alerter with sent := [] }
  ({ s with
      alerter := { alerter with sent := [] }
      sent := s.sent ++ alerter.sent.map .alerter }, result)

/-- Lets the alerter work without an answer. -/
def tellAlerter (s : Switchboard n) (act : Alerter n → Alerter n) : Switchboard n :=
  (s.onAlerter fun alerter => (act alerter, ())).1

/-- The situation as the mode layer sees it. -/
def snapshot (s : Switchboard n) : Mode.Snapshot :=
  { active := s.roster.isOccupied .active
    ringing := s.roster.isOccupied .ringing
    holding := s.roster.isOccupied .holding
    processing := s.roster.isOccupied .processing
    tonePlaying := s.tonePlaying
    voip := s.front.any fun place => (s.call place).voip
    carrierRing := s.carrierMode }

/-- Sends a mode message with the situation as it is. -/
def sendMode (s : Switchboard n) (message : Mode.Message) : Switchboard n :=
  let desks := s.desks.map (·.sendMode (message, s.snapshot))
  { s with desks := desks }.send (.mode message s.snapshot)

def sendRoute (s : Switchboard n) (request : Route.Request) : Switchboard n :=
  let desks := s.desks.map (·.sendRoute request)
  { s with desks := desks }.send (.route request)

end Switchboard

end PhoneAudio
