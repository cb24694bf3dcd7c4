import PhoneAudio.Layer.Mailbox
import PhoneAudio.Layer.Mode
import PhoneAudio.Layer.Route

/-!
# Layers behind mailboxes

A host may let the mode layer and the route layer read their messages from
mailboxes. The route layer's desk also keeps what that layer reports back: the
state of the route and whether a hands-free device is there.
-/

namespace PhoneAudio

/-- A route layer behind a mailbox, with what it last reported. -/
structure RouteDesk where
  mailbox : Mailbox Route.Request := {}
  report : Route.Report := {}
  handsFree : Bool := false
deriving DecidableEq

/-- A mode message with its snapshot. -/
abbrev Mode.Letter := Mode.Message × Mode.Snapshot

/-- A letter is listed by its message alone. -/
def Mode.Letter.label (letter : Mode.Letter) : String := letter.1.name

/-- Both layers behind mailboxes. -/
structure Desks where
  mode : Mailbox Mode.Letter := {}
  route : RouteDesk := {}
deriving DecidableEq

namespace Desks

def sendMode (desks : Desks) (letter : Mode.Letter) : Desks :=
  { desks with mode := desks.mode.send Mode.Letter.label letter }

def sendRoute (desks : Desks) (request : Route.Request) : Desks :=
  let mailbox := desks.route.mailbox.send Route.Request.label request
  { desks with route := { desks.route with mailbox := mailbox } }

/-- What can be done with the two layers. -/
inductive Operation where
  | mode (operation : Mailbox.Operation Mode.Letter)
  | route (operation : Mailbox.Operation Route.Request)
  | report (report : Route.Report)
  | handsFree (on : Bool)

/-- What a step on the layers finds, if it is a receiver's step. -/
inductive Found where
  | nothing
  | mode (receipt : Mailbox.Receipt Mode.Letter)
  | route (receipt : Mailbox.Receipt Route.Request)

def perform (desks : Desks) : Operation → Desks × Found
  | .mode operation =>
    let (mode, receipt) := desks.mode.perform Mode.Letter.label operation
    ({ desks with mode := mode }, receipt.elim .nothing .mode)
  | .route operation =>
    let (mailbox, receipt) := desks.route.mailbox.perform Route.Request.label operation
    ({ desks with route := { desks.route with mailbox := mailbox } },
      receipt.elim .nothing .route)
  | .report report => ({ desks with route := { desks.route with report := report } }, .nothing)
  | .handsFree on => ({ desks with route := { desks.route with handsFree := on } }, .nothing)

def modePending? (desks : Desks) : Option (List String) := desks.mode.pending?

def routePending? (desks : Desks) : Option (List String) := desks.route.mailbox.pending?

end Desks

end PhoneAudio
