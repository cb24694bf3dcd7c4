import Mathlib.Data.List.Induction
import PhoneAudio.Layer.Desk

/-!
# What a mailbox delivers

The messages under way and the list of labels are kept apart and are changed on different
sides. What they hold is known from the row of operations alone: what was *posted*, that is,
sent while both sides were there, less what was received of it. The labels are those of all
that was posted and not received, whatever became of the receiver; the messages under way are
the same as long as there is a receiver to read them (`Accounts`). One operation keeps the
account (`Accounts.perform`), so every row does, and from the account it is read off that
nothing is lost, doubled or put out of order (`Accounts.delivers`).

The two layers behind mailboxes do not touch each other's mailbox, so each of them delivers
by its own operations (`run_delivers_in_order`).
-/

namespace PhoneAudio

namespace Mailbox

variable {α : Type} {label : α → String} {operations : List (Operation α)}
  {received unread : List α} {box : Mailbox α}

/-! ## What was posted -/

/-- The message that an operation sends. -/
def Operation.message? : Operation α → Option α
  | .send message => some message
  | _ => none

def Operation.dropsSender : Operation α → Bool
  | .dropSender => true
  | _ => false

def Operation.dropsReceiver : Operation α → Bool
  | .dropReceiver => true
  | _ => false

/-- Whether an operation takes a side away; what is sent after it is not accepted. -/
def Operation.closes (operation : Operation α) : Bool :=
  operation.dropsSender || operation.dropsReceiver

/-- The messages that were sent while both sides were there, oldest first. -/
def posted (operations : List (Operation α)) : List α :=
  (operations.takeWhile fun operation => !operation.closes).filterMap Operation.message?

/-- One more operation may post one more message, if no side is gone. -/
theorem posted_concat (operations : List (Operation α)) (operation : Operation α) :
    posted (operations ++ [operation]) =
      posted operations ++
        if operations.any Operation.closes then [] else operation.message?.toList := by
  induction operations with
  | nil => cases operation <;> rfl
  | cons first rest ih =>
    unfold posted at ih ⊢
    rw [List.cons_append, List.takeWhile_cons, List.takeWhile_cons, List.any_cons]
    cases first.closes with
    | true => rfl
    | false =>
      simp only [Bool.not_false, if_true, Bool.false_or]
      rw [List.filterMap_cons, List.filterMap_cons]
      cases first.message? with
      | none => exact ih
      | some message => exact congrArg (message :: ·) ih

theorem any_closes (operations : List (Operation α)) :
    operations.any Operation.closes =
      (operations.any Operation.dropsSender || operations.any Operation.dropsReceiver) := by
  induction operations with
  | nil => rfl
  | cons first rest ih =>
    rw [List.any_cons, List.any_cons, List.any_cons, ih, Operation.closes]
    ac_rfl

/-! ## One operation -/

/-- The message that a receiver finds. -/
def Receipt.message? : Receipt α → Option α
  | message found => some found
  | _ => none

theorem hasSender_perform (box : Mailbox α) (operation : Operation α) :
    (box.perform label operation).1.hasSender = (box.hasSender && !operation.dropsSender) := by
  cases operation with
  | send message =>
    show (box.send label message).hasSender = (box.hasSender && true)
    unfold send
    split <;> simp
  | receive =>
    show box.receive.1.hasSender = (box.hasSender && true)
    unfold receive
    split
    · simp
    · split <;> simp
  | dropReceiver => simp [perform, dropReceiver, Operation.dropsSender]
  | dropSender => simp [perform, dropSender, Operation.dropsSender]

theorem hasReceiver_perform (box : Mailbox α) (operation : Operation α) :
    (box.perform label operation).1.hasReceiver =
      (box.hasReceiver && !operation.dropsReceiver) := by
  cases operation with
  | send message =>
    show (box.send label message).hasReceiver = (box.hasReceiver && true)
    unfold send
    split <;> simp
  | receive =>
    show box.receive.1.hasReceiver = (box.hasReceiver && true)
    unfold receive
    split
    · simp
    · split <;> simp
  | dropReceiver => simp [perform, dropReceiver, Operation.dropsReceiver]
  | dropSender => simp [perform, dropSender, Operation.dropsReceiver]

/-- What is under way and what is listed, when of what was posted some messages were received
and the rest was not. -/
structure Holds (label : α → String) (posted received unread : List α) (box : Mailbox α) :
    Prop where
  posted_eq : posted = received ++ unread
  labels : box.labels = unread.map label
  queue : box.hasReceiver = true → box.queue = unread

variable {sent : List α}

/-- A message is sent to both lists, or to neither. -/
theorem Holds.send (h : Holds label sent received unread box) (message : α) :
    ∃ later, Holds label
      (sent ++ if box.hasSender && box.hasReceiver then [message] else []) received later
      (box.send label message) := by
  unfold Mailbox.send
  split
  · refine ⟨unread ++ [message], ?_, ?_, fun hreceiver => ?_⟩
    · rw [h.posted_eq, List.append_assoc]
    · rw [List.map_append, ← h.labels]
      rfl
    · rw [← h.queue hreceiver]
  · refine ⟨unread, ?_, h.labels, h.queue⟩
    rw [List.append_nil]
    exact h.posted_eq

/-- What is received is struck from both lists. -/
theorem Holds.receive (h : Holds label sent received unread box) :
    ∃ later, Holds label sent (received ++ box.receive.2.message?.toList) later
      box.receive.1 := by
  have hnothing : Holds label sent (received ++ []) unread box := by
    rw [List.append_nil]
    exact h
  unfold Mailbox.receive
  split
  · exact ⟨unread, hnothing⟩
  next hthere =>
    have hreceiver : box.hasReceiver = true := by simpa using hthere
    have hqueue := h.queue hreceiver
    split
    next message rest hfirst =>
      rw [hfirst] at hqueue
      refine ⟨rest, ?_, ?_, fun _ => rfl⟩
      · rw [h.posted_eq, ← hqueue, List.append_assoc]
        rfl
      · show box.labels.tail = rest.map label
        rw [h.labels, ← hqueue]
        rfl
    · refine ⟨unread, ?_⟩
      split <;> exact hnothing

theorem Holds.dropReceiver (h : Holds label sent received unread box) :
    Holds label sent received unread box.dropReceiver :=
  ⟨h.posted_eq, h.labels, fun hreceiver => absurd hreceiver (by simp [Mailbox.dropReceiver])⟩

theorem Holds.dropSender (h : Holds label sent received unread box) :
    Holds label sent received unread box.dropSender :=
  ⟨h.posted_eq, h.labels, h.queue⟩

/-! ## Every row of operations -/

/-- A mailbox after a row of operations in which some messages were received. -/
structure Accounts (label : α → String) (operations : List (Operation α)) (received : List α)
    (box : Mailbox α) : Prop where
  sender : box.hasSender = !operations.any Operation.dropsSender
  receiver : box.hasReceiver = !operations.any Operation.dropsReceiver
  holds : ∃ unread, Holds label (posted operations) received unread box

theorem accounts_empty (label : α → String) : Accounts label [] [] {} :=
  ⟨rfl, rfl, [], rfl, rfl, fun _ => rfl⟩

/-- What an operation receives. -/
def received? (label : α → String) (box : Mailbox α) (operation : Operation α) : Option α :=
  (box.perform label operation).2.bind Receipt.message?

theorem Accounts.perform (h : Accounts label operations received box) (operation : Operation α) :
    Accounts label (operations ++ [operation])
      (received ++ (box.received? label operation).toList) (box.perform label operation).1 := by
  obtain ⟨unread, hholds⟩ := h.holds
  have hopen : (!operations.any Operation.closes) = (box.hasSender && box.hasReceiver) := by
    rw [any_closes, Bool.not_or, h.sender, h.receiver]
  refine ⟨?_, ?_, ?_⟩
  · rw [hasSender_perform, h.sender, List.any_append, List.any_cons, List.any_nil, Bool.or_false,
      Bool.not_or]
  · rw [hasReceiver_perform, h.receiver, List.any_append, List.any_cons, List.any_nil,
      Bool.or_false, Bool.not_or]
  · -- only a send posts, and only a receiver's step receives
    have hquiet : operation.message? = none →
        posted (operations ++ [operation]) = posted operations := by
      intro hnone
      rw [posted_concat, hnone, Option.toList_none, ite_self, List.append_nil]
    cases operation with
    | send message =>
      obtain ⟨later, hsent⟩ := hholds.send message
      refine ⟨later, ?_⟩
      rw [← hopen] at hsent
      rw [posted_concat, show (box.received? label (.send message)).toList = [] from rfl,
        List.append_nil]
      cases hclosed : operations.any Operation.closes with
      | true =>
        rw [hclosed] at hsent
        exact hsent
      | false =>
        rw [hclosed] at hsent
        exact hsent
    | receive =>
      rw [hquiet rfl]
      exact hholds.receive
    | dropReceiver =>
      rw [hquiet rfl, show (box.received? label .dropReceiver).toList = [] from rfl,
        List.append_nil]
      exact ⟨unread, hholds.dropReceiver⟩
    | dropSender =>
      rw [hquiet rfl, show (box.received? label .dropSender).toList = [] from rfl,
        List.append_nil]
      exact ⟨unread, hholds.dropSender⟩

/-- A step that may be at some other place leaves the account as it is. -/
theorem Accounts.perform? (h : Accounts label operations received box)
    (operation? : Option (Operation α)) :
    Accounts label (operations ++ operation?.toList)
      (received ++ (operation?.bind (box.received? label)).toList)
      ((operation?.map fun operation => (box.perform label operation).1).getD box) := by
  cases operation? with
  | none =>
    rw [Option.toList_none, List.append_nil, Option.bind_none, Option.toList_none, List.append_nil]
    exact h
  | some operation => exact h.perform operation

/-- A mailbox that loses nothing and doubles nothing, and lists exactly what is unread. -/
structure Delivers (label : α → String) (operations : List (Operation α)) (received : List α)
    (box : Mailbox α) : Prop where
  /-- What was received was posted, and it was received in order and once each. -/
  inOrder : received <+: posted operations
  /-- As long as there is a sender to ask, it sees the labels of what was not received. -/
  pending : box.pending? =
    if operations.any Operation.dropsSender then none
    else some (((posted operations).drop received.length).map label)
  /-- A receiver is given the oldest message that was not received yet, if there is one. -/
  next : box.receive.2 =
    if operations.any Operation.dropsReceiver then .noReceiver
    else
      match (posted operations).drop received.length with
      | message :: _ => .message message
      | [] => if operations.any Operation.dropsSender then .finished else .empty
  /-- Without a receiver nothing changes any more. -/
  late : operations.any Operation.dropsReceiver = true →
    ∀ message, box.send label message = box

theorem Accounts.delivers (h : Accounts label operations received box) :
    Delivers label operations received box := by
  obtain ⟨unread, hposted, hlabels, hqueue⟩ := h.holds
  have hrest : (posted operations).drop received.length = unread := by
    rw [hposted, List.drop_left]
  refine ⟨?_, ?_, ?_, fun hgone message => ?_⟩
  · exact ⟨unread, hposted.symm⟩
  · rw [pending?, h.sender, hrest, ← hlabels]
    cases operations.any Operation.dropsSender <;> rfl
  · rw [hrest]
    have hreceiver := h.receiver
    unfold Mailbox.receive
    cases hgone : operations.any Operation.dropsReceiver with
    | true =>
      rw [hgone] at hreceiver
      rw [hreceiver]
      rfl
    | false =>
      rw [hgone] at hreceiver
      rw [hqueue hreceiver, hreceiver, h.sender]
      cases unread with
      | nil => cases operations.any Operation.dropsSender <;> rfl
      | cons message rest => rfl
  · have hreceiver := h.receiver
    rw [hgone] at hreceiver
    rw [Mailbox.send, hreceiver]
    simp

end Mailbox

/-! ## Both layers -/

namespace Desks

variable {operations : List Operation}

/-- The operation on the mode layer's mailbox. -/
def Operation.mode? : Operation → Option (Mailbox.Operation Mode.Letter)
  | .mode operation => some operation
  | _ => none

/-- The operation on the route layer's mailbox. -/
def Operation.route? : Operation → Option (Mailbox.Operation Route.Request)
  | .route operation => some operation
  | _ => none

/-- The letter that was received. -/
def Found.letter? : Found → Option Mode.Letter
  | .mode receipt => receipt.message?
  | _ => none

/-- The request that was received. -/
def Found.request? : Found → Option Route.Request
  | .route receipt => receipt.message?
  | _ => none

/-- The desks after a row of operations on new ones, with all that was found. -/
def run (operations : List Operation) : Desks × List Found :=
  operations.foldl (fun state operation =>
    ((state.1.perform operation).1, state.2 ++ [(state.1.perform operation).2])) ({}, [])

theorem run_concat (operations : List Operation) (operation : Operation) :
    run (operations ++ [operation]) =
      (((run operations).1.perform operation).1,
        (run operations).2 ++ [((run operations).1.perform operation).2]) := by
  rw [run, List.foldl_append]
  rfl

theorem mode_perform (desks : Desks) (operation : Operation) :
    (desks.perform operation).1.mode =
      (operation.mode?.map fun operation =>
        (desks.mode.perform Mode.Letter.label operation).1).getD desks.mode := by
  cases operation <;> rfl

theorem letter?_perform (desks : Desks) (operation : Operation) :
    (desks.perform operation).2.letter? =
      operation.mode?.bind (desks.mode.received? Mode.Letter.label) := by
  cases operation with
  | mode operation => cases operation <;> rfl
  | route operation => cases operation <;> rfl
  | _ => rfl

theorem mailbox_perform (desks : Desks) (operation : Operation) :
    (desks.perform operation).1.route.mailbox =
      (operation.route?.map fun operation =>
        (desks.route.mailbox.perform Route.Request.label operation).1).getD
          desks.route.mailbox := by
  cases operation <;> rfl

theorem request?_perform (desks : Desks) (operation : Operation) :
    (desks.perform operation).2.request? =
      operation.route?.bind (desks.route.mailbox.received? Route.Request.label) := by
  cases operation with
  | mode operation => cases operation <;> rfl
  | route operation => cases operation <;> rfl
  | _ => rfl

/-- Both mailboxes keep their accounts, each by the operations on it. -/
structure Accounts (operations : List Operation) (found : List Found) (desks : Desks) :
    Prop where
  mode : Mailbox.Accounts Mode.Letter.label (operations.filterMap Operation.mode?)
    (found.filterMap Found.letter?) desks.mode
  route : Mailbox.Accounts Route.Request.label (operations.filterMap Operation.route?)
    (found.filterMap Found.request?) desks.route.mailbox

theorem filterMap_singleton {α β : Type} (f : α → Option β) (a : α) :
    [a].filterMap f = (f a).toList := by
  rw [List.filterMap_cons]
  cases f a <;> rfl

theorem Accounts.perform {found : List Found} {desks : Desks}
    (h : Accounts operations found desks) (operation : Operation) :
    Accounts (operations ++ [operation]) (found ++ [(desks.perform operation).2])
      (desks.perform operation).1 := by
  constructor
  · have hmode := h.mode.perform? operation.mode?
    rw [← mode_perform, ← letter?_perform] at hmode
    rw [List.filterMap_append, List.filterMap_append, filterMap_singleton, filterMap_singleton]
    exact hmode
  · have hroute := h.route.perform? operation.route?
    rw [← mailbox_perform, ← request?_perform] at hroute
    rw [List.filterMap_append, List.filterMap_append, filterMap_singleton, filterMap_singleton]
    exact hroute

theorem accounts_run (operations : List Operation) :
    Accounts operations (run operations).2 (run operations).1 := by
  induction operations using List.reverseRecOn with
  | nil => exact ⟨Mailbox.accounts_empty _, Mailbox.accounts_empty _⟩
  | append_singleton operations operation ih =>
    rw [run_concat]
    exact ih.perform operation

/-- After every row of steps at two new mailboxes, each layer has received a beginning of
what was sent to it while both of its sides were there, in order and once each. What is
pending are the labels of the rest, in order, whether or not the receiver is still there; a
receiver that asks is given the first of the rest; and without a receiver a further message
changes nothing. -/
theorem run_delivers_in_order (operations : List Operation) :
    let desks := (run operations).1
    let found := (run operations).2
    Mailbox.Delivers Mode.Letter.label (operations.filterMap Operation.mode?)
        (found.filterMap Found.letter?) desks.mode ∧
      Mailbox.Delivers Route.Request.label (operations.filterMap Operation.route?)
        (found.filterMap Found.request?) desks.route.mailbox := by
  intro desks found
  have haccounts := accounts_run operations
  exact ⟨haccounts.mode.delivers, haccounts.route.delivers⟩

end Desks

end PhoneAudio
