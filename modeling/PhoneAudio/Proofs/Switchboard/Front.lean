import PhoneAudio.Proofs.Switchboard.Course

/-!
# The call in front

Which call is in front is chosen by the roster and by the states of the active calls,
and remembered. The choice is made again by every word that is taken in, at a moment
when the roster has its new shape already, so after such a word the call in front is
*current* whatever it was before (`Takes.current`). Between two words the roster is the
same, and the choice can only grow stale if a tracked call changes its state. A run in
which such a change is told at once is *prompt*, and in a prompt run the call in front
is current after every operation but the bare change itself (`current_run`).

Whether prompt or not, every run tells of each change of the call in front exactly once,
with the identity that it told last and with the new one (`Passes`).
-/

namespace PhoneAudio

/-- Steps that lead from the first thing to the last: each begins where the one before
it ended, and none stays where it is. -/
def Leads {α : Type} : α → List (α × α) → α → Prop
  | first, [], last => first = last
  | first, (old, new) :: rest, last => old = first ∧ old ≠ new ∧ Leads new rest last

theorem Leads.concat {α : Type} {first last next : α} {steps : List (α × α)}
    (h : Leads first steps last) (hne : last ≠ next) :
    Leads first (steps ++ [(last, next)]) next := by
  induction steps generalizing first with
  | nil => exact ⟨h.symm, hne, rfl⟩
  | cons step rest ih =>
    obtain ⟨hold, hmoves, hrest⟩ := h
    exact ⟨hold, hmoves, ih hrest⟩

namespace Switchboard

variable {n : Nat}

/-! ## The choice -/

/-- The call in front by the roster and the states of the calls. -/
def chosen (s : Switchboard n) : Option (Fin n) :=
  s.roster.front? fun place => (s.call place).state

/-- The last active call that is connecting, or else the oldest active one, or else the
oldest one that rings, or else the oldest one on hold. -/
theorem front?_eq (state : Fin n → Call.State) (roster : Roster (Fin n)) :
    roster.front? state =
      ((roster.active.filter fun place => state place = .connecting).getLast?).or
        (roster.active.head?.or (roster.ringing.head?.or roster.holding.head?)) := by
  unfold Roster.front?
  cases roster.active with
  | nil => rfl
  | cons oldest others =>
    have hlast : ((oldest :: others).filter fun place => state place = .connecting).getLast? =
        (oldest :: others).reverse.find? fun place => state place = .connecting := by
      rw [← List.head?_reverse, ← List.filter_reverse, List.head?_filter]
    rw [hlast]
    rfl

/-- The choice looks at the states of the active calls alone. -/
theorem front?_congr {state state' : Fin n → Call.State} {roster : Roster (Fin n)}
    (h : ∀ place ∈ roster.active, state place = state' place) :
    roster.front? state = roster.front? state' := by
  rw [front?_eq, front?_eq]
  congr 2
  apply List.filter_congr
  intro place hmem
  rw [h place hmem]

/-- A call that is merely processed is never in front. -/
theorem mem_of_front? {state : Fin n → Call.State} {roster : Roster (Fin n)} {place : Fin n}
    (h : roster.front? state = some place) :
    ∃ group, group ≠ .processing ∧ place ∈ roster.get group := by
  rw [front?_eq, Option.or_eq_some_iff, Option.or_eq_some_iff, Option.or_eq_some_iff] at h
  rcases h with hlast | ⟨-, hactive | ⟨-, hringing | ⟨-, hholding⟩⟩⟩
  · exact ⟨.active, by decide, List.mem_of_mem_filter (List.mem_of_getLast? hlast)⟩
  · exact ⟨.active, by decide, List.mem_of_mem_head? hactive⟩
  · exact ⟨.ringing, by decide, List.mem_of_mem_head? hringing⟩
  · exact ⟨.holding, by decide, List.mem_of_mem_head? hholding⟩

/-- No call is in front exactly if none could be. -/
theorem front?_eq_none_iff {state : Fin n → Call.State} {roster : Roster (Fin n)} :
    roster.front? state = none ↔ ∀ group, group ≠ .processing → roster.get group = [] := by
  rw [front?_eq]
  simp only [Option.or_eq_none_iff, List.head?_eq_none_iff, List.getLast?_eq_none_iff]
  constructor
  · rintro ⟨-, hactive, hringing, hholding⟩ group hgroup
    cases group with
    | active => exact hactive
    | ringing => exact hringing
    | holding => exact hholding
    | processing => exact absurd rfl hgroup
  · intro hempty
    have hactive : roster.active = [] := hempty .active (by decide)
    refine ⟨?_, hactive, hempty .ringing (by decide), hempty .holding (by decide)⟩
    rw [hactive, List.filter_nil]

variable {s t u : Switchboard n} {parts : List Part}

theorem chosen_congr (hroster : t.roster = s.roster)
    (hattributes : t.alerter.attributes = s.alerter.attributes) : t.chosen = s.chosen := by
  have hstate : ∀ place, (t.call place).state = (s.call place).state :=
    fun place => congrArg Call.Attributes.state (congrFun hattributes place)
  simp only [chosen, hroster, hstate]

/-- The call in front is the one that would be chosen now. -/
def Current (s : Switchboard n) : Prop := s.front = s.chosen

theorem Still.current (h : Still s t) (hs : s.Current) : t.Current := by
  rw [Current, h.front, chosen_congr h.roster h.attributes]
  exact hs

/-- The call in front is chosen from the roster and the states as they are. -/
theorem front_updateFront (s : Switchboard n) : s.updateFront.front = s.chosen := by
  unfold updateFront
  dsimp only
  split
  · rfl
  · exact (touches_adjustHoldTone _).keeps .front (by decide)

theorem current_updateFront (s : Switchboard n) : s.updateFront.Current := by
  have htouch := touches_updateFront s
  have hchosen : s.updateFront.chosen = s.chosen :=
    chosen_congr (htouch.keeps .roster (by decide)) (htouch.keeps .attributes (by decide))
  rw [Current, hchosen]
  exact front_updateFront s

theorem Current.adjustHoldTone (hs : s.Current) : s.adjustHoldTone.Current := by
  have htouch := touches_adjustHoldTone s
  have hfront : s.adjustHoldTone.front = s.front := htouch.keeps .front (by decide)
  rw [Current, hfront,
    chosen_congr (htouch.keeps .roster (by decide)) (htouch.keeps .attributes (by decide))]
  exact hs

/-- After a word that is taken in the call in front is current, whatever it was before. -/
theorem Takes.current (h : Takes s u) : u.Current := by
  obtain ⟨r, t, -, ht, hu⟩ := h
  exact hu.current (ht.current (current_updateFront r)).adjustHoldTone

/-! ## Prompt runs -/

/-- Whether an operation is a word about a change of a call's state that is taken in. -/
def hears (s : Switchboard n) (place : Fin n) : Operation n → Bool
  | .moved other state => other = place && s.accepts (.moved other state)
  | .stateChanged other old new => other = place && s.accepts (.stateChanged other old new)
  | _ => false

/-- Whether an operation changes the state of a tracked call. -/
def shifts (s : Switchboard n) (operation : Operation n) (place : Fin n) : Bool :=
  s.isTracked (s.ident place) && ((s.perform operation).1.call place).state ≠ (s.call place).state

/-- A run in which the state of a tracked call changes only by a word that tells of it,
or right before one. -/
def Prompt (s : Switchboard n) : List (Operation n) → Prop
  | [] => True
  | operation :: rest =>
    let t := (s.perform operation).1
    (∀ place, s.shifts operation place = true →
      (s.hears place operation || rest.head?.any (t.hears place)) = true) ∧ t.Prompt rest

instance decidablePrompt (s : Switchboard n) (operations : List (Operation n)) :
    Decidable (s.Prompt operations) :=
  match operations with
  | [] => isTrue trivial
  | operation :: rest =>
    have := decidablePrompt (s.perform operation).1 rest
    inferInstanceAs (Decidable (_ ∧ _))

theorem accepts_of_hears {place : Fin n} {operation : Operation n}
    (h : s.hears place operation = true) : s.accepts operation = true := by
  cases operation with
  | moved other state => exact (Bool.and_eq_true_iff.mp h).2
  | stateChanged other old new => exact (Bool.and_eq_true_iff.mp h).2
  | _ => cases h

/-- The beginnings of a prompt run are prompt, unless the last operation is a change that
is still to be told. -/
theorem Prompt.beginning {before after : List (Operation n)} {operation : Operation n}
    (h : s.Prompt (before ++ operation :: after))
    (htold : ∀ place, (s.run before).shifts operation place = true →
      (s.run before).hears place operation = true) : s.Prompt (before ++ [operation]) := by
  induction before generalizing s with
  | nil =>
    refine ⟨fun place hshifts => ?_, trivial⟩
    have hheard : s.hears place operation = true := htold place hshifts
    rw [hheard]
    rfl
  | cons first rest ih =>
    obtain ⟨hfirst, hrest⟩ := h
    refine ⟨fun place hshifts => ?_, ih hrest htold⟩
    have hheard := hfirst place hshifts
    cases rest <;> exact hheard

/-- What stands in the roster is tracked. -/
theorem Refines.isTracked_of_mem {ledger : Ledger} (h : s.Refines ledger) (group : Group)
    {place : Fin n} (hmem : place ∈ s.roster.get group) : s.isTracked (s.ident place) = true := by
  rw [h.isTracked_iff, ledger.mem_arrivals]
  apply Ledger.members_subset ledger.entries group
  rw [← h.roster group]
  exact List.mem_map_of_mem hmem

/-- What is not taken in leaves the call in front and the roster alone. -/
theorem perform_of_refused {operation : Operation n} (h : s.accepts operation = false) :
    (s.perform operation).1.front = s.front ∧ (s.perform operation).1.roster = s.roster := by
  cases course_perform s operation with
  | taken haccepts _ =>
    rw [h] at haccepts
    cases haccepts
  | hold place hoperation hu =>
    rw [hu]
    have htouch := touches_adjustHoldTone s
    exact ⟨htouch.keeps .front (by decide), htouch.keeps .roster (by decide)⟩
  | connection place hoperation hu =>
    rw [hu]
    exact ⟨rfl, rfl⟩
  | aside _ _ haside hroster => exact ⟨haside.front, hroster⟩

/-- Without a change of a tracked call the call in front stays current. -/
theorem Current.perform_of_refused {ledger : Ledger} (hs : s.Current) (hrefines : s.Refines ledger)
    {operation : Operation n} (hrefused : s.accepts operation = false)
    (hsteady : ∀ place, s.shifts operation place = false) : (s.perform operation).1.Current := by
  obtain ⟨hfront, hroster⟩ := Switchboard.perform_of_refused hrefused
  have hchosen : (s.perform operation).1.chosen = s.chosen := by
    rw [chosen, chosen, hroster]
    refine front?_congr fun place hmem => ?_
    have htracked : s.isTracked (s.ident place) = true :=
      hrefines.isTracked_of_mem .active hmem
    simpa [shifts, htracked] using hsteady place
  rw [Current, hfront, hchosen]
  exact hs

/-- In a prompt run the call in front is current, or it will be after the next word. -/
theorem current_run {ledger : Ledger} (hrefines : s.Refines ledger)
    {operations : List (Operation n)} (hprompt : s.Prompt operations)
    (hs : s.Current ∨ operations.head?.any s.accepts = true) : (s.run operations).Current := by
  induction operations generalizing s ledger with
  | nil =>
    rcases hs with hs | hnext
    · exact hs
    · cases hnext
  | cons operation rest ih =>
    obtain ⟨htold, hrest⟩ := hprompt
    refine ih (hrefines.perform operation) hrest ?_
    cases haccepts : s.accepts operation with
    | true => exact .inl (takes_perform haccepts).current
    | false =>
      have hcurrent : s.Current := by
        rcases hs with hs | hnext
        · exact hs
        · rw [List.head?_cons, Option.any_some, haccepts] at hnext
          cases hnext
      by_cases hsteady : ∀ place, s.shifts operation place = false
      · exact .inl (hcurrent.perform_of_refused hrefines haccepts hsteady)
      · -- a tracked call changed its state, and the next operation tells of it
        right
        simp only [not_forall, Bool.not_eq_false] at hsteady
        obtain ⟨place, hshifts⟩ := hsteady
        have hheard := htold place hshifts
        have hdeaf : s.hears place operation = false := by
          rw [Bool.eq_false_iff]
          intro hhears
          rw [accepts_of_hears hhears] at haccepts
          cases haccepts
        rw [hdeaf, Bool.false_or] at hheard
        cases rest with
        | nil => cases hheard
        | cons next later => exact accepts_of_hears hheard

/-! ## What is told of the changes -/

/-- From `s` to `t` no other call came to the front, or one did, and that was told. -/
inductive Passes (s t : Switchboard n) : Prop
  | stays (hfront : t.front.map t.ident = s.front.map s.ident)
      (hchanges : t.frontChanges = s.frontChanges) (hupdates : t.updates = s.updates)
  | passes (hne : s.front.map s.ident ≠ t.front.map t.ident)
      (hchanges : t.frontChanges =
        s.frontChanges ++ [(s.front.map s.ident, t.front.map t.ident)])
      (hupdates : t.updates = s.updates + 1)

theorem Aside.frontIds (h : Aside s t) : t.front.map t.ident = s.front.map s.ident := by
  rw [h.front, h.ident]

theorem Aside.passes (h : Aside s t) : Passes s t := .stays h.frontIds h.frontChanges h.updates

theorem Passes.before (h : Passes t u) (hs : Aside s t) : Passes s u := by
  cases h with
  | stays hfront hchanges hupdates =>
    exact .stays (hfront.trans hs.frontIds) (hchanges.trans hs.frontChanges)
      (hupdates.trans hs.updates)
  | passes hne hchanges hupdates =>
    rw [hs.frontIds, hs.frontChanges] at hchanges
    rw [hs.updates] at hupdates
    rw [hs.frontIds] at hne
    exact .passes hne hchanges hupdates

theorem Passes.after (h : Passes s t) (hfront : u.front.map u.ident = t.front.map t.ident)
    (hchanges : u.frontChanges = t.frontChanges) (hupdates : u.updates = t.updates) :
    Passes s u := by
  cases h with
  | stays hfront' hchanges' hupdates' =>
    exact .stays (hfront.trans hfront') (hchanges.trans hchanges') (hupdates.trans hupdates')
  | passes hne hchanges' hupdates' =>
    refine .passes (hfront ▸ hne) ?_ (hupdates.trans hupdates')
    rw [hchanges, hchanges', hfront]

/-- The hold tone is no matter of the call in front. -/
theorem Passes.adjustHoldTone (h : Passes s t) : Passes s t.adjustHoldTone := by
  have htouch := touches_adjustHoldTone t
  have hfront : t.adjustHoldTone.front = t.front := htouch.keeps .front (by decide)
  refine h.after ?_ (htouch.frontChanges (by decide)) (htouch.updates (by decide))
  rw [hfront, htouch.ident (by decide)]

theorem passes_updateFront (s : Switchboard n) : Passes s s.updateFront := by
  have hsend := fun front =>
    (touches_front s front).trans (touches_sendRoute { s with front := front } .update)
  unfold updateFront
  dsimp only
  split
  next hsame => exact .stays hsame.symm rfl rfl
  next hne =>
    refine Passes.adjustHoldTone (.passes hne ?_ ?_)
    · rw [frontChanges_frontChanged, (hsend _).frontChanges (by decide)]
      rfl
    · rw [(touches_frontChanged _ _ _).updates (by decide), updates_sendRoute]
      rfl

theorem Takes.passes (h : Takes s u) : Passes s u := by
  obtain ⟨r, t, hr, ht, hu⟩ := h
  have hupdated := (passes_updateFront r).before hr
  have hgone := hupdated.after ht.toAside.frontIds ht.frontChanges ht.updates
  exact hgone.adjustHoldTone.after hu.toAside.frontIds hu.frontChanges hu.updates

/-- Whether an operation tells that the connection of a call changed. -/
def Operation.isConnectionChange : Operation n → Bool
  | .connectionChanged _ => true
  | _ => false

/-- Every operation tells of the call that comes to the front, and one that is about the
connection asks for an update besides. -/
theorem passes_perform (s : Switchboard n) (operation : Operation n) :
    (operation.isConnectionChange = false ∧ Passes s (s.perform operation).1) ∨
      (operation.isConnectionChange = true ∧
        (s.perform operation).1 = s.sendRoute .update) := by
  cases course_perform s operation with
  | taken haccepts h =>
    left
    refine ⟨?_, h.passes⟩
    cases operation <;> first | rfl | cases haccepts
  | hold place hoperation h =>
    left
    rw [h, hoperation]
    exact ⟨rfl, (Still.refl s).toAside.passes.adjustHoldTone⟩
  | connection place hoperation h =>
    right
    rw [hoperation] at h ⊢
    exact ⟨rfl, h⟩
  | aside haccepts hconnection h hroster =>
    left
    refine ⟨?_, h.passes⟩
    cases operation with
    | connectionChanged place => exact absurd rfl (hconnection place)
    | _ => rfl

/-- The changes that were told lead to the call in front. -/
def FrontTold (s : Switchboard n) : Prop := Leads none s.frontChanges (s.front.map s.ident)

theorem FrontTold.perform (hs : s.FrontTold) (operation : Operation n) :
    (s.perform operation).1.FrontTold := by
  rcases passes_perform s operation with ⟨-, hpasses⟩ | ⟨-, hupdate⟩
  · cases hpasses with
    | stays hfront hchanges _ =>
      rw [FrontTold, hfront, hchanges]
      exact hs
    | passes hne hchanges _ =>
      rw [FrontTold, hchanges]
      exact Leads.concat hs hne
  · rw [hupdate, FrontTold, (touches_sendRoute s .update).frontChanges (by decide)]
    exact hs

theorem FrontTold.run {s : Switchboard n} (hs : s.FrontTold) (operations : List (Operation n)) :
    (s.run operations).FrontTold := by
  induction operations generalizing s with
  | nil => exact hs
  | cons operation rest ih => exact ih (hs.perform operation)

/-- How many more requests for an update an operation sends than it tells changes. -/
theorem updates_perform (s : Switchboard n) (operation : Operation n) :
    (s.perform operation).1.updates + s.frontChanges.length =
      s.updates + (s.perform operation).1.frontChanges.length +
        [operation].countP Operation.isConnectionChange := by
  rcases passes_perform s operation with ⟨hconnection, hpasses⟩ | ⟨hconnection, hupdate⟩
  · rw [List.countP_singleton, hconnection]
    cases hpasses with
    | stays _ hchanges hupdates =>
      rw [hchanges, hupdates]
      rfl
    | passes _ hchanges hupdates =>
      rw [hchanges, hupdates, List.length_append, List.length_singleton]
      simp only [Bool.false_eq_true, if_false]
      omega
  · rw [List.countP_singleton, if_pos hconnection, hupdate,
      (touches_sendRoute s .update).frontChanges (by decide), updates_sendRoute, if_pos rfl]
    omega

/-- The requests for an update go with the changes that were told and with the
connections. -/
theorem updates_run (s : Switchboard n) (operations : List (Operation n)) :
    (s.run operations).updates + s.frontChanges.length =
      s.updates + (s.run operations).frontChanges.length +
        operations.countP Operation.isConnectionChange := by
  induction operations generalizing s with
  | nil => rfl
  | cons operation rest ih =>
    have hstep := updates_perform s operation
    have hrest := ih (s.perform operation).1
    change ((s.perform operation).1.run rest).updates + _ =
      _ + ((s.perform operation).1.run rest).frontChanges.length + _
    rw [← List.singleton_append, List.countP_append]
    omega

/-- In a prompt run of an idle switchboard the call in front, after every operation but a
change that is still to be told, is the last active call that is connecting, or else the
oldest active one, or else the oldest one that rings, or else the oldest one on hold, or
else none. In every run, prompt or not, the changes of the call in front that are told
lead from none to the one in front, and the requests to bring the route up to date are as
many as these changes and the words about connections together. -/
theorem run_arbitrates_front (calls : CallTable n) (profile : DeviceProfile)
    (settings : Settings) (surroundings : Surroundings) (timed : Bool) (registry : Registry)
    (desks : Option Desks) (operations : List (Operation n)) :
    let start := idle calls profile settings surroundings timed registry desks
    let s := start.run operations
    (start.Prompt operations → ∀ before operation after,
      operations = before ++ operation :: after →
      (∀ place, (start.run before).shifts operation place = true →
        (start.run before).hears place operation = true) →
      let t := start.run (before ++ [operation])
      t.front = ((t.roster.active.filter fun place =>
          (t.call place).state = .connecting).getLast?).or
        (t.roster.active.head?.or (t.roster.ringing.head?.or t.roster.holding.head?))) ∧
    Leads none s.frontChanges (s.front.map s.ident) ∧
    s.updates = s.frontChanges.length + operations.countP Operation.isConnectionChange := by
  intro start s
  have hrefines : start.Refines .empty :=
    refines_idle calls profile settings surroundings timed registry desks
  refine ⟨?_, FrontTold.run (s := start) rfl operations, ?_⟩
  · intro hprompt before operation after hsplit htold t
    rw [hsplit] at hprompt
    have hcurrent : t.Current := current_run hrefines (hprompt.beginning htold) (.inl rfl)
    rw [hcurrent, chosen, front?_eq]
  · have hupdates := updates_run start operations
    change s.updates + 0 = 0 + s.frontChanges.length + _ at hupdates
    omega

/-- Two calls, the first of which becomes active and is told to be so: the second one is
connecting and comes to the front. -/
theorem front_of_connecting_call :
    let call (id : Nat) : Call := { state := .connecting, id := .ofNat id, log := .empty 64 }
    let start := idle (n := 2) ⟨#v[call 1, call 2]⟩ {} {} {} false {} none
    let told : List (Operation 2) :=
      [.added 0, .alerter (.revise 0 (.state .active)), .stateChanged 0 .connecting .active]
    start.Prompt (told ++ [.added 1]) ∧ (start.run (told ++ [.added 1])).front = some 1 := by
  intro call start told
  have hprompt : start.Prompt (told ++ [.added 1]) := by decide
  have hfront := (run_arbitrates_front ⟨#v[call 1, call 2]⟩ {} {} {} false {} none
    (told ++ [.added 1])).1 hprompt told (.added 1) [] rfl (by decide)
  exact ⟨hprompt, hfront.trans (by decide)⟩

end Switchboard

end PhoneAudio
