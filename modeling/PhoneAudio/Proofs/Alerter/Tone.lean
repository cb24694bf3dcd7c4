import PhoneAudio.Proofs.Alerter.Request

/-!
# Tone players and the waiting tone

The players of a tone start and stop; a row of signals is read off what was sent. An
alerter only ever plays the waiting tone of its own accord, so the row of any other
tone is the same after an operation as before it.

The waiting tone is played on one player at a time, and it is noted for which call. One
operation starts it, ends it, or leaves it alone, and with the player goes a note each
time (`waitingTurns_perform`); everything else here is read off that. `WaitingTold s`
says that the player and the call that the alerter remembers are the ones that were
started, and noted, last and have not ended since. It holds in every state that an idle
alerter reaches (`WaitingTold.run`).
-/

namespace PhoneAudio.Alerter

variable {n : Nat}

/-! ## Rows -/

/-- The start or the stop of a player of a tone. -/
def Command.toneSignal? (tone : Tone) : Command n → Option (Signal Nat)
  | .startTone other player => if other = tone then some (.start player) else none
  | .stopTone other player => if other = tone then some (.stop player) else none
  | _ => none

/-- The players of a tone that started and stopped. -/
def toneRow (s : Alerter n) (tone : Tone) : List (Signal Nat) :=
  s.sent.filterMap (Command.toneSignal? tone)

/-- The note on a call that a waiting tone started or ended for it. -/
def Command.waitingNote? : Command n → Option (Signal (Fin n))
  | .note place .startWaitingTone _ => some (.start place)
  | .note place .stopWaitingTone _ => some (.stop place)
  | _ => none

/-- The notes on all calls that a waiting tone started or ended. -/
def waitingNotes (s : Alerter n) : List (Signal (Fin n)) := s.sent.filterMap Command.waitingNote?

theorem toneSignal?_eq_none {tone : Tone} {command : Command n}
    (hstart : command.topic ≠ .toneStart tone) (hstop : command.topic ≠ .toneStop tone) :
    command.toneSignal? tone = none := by
  cases command with
  | startTone other player => exact if_neg fun h => hstart (congrArg Topic.toneStart h)
  | stopTone other player => exact if_neg fun h => hstop (congrArg Topic.toneStop h)
  | _ => rfl

theorem waitingNote?_eq_none {command : Command n}
    (hstart : command.topic ≠ .note .startWaitingTone)
    (hstop : command.topic ≠ .note .stopWaitingTone) : command.waitingNote? = none := by
  cases command with
  | note place event detail =>
    cases event with
    | startWaitingTone => exact absurd rfl hstart
    | stopWaitingTone => exact absurd rfl hstop
    | _ => rfl
  | _ => rfl

/-- Who does not speak of a tone leaves its row as it is. -/
theorem Says.toneRow {topics : List Topic} {s t : Alerter n} (h : Says topics s t) {tone : Tone}
    (hstart : .toneStart tone ∉ topics) (hstop : .toneStop tone ∉ topics) :
    t.toneRow tone = s.toneRow tone :=
  h.filterMap fun _ hmem =>
    toneSignal?_eq_none (fun h => hstart (h ▸ hmem)) (fun h => hstop (h ▸ hmem))

theorem Says.waitingNotes {topics : List Topic} {s t : Alerter n} (h : Says topics s t)
    (hstart : .note .startWaitingTone ∉ topics) (hstop : .note .stopWaitingTone ∉ topics) :
    t.waitingNotes = s.waitingNotes :=
  h.filterMap fun _ hmem =>
    waitingNote?_eq_none (fun h => hstart (h ▸ hmem)) (fun h => hstop (h ▸ hmem))

/-- No operation plays another tone than the waiting tone. -/
theorem toneRow_perform (s : Alerter n) (operation : Operation n) {tone : Tone}
    (htone : tone ≠ .waiting) : (s.perform operation).1.toneRow tone = s.toneRow tone := by
  apply (says_perform s operation).toneRow
  · cases operation <;> simp [Operation.topics, htone]
  · cases operation <;> simp [Operation.topics, htone]

/-! ## The waiting tone -/

/-- The topics of the waiting tone. -/
abbrev waitingTopics : List Topic :=
  [.toneStart .waiting, .toneStop .waiting, .note .startWaitingTone, .note .stopWaitingTone]

/-- Nothing happened to the waiting tone, and no player was made. -/
structure WaitingKept (s t : Alerter n) : Prop where
  waiting : t.waiting = s.waiting
  players : t.players = s.players
  row : t.toneRow .waiting = s.toneRow .waiting
  notes : t.waitingNotes = s.waitingNotes

/-- From `s` to `t` the waiting tone started on a new player, ended, or neither. -/
inductive WaitingTurns (s t : Alerter n) : Prop
  | keeps (h : WaitingKept s t)
  | starts (place : Fin n) (hbefore : s.waiting = none)
      (hwaiting : t.waiting = some ⟨place, s.players + 1⟩) (hplayers : t.players = s.players + 1)
      (hrow : t.toneRow .waiting = s.toneRow .waiting ++ [.start (s.players + 1)])
      (hnotes : t.waitingNotes = s.waitingNotes ++ [.start place])
  | ends (waiting : WaitingTone n) (hbefore : s.waiting = some waiting)
      (hwaiting : t.waiting = none) (hplayers : t.players = s.players)
      (hrow : t.toneRow .waiting = s.toneRow .waiting ++ [.stop waiting.player])
      (hnotes : t.waitingNotes = s.waitingNotes ++ [.stop waiting.call])

theorem WaitingKept.refl (s : Alerter n) : WaitingKept s s := ⟨rfl, rfl, rfl, rfl⟩

/-- A step that is not about the waiting tone. -/
theorem WaitingKept.of_step {parts : List Part} {topics : List Topic} {s t : Alerter n}
    (htouch : Touches parts s t) (hsaid : Says topics s t)
    (hparts : ∀ part ∈ [Part.waiting, .players], part ∉ parts)
    (htopics : ∀ topic ∈ waitingTopics, topic ∉ topics) : WaitingKept s t :=
  ⟨htouch.keeps .waiting (hparts _ (by simp)), htouch.keeps .players (hparts _ (by simp)),
    hsaid.toneRow (htopics _ (by simp)) (htopics _ (by simp)),
    hsaid.waitingNotes (htopics _ (by simp)) (htopics _ (by simp))⟩

theorem WaitingTurns.before {s t u : Alerter n} (h : WaitingTurns t u) (hs : WaitingKept s t) :
    WaitingTurns s u := by
  obtain ⟨hwaiting, hplayers, hrow, hnotes⟩ := hs
  cases h with
  | keeps h =>
    exact .keeps ⟨h.waiting.trans hwaiting, h.players.trans hplayers, h.row.trans hrow,
      h.notes.trans hnotes⟩
  | starts place hbefore hwaiting' hplayers' hrow' hnotes' =>
    rw [hplayers] at hwaiting' hplayers' hrow'
    exact .starts place (hwaiting.symm.trans hbefore) hwaiting' hplayers' (hrow ▸ hrow')
      (hnotes ▸ hnotes')
  | ends waiting hbefore hwaiting' hplayers' hrow' hnotes' =>
    exact .ends waiting (hwaiting.symm.trans hbefore) hwaiting' (hplayers'.trans hplayers)
      (hrow ▸ hrow') (hnotes ▸ hnotes')

theorem WaitingTurns.after {s t u : Alerter n} (h : WaitingTurns s t) (ht : WaitingKept t u) :
    WaitingTurns s u := by
  obtain ⟨hwaiting, hplayers, hrow, hnotes⟩ := ht
  cases h with
  | keeps h =>
    exact .keeps ⟨hwaiting.trans h.waiting, hplayers.trans h.players, hrow.trans h.row,
      hnotes.trans h.notes⟩
  | starts place hbefore hwaiting' hplayers' hrow' hnotes' =>
    exact .starts place hbefore (hwaiting.trans hwaiting') (hplayers.trans hplayers')
      (hrow.trans hrow') (hnotes.trans hnotes')
  | ends waiting hbefore hwaiting' hplayers' hrow' hnotes' =>
    exact .ends waiting hbefore (hwaiting.trans hwaiting') (hplayers.trans hplayers')
      (hrow.trans hrow') (hnotes.trans hnotes')

/-! ### Operations -/

theorem waitingTurns_stopWaiting (s : Alerter n) : WaitingTurns s s.stopWaiting := by
  unfold stopWaiting
  split
  · exact .keeps (.refl s)
  next waiting hsome =>
    refine .ends waiting hsome rfl rfl ?_ ?_
    · simp [toneRow, note, send, stopTone, List.filterMap_cons, Command.toneSignal?]
    · simp [waitingNotes, note, send, stopTone, List.filterMap_cons, Command.waitingNote?]

theorem waitingTurns_beginWaiting (s : Alerter n) (place : Fin n) (reason : Option String) :
    WaitingTurns s (s.beginWaiting place reason) := by
  unfold beginWaiting
  split
  · exact .keeps (.refl s)
  next hnone =>
    refine .starts place hnone rfl rfl ?_ ?_
    · simp [toneRow, note, send, startTone, List.filterMap_cons, Command.toneSignal?]
    · simp [waitingNotes, note, send, startTone, List.filterMap_cons, Command.waitingNote?]

theorem beginWaiting_of_waiting {s : Alerter n} (h : s.waiting.isSome = true) (place : Fin n)
    (reason : Option String) : s.beginWaiting place reason = s := by
  obtain ⟨waiting, hsome⟩ := Option.isSome_iff_exists.mp h
  rw [beginWaiting, hsome]

/-- The stop of the ring and the tap that come before a waiting tone leave it alone. -/
theorem waitingKept_tap (s : Alerter n) : WaitingKept s s.stopRinging.tap :=
  .of_step ((touches_stopRinging s).trans (touches_tap _))
    ((says_stopRinging s).trans (says_tap _)) (by decide) (by decide)

theorem waitingKept_skip (s : Alerter n) (place : Fin n) (detail : Option String) :
    WaitingKept s (s.note place .skipRinging detail) :=
  .of_step (touches_note s place .skipRinging detail) (says_note s _ _ _) (by decide) (by decide)

theorem waitingTurns_startWaiting (s : Alerter n) (place : Fin n) (reason : Option String) :
    WaitingTurns s (s.startWaiting place reason) := by
  unfold startWaiting
  split
  · exact .keeps (.refl s)
  · split
    · exact .keeps (waitingKept_skip s place _)
    · split
      · exact .keeps (waitingKept_skip s place _)
      · exact (waitingTurns_beginWaiting _ place reason).before (waitingKept_tap s)

/-- A waiting tone that plays is not started again. -/
theorem waitingKept_startWaiting {s : Alerter n} (h : s.waiting.isSome = true) (place : Fin n)
    (reason : Option String) : WaitingKept s (s.startWaiting place reason) := by
  unfold startWaiting
  split
  · exact .refl s
  · split
    · exact waitingKept_skip s place _
    · split
      · exact waitingKept_skip s place _
      · have hkept := waitingKept_tap s
        rw [beginWaiting_of_waiting (hkept.waiting ▸ h)]
        exact hkept

/-- A request to ring ends the waiting tone if it is rendered. -/
theorem waitingTurns_askToRing (s : Alerter n) {operation : Operation n}
    (hasks : operation.asksToRing = true) : WaitingTurns s (s.perform operation).1 := by
  cases h : s.rendered? operation with
  | none =>
    exact .keeps (.of_step (touches_declined hasks h) (says_declined hasks h) (by decide)
      (by decide))
  | some request =>
    rw [perform_of_rendered? h]
    exact (waitingTurns_stopWaiting s).after
      (.of_step (touches_render s request) (says_render s request) (by decide) (by decide))

theorem waitingTurns_perform (s : Alerter n) (operation : Operation n) :
    WaitingTurns s (s.perform operation).1 := by
  cases operation with
  | startRinging place handsFree => exact waitingTurns_askToRing s rfl
  | startCarrierRing place handsFree => exact waitingTurns_askToRing s rfl
  | startWaiting place reason => exact waitingTurns_startWaiting s place reason
  | stopWaiting => exact waitingTurns_stopWaiting s
  | _ =>
    refine .keeps (.of_step (touches_perform s _) (says_perform s _) ?_ ?_)
    · simp [Operation.parts]
    · simp [Operation.topics]

/-! ### Runs -/

/-- The alerter remembers which player plays the waiting tone, and for which call. -/
structure WaitingTold (s : Alerter n) : Prop where
  players : Signal.Paired (s.toneRow .waiting) (s.waiting.map WaitingTone.player)
  calls : Signal.Paired s.waitingNotes (s.waiting.map WaitingTone.call)

theorem WaitingTold.of_turns {s t : Alerter n} (hs : s.WaitingTold) (h : WaitingTurns s t) :
    t.WaitingTold := by
  obtain ⟨hplayers, hcalls⟩ := hs
  cases h with
  | keeps h => exact ⟨by rwa [h.row, h.waiting], by rwa [h.notes, h.waiting]⟩
  | starts place hbefore hwaiting _ hrow hnotes =>
    rw [hbefore] at hplayers hcalls
    constructor
    · rw [hwaiting, hrow]
      exact hplayers.concat_start (s.players + 1)
    · rw [hwaiting, hnotes]
      exact hcalls.concat_start place
  | ends waiting hbefore hwaiting _ hrow hnotes =>
    rw [hbefore] at hplayers hcalls
    constructor
    · rw [hwaiting, hrow]
      exact hplayers.concat_stop
    · rw [hwaiting, hnotes]
      exact hcalls.concat_stop

theorem WaitingTold.run {s : Alerter n} (hs : s.WaitingTold) (operations : List (Operation n)) :
    (s.run operations).WaitingTold := by
  induction operations generalizing s with
  | nil => exact hs
  | cons operation rest ih => exact ih (hs.of_turns (waitingTurns_perform s operation))

theorem waitingTold_idle (calls : CallTable n) (profile : DeviceProfile) (settings : Settings)
    (surroundings : Surroundings) (timed : Bool) :
    (idle calls profile settings surroundings timed).WaitingTold :=
  ⟨Signal.paired_nil, Signal.paired_nil⟩

/-- Every start and every stop of a player goes with a note, and every start has a player
of its own. -/
structure WaitingMatched (s : Alerter n) : Prop where
  notes : s.waitingNotes.map Signal.isStart = (s.toneRow .waiting).map Signal.isStart
  started : (s.toneRow .waiting).filterMap Signal.started? = List.range' 1 s.players

theorem WaitingMatched.of_turns {s t : Alerter n} (hs : s.WaitingMatched)
    (h : WaitingTurns s t) : t.WaitingMatched := by
  obtain ⟨hmatch, hstarted⟩ := hs
  cases h with
  | keeps h => exact ⟨by rwa [h.row, h.notes], by rwa [h.row, h.players]⟩
  | starts place _ _ hplayers hrow hnotes =>
    constructor
    · rw [hrow, hnotes, List.map_append, List.map_append, hmatch]
      rfl
    · rw [hrow, hplayers, List.filterMap_append, hstarted, List.range'_concat]
      simp [Signal.started?, Nat.add_comm]
  | ends waiting _ _ hplayers hrow hnotes =>
    constructor
    · rw [hrow, hnotes, List.map_append, List.map_append, hmatch]
      rfl
    · rw [hrow, hplayers, List.filterMap_append, hstarted]
      simp [Signal.started?]

theorem WaitingMatched.run {s : Alerter n} (hs : s.WaitingMatched)
    (operations : List (Operation n)) : (s.run operations).WaitingMatched := by
  induction operations generalizing s with
  | nil => exact hs
  | cons operation rest ih => exact ih (hs.of_turns (waitingTurns_perform s operation))

/-- In every run of an idle alerter the players of the waiting tone start and stop in
turn, beginning with a start, each on a player of its own, and every stop goes to the
player that was started last. The notes on the calls, whichever they are, go with the
starts and the stops one by one, and a note that the tone ended is on the call for which
it was last noted to start. While the tone plays, a request for it starts and notes
nothing, and the tone stays with its player and its call. -/
theorem run_pairs_waiting_tone (calls : CallTable n) (profile : DeviceProfile)
    (settings : Settings) (surroundings : Surroundings) (timed : Bool)
    (operations : List (Operation n)) :
    let s := (idle calls profile settings surroundings timed).run operations
    let row := s.toneRow .waiting
    let notes := s.waitingNotes
    Crossing.Alternates true (row.map Signal.isStart) ∧
    (∀ before player after, row = before ++ .stop player :: after →
      before.getLast? = some (.start player)) ∧
    (row.filterMap Signal.started?).Nodup ∧
    Crossing.Alternates true (notes.map Signal.isStart) ∧
    (∀ before place after, notes = before ++ .stop place :: after →
      before.getLast? = some (.start place)) ∧
    notes.map Signal.isStart = row.map Signal.isStart ∧
    ∀ place reason, s.waiting.isSome = true →
      let t := (s.perform (.startWaiting place reason)).1
      t.waiting = s.waiting ∧ t.toneRow .waiting = row ∧ t.waitingNotes = notes := by
  intro s row notes
  have htold : s.WaitingTold :=
    (waitingTold_idle calls profile settings surroundings timed).run operations
  have hmatched : s.WaitingMatched :=
    WaitingMatched.run (s := idle calls profile settings surroundings timed) ⟨rfl, rfl⟩ operations
  refine ⟨htold.players.alternates, ?_, ?_, htold.calls.alternates, ?_, hmatched.notes, ?_⟩
  · intro before player after hrow
    exact htold.players.getLast?_of_stop hrow
  · show ((s.toneRow .waiting).filterMap Signal.started?).Nodup
    rw [hmatched.started]
    exact List.nodup_range'
  · intro before place after hnotes
    exact htold.calls.getLast?_of_stop hnotes
  · intro place reason hwaiting
    have hkept : WaitingKept s (s.startWaiting place reason) :=
      waitingKept_startWaiting hwaiting place reason
    exact ⟨hkept.waiting, hkept.row, hkept.notes⟩

end PhoneAudio.Alerter
