import PhoneAudio.Motor.Clock
import PhoneAudio.Proofs.Signal

/-!
# Turns of a motor

A motor vibrates or it is at rest, and what it is told makes it change: it is never
told to vibrate while it vibrates, nor to stop while it rests. Whoever starts a
vibration, cancels one or lets a brief one end goes through the gate, and the gate
forgets nothing: what it says about the running vibration is what it was last told.

The ends of brief vibrations are taken here in the loosest way. An end of any
generation may come at any moment, in any order and any number of times, whether it
is on the agenda or not. This covers a clock, and it covers helpers that each wait
for a while and then knock.
-/

namespace PhoneAudio

/-- Whether the motor is told to vibrate, and not to stop. -/
def Motor.Command.isVibrate : Motor.Command → Bool
  | .vibrate _ _ => true
  | .stop => false

/-! ## What a gate plays -/

namespace Gate

variable {α : Type}

/-- What the motor was told so far: each time, whether to vibrate or to stop. -/
def turns (gate : Gate α) : List Bool := gate.sent.map Motor.Command.isVibrate

/-- From `g` to `h` a row of vibrations was started and stopped, each on behalf of
somebody or of nobody. -/
structure Plays (row : List (Signal (Option α))) (g h : Gate α) : Prop where
  told : h.turns = g.turns ++ row.map Signal.isStart
  runs : ∀ {past : List (Signal (Option α))},
    Signal.Paired past g.running → Signal.Paired (past ++ row) h.running

variable {row more : List (Signal (Option α))} {g h k : Gate α}

theorem plays_nothing (gate : Gate α) : Plays [] gate gate :=
  ⟨by simp, fun hpast => by simpa using hpast⟩

theorem Plays.trans (h₁ : Plays row g h) (h₂ : Plays more h k) : Plays (row ++ more) g k := by
  refine ⟨?_, fun hpast => ?_⟩
  · rw [h₂.told, h₁.told, List.map_append, List.append_assoc]
  · rw [← List.append_assoc]
    exact h₂.runs (h₁.runs hpast)

/-- A start at rest is accepted. -/
theorem start_of_rest {gate : Gate α} (hrest : gate.running = none) (owner : Option α)
    (effect : Vibration.Effect) (usage : Vibration.Usage) :
    Plays [.start owner] gate (gate.start owner effect usage).1 ∧
      (gate.start owner effect usage).2 = true := by
  rw [start, isRunning, hrest]
  refine ⟨⟨by simp [turns, Motor.Command.isVibrate, Signal.isStart], fun hpast => ?_⟩, rfl⟩
  rw [hrest] at hpast
  exact hpast.concat_start owner

/-- Nothing is cancelled at rest. -/
theorem cancel_of_rest {gate : Gate α} (hrest : gate.running = none) :
    Plays [] gate gate.cancel.1 ∧ gate.cancel.2 = none := by
  simp only [cancel, hrest]
  refine ⟨⟨by simp [turns], fun hpast => ?_⟩, trivial⟩
  simpa [hrest] using hpast

/-- A cancellation stops what runs. -/
theorem cancel_of_running {gate : Gate α} {runner : Option α}
    (hrunning : gate.running = some runner) :
    Plays [.stop runner] gate gate.cancel.1 ∧ gate.cancel.2 = some runner := by
  simp only [cancel, hrunning]
  refine ⟨⟨by simp [turns, Motor.Command.isVibrate, Signal.isStart], fun hpast => ?_⟩, trivial⟩
  rw [hrunning] at hpast
  exact hpast.concat_stop

/-- The end of a brief vibration stops what runs, or does nothing. -/
theorem finish_plays (gate : Gate α) (generation : UInt64) :
    ∃ row, Plays row gate (gate.finish generation) ∧ row.filterMap Signal.started? = [] := by
  unfold finish
  split
  case isTrue hdue =>
    obtain ⟨runner, hrunning⟩ := Option.isSome_iff_exists.mp hdue.2
    refine ⟨[.stop runner], ⟨?_, fun hpast => ?_⟩, rfl⟩
    · simp [turns, Motor.Command.isVibrate, Signal.isStart]
    · rw [hrunning] at hpast
      exact hpast.concat_stop
  case isFalse => exact ⟨[], plays_nothing gate, rfl⟩

end Gate

namespace Motor

variable {α : Type}

theorem passAll_plays (motor : Motor α) (endings : List Ending) :
    ∃ row, Gate.Plays row motor.gate (motor.passAll endings).gate ∧
      row.filterMap Signal.started? = [] := by
  induction endings generalizing motor with
  | nil => exact ⟨[], Gate.plays_nothing motor.gate, rfl⟩
  | cons ending rest ih =>
    obtain ⟨row, hrow, hstarted⟩ := motor.gate.finish_plays ending.generation
    obtain ⟨more, hmore, hstarted'⟩ := ih (motor.finish ending.generation)
    exact ⟨row ++ more, hrow.trans hmore, by rw [List.filterMap_append, hstarted, hstarted']; rfl⟩

/-! ## Events -/

/-- What may happen to a motor: an operation, or an end of some generation. -/
inductive Event (α : Type) where
  | operation (operation : Operation α)
  | ending (generation : UInt64)

/-- The motor after an event, and what the event reports. -/
def meet (motor : Motor α) : Event α → Motor α × Outcome α
  | .operation operation => motor.perform operation
  | .ending generation => (motor.finish generation, .nothing)

/-- The motor after some events. -/
def follow (motor : Motor α) (events : List (Event α)) : Motor α :=
  events.foldl (fun motor event => (motor.meet event).1) motor

namespace Event

/-- On whose behalf an event would start a vibration, if it is to start one. -/
def owner? : Event α → Option (Option α)
  | .operation (.start owner _ _) => some owner
  | .operation (.startIfCurrent _ owner _ _) => some owner
  | .operation (.buzz _ _ _) => some none
  | _ => none

/-- What an event is to report, by the turns that it made the motor take and by the
owner of what ran before it: a start, whether the motor was told to vibrate; a
cancellation, for whom the vibration ran, if the motor was told to stop. -/
def report (turns : List Bool) (owner : Option α) : Event α → Outcome α
  | .operation (.start _ _ _) => .started (true ∈ turns)
  | .operation (.startIfCurrent _ _ _ _) => .started (true ∈ turns)
  | .operation (.buzz _ _ _) => .started (true ∈ turns)
  | .operation .cancel => .stopped (if false ∈ turns then some owner else none)
  | _ => .nothing

end Event

/-- The owners that came with the vibrations the motor was told to start. -/
def owners (motor : Motor α) : List (Event α) → List (Option α)
  | [] => []
  | event :: rest =>
    let after := (motor.meet event).1
    (if true ∈ after.gate.turns.drop motor.gate.turns.length then event.owner?.toList else []) ++
      after.owners rest

/-- All that an event does: a row of vibrations starts and stops, each one that starts
is for the owner the event names, and the event reports that. -/
structure Meets (motor : Motor α) (event : Event α) (row : List (Signal (Option α))) : Prop where
  plays : Gate.Plays row motor.gate (motor.meet event).1.gate
  begun : row.filterMap Signal.started? =
    if true ∈ row.map Signal.isStart then event.owner?.toList else []
  reports : (motor.meet event).2 = event.report (row.map Signal.isStart) motor.gate.owner?

variable {motor : Motor α} {row : List (Signal (Option α))}

/-- An event that starts nothing and reports nothing. -/
theorem meets_quietly {event : Event α}
    (hplays : Gate.Plays row motor.gate (motor.meet event).1.gate)
    (hstarted : row.filterMap Signal.started? = [])
    (hreports : ∀ turns owner, (motor.meet event).2 = event.report turns owner) :
    Meets motor event row := by
  refine ⟨hplays, ?_, hreports _ _⟩
  rw [hstarted, if_neg]
  rw [← List.count_pos_iff, ← Signal.length_filterMap_started?, hstarted]
  exact Nat.lt_irrefl 0

/-- An event that starts a vibration. -/
theorem meets_start {event : Event α} {owner : Option α} (howner : event.owner? = some owner)
    (hplays : Gate.Plays [.start owner] motor.gate (motor.meet event).1.gate)
    (hreports : (motor.meet event).2 = event.report [true] motor.gate.owner?) :
    Meets motor event [.start owner] := by
  have hstarts : true ∈ [Signal.start owner].map Signal.isStart := List.mem_cons_self
  refine ⟨hplays, ?_, hreports⟩
  rw [if_pos hstarts, howner]
  rfl

/-- Where the motor stays as it was nothing is to be reported. -/
theorem meets_of_refused {operation : Operation α} {outcome : Outcome α}
    (hperform : motor.perform operation = (motor, outcome))
    (hreports : outcome = (Event.operation operation).report [] motor.gate.owner?) :
    Meets motor (.operation operation) [] := by
  have hgate : (motor.perform operation).1.gate = motor.gate :=
    congrArg (fun result => result.1.gate) hperform
  exact ⟨hgate ▸ Gate.plays_nothing motor.gate, rfl, (congrArg Prod.snd hperform).trans hreports⟩

theorem meets_perform_start (motor : Motor α) (owner : Option α) (effect : Vibration.Effect)
    (usage : Vibration.Usage) :
    ∃ row, Meets motor (.operation (.start owner effect usage)) row := by
  by_cases hrunning : motor.gate.isRunning
  · exact ⟨[], meets_of_refused (perform_start_of_running hrunning owner effect usage) rfl⟩
  · have hrest : motor.gate.running = none := by simpa [Gate.isRunning] using hrunning
    obtain ⟨hplays, haccepted⟩ := Gate.start_of_rest hrest owner effect usage
    exact ⟨[.start owner], meets_start rfl hplays (congrArg Outcome.started haccepted)⟩

theorem meets_perform_startIfCurrent (motor : Motor α) (generation : UInt64) (owner : Option α)
    (effect : Vibration.Effect) (usage : Vibration.Usage) :
    ∃ row, Meets motor (.operation (.startIfCurrent generation owner effect usage)) row := by
  have hperform := motor.perform_startIfCurrent generation owner effect usage
  by_cases hcurrent : motor.gate.generation = generation
  · rw [if_pos hcurrent] at hperform
    obtain ⟨row, hplays, hbegun, hreports⟩ := motor.meets_perform_start owner effect usage
    refine ⟨row, ⟨?_, hbegun, ?_⟩⟩
    · exact (congrArg (fun result => Gate.Plays row motor.gate result.1.gate) hperform).mpr hplays
    · exact (congrArg Prod.snd hperform).trans hreports
  · rw [if_neg hcurrent] at hperform
    exact ⟨[], meets_of_refused hperform rfl⟩

theorem meets_perform_cancel (motor : Motor α) : ∃ row, Meets motor (.operation .cancel) row := by
  cases hrunning : motor.gate.running with
  | none =>
    obtain ⟨hplays, hstopped⟩ := Gate.cancel_of_rest hrunning
    refine ⟨[], ⟨hplays, rfl, ?_⟩⟩
    show Outcome.stopped motor.gate.cancel.2 = .stopped none
    rw [hstopped]
  | some runner =>
    obtain ⟨hplays, hstopped⟩ := Gate.cancel_of_running hrunning
    refine ⟨[.stop runner], ⟨hplays, rfl, ?_⟩⟩
    show Outcome.stopped motor.gate.cancel.2 = .stopped (some motor.gate.owner?)
    rw [hstopped, Gate.owner?, hrunning]
    rfl

theorem meets_perform_buzz (motor : Motor α) (effect : Vibration.Effect) (usage : Vibration.Usage)
    (length : Nat) : ∃ row, Meets motor (.operation (.buzz effect usage length)) row := by
  by_cases hrunning : motor.gate.isRunning
  · exact ⟨[], meets_of_refused (perform_buzz_of_running hrunning effect usage length) rfl⟩
  · have hrest : motor.gate.running = none := by simpa [Gate.isRunning] using hrunning
    obtain ⟨hplays, -⟩ := Gate.start_of_rest hrest none effect usage
    refine ⟨[.start none], meets_start rfl ?_ ?_⟩
    · show Gate.Plays _ motor.gate (motor.buzz effect usage length).1.gate
      rwa [gate_buzz]
    · exact congrArg (fun result => Outcome.started result.2)
        (buzz_of_rest hrunning effect usage length)

theorem meets_passUntil {event : Event α} (deadline : Nat)
    (hafter : (motor.meet event).1.gate = (motor.passUntil deadline).gate)
    (hreports : ∀ turns owner, (motor.meet event).2 = event.report turns owner) :
    ∃ row, Meets motor event row := by
  obtain ⟨row, hplays, hstarted⟩ :=
    passAll_plays { motor with agenda := motor.agenda.filter (deadline < ·.deadline) }
      (motor.agenda.filter (·.deadline ≤ deadline))
  refine ⟨row, meets_quietly ?_ hstarted hreports⟩
  rwa [hafter]

/-- The step: every event starts and stops a row of vibrations and reports it. -/
theorem meets (motor : Motor α) (event : Event α) : ∃ row, Meets motor event row := by
  cases event with
  | operation operation =>
    cases operation with
    | start owner effect usage => exact motor.meets_perform_start owner effect usage
    | startIfCurrent generation owner effect usage =>
      exact motor.meets_perform_startIfCurrent generation owner effect usage
    | cancel => exact motor.meets_perform_cancel
    | buzz effect usage length => exact motor.meets_perform_buzz effect usage length
    | settle => exact meets_passUntil motor.now rfl fun _ _ => rfl
    | advance milliseconds => exact meets_passUntil (motor.now + milliseconds) rfl fun _ _ => rfl
  | ending generation =>
    obtain ⟨row, hplays, hstarted⟩ := motor.gate.finish_plays generation
    exact ⟨row, meets_quietly hplays hstarted fun _ _ => rfl⟩

/-! ## Runs -/

/-- The motor took its turns: they are those of a row of vibrations that were started
and stopped one after the other, with the given owners. -/
def TookTurns (motor : Motor α) (owners : List (Option α)) : Prop :=
  ∃ row, Signal.Paired row motor.gate.running ∧ row.map Signal.isStart = motor.gate.turns ∧
    row.filterMap Signal.started? = owners

theorem TookTurns.meet {motor : Motor α} {owners : List (Option α)} (h : motor.TookTurns owners)
    (event : Event α) : (motor.meet event).1.TookTurns (owners ++ motor.owners [event]) := by
  obtain ⟨past, hpast, hturns, hstarted⟩ := h
  obtain ⟨row, hplays, hbegun, -⟩ := motor.meets event
  have hnews : (motor.meet event).1.gate.turns.drop motor.gate.turns.length =
      row.map Signal.isStart := by
    rw [hplays.told, List.drop_left]
  refine ⟨past ++ row, hplays.runs hpast, ?_, ?_⟩
  · rw [List.map_append, hturns, hplays.told]
  · rw [List.filterMap_append, hstarted, hbegun]
    simp only [Motor.owners, hnews, List.append_nil]

theorem owners_cons (motor : Motor α) (event : Event α) (rest : List (Event α)) :
    motor.owners (event :: rest) =
      motor.owners [event] ++ (motor.meet event).1.owners rest := by
  simp only [owners, List.append_nil]

theorem TookTurns.follow {motor : Motor α} {owners : List (Option α)} (h : motor.TookTurns owners)
    (events : List (Event α)) :
    (motor.follow events).TookTurns (owners ++ motor.owners events) := by
  induction events generalizing motor owners with
  | nil =>
    rw [Motor.owners, List.append_nil]
    exact h
  | cons event rest ih =>
    rw [owners_cons, ← List.append_assoc]
    exact ih (h.meet event)

theorem TookTurns.getLast?_turns_iff {motor : Motor α} {owners : List (Option α)}
    (h : motor.TookTurns owners) :
    motor.gate.turns.getLast? = some true ↔ motor.gate.isRunning := by
  obtain ⟨row, hpaired, hturns, -⟩ := h
  rw [← hturns, Gate.isRunning, ← hpaired.current?_eq, List.getLast?_map, Signal.current?]
  rcases row.getLast? with _ | ⟨what⟩ | ⟨what⟩ <;> simp [Signal.isStart]

/-- While a vibration runs it runs on behalf of the owner that came with it. -/
theorem TookTurns.owner?_eq {motor : Motor α} {owners : List (Option α)}
    (h : motor.TookTurns owners) :
    motor.gate.owner? = if motor.gate.isRunning then owners.getLast?.join else none := by
  obtain ⟨row, hpaired, -, hstarted⟩ := h
  rw [Gate.owner?, Gate.isRunning]
  cases hrunning : motor.gate.running with
  | none => rfl
  | some runner =>
    rw [hrunning] at hpaired
    rw [← hstarted, hpaired.getLast?_started]
    rfl

/-- A motor that starts at rest takes turns, whatever operations are performed and
whatever ends come in between: it is told to vibrate and to stop strictly in
alternation, it vibrates exactly if it was last told to, and it does so on behalf of
the owner that was given with its last vibration. Each start, and nothing else,
brings an owner. Whatever happens next reports the turns that it makes the motor take:
a start whether it began to vibrate, and a cancellation whose vibration it stopped, if
it stopped one. -/
theorem follow_takes_turns (timed : Bool) (events : List (Event α)) :
    let start : Motor α := { timed := timed }
    let motor := start.follow events
    Crossing.Alternates true motor.gate.turns ∧
      (motor.gate.isRunning ↔ motor.gate.turns.getLast? = some true) ∧
      motor.gate.owner? =
        (if motor.gate.isRunning then (start.owners events).getLast?.join else none) ∧
      motor.gate.turns.count true = (start.owners events).length ∧
      ∀ event, ∃ news, (motor.meet event).1.gate.turns = motor.gate.turns ++ news ∧
        (motor.meet event).2 = event.report news motor.gate.owner? := by
  intro start motor
  have hfresh : start.TookTurns [] := ⟨[], Signal.paired_nil, rfl, rfl⟩
  have htook : motor.TookTurns (start.owners events) := hfresh.follow events
  refine ⟨?_, htook.getLast?_turns_iff.symm, htook.owner?_eq, ?_, fun event => ?_⟩
  · obtain ⟨row, hpaired, hturns, -⟩ := htook
    rw [← hturns]
    exact hpaired.alternates
  · obtain ⟨row, -, hturns, hstarted⟩ := htook
    rw [← hturns, ← hstarted, Signal.length_filterMap_started?]
  · obtain ⟨row, hplays, -, hreports⟩ := motor.meets event
    exact ⟨row.map Signal.isStart, hplays.told, hreports⟩

end Motor

end PhoneAudio
