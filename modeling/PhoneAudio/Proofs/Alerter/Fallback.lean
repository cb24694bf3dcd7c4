import PhoneAudio.Proofs.Alerter.Deferral

/-!
# What a ring falls back on

The ringtone player may never tell about haptics. It promises no word, or it has given up
when the ring begins, or it gives up later, or it does not tell in time; `Misses` lists
these ways, with whatever may happen meanwhile. On a phone with a runtime a promised word is
waited for. The plan `Waits` from one step to the next, with the effect that was the default
when the ring began, until it `FellBack` on that effect; whichever way the word is missed,
this comes in the end (`Waits.fellBack_of_misses`). On a phone without a runtime it comes at
once.

A ring whose player promises no word does not take this way. It decides by the effect of
the ringtone, which need not be the default.
-/

namespace PhoneAudio

/-- No ending stops anything while nothing runs. -/
theorem Motor.passAll_of_rest {α : Type} (motor : Motor α) (hrest : motor.gate.running = none)
    (endings : List Ending) : motor.passAll endings = motor := by
  have hfinish : ∀ ending : Ending, motor.finish ending.generation = motor := by
    intro ending
    unfold Motor.finish Gate.finish
    rw [if_neg]
    rintro ⟨-, hrunning⟩
    rw [Gate.isRunning, hrest] at hrunning
    cases hrunning
  unfold Motor.passAll
  induction endings with
  | nil => rfl
  | cons ending rest ih => rw [List.foldl_cons, hfinish, ih]

theorem Motor.passUntil_of_rest {α : Type} (motor : Motor α) (hrest : motor.gate.running = none)
    (limit : Nat) :
    motor.passUntil limit =
      { motor with agenda := motor.agenda.filter (limit < ·.deadline) } :=
  Motor.passAll_of_rest { motor with agenda := motor.agenda.filter (limit < ·.deadline) } hrest _

theorem Motor.passFirst_of_rest {α : Type} (motor : Motor α) (hrest : motor.gate.running = none)
    (count : Nat) : motor.passFirst count = { motor with agenda := motor.agenda.drop count } :=
  Motor.passAll_of_rest { motor with agenda := motor.agenda.drop count } hrest _

namespace Alerter

variable {n : Nat} {s t u : Alerter n}

/-! ## Missing the word -/

/-- The same alerter on a phone with a runtime or on one without, with a ringtone player
that says something about haptics or nothing. -/
def facing (s : Alerter n) (timed : Bool) (signal : Option HapticsSignal) : Alerter n :=
  { s.withClock timed with
    surroundings := { s.surroundings with hapticsSignal := signal } }

/-- What may happen while a ring waits for the player's word. The player tells nothing by
it, and nothing else rings, vibrates or falls quiet. -/
def Operation.isPatient : Operation n → Bool
  | .stopWaiting => true
  | .applySettings _ => true
  | .surroundings _ => true
  | .volume _ _ => true
  | .revise _ _ => true
  | .note _ _ _ => true
  | .settle => true
  | .advance _ => true
  | _ => false

/-- By how much the clock moves. -/
def Operation.elapsed : Operation n → Nat
  | .advance milliseconds => milliseconds
  | _ => 0

/-- By how much the clock moves altogether. -/
def elapsed : List (Operation n) → Nat
  | [] => 0
  | operation :: rest => operation.elapsed + elapsed rest

/-- The ways to miss the word of a ringtone player: what the player answers to the request
to play, and what happens afterwards. -/
inductive Misses (timeout : Nat) : Option HapticsSignal → List (Operation n) → Prop
  /-- The player promises no word. -/
  | unpromised : Misses timeout none []
  /-- The player has given up already. -/
  | lost (meanwhile : List (Operation n))
    (hpatient : ∀ operation ∈ meanwhile, operation.isPatient) :
    Misses timeout (some .lost) (meanwhile ++ [.settle])
  /-- The player gives up later. -/
  | lostLater (before after : List (Operation n))
    (hbefore : ∀ operation ∈ before, operation.isPatient)
    (hafter : ∀ operation ∈ after, operation.isPatient) :
    Misses timeout (some .awaited) (before ++ .loseHaptics :: (after ++ [.settle]))
  /-- The time is over before the player tells. -/
  | timedOut (meanwhile : List (Operation n))
    (hpatient : ∀ operation ∈ meanwhile, operation.isPatient) (last : Nat)
    (hover : timeout ≤ elapsed meanwhile + last) :
    Misses timeout (some .awaited) (meanwhile ++ [.advance last])

/-! ## Rings at rest -/

/-- The vibrations that a plan starts at rest, if the effect is the given one. -/
def Plan.starts (plan : Plan n) (effect : Vibration.Effect) : List Vibration.Effect :=
  if plan.enabled && plan.contact then [effect] else []

theorem rung_ringBy (s : Alerter n) (plan : Plan n) (effect : Vibration.Effect) :
    (s.ringBy plan effect).rung = s.rung ++ plan.starts effect := by
  unfold ringBy Plan.starts
  split
  · simp [rung, beginVibration, send, Command.ringEffect?]
  · rw [List.append_nil]

/-! ## Waiting in vain -/

section

variable {base : List Vibration.Effect} {plan : Plan n} {deadline now : Nat}
  {signal : HapticsSignal}

/-- A plan waits at some time, for a player who does not tell, and nothing vibrates. -/
structure Waits (base : List Vibration.Effect) (plan : Plan n) (deadline : Nat)
    (signal : HapticsSignal) (now : Nat) (t : Alerter n) : Prop where
  timed : t.motor.timed = true
  now : t.motor.now = now
  rest : t.motor.gate.running = none
  rung : t.rung = base
  wait : ∃ ahead, t.wait = some ⟨plan, t.motor.gate.generation, deadline, signal, ahead⟩ ∧
    (signal = .lost → ahead.isSome = true)

/-- The plan was carried out by its fallback, and none waits. -/
structure FellBack (base : List Vibration.Effect) (plan : Plan n) (t : Alerter n) : Prop where
  rung : t.rung = base ++ plan.starts plan.fallback
  pending : t.pending = none

theorem FellBack.after (h : FellBack base plan t) (hkeeps : Keeps t u) : FellBack base plan u :=
  ⟨hkeeps.rung.trans h.rung, hkeeps.pending.trans h.pending⟩

/-- A plan that was carried out is not carried out again. -/
theorem FellBack.carries (h : FellBack base plan t) (hcarries : Carries t u) :
    FellBack base plan u := by
  cases hcarries with
  | keeps hkeeps => exact h.after hkeeps
  | plays other hother _ _ => exact absurd (h.pending.symm.trans hother) (by simp)

namespace Waits

/-- The motor only takes endings off its agenda, and the plan waits as before. -/
theorem onMotor (h : Waits base plan deadline signal now t)
    {act : Motor (Fin n) → Motor (Fin n) × Unit} {agenda : List Ending}
    (hact : (act t.drained.motor).1 = { t.drained.motor with agenda }) :
    Waits base plan deadline signal now (t.onMotor act).1 := by
  have htold : (t.onMotor act).1.sent = t.sent := by
    show t.sent ++ (act t.drained.motor).1.gate.sent.map Command.motor = t.sent
    rw [hact]
    exact List.append_nil _
  have hmotor : (t.onMotor act).1.motor = { t.drained.motor with agenda } := by
    show ({ (act t.drained.motor).1 with gate :=
      { (act t.drained.motor).1.gate with sent := [] } } : Motor (Fin n)) = _
    rw [hact]
    rfl
  refine ⟨hmotor ▸ h.timed, hmotor ▸ h.now, hmotor ▸ h.rest, ?_, ?_⟩
  · exact (congrArg (List.filterMap Command.ringEffect?) htold).trans h.rung
  · rw [hmotor]
    exact h.wait

theorem passUntil (h : Waits base plan deadline signal now t) (limit : Nat) :
    Waits base plan deadline signal now (t.passUntil limit) :=
  h.onMotor (Motor.passUntil_of_rest t.drained.motor h.rest limit)

theorem passFirst (h : Waits base plan deadline signal now t) (count : Nat) :
    Waits base plan deadline signal now (t.passFirst count) :=
  h.onMotor (Motor.passFirst_of_rest t.drained.motor h.rest count)

/-- A wait that was looked at in vain lingers. -/
theorem linger (h : Waits base plan deadline .awaited now t) (ahead : Option Nat) :
    Waits base plan deadline .awaited now
      (t.linger ⟨plan, t.motor.gate.generation, deadline, .awaited, ahead⟩) :=
  ⟨h.timed, h.now, h.rest, h.rung, none, rfl, nofun⟩

/-- A plan that is carried out by its fallback. -/
theorem fellBack (h : Waits base plan deadline signal now t) :
    FellBack base plan (t.dropWait.fallBack (some t.motor.gate.generation) plan) := by
  have hfall : t.dropWait.fallBack (some t.motor.gate.generation) plan =
      t.dropWait.ringBy plan plan.fallback :=
    fallBack_of_rest (s := t.dropWait) h.rest (.inr rfl) plan
  rw [hfall]
  refine ⟨?_, congrArg (Option.map Wait.plan) (conclude_keeps t.dropWait plan .lost).2⟩
  rw [rung_ringBy]
  exact congrArg (· ++ _) h.rung

/-- The same wait is of the same generation. -/
theorem generation_eq {later : Nat} (ht : Waits base plan deadline signal now t)
    (hu : Waits base plan deadline signal later u) (hkept : u.wait = t.wait) :
    t.motor.gate.generation = u.motor.gate.generation := by
  obtain ⟨_, hwait, -⟩ := ht.wait
  obtain ⟨_, hsame, -⟩ := hu.wait
  rw [hkept, hwait] at hsame
  exact congrArg Wait.generation (Option.some.inj hsame)

/-- A look at the wait carries the plan out by its fallback, or the time is not over and
the plan waits on. -/
theorem attend (h : Waits base plan deadline signal now t)
    (hmissing : ∀ coupled, signal ≠ .known coupled) (ahead : Option Nat) :
    let wait : Wait n := ⟨plan, t.motor.gate.generation, deadline, signal, ahead⟩
    FellBack base plan (t.attend wait) ∨
      signal = .awaited ∧ now < deadline ∧ Waits base plan deadline signal now (t.attend wait) := by
  intro wait
  cases signal with
  | known coupled => exact absurd rfl (hmissing coupled)
  | lost => exact .inl h.fellBack
  | awaited =>
    rcases Nat.lt_or_ge now deadline with hearly | hover
    · have hbefore : t.motor.now < wait.deadline := h.now.symm ▸ hearly
      rw [attend_of_early rfl hbefore]
      exact .inr ⟨rfl, hearly, h.linger ahead⟩
    · left
      have hattend : t.attend wait = t.dropWait.fallBack (some t.motor.gate.generation) plan :=
        if_pos (h.now.symm ▸ hover)
      rw [hattend]
      exact h.fellBack

theorem takeTurn (h : Waits base plan deadline signal now t)
    (hmissing : ∀ coupled, signal ≠ .known coupled) :
    FellBack base plan t.takeTurn ∨
      signal = .awaited ∧ Waits base plan deadline signal now t.takeTurn := by
  obtain ⟨ahead, hwait, hinline⟩ := h.wait
  unfold Alerter.takeTurn
  rw [hwait]
  cases ahead with
  | none =>
    -- out of line, so the player has not given up
    right
    cases signal with
    | known coupled => exact absurd rfl (hmissing coupled)
    | lost => cases hinline rfl
    | awaited => exact ⟨rfl, h⟩
  | some ahead =>
    have hpassed := h.passFirst ahead
    have hkept : (t.passFirst ahead).wait = t.wait := (touches_onMotor t _).keeps .wait (by decide)
    dsimp only
    rw [h.generation_eq hpassed hkept]
    exact (hpassed.attend hmissing (some ahead)).imp_right fun h => ⟨h.1, h.2.2⟩

/-- What is due comes to pass, and of a player who gave up nothing more is waited for. -/
theorem settle (h : Waits base plan deadline signal now t)
    (hmissing : ∀ coupled, signal ≠ .known coupled) :
    FellBack base plan t.settle ∨
      signal = .awaited ∧ Waits base plan deadline signal now t.settle := by
  rw [Alerter.settle, if_pos h.timed]
  rcases h.takeTurn hmissing with hfell | ⟨hsignal, hwaits⟩
  · exact .inl (hfell.after (keeps_passUntil _ _))
  · exact .inr ⟨hsignal, hwaits.passUntil _⟩

/-- The clock moves, and by the deadline the plan is carried out. -/
theorem advance (h : Waits base plan deadline signal now t)
    (hmissing : ∀ coupled, signal ≠ .known coupled) (milliseconds : Nat) :
    FellBack base plan (t.advance milliseconds) ∨
      signal = .awaited ∧ now + milliseconds < deadline ∧
        Waits base plan deadline signal (now + milliseconds) (t.advance milliseconds) := by
  rw [Alerter.advance, if_pos h.timed]
  rcases h.settle hmissing with hfell | ⟨hsignal, hwaits⟩
  · exact .inl ((hfell.carries (carries_timeOut _ _)).after (keeps_moveClock _ _))
  · obtain ⟨ahead, hwait, -⟩ := hwaits.wait
    rw [hwaits.now]
    rcases Nat.lt_or_ge (now + milliseconds) deadline with hearly | hover
    · right
      have hlasts : t.settle.timeOut (now + milliseconds) = t.settle := by
        unfold timeOut
        rw [hwait]
        exact if_neg (Nat.not_le_of_gt hearly)
      have hpassed := hwaits.passUntil (now + milliseconds)
      rw [hlasts]
      exact ⟨hsignal, hearly, hpassed.timed, rfl, hpassed.rest, hpassed.rung, hpassed.wait⟩
    · left
      have hpassed := hwaits.passUntil deadline
      have hkept : (t.settle.passUntil deadline).wait = t.settle.wait :=
        (touches_passUntil _ _).keeps .wait (by decide)
      rw [timeOut_of_over hwait hover]
      refine FellBack.after ?_ (keeps_moveClock _ _)
      rw [hwaits.generation_eq hpassed hkept]
      exact hpassed.fellBack

/-- The player gives up. -/
theorem lose (h : Waits base plan deadline .awaited now t) :
    Waits base plan deadline .lost now (t.signal .lost) := by
  obtain ⟨ahead, hwait, -⟩ := h.wait
  unfold Alerter.signal
  rw [hwait]
  refine ⟨h.timed, h.now, h.rest, h.rung, ahead.or (some t.motor.dueCount), rfl, fun _ => ?_⟩
  cases ahead <;> rfl

end Waits

/-- A step past the motor and the plan that waits. -/
structure Aside (t u : Alerter n) : Prop where
  motor : u.motor = t.motor
  wait : u.wait = t.wait
  rung : u.rung = t.rung

theorem Waits.aside (h : Waits base plan deadline signal now t) (haside : Aside t u) :
    Waits base plan deadline signal now u := by
  obtain ⟨hmotor, hwait, hrung⟩ := haside
  refine ⟨hmotor ▸ h.timed, hmotor ▸ h.now, hmotor ▸ h.rest, hrung.trans h.rung, ?_⟩
  rw [hwait, hmotor]
  exact h.wait

/-- What may happen meanwhile lets time pass, or it passes the motor by. -/
theorem aside_of_patient {operation : Operation n} (h : operation.isPatient = true) :
    operation = .settle ∨ (∃ milliseconds, operation = .advance milliseconds) ∨
      operation.elapsed = 0 ∧ ∀ t : Alerter n, Aside t (t.perform operation).1 := by
  have hpast : Part.motor ∉ operation.parts → Part.wait ∉ operation.parts →
      .motor (.vibration .ringtone) ∉ operation.topics →
      ∀ t : Alerter n, Aside t (t.perform operation).1 := by
    intro hmotor hwait htopics t
    have htouch := touches_perform t operation
    exact ⟨htouch.keeps .motor hmotor, htouch.keeps .wait hwait,
      (says_perform t operation).rung htopics⟩
  cases operation with
  | settle => exact .inl rfl
  | advance milliseconds => exact .inr (.inl ⟨milliseconds, rfl⟩)
  | startRinging => cases h
  | startCarrierRing => cases h
  | stopRinging => cases h
  | startWaiting => cases h
  | buzzOnConnect => cases h
  | tellHaptics => cases h
  | loseHaptics => cases h
  | _ =>
    refine .inr (.inr ⟨rfl, hpast ?_ ?_ ?_⟩)
    · simp [Operation.parts]
    · simp [Operation.parts]
    · simp [Operation.topics]

/-- A plan that waits goes on waiting as the clock moves, or it is carried out by its
fallback. -/
theorem Waits.perform (h : Waits base plan deadline signal now t)
    (hmissing : ∀ coupled, signal ≠ .known coupled) {operation : Operation n}
    (hpatient : operation.isPatient = true) :
    FellBack base plan (t.perform operation).1 ∨
      Waits base plan deadline signal (now + operation.elapsed) (t.perform operation).1 := by
  rcases aside_of_patient hpatient with rfl | ⟨milliseconds, rfl⟩ | ⟨hstill, haside⟩
  · exact (h.settle hmissing).imp_right And.right
  · exact (h.advance hmissing milliseconds).imp_right fun h => h.2.2
  · rw [hstill]
    exact .inr (h.aside (haside t))

theorem FellBack.perform (h : FellBack base plan t) {operation : Operation n}
    (hpatient : operation.isPatient = true) : FellBack base plan (t.perform operation).1 := by
  refine h.carries (carries_of_not_silences ?_ ?_)
  · cases operation with
    | startRinging => cases hpatient
    | startCarrierRing => cases hpatient
    | _ => rfl
  · cases operation with
    | stopRinging => cases hpatient
    | startWaiting => cases hpatient
    | _ => rfl

theorem FellBack.run {operations : List (Operation n)} (h : FellBack base plan t)
    (hpatient : ∀ operation ∈ operations, operation.isPatient = true) :
    FellBack base plan (t.run operations) := by
  induction operations generalizing t with
  | nil => exact h
  | cons operation rest ih =>
    exact ih (h.perform (hpatient operation (by simp))) fun other hmem =>
      hpatient other (List.mem_cons_of_mem operation hmem)

/-- So it is after any number of things that may happen meanwhile. -/
theorem Waits.run {operations : List (Operation n)} (h : Waits base plan deadline signal now t)
    (hmissing : ∀ coupled, signal ≠ .known coupled)
    (hpatient : ∀ operation ∈ operations, operation.isPatient = true) :
    FellBack base plan (t.run operations) ∨
      Waits base plan deadline signal (now + elapsed operations) (t.run operations) := by
  induction operations generalizing t now with
  | nil => exact .inr h
  | cons operation rest ih =>
    have hrest : ∀ other ∈ rest, other.isPatient = true := fun other hmem =>
      hpatient other (List.mem_cons_of_mem operation hmem)
    have hsum : now + elapsed (operation :: rest) = now + operation.elapsed + elapsed rest :=
      (Nat.add_assoc _ _ _).symm
    rw [hsum]
    rcases h.perform hmissing (hpatient operation (by simp)) with hfell | hwaits
    · exact .inl (hfell.run hrest)
    · exact ih hwaits hrest

theorem run_append (s : Alerter n) (before after : List (Operation n)) :
    s.run (before ++ after) = (s.run before).run after :=
  List.foldl_append

/-- A plan whose player gave up does not outlast the next turn. -/
theorem fellBack_settle (h : FellBack base plan t ∨ Waits base plan deadline .lost now t) :
    FellBack base plan t.settle := by
  rcases h with hfell | hwaits
  · exact hfell.carries (carries_settle t)
  · exact (hwaits.settle nofun).resolve_right nofun

/-- Whichever way the word is missed, a plan that waits for it is carried out by its
fallback in the end. -/
theorem Waits.fellBack_of_misses {timeout : Nat} {operations : List (Operation n)}
    (h : Waits base plan (now + timeout) signal now t)
    (hmisses : Misses timeout (some signal) operations) :
    FellBack base plan (t.run operations) := by
  cases hmisses with
  | lost meanwhile hpatient =>
    rw [run_concat]
    exact fellBack_settle (h.run nofun hpatient)
  | lostLater before after hbefore hafter =>
    have hlost : FellBack base plan ((t.run before).signal .lost) ∨
        Waits base plan (now + timeout) .lost (now + elapsed before)
          ((t.run before).signal .lost) :=
      (h.run nofun hbefore).imp (fun hfell => hfell.after (keeps_signal _ _)) Waits.lose
    have hlater : FellBack base plan (((t.run before).signal .lost).run after) ∨
        Waits base plan (now + timeout) .lost (now + elapsed before + elapsed after)
          (((t.run before).signal .lost).run after) :=
      hlost.elim (fun hfell => .inl (hfell.run hafter)) fun hwaits => hwaits.run nofun hafter
    rw [run_append]
    show FellBack base plan (((t.run before).signal .lost).run (after ++ [.settle]))
    rw [run_concat]
    exact fellBack_settle hlater
  | timedOut meanwhile hpatient last hover =>
    rw [run_concat]
    rcases h.run nofun hpatient with hfell | hwaits
    · exact hfell.carries (carries_advance _ last)
    · refine (hwaits.advance nofun last).resolve_right ?_
      rintro ⟨-, hearly, -⟩
      omega

end

/-! ## Without a runtime -/

/-- Whichever way the word is missed, the player tells nothing. -/
theorem Misses.isPatient {timeout : Nat} {signal : Option HapticsSignal}
    {operations : List (Operation n)} (h : Misses timeout signal operations) :
    ∀ operation ∈ operations, operation.isPatient = true ∨ operation = .loseHaptics := by
  intro operation hmem
  cases h with
  | unpromised => cases hmem
  | lost meanwhile hpatient =>
    rcases List.mem_append.mp hmem with hmem | hmem
    · exact .inl (hpatient operation hmem)
    · exact .inl (List.mem_singleton.mp hmem ▸ rfl)
  | lostLater before after hbefore hafter =>
    rcases List.mem_append.mp hmem with hmem | hmem
    · exact .inl (hbefore operation hmem)
    · rcases List.mem_cons.mp hmem with rfl | hmem
      · exact .inr rfl
      · rcases List.mem_append.mp hmem with hmem | hmem
        · exact .inl (hafter operation hmem)
        · exact .inl (List.mem_singleton.mp hmem ▸ rfl)
  | timedOut meanwhile hpatient last hover =>
    rcases List.mem_append.mp hmem with hmem | hmem
    · exact .inl (hpatient operation hmem)
    · exact .inl (List.mem_singleton.mp hmem ▸ rfl)

/-- Nor is the word that was to come a word about haptics. -/
theorem Misses.not_known {timeout : Nat} {signal : HapticsSignal}
    {operations : List (Operation n)} (h : Misses timeout (some signal) operations)
    (coupled : Bool) : signal ≠ .known coupled := by
  rintro rfl
  cases h

theorem timed_passUntil (t : Alerter n) (deadline : Nat) :
    (t.passUntil deadline).motor.timed = t.motor.timed := by
  show (Motor.passUntil _ deadline).timed = _
  rw [Motor.passUntil_eq]

/-- Without a runtime only the ends of brief vibrations come to pass. -/
theorem settle_of_untimed (htimed : t.motor.timed = false) :
    t.settle = t.passUntil t.motor.now := by
  rw [Alerter.settle, if_neg (ne_true_of_eq_false htimed)]

theorem advance_of_untimed (htimed : t.motor.timed = false) (milliseconds : Nat) :
    t.advance milliseconds = t.settle.moveClock (t.settle.motor.now + milliseconds) := by
  rw [Alerter.advance, if_neg (ne_true_of_eq_false htimed)]

theorem perform_of_untimed {operation : Operation n} (htimed : t.motor.timed = false)
    (hquiet : operation.isPatient = true ∨ operation = .loseHaptics) :
    (t.perform operation).1.motor.timed = false ∧ (t.perform operation).1.rung = t.rung := by
  have hsettle : t.settle.motor.timed = false ∧ t.settle.rung = t.rung := by
    rw [settle_of_untimed htimed, timed_passUntil]
    exact ⟨htimed, (keeps_passUntil t _).rung⟩
  rcases hquiet with hpatient | rfl
  · rcases aside_of_patient hpatient with rfl | ⟨milliseconds, rfl⟩ | ⟨-, haside⟩
    · exact hsettle
    · show (t.advance milliseconds).motor.timed = false ∧ (t.advance milliseconds).rung = t.rung
      rw [advance_of_untimed htimed, (keeps_moveClock _ _).rung]
      exact ⟨(timed_passUntil _ _).trans hsettle.1, hsettle.2⟩
    · exact ⟨(congrArg Motor.timed (haside t).motor).trans htimed, (haside t).rung⟩
  · have hmotor : (t.signal .lost).motor = t.motor :=
      (touches_signal t .lost).keeps .motor (by decide)
    exact ⟨(congrArg Motor.timed hmotor).trans htimed, (keeps_signal t .lost).rung⟩

/-- Without a runtime nothing rings later. -/
theorem rung_run_of_untimed {operations : List (Operation n)} (htimed : t.motor.timed = false)
    (hquiet : ∀ operation ∈ operations, operation.isPatient = true ∨ operation = .loseHaptics) :
    (t.run operations).rung = t.rung := by
  induction operations generalizing t with
  | nil => rfl
  | cons operation rest ih =>
    obtain ⟨hstill, hrung⟩ := perform_of_untimed htimed (hquiet operation (by simp))
    refine (ih hstill fun other hmem => ?_).trans hrung
    exact hquiet other (List.mem_cons_of_mem operation hmem)

/-! ## The result -/

theorem keeps_announce (s : Alerter n) (place : Fin n) (ringtone : Ringtone) :
    Keeps s (s.announce place ringtone) :=
  (((keeps_stopWaiting s).trans (keeps_noteMotor _ place)).trans (keeps_beginRing _ place)).trans
    (.of_step (touches_play _ ringtone _ _) (says_play _ ringtone _ _) (by decide) (by decide))

/-- A request that is heard is announced, and decides by what its player says. -/
theorem startRinging_of_heard {place : Fin n} (handsFree : Bool)
    (hringing : (s.call place).state.isRinging = true)
    (haudible : (s.toneInputs place).isAudible = true)
    (hlate : (s.toneInputs place).endsEarly = false) :
    ∃ ringtone, (s.startRinging (some place) handsFree).1 =
      (match s.surroundings.hapticsSignal with
      | some signal => (s.announce place ringtone).schedule signal
          (s.heardPlan place (s.toneInputs place))
      | none => (s.announce place ringtone).vibrateFor none place (s.toneInputs place).contact
          (s.selectEffect place) s.isMotorEnabled).flashOn := by
  have hsource : (s.surroundings.ringtoneOf (s.call place)).isSome = true :=
    (Bool.and_eq_true_iff.mp haudible).2
  obtain ⟨ringtone, hsome⟩ := Option.isSome_iff_exists.mp hsource
  refine ⟨ringtone, ?_⟩
  rw [startRinging_eq handsFree hringing, if_neg (ne_true_of_eq_false hlate), hsome]
  exact renderRing_eq_of_audible s place ringtone haudible

/-- The vibrations that the settings let a ring start. -/
def ringsWith (s : Alerter n) (effect : Vibration.Effect) : List Vibration.Effect :=
  if s.isMotorEnabled then [effect] else []

/-- The vibrations of rings after a request to ring whose player answers in some way and
never tells. -/
def rungWithout (s : Alerter n) (place : Fin n) (handsFree timed : Bool)
    (signal : Option HapticsSignal) (operations : List (Operation n)) : List Vibration.Effect :=
  (((s.facing timed signal).startRinging (some place) handsFree).1.run operations).rung

section

variable {place : Fin n} (handsFree : Bool) (hrest : s.motor.gate.running = none)
  (hringing : (s.call place).state.isRinging = true)
  (haudible : (s.toneInputs place).isAudible = true)
  (hlate : (s.toneInputs place).endsEarly = false)

include haudible in
theorem starts_heardPlan (effect : Vibration.Effect) :
    (s.heardPlan place (s.toneInputs place)).starts effect = s.ringsWith effect := by
  have hcontact : (s.toneInputs place).contact = true :=
    (Bool.and_eq_true_iff.mp (Bool.and_eq_true_iff.mp haudible).1).2
  unfold Plan.starts ringsWith heardPlan plan
  dsimp only
  rw [hcontact, Bool.and_true]

include hrest hringing haudible hlate

/-- A player that promises no word leaves the ring with the effect of the ringtone. -/
theorem rungWithout_unpromised (timed : Bool) :
    s.rungWithout place handsFree timed none [] = s.rung ++ s.ringsWith (s.selectEffect place) := by
  obtain ⟨ringtone, hstart⟩ :=
    startRinging_of_heard (s := s.facing timed none) handsFree hringing haudible hlate
  have hkeeps := keeps_announce (s.facing timed none) place ringtone
  have hmotor := (touches_announce (s.facing timed none) place ringtone).motor (by decide)
  have hring : ((s.facing timed none).announce place ringtone).vibrateFor none place
      (s.toneInputs place).contact (s.selectEffect place) s.isMotorEnabled =
        ((s.facing timed none).announce place ringtone).ringBy
          (s.heardPlan place (s.toneInputs place)) (s.selectEffect place) :=
    vibrateFor_of_rest (hmotor ▸ hrest) (.inl rfl) _ _ _ _
  have hstarted : ((s.facing timed none).startRinging (some place) handsFree).1 =
      (((s.facing timed none).announce place ringtone).ringBy
        (s.heardPlan place (s.toneInputs place)) (s.selectEffect place)).flashOn := by
    rw [← hring]
    exact hstart
  show ((s.facing timed none).startRinging (some place) handsFree).1.rung = _
  rw [hstarted, (keeps_flashOn _).rung, rung_ringBy, starts_heardPlan haudible, hkeeps.rung]
  rfl

/-- A player that promises a word and never tells leaves the ring with the default. -/
theorem rungWithout_promised (timed : Bool) {signal : HapticsSignal}
    {operations : List (Operation n)}
    (hmisses : Misses s.profile.hapticsTimeout (some signal) operations) :
    s.rungWithout place handsFree timed (some signal) operations =
      s.rung ++ s.ringsWith s.ringEffect := by
  obtain ⟨ringtone, hstart⟩ :=
    startRinging_of_heard (s := s.facing timed (some signal)) handsFree hringing haudible hlate
  set announced := (s.facing timed (some signal)).announce place ringtone
  set plan := s.heardPlan place (s.toneInputs place)
  have hannounced := touches_announce (s.facing timed (some signal)) place ringtone
  have hmotor : announced.motor = (s.withClock timed).motor := hannounced.motor (by decide)
  have hrung : announced.rung = s.rung := (keeps_announce _ place ringtone).rung
  have hstarted : ((s.facing timed (some signal)).startRinging (some place) handsFree).1 =
      (announced.schedule signal plan).flashOn := hstart
  have heffect : plan.starts plan.fallback = s.ringsWith s.ringEffect := starts_heardPlan haudible _
  rw [rungWithout, hstarted, ← heffect]
  cases timed with
  | false =>
    have hring : announced.schedule signal plan = announced.ringBy plan plan.fallback := by
      rw [schedule_of_untimed (hmotor ▸ rfl) (hmotor ▸ hrest)]
      cases signal with
      | known coupled => exact absurd rfl (hmisses.not_known coupled)
      | lost => rfl
      | awaited => rfl
    have huntimed : (announced.schedule signal plan).flashOn.motor.timed = false := by
      have hflash : (announced.schedule signal plan).flashOn.motor =
          (announced.schedule signal plan).motor := (touches_flashOn _).keeps .motor (by decide)
      rw [hflash, hring]
      unfold ringBy
      split <;> exact (congrArg Motor.timed hmotor :)
    rw [rung_run_of_untimed huntimed hmisses.isPatient, (keeps_flashOn _).rung, hring, rung_ringBy,
      hrung]
  | true =>
    -- the default of this moment is in the plan, whatever the settings become
    have hwaits : Waits s.rung plan (s.motor.now + s.profile.hapticsTimeout) signal s.motor.now
        (announced.schedule signal plan).flashOn := by
      rw [schedule_of_timed (hmotor ▸ rfl)]
      have hprofile : announced.profile = s.profile := hannounced.keeps .profile (by decide)
      set later := { announced with wait := some (announced.await signal plan) }.flashOn
      have hlater : later.motor = (s.withClock true).motor :=
        Eq.trans ((touches_flashOn _).keeps .motor (by decide)) hmotor
      have hwait : later.wait = some (announced.await signal plan) :=
        (touches_flashOn _).keeps .wait (by decide)
      refine ⟨by rw [hlater]; rfl, by rw [hlater]; rfl, by rw [hlater]; exact hrest,
        (keeps_flashOn _).rung.trans hrung, some announced.motor.dueCount, ?_, fun _ => rfl⟩
      rw [hwait, await, hmotor, hlater, hprofile]
      rfl
    exact (hwaits.fellBack_of_misses hmisses).rung

end

/-- Nothing vibrates, and a call rings that is to be heard. Whether the player promises no
word about haptics, has given up, gives up later or does not tell in time, and whether there
is a runtime or not: the phone vibrates exactly if the settings let it. It vibrates with the
default effect of the time of the request if a word was promised, and else with the effect
of the ringtone. So the default is what every ring without a word falls back on exactly if
the settings let nothing vibrate or the effect of the ringtone is the default. -/
theorem startRinging_falls_back_iff (s : Alerter n) (place : Fin n) (handsFree : Bool)
    (hrest : s.motor.gate.running = none) (hringing : (s.call place).state.isRinging = true)
    (haudible : (s.toneInputs place).isAudible = true)
    (hlate : (s.toneInputs place).endsEarly = false) :
    (∀ timed signal operations, Misses s.profile.hapticsTimeout signal operations →
      s.rungWithout place handsFree timed signal operations =
        s.rung ++ s.ringsWith (if signal.isSome then s.ringEffect else s.selectEffect place)) ∧
    ((∀ timed signal operations, Misses s.profile.hapticsTimeout signal operations →
      s.rungWithout place handsFree timed signal operations =
        s.rung ++ s.ringsWith s.ringEffect) ↔
      s.isMotorEnabled = false ∨ s.selectEffect place = s.ringEffect) := by
  have hrings : ∀ timed signal operations, Misses s.profile.hapticsTimeout signal operations →
      s.rungWithout place handsFree timed signal operations =
        s.rung ++ s.ringsWith (if signal.isSome then s.ringEffect else s.selectEffect place) := by
    intro timed signal operations hmisses
    cases signal with
    | none =>
      cases hmisses
      exact rungWithout_unpromised handsFree hrest hringing haudible hlate timed
    | some signal =>
      exact rungWithout_promised handsFree hrest hringing haudible hlate timed hmisses
  refine ⟨hrings, ?_, ?_⟩
  · intro hdefault
    -- of all the ways only the unpromised word may tell another effect from the default
    have hsame := (hrings true none [] .unpromised).symm.trans (hdefault true none [] .unpromised)
    rw [List.append_cancel_left_eq] at hsame
    unfold ringsWith at hsame
    cases henabled : s.isMotorEnabled with
    | false => exact .inl rfl
    | true =>
      rw [henabled] at hsame
      exact .inr (List.singleton_inj.mp hsame)
  · intro hsame timed signal operations hmisses
    rw [hrings timed signal operations hmisses]
    rcases hsame with hdisabled | heffect
    · simp only [ringsWith, hdisabled]
      rfl
    · rw [heffect, ite_self]

/-- The ringtone has no vibration of its own, so every way to miss the word leaves the ring
with the default, a wait that lasts too long among them. -/
theorem startRinging_falls_back_on_default :
    let ring : Call :=
      { state := .ringing, ringtone := some ⟨"content://ring"⟩, id := .ofNat 1, log := .empty 64 }
    let start := idle (n := 1) ⟨#v[ring]⟩ {} { vibrateWhenRinging := true } {} true
    start.selectEffect 0 = start.ringEffect ∧
      start.rungWithout 0 false true (some .awaited) [.advance 400, .advance 600] =
        [start.ringEffect] := by
  intro ring start
  have heffect : start.selectEffect 0 = start.ringEffect := rfl
  have hfalls := startRinging_falls_back_iff start 0 false rfl rfl (by decide) (by decide)
  have hmisses : Misses start.profile.hapticsTimeout (some .awaited)
      ([.advance 400] ++ [.advance 600] : List (Operation 1)) :=
    .timedOut [.advance 400] (by simp [Operation.isPatient]) 600 (by decide)
  exact ⟨heffect, hfalls.2.mpr (.inr heffect) true _ _ hmisses⟩

/-- The ringtone has a vibration of its own. A player that promises no word leaves the ring
with it, and one that gives up leaves the ring with the default. -/
theorem startRinging_forgets_fallback :
    let ring : Call :=
      { state := .ringing, ringtone := some ⟨"content://ring"⟩, id := .ofNat 1, log := .empty 64 }
    let start := idle (n := 1) ⟨#v[ring]⟩ {} { vibrateWhenRinging := true }
      { ringtoneEffect := fun _ => .ok (some .thud) } true
    start.motor.gate.running = none ∧ (start.call 0).state.isRinging = true ∧
      (start.toneInputs 0).isAudible = true ∧ (start.toneInputs 0).endsEarly = false ∧
      Misses start.profile.hapticsTimeout none ([] : List (Operation 1)) ∧
      Misses start.profile.hapticsTimeout (some .lost) ([.settle] : List (Operation 1)) ∧
      start.rungWithout 0 false true none [] = [.thud] ∧
      start.rungWithout 0 false true (some .lost) [.settle] = [start.ringEffect] ∧
      start.ringEffect ≠ .thud := by
  intro ring start
  refine ⟨rfl, rfl, by decide, by decide, .unpromised, .lost [] (by simp), ?_, ?_, ?_⟩
  · decide
  · decide
  · decide

end Alerter

end PhoneAudio
