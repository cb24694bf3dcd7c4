import PhoneAudio.Proofs.Alerter.Exclusion
import PhoneAudio.Proofs.Alerter.Supersession
import PhoneAudio.Proofs.Alerter.Steady

/-!
# Waits as tasks

An alerter holds at most one wait, and forgets the one before when a new one begins. A
phone that carries out waits as tasks of their own has to do more: whoever begins a task
keeps a handle to it, and a task runs on until it is over or is given up through its
handle. A task whose handle is lost runs on unseen, and one that outlives a cancellation is
refused by the gate when its turn comes.

`Tasks` are such tasks, followed beside an alerter. They are begun and given up by what the
operations ask for, and each of them goes on by its own word and its own deadline; what the
alerter holds is not looked at. That it comes to the same nevertheless (`Tasks.Matched`)
rests on one equation for the wait after an operation (`wait_perform`). No task is late
(`Timely`), since only an operation that gives up the wait begins a new generation.
-/

namespace PhoneAudio.Alerter

variable {n : Nat} {s : Alerter n}

/-! ## The life of a wait -/

/-- Word comes from the player, if none came before. A wait that rests gets in line. -/
def Wait.told (wait : Wait n) (word : HapticsSignal) (due : Nat) : Wait n :=
  if wait.signal = .awaited then { wait with signal := word, ahead := wait.ahead.or (some due) }
  else wait

/-- Its turn, if it is in line: it is over if word came or its time is up, and rests if not. -/
def Wait.turn (wait : Wait n) (now : Nat) : Option (Wait n) :=
  if wait.ahead = none then some wait
  else if wait.signal = .awaited ∧ now < wait.deadline then some { wait with ahead := none }
  else none

/-- Some time passes. -/
def Wait.outlast (wait : Wait n) (deadline : Nat) : Option (Wait n) :=
  if wait.deadline ≤ deadline then none else some wait

/-- What becomes of a wait in an operation that neither begins one nor gives one up. -/
def onward (s : Alerter n) : Operation n → Wait n → Option (Wait n)
  | .tellHaptics coupled => fun wait => some (wait.told (.known coupled) s.motor.dueCount)
  | .loseHaptics => fun wait => some (wait.told .lost s.motor.dueCount)
  | .settle => if s.motor.timed then fun wait => wait.turn s.motor.now else some
  | .advance milliseconds =>
    if s.motor.timed then fun wait =>
      (wait.turn s.motor.now).bind (·.outlast (s.motor.now + milliseconds))
    else some
  | _ => some

theorem wait_signal (s : Alerter n) (word : HapticsSignal) :
    (s.signal word).wait = s.wait.map (·.told word s.motor.dueCount) := by
  unfold signal
  cases hwait : s.wait with
  | none => exact hwait
  | some wait =>
    rw [Option.map_some, Wait.told]
    dsimp only
    split
    · rfl
    · exact hwait

theorem wait_attend (s : Alerter n) (wait : Wait n) :
    (s.attend wait).wait =
      if wait.signal = .awaited ∧ s.motor.now < wait.deadline then
        some { wait with ahead := none }
      else none := by
  unfold attend
  cases hsignal : wait.signal with
  | known coupled => exact (touches_carryOut _ _ _ _).keeps .wait (by decide)
  | lost => exact (touches_fallBack _ _ _).keeps .wait (by decide)
  | awaited =>
    dsimp only
    split
    next hover =>
      rw [if_neg fun hearly => absurd hover (Nat.not_le_of_lt hearly.2)]
      exact (touches_fallBack _ _ _).keeps .wait (by decide)
    next hearly => rw [if_pos ⟨rfl, Nat.lt_of_not_le hearly⟩]

theorem wait_takeTurn (s : Alerter n) : s.takeTurn.wait = s.wait.bind (·.turn s.motor.now) := by
  cases hwait : s.wait with
  | none => rw [takeTurn_of_wait hwait, hwait, Option.bind_none]
  | some wait =>
    rw [Option.bind_some, Wait.turn, takeTurn, hwait]
    dsimp only
    cases wait.ahead with
    | none => exact hwait
    | some ahead =>
      dsimp only
      rw [wait_attend, (steady_passFirst s ahead).now]
      rfl

theorem wait_timeOut (s : Alerter n) (deadline : Nat) :
    (s.timeOut deadline).wait = s.wait.bind (·.outlast deadline) := by
  unfold timeOut
  cases hwait : s.wait with
  | none => exact hwait
  | some wait =>
    rw [Option.bind_some, Wait.outlast]
    dsimp only
    split
    · exact (touches_fallBack _ _ _).keeps .wait (by decide)
    · exact hwait

theorem wait_settle (s : Alerter n) :
    s.settle.wait = if s.motor.timed then s.wait.bind (·.turn s.motor.now) else s.wait := by
  have hpass : s.settle.wait = (if s.motor.timed then s.takeTurn else s).wait :=
    (touches_passUntil _ _).keeps .wait (by decide)
  rw [hpass, apply_ite Alerter.wait, wait_takeTurn]

theorem wait_advance (s : Alerter n) (milliseconds : Nat) :
    (s.advance milliseconds).wait =
      if s.motor.timed then
        (s.wait.bind (·.turn s.motor.now)).bind (·.outlast (s.motor.now + milliseconds))
      else s.wait := by
  have hmoved : (s.advance milliseconds).wait = (if s.motor.timed then
      s.settle.timeOut (s.settle.motor.now + milliseconds) else s.settle).wait :=
    (touches_moveClock _ _).keeps .wait (by decide)
  rw [hmoved, apply_ite Alerter.wait, wait_timeOut, wait_settle, (steady_settle s).now]
  split <;> rfl

/-- The wait after an operation: the one that it begins, or else what becomes of the one
before, unless that is given up. -/
theorem wait_perform (s : Alerter n) (operation : Operation n) :
    (s.perform operation).1.wait = (s.begun? operation).or
      (if s.silences operation then none else s.wait.bind (s.onward operation)) := by
  cases hrendered : s.rendered? operation with
  | some request =>
    have hstill : s.onward operation = some := by
      cases operation <;> first | rfl | cases hrendered
    rw [wait_of_rendered? hrendered, silences_of_rendered? hrendered,
      if_neg Bool.false_ne_true, hstill, Option.bind_fun_some]
  | none =>
    have hbegun : s.begun? operation = none := by
      rw [begun?, deferral?, hrendered]
      rfl
    rw [hbegun, Option.none_or]
    cases hsilences : s.silences operation with
    | true => exact Option.map_eq_none_iff.mp (perform_of_silences hsilences).2
    | false =>
      rw [if_neg Bool.false_ne_true]
      have htouch := touches_plainly hrendered hsilences
      cases operation with
      | stopRinging => cases hsilences
      | tellHaptics coupled => exact (wait_signal s (.known coupled)).trans Option.map_eq_bind
      | loseHaptics => exact (wait_signal s .lost).trans Option.map_eq_bind
      | settle =>
        refine (wait_settle s).trans ?_
        unfold onward
        split
        · rfl
        · exact (Option.bind_fun_some _).symm
      | advance milliseconds =>
        refine (wait_advance s milliseconds).trans ?_
        unfold onward
        split
        · rw [Option.bind_assoc]
        · exact (Option.bind_fun_some _).symm
      | _ =>
        refine Eq.trans (htouch.keeps .wait ?_) (Option.bind_fun_some _).symm
        simp [Operation.plainParts, Operation.parts]

/-! ## No wait is late -/

/-- The call that rings after a request that is rendered: the one that it is for, if it is
audible, and the one before if not. -/
theorem ringing_of_rendered? {operation : Operation n} {request : Request n}
    (h : s.rendered? operation = some request) :
    (s.perform operation).1.ringing =
      if request.inputs.isAudible then some request.call else s.ringing := by
  rw [perform_of_rendered? h, render]
  cases hcarrier : request.byCarrier with
  | true =>
    rw [if_pos rfl]
    split
    next haudible => exact (renderCarrierRing_of_audible s request.call haudible).1
    next haudible =>
      exact (touches_renderCarrierRing_of_inaudible s request.call (by simpa using haudible)).keeps
        .ringing (by decide)
  | false =>
    have hsource := source_of_request? (Option.filter_eq_some_iff.mp h).1 hcarrier
    rw [if_neg Bool.false_ne_true]
    split
    next haudible => exact (renderRing_of_audible s request.call haudible hsource).1
    next haudible =>
      exact (touches_renderRing_of_inaudible s request.call _ (by simpa using haudible)).keeps
        .ringing (by decide)

/-- Only what silences ends the ring of a call. -/
theorem isSome_ringing_perform {operation : Operation n} (h : s.silences operation = false)
    (hringing : s.ringing.isSome = true) : (s.perform operation).1.ringing.isSome = true := by
  cases hrendered : s.rendered? operation with
  | some request =>
    rw [ringing_of_rendered? hrendered]
    split
    · rfl
    · exact hringing
  | none =>
    have hkeeps : (s.perform operation).1.ringing = s.ringing := by
      refine (touches_plainly hrendered h).keeps .ringing ?_
      cases operation <;> simp [Operation.plainParts, Operation.parts]
    rw [hkeeps]
    exact hringing

/-- A wait is of the current generation, and some call rings. -/
def Timely (s : Alerter n) : Prop :=
  ∀ wait, s.wait = some wait →
    s.ringing.isSome = true ∧ wait.generation = s.motor.gate.generation

/-- A wait that goes on is of the generation that it was begun in. -/
theorem generation_onward {operation : Operation n} {wait later : Wait n}
    (h : s.onward operation wait = some later) : later.generation = wait.generation := by
  have htold : ∀ word due, (wait.told word due).generation = wait.generation := by
    intro word due
    unfold Wait.told
    split <;> rfl
  have hturn : ∀ {now other}, wait.turn now = some other →
      other.generation = wait.generation := by
    intro now other hother
    unfold Wait.turn at hother
    split at hother
    · rw [Option.some.inj hother]
    · obtain ⟨-, hsome⟩ := Option.ite_none_right_eq_some.mp hother
      rw [← Option.some.inj hsome]
  unfold onward at h
  split at h
  · rw [← Option.some.inj h, htold]
  · rw [← Option.some.inj h, htold]
  · split at h
    · exact hturn h
    · rw [Option.some.inj h]
  · split at h
    · obtain ⟨other, hother, hlasts⟩ := Option.bind_eq_some_iff.mp h
      obtain ⟨-, hsome⟩ := Option.ite_none_left_eq_some.mp hlasts
      rw [← Option.some.inj hsome, hturn hother]
    · rw [Option.some.inj h]
  · rw [Option.some.inj h]

/-- A wait is begun by a request that is rendered and audible, in this generation. -/
theorem begun?_eq_some {operation : Operation n} {wait : Wait n}
    (h : s.begun? operation = some wait) :
    (∃ request, s.rendered? operation = some request ∧ request.inputs.isAudible = true) ∧
      wait.generation = s.motor.gate.generation := by
  obtain ⟨plan, hdeferral, hawait⟩ := Option.bind_eq_some_iff.mp h
  obtain ⟨-, hsome⟩ := Option.ite_none_right_eq_some.mp hawait
  obtain ⟨signal, -, rfl⟩ := Option.map_eq_some_iff.mp hsome
  exact ⟨(request_of_deferral? hdeferral).1, rfl⟩

theorem Timely.perform (h : s.Timely) (operation : Operation n) :
    (s.perform operation).1.Timely := by
  intro wait hwait
  rw [wait_perform] at hwait
  cases hbegun : s.begun? operation with
  | some begun =>
    rw [hbegun, Option.some_or] at hwait
    obtain ⟨⟨request, hrendered, haudible⟩, hgeneration⟩ := begun?_eq_some hbegun
    obtain rfl := Option.some.inj hwait
    rw [generation_perform (silences_of_rendered? hrendered), ringing_of_rendered? hrendered,
      if_pos haudible]
    exact ⟨rfl, hgeneration⟩
  | none =>
    rw [hbegun, Option.none_or] at hwait
    obtain ⟨hsilences, hsome⟩ := Option.ite_none_left_eq_some.mp hwait
    rw [Bool.not_eq_true] at hsilences
    obtain ⟨before, hbefore, honward⟩ := Option.bind_eq_some_iff.mp hsome
    obtain ⟨hringing, hgeneration⟩ := h before hbefore
    rw [generation_perform hsilences, generation_onward honward]
    exact ⟨isSome_ringing_perform hsilences hringing, hgeneration⟩

theorem Timely.run (h : s.Timely) (operations : List (Operation n)) : (s.run operations).Timely := by
  induction operations generalizing s with
  | nil => exact h
  | cons operation rest ih => exact ih (h.perform operation)

/-! ## Tasks -/

/-- A wait that is carried out as a task, with the number of the task. -/
structure Task (n : Nat) where
  number : Nat
  wait : Wait n

/-- The tasks that can still run, and the handle that is kept. A handle to a task that is
over is kept like any other. -/
structure Tasks (n : Nat) where
  /-- How many tasks there were. -/
  begun : Nat := 0
  live : List (Task n) := []
  held : Option Nat := none

namespace Tasks

/-- Gives up the task that a handle is kept to, if it can still run. -/
def giveUp (tasks : Tasks n) : Tasks n :=
  { tasks with
    live := tasks.live.filter fun task => tasks.held ≠ some task.number
    held := none }

/-- Begins a task, and gives up the one that a handle was kept to. -/
def start (tasks : Tasks n) (wait : Wait n) : Tasks n where
  begun := tasks.begun + 1
  live := tasks.giveUp.live ++ [⟨tasks.begun, wait⟩]
  held := some tasks.begun

/-- Every task goes on by itself, or is over. -/
def pass (tasks : Tasks n) (step : Wait n → Option (Wait n)) : Tasks n :=
  { tasks with
    live := tasks.live.filterMap fun task => (step task.wait).map (⟨task.number, ·⟩) }

/-- What an operation means for the tasks. What the alerter holds is not looked at. -/
def perform (tasks : Tasks n) (s : Alerter n) (operation : Operation n) : Tasks n :=
  match s.begun? operation with
  | some wait => tasks.start wait
  | none => if s.silences operation then tasks.giveUp else tasks.pass (s.onward operation)

/-- The tasks of a run. -/
def follow (tasks : Tasks n) : Alerter n → List (Operation n) → Tasks n
  | _, [] => tasks
  | s, operation :: rest => (tasks.perform s operation).follow (s.perform operation).1 rest

/-- The handle is to every task that can still run. -/
def Held (tasks : Tasks n) : Prop := ∀ task ∈ tasks.live, tasks.held = some task.number

/-- What can still run is what the alerter waits for, and the handle to it is kept. -/
structure Matched (tasks : Tasks n) (s : Alerter n) : Prop where
  waits : tasks.live.map Task.wait = s.wait.toList
  held : tasks.Held

variable {tasks : Tasks n}

theorem Held.live_giveUp (h : tasks.Held) : tasks.giveUp.live = [] :=
  List.filter_eq_nil_iff.mpr fun task hmem => by simp [h task hmem]

theorem Held.live_start (h : tasks.Held) (wait : Wait n) :
    (tasks.start wait).live = [⟨tasks.begun, wait⟩] := by
  rw [start, h.live_giveUp, List.nil_append]

theorem Held.start (h : tasks.Held) (wait : Wait n) : (tasks.start wait).Held := by
  intro task hmem
  rw [h.live_start] at hmem
  rw [List.mem_singleton.mp hmem]
  rfl

theorem Held.pass (h : tasks.Held) (step : Wait n → Option (Wait n)) : (tasks.pass step).Held := by
  intro task hmem
  obtain ⟨before, hbefore, hstep⟩ := List.mem_filterMap.mp hmem
  obtain ⟨wait, -, rfl⟩ := Option.map_eq_some_iff.mp hstep
  exact h before hbefore

theorem waits_pass (tasks : Tasks n) (step : Wait n → Option (Wait n)) :
    (tasks.pass step).live.map Task.wait = (tasks.live.map Task.wait).filterMap step := by
  rw [pass, List.map_filterMap, List.filterMap_map]
  congr 1
  funext task
  rw [Option.map_map]
  exact congrFun Option.map_id (step task.wait)

theorem Matched.perform (h : tasks.Matched s) (operation : Operation n) :
    (tasks.perform s operation).Matched (s.perform operation).1 := by
  have hwait := wait_perform s operation
  unfold Tasks.perform
  cases hbegun : s.begun? operation with
  | some wait =>
    rw [hbegun, Option.some_or] at hwait
    refine ⟨?_, h.held.start wait⟩
    rw [h.held.live_start, hwait]
    rfl
  | none =>
    rw [hbegun, Option.none_or] at hwait
    dsimp only
    cases hsilences : s.silences operation with
    | true =>
      rw [hsilences, if_pos rfl] at hwait
      constructor
      · rw [if_pos rfl, h.held.live_giveUp, hwait]
        rfl
      · intro task hmem
        rw [if_pos rfl, h.held.live_giveUp] at hmem
        cases hmem
    | false =>
      rw [hsilences, if_neg Bool.false_ne_true] at hwait
      refine ⟨?_, h.held.pass _⟩
      rw [if_neg Bool.false_ne_true, waits_pass, h.waits, hwait]
      cases s.wait with
      | none => rfl
      | some wait => cases honward : s.onward operation wait <;> simp [honward]

theorem Matched.follow (h : tasks.Matched s) (operations : List (Operation n)) :
    (tasks.follow s operations).Matched (s.run operations) := by
  induction operations generalizing tasks s with
  | nil => exact h
  | cons operation rest ih => exact ih (h.perform operation)

end Tasks

/-! ## The result -/

/-- A start in the current generation is refused exactly if something runs already. -/
theorem startIfCurrent_of_current {motor : Motor (Fin n)} {generation : UInt64}
    (h : generation = motor.gate.generation) (owner : Option (Fin n))
    (effect : Vibration.Effect) (usage : Vibration.Usage) :
    (motor.startIfCurrent generation owner effect usage).2 = !motor.gate.isRunning := by
  show (motor.gate.startIfCurrent generation owner effect usage).2 = _
  rw [Gate.startIfCurrent, if_pos h.symm, Gate.start]
  cases motor.gate.isRunning <;> rfl

/-- In every run of an idle alerter at most one task can still run, and it is the wait that
the alerter holds. The handle that is kept is its handle, some call rings, and it is of the
current generation. When its turn comes, after any endings of brief vibrations, the gate
refuses its vibration exactly if another one runs. -/
theorem run_wait_timely (calls : CallTable n) (profile : DeviceProfile) (settings : Settings)
    (surroundings : Surroundings) (timed : Bool) (operations : List (Operation n)) :
    let start := idle calls profile settings surroundings timed
    let s := start.run operations
    let tasks := ({} : Tasks n).follow start operations
    tasks.live.length ≤ 1 ∧
      tasks.live.map Task.wait = s.wait.toList ∧
      ∀ task ∈ tasks.live,
        tasks.held = some task.number ∧
        s.ringing.isSome = true ∧
        task.wait.generation = s.motor.gate.generation ∧
        ∀ endings owner effect usage,
          let motor := s.motor.passAll endings
          (motor.startIfCurrent task.wait.generation owner effect usage).2 =
            !motor.gate.isRunning := by
  intro start s tasks
  have hidle : ({} : Tasks n).Matched start := ⟨rfl, fun _ hmem => absurd hmem List.not_mem_nil⟩
  obtain ⟨hwaits, hheld⟩ := hidle.follow operations
  have htimely : s.Timely := Timely.run (s := start) (fun _ hwait => nomatch hwait) operations
  refine ⟨?_, hwaits, fun task hmem => ⟨hheld task hmem, ?_⟩⟩
  · rw [← List.length_map, hwaits]
    cases s.wait with
    | none => exact Nat.zero_le 1
    | some wait => exact Nat.le_refl 1
  · have hwait : s.wait = some task.wait := by
      rw [← Option.mem_toList, ← hwaits]
      exact List.mem_map_of_mem hmem
    obtain ⟨hringing, hgeneration⟩ := htimely task.wait hwait
    refine ⟨hringing, hgeneration, fun endings owner effect usage => ?_⟩
    exact startIfCurrent_of_current (hgeneration.trans (Motor.generation_passAll _ _).symm) _ _ _

/-- Two calls ring one after the other, the waiting tone is skipped for a third, and after a
stop the first one rings again. Of the three tasks the last can still run, and it is of the
generation that the stop began. -/
theorem run_wait_timely_after_stop :
    let ring (number : Nat) (app : Bool) : Call :=
      { state := .ringing, ringtone := some ⟨"content://ring"⟩, id := .ofNat number
        log := .empty 64, traits := { selfManaged := app } }
    let calls : CallTable 3 := ⟨#v[ring 1 false, ring 2 false, ring 3 true]⟩
    let start := idle calls {} {} { hapticsSignal := some .awaited } true
    let operations : List (Operation 3) :=
      [.startRinging (some 0) false, .settle, .startRinging (some 1) false, .startWaiting 2 none,
        .stopRinging, .startRinging (some 0) false, .advance 10]
    let s := start.run operations
    let tasks := ({} : Tasks 3).follow start operations
    tasks.begun = 3 ∧ ∃ task ∈ tasks.live, task.number = 2 ∧ tasks.held = some task.number ∧
      s.ringing = some 0 ∧ task.wait.generation = 1 := by
  intro ring calls start operations s tasks
  have hbegun : tasks.begun = 3 := by decide
  have hlive : 0 < tasks.live.length := by decide
  have hnewest : tasks.held = some 2 := by decide
  have hfirst : s.ringing = some 0 := by decide
  have hcurrent : s.motor.gate.generation = 1 := by decide
  have hresult := run_wait_timely calls {} {} { hapticsSignal := some .awaited } true operations
  extract_lets at hresult
  -- The facts above are all that is needed: the run is not evaluated again below.
  clear_value s tasks
  obtain ⟨task, hmem⟩ := List.length_pos_iff_exists_mem.mp hlive
  obtain ⟨hheld, -, hgeneration, -⟩ := hresult.2.2 task hmem
  have hnumber : task.number = 2 := Option.some.inj (hheld.symm.trans hnewest)
  exact ⟨hbegun, task, hmem, hnumber, hheld, hfirst, hgeneration.trans hcurrent⟩

end PhoneAudio.Alerter
