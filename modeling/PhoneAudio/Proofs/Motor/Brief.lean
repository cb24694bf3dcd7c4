import PhoneAudio.Proofs.Motor.Diary

/-!
# Brief vibrations end themselves

The end of a brief vibration stops that vibration and no other one, and it does so when
the time of the vibration is over, unless a cancellation came before. Both are read off
a diary that is kept well: an end that is not stale is the end of what runs.

The generation is a word, and after as many cancellations as it can count it is back
where it was. An end that was on the agenda all that time would then stop a vibration
that is not its own, so the number of cancellations is bounded here.
-/

namespace PhoneAudio

namespace Diary

variable {α : Type} {diary after : Diary α} {cancels : Nat} {operation : Motor.Operation α}
  {entry : Entry}

/-- The diary after some of its ends came to pass. -/
def pass (diary : Diary α) (entries : List Entry) : Diary α :=
  { diary with motor := diary.motor.passAll (entries.map Entry.ending) }

/-! ## Whose vibration an end stops -/

/-- An end that comes to pass after others and stops something stops the vibration that
its maker started. -/
theorem Kept.runs_of_stops (h : diary.Kept cancels) {due : Entry → Bool}
    {earlier later : List Entry}
    (hdue : diary.entries.filter due = earlier ++ entry :: later)
    (hstops : ((diary.pass earlier).motor.finish entry.ending.generation).gate.sent ≠
      (diary.pass earlier).motor.gate.sent) :
    (diary.pass earlier).Runs entry.maker := by
  have hmem : ∀ other ∈ earlier ++ entry :: later, other ∈ diary.entries := by
    intro other hother
    rw [← hdue] at hother
    exact List.mem_of_mem_filter hother
  have hcurrent : entry.ending.generation = diary.motor.gate.generation := by
    by_contra hstale
    apply hstops
    rw [Motor.finish_of_stale]
    rwa [pass, Motor.generation_passAll]
  -- the ends that came to pass before it are of other generations
  have hstale : ∀ ending ∈ earlier.map Entry.ending,
      ending.generation ≠ diary.motor.gate.generation := by
    intro ending hending hsame
    obtain ⟨other, hother, rfl⟩ := List.mem_map.mp hending
    obtain rfl := h.eq_of_generation (hmem entry (by simp)) (hmem other (by simp [hother]))
      (hcurrent.trans hsame.symm)
    have hnodup : (earlier ++ entry :: later).Nodup :=
      hdue ▸ (List.Nodup.of_map _ h.apart).filter due
    exact (List.nodup_append.mp hnodup).2.2 entry hother entry List.mem_cons_self rfl
  rw [pass, Motor.passAll_of_stale hstale]
  exact h.own entry (hmem entry (by simp)) hcurrent

/-! ## Who made an end -/

/-- An entry was made by the operation that it names: a brief vibration, which was
accepted and is to end when it has run its length. -/
def Makes (operations : List (Motor.Operation α)) (entry : Entry) : Prop :=
  ∃ before effect usage length rest,
    operations = before ++ .buzz effect usage length :: rest ∧ before.length = entry.maker ∧
      ((({} : Motor α).run before).buzz effect usage length).2 = true ∧
      entry.ending = ⟨(({} : Motor α).run before).now + length,
        (({} : Motor α).run before).gate.generation⟩

theorem Makes.concat {operations : List (Motor.Operation α)} (h : Makes operations entry)
    (operation : Motor.Operation α) : Makes (operations ++ [operation]) entry := by
  obtain ⟨before, effect, usage, length, rest, rfl, hmade⟩ := h
  exact ⟨before, effect, usage, length, rest ++ [operation], by simp, hmade⟩

theorem accepted_iff (motor : Motor α) (effect : Vibration.Effect) (usage : Vibration.Usage)
    (length : Nat) : (motor.buzz effect usage length).2 = true ↔ ¬ motor.gate.isRunning := by
  by_cases hrunning : motor.gate.isRunning
  · simp [Motor.buzz, Motor.start_of_running hrunning, hrunning]
  · simp [Motor.buzz_of_rest hrunning, hrunning]

theorem run_makes (operations : List (Motor.Operation α))
    (hfew : operations.countP Motor.Operation.isCancel < 2 ^ 64) :
    ∀ entry ∈ (({} : Diary α).run operations).entries, Makes operations entry := by
  induction operations using List.reverseRecOn with
  | nil => exact fun _ hmem => (List.not_mem_nil hmem).elim
  | append_singleton operations operation ih =>
    rw [List.countP_append] at hfew
    have hbefore := ih (by omega)
    have hmotor := motor_run ({} : Diary α) operations
    have hlength : (({} : Diary α).run operations).length = operations.length :=
      (length_run {} operations).trans (Nat.zero_add _)
    rw [run_concat]
    generalize hrun : ({} : Diary α).run operations = diary at *
    intro entry hmem
    have hpage := diary.page_perform operation
    generalize diary.perform operation = after at hpage hmem
    cases hpage with
    | idle _ _ => exact (hbefore entry hmem).concat operation
    | cancel _ _ => exact (hbefore entry hmem).concat .cancel
    | start _ _ _ _ => exact (hbefore entry hmem).concat operation
    | @brief effect usage length gate hrest hruns hgeneration =>
      rcases List.mem_cons.mp ((Entry.schedule_perm _ _).mem_iff.mp hmem) with rfl | hold
      · refine ⟨operations, effect, usage, length, [], rfl, hlength.symm, ?_, ?_⟩
        · rw [accepted_iff, ← hmotor]
          exact hrest
        · rw [← hmotor]
      · exact (hbefore entry hold).concat _
    | pass _ _ => exact (hbefore entry (List.mem_of_mem_filter hmem)).concat operation

/-! ## When an end comes -/

/-- An end of the current generation is still to come. -/
structure Awaits (diary : Diary α) (entry : Entry) : Prop where
  made : entry.maker < diary.length
  entered : entry ∈ diary.entries
  current : entry.ending.generation = diary.motor.gate.generation

/-- What an operation started does not run any more. -/
structure Ended (diary : Diary α) (entry : Entry) : Prop where
  made : entry.maker < diary.length
  stopped : ¬ diary.Runs entry.maker

/-- A vibration that is over does not come back. -/
theorem Ended.page (h : diary.Ended entry) (hpage : diary.Page operation after) :
    after.Ended entry := by
  have hlater : ¬ some diary.length = some entry.maker := by
    intro hsame
    have hmade := h.made
    rw [Option.some.inj hsame] at hmade
    exact Nat.lt_irrefl _ hmade
  cases hpage with
  | idle _ _ => exact ⟨Nat.lt_succ_of_lt h.made, h.stopped⟩
  | cancel hrest _ =>
    refine ⟨Nat.lt_succ_of_lt h.made, fun hruns => ?_⟩
    have hrunning := hruns.1
    simp [Gate.isRunning, hrest] at hrunning
  | start _ _ _ _ => exact ⟨Nat.lt_succ_of_lt h.made, fun hruns => hlater hruns.2⟩
  | brief _ _ _ => exact ⟨Nat.lt_succ_of_lt h.made, fun hruns => hlater hruns.2⟩
  | pass _ _ =>
    rw [lapse, Motor.passUntil_eq]
    exact ⟨Nat.lt_succ_of_lt h.made,
      fun hruns => h.stopped ⟨Motor.isRunning_of_passAll _ hruns.1, hruns.2⟩⟩

/-- An end that is to come stays so while no time passes and nothing is cancelled. -/
theorem Awaits.page (h : diary.Awaits entry) (hpage : diary.Page operation after)
    (hpasses : operation.passes = false) (hkeeps : operation.isCancel = false) :
    after.motor.now = diary.motor.now ∧ after.Awaits entry := by
  have hmade := Nat.lt_succ_of_lt h.made
  cases hpage with
  | idle _ _ => exact ⟨rfl, hmade, h.entered, h.current⟩
  | cancel _ _ => cases hkeeps
  | start _ _ _ hgeneration => exact ⟨rfl, hmade, h.entered, h.current.trans hgeneration.symm⟩
  | brief _ _ hgeneration =>
    refine ⟨rfl, hmade, ?_, h.current.trans hgeneration.symm⟩
    exact (Entry.schedule_perm _ _).mem_iff.mpr (List.mem_cons_of_mem _ h.entered)
  | pass htime _ => simp [htime] at hpasses

/-- When time passes an end that is to come stays so until its deadline, and then it ends
its vibration. -/
theorem Awaits.pass (h : diary.Awaits entry) (hkept : diary.Kept cancels)
    (hpage : diary.Page operation after) (hpasses : operation.passes) :
    (after.motor.now < entry.ending.deadline ∧ after.Awaits entry) ∨
      (entry.ending.deadline ≤ after.motor.now ∧ after.Ended entry) := by
  have hmade := Nat.lt_succ_of_lt h.made
  cases hpage with
  | idle hidle _ => simp [hidle] at hpasses
  | cancel _ _ => cases hpasses
  | start hidle _ _ _ => simp [hidle] at hpasses
  | brief _ _ _ => cases hpasses
  | @pass _ limit _ _ =>
    rw [lapse, Motor.passUntil_eq]
    rcases Nat.lt_or_ge limit entry.ending.deadline with hearly | hlate
    · refine .inl ⟨hearly, hmade, ?_, ?_⟩
      · exact List.mem_filter.mpr ⟨h.entered, decide_eq_true hearly⟩
      · exact h.current.trans (Motor.generation_passAll _ _).symm
    · refine .inr ⟨hlate, hmade, fun hruns => ?_⟩
      have hdue : entry.ending ∈ diary.motor.agenda.filter (·.deadline ≤ limit) := by
        rw [← hkept.agenda]
        exact List.mem_filter.mpr ⟨List.mem_map_of_mem h.entered, decide_eq_true hlate⟩
      exact Motor.not_isRunning_passAll hdue h.current hruns.1

theorem Page.now_le (hpage : diary.Page operation after) : diary.motor.now ≤ after.motor.now := by
  cases hpage with
  | pass _ hlimit => exact hlimit
  | _ => exact Nat.le_refl _

/-- The entry of a brief vibration that would start after some operations. -/
def entryAfter (before : List (Motor.Operation α)) (length : Nat) : Entry where
  maker := before.length
  ending := ⟨(({} : Motor α).run before).now + length, (({} : Motor α).run before).gate.generation⟩

/-- The end of a brief vibration is to come when it has just started. -/
theorem awaits_of_accepted {before : List (Motor.Operation α)} (effect : Vibration.Effect)
    (usage : Vibration.Usage) (length : Nat)
    (haccepted : ((({} : Motor α).run before).buzz effect usage length).2 = true) :
    Awaits (({} : Diary α).run (before ++ [.buzz effect usage length]))
      (entryAfter (α := α) before length) := by
  have hlength : (({} : Diary α).run before).length = before.length :=
    (length_run {} before).trans (Nat.zero_add _)
  have hmotor := motor_run ({} : Diary α) before
  rw [accepted_iff, ← hmotor] at haccepted
  obtain ⟨gate, hruns, hgeneration, hbuzz⟩ :=
    page_buzz haccepted effect usage length
  rw [run_concat, hbuzz, entryAfter, ← hlength, ← hmotor]
  refine ⟨Nat.lt_succ_self _, ?_, hgeneration.symm⟩
  exact (Entry.schedule_perm _ _).mem_iff.mpr List.mem_cons_self

/-- A brief vibration that is not cancelled is over when its time has passed, and not
before. -/
theorem run_awaits_or_ended {before rest : List (Motor.Operation α)} {effect : Vibration.Effect}
    {usage : Vibration.Usage} {length : Nat}
    (hfew : (before ++ .buzz effect usage length :: rest).countP
      Motor.Operation.isCancel < 2 ^ 64)
    (haccepted : ((({} : Motor α).run before).buzz effect usage length).2 = true)
    (hkeeps : .cancel ∉ rest) :
    let entry := entryAfter before length
    let diary := ({} : Diary α).run (before ++ .buzz effect usage length :: rest)
    ((diary.motor.now < entry.ending.deadline ∨ rest.any Motor.Operation.passes = false) ∧
        diary.Awaits entry) ∨
      (entry.ending.deadline ≤ diary.motor.now ∧ rest.any Motor.Operation.passes = true ∧
        diary.Ended entry) := by
  intro entry
  induction rest using List.reverseRecOn with
  | nil =>
    rw [List.countP_append] at hfew
    exact .inl ⟨.inr rfl, awaits_of_accepted effect usage length haccepted⟩
  | append_singleton rest operation ih =>
    obtain ⟨hrest, hoperation⟩ : .cancel ∉ rest ∧ .cancel ≠ operation := by
      simpa [not_or] using hkeeps
    have hnone : operation.isCancel = false := by
      cases operation <;> first | rfl | exact absurd rfl hoperation
    rw [← List.cons_append, ← List.append_assoc] at hfew ⊢
    rw [List.countP_append] at hfew
    have hkept := run_kept (α := α) (before ++ .buzz effect usage length :: rest) (by omega)
    have hpage :=
      (({} : Diary α).run (before ++ .buzz effect usage length :: rest)).page_perform operation
    rw [run_concat, List.any_append, List.any_cons, List.any_nil, Bool.or_false]
    rcases ih (by omega) hrest with ⟨hearly, hawaits⟩ | ⟨hlate, hpassed, hended⟩
    · cases hpasses : operation.passes with
      | false =>
        obtain ⟨hnow, hawaits⟩ := hawaits.page hpage hpasses hnone
        refine .inl ⟨?_, hawaits⟩
        rw [Bool.or_false]
        exact hearly.imp_left (Nat.lt_of_le_of_lt (Nat.le_of_eq hnow))
      | true =>
        rw [Bool.or_true]
        rcases hawaits.pass hkept hpage hpasses with ⟨hbefore, hawaits⟩ | ⟨hafter, hended⟩
        · exact .inl ⟨.inl hbefore, hawaits⟩
        · exact .inr ⟨hafter, rfl, hended⟩
    · refine .inr ⟨Nat.le_trans hlate hpage.now_le, ?_, hended.page hpage⟩
      rw [hpassed, Bool.true_or]

/-! ## The result -/

/-- In every run of a motor in which fewer than `2 ^ 64` cancellations come, a brief
vibration is ended by its own end and by no other. A diary kept beside the motor is a
diary of it. Each entry was made by a brief vibration that was accepted, and its
deadline is the length of the vibration after its start. When an entry that is due comes
to pass, after those before it, and stops something, then what runs is the vibration that
the maker of the entry started. And a brief vibration that was accepted, and after which
nothing is cancelled, runs exactly until the clock reaches its deadline; a deadline that
is reached at once counts as soon as any time is taken. -/
theorem run_ends_own_vibration (operations : List (Motor.Operation α))
    (hfew : operations.countP Motor.Operation.isCancel < 2 ^ 64) :
    let diary := ({} : Diary α).run operations
    (diary.motor = ({} : Motor α).run operations ∧
      diary.entries.map Entry.ending = diary.motor.agenda) ∧
    (∀ entry ∈ diary.entries, Makes operations entry) ∧
    (∀ deadline earlier entry later,
      diary.entries.filter (·.ending.deadline ≤ deadline) = earlier ++ entry :: later →
        let motor := (diary.pass earlier).motor
        (motor.finish entry.ending.generation).gate.sent ≠ motor.gate.sent →
          (diary.pass earlier).Runs entry.maker) ∧
    (∀ before effect usage length rest, operations = before ++ .buzz effect usage length :: rest →
      ((({} : Motor α).run before).buzz effect usage length).2 = true → .cancel ∉ rest →
        (diary.Runs before.length ↔
          diary.motor.now < (({} : Motor α).run before).now + length ∨
            rest.any Motor.Operation.passes = false)) := by
  intro diary
  have hkept : diary.Kept _ := run_kept operations hfew
  refine ⟨⟨motor_run {} operations, hkept.agenda⟩, run_makes operations hfew, ?_, ?_⟩
  · intro deadline earlier entry later hdue motor hstops
    exact hkept.runs_of_stops hdue hstops
  · rintro before effect usage length rest rfl haccepted hrest
    rcases run_awaits_or_ended hfew haccepted hrest with
      ⟨hearly, hawaits⟩ | ⟨hlate, hpassed, hended⟩
    · exact iff_of_true (hkept.own _ hawaits.entered hawaits.current) hearly
    · refine iff_of_false hended.stopped ?_
      rintro (hearly | hnone)
      · exact Nat.lt_irrefl _ (Nat.lt_of_lt_of_le hearly hlate)
      · rw [hpassed] at hnone
        cases hnone

/-- A brief vibration is cancelled and another one starts. The end of the first one comes
and does not stop the second one, which runs until its own end comes. -/
theorem run_ends_own_vibration_after_cancel :
    let operations : List (Motor.Operation Nat) :=
      [.buzz .thud .voiceCommunication 200, .cancel, .buzz .thud .voiceCommunication 300,
        .advance 200]
    let later := operations ++ [.advance 100]
    operations.countP Motor.Operation.isCancel < 2 ^ 64 ∧
      later.countP Motor.Operation.isCancel < 2 ^ 64 ∧
      (({} : Diary Nat).run operations).Runs 2 ∧ ¬ (({} : Diary Nat).run later).Runs 2 := by
  intro operations later
  have hfew : operations.countP Motor.Operation.isCancel < 2 ^ 64 := by decide
  have hfew' : later.countP Motor.Operation.isCancel < 2 ^ 64 := by decide
  obtain ⟨-, -, -, hends⟩ := run_ends_own_vibration operations hfew
  obtain ⟨-, -, -, hends'⟩ := run_ends_own_vibration later hfew'
  refine ⟨hfew, hfew', ?_, ?_⟩
  · refine (hends (operations.take 2) _ _ _ [.advance 200] rfl (by decide) (by simp)).mpr ?_
    decide
  · refine (hends' (operations.take 2) _ _ _ [.advance 200, .advance 100] rfl (by decide)
      (by simp)).not.mpr ?_
    decide

end Diary

end PhoneAudio
