import Mathlib.Algebra.Group.Nat.Defs
import Mathlib.Data.List.Induction
import Mathlib.Data.List.Nodup
import PhoneAudio.Motor.Clock

/-!
# A diary of brief vibrations

The agenda of a motor keeps the ends of brief vibrations, but not whose ends they
are: an entry is a deadline and a generation, and the motor cannot tell one brief
vibration from the next. A diary can. Beside the motor it numbers the operations,
remembers which one started the vibration that ran last, and enters each end together
with the operation that made it. Forgetting the numbers gives back the motor and its
agenda, so what is shown of the diary holds of the motor.

A cancellation begins a new generation and an end does not. So several vibrations of
one generation may follow each other, and what keeps the ends apart is that at most one
end of the current generation is on the agenda: as long as it is there, its own
vibration runs and no other can start.
-/

namespace PhoneAudio

namespace Motor

variable {α : Type}

/-- Whether an operation started a vibration. -/
def Outcome.isAccepted : Outcome α → Bool
  | .started accepted => accepted
  | _ => false

namespace Operation

def isCancel : Operation α → Bool
  | .cancel => true
  | _ => false

/-- The operations in which time passes: what is due then comes to pass. -/
def passes : Operation α → Bool
  | .settle => true
  | .advance _ => true
  | _ => false

end Operation

/-! ## What comes to pass -/

variable {motor : Motor α} {endings : List Ending}

/-- The end of another generation changes nothing. -/
theorem finish_of_stale {generation : UInt64} (hstale : generation ≠ motor.gate.generation) :
    motor.finish generation = motor := by
  have hgate : motor.gate.finish generation = motor.gate := if_neg fun hdue => hstale hdue.1.symm
  rw [finish, hgate]

theorem passAll_of_stale
    (hstale : ∀ ending ∈ endings, ending.generation ≠ motor.gate.generation) :
    motor.passAll endings = motor := by
  induction endings with
  | nil => rfl
  | cons ending rest ih =>
    have hfirst := finish_of_stale (hstale ending List.mem_cons_self)
    show (motor.finish ending.generation).passAll rest = motor
    rw [hfirst]
    exact ih fun later hlater => hstale later (List.mem_cons_of_mem ending hlater)

/-- No end starts a vibration. -/
theorem isRunning_of_passAll (motor : Motor α) {endings : List Ending}
    (hrunning : (motor.passAll endings).gate.isRunning) : motor.gate.isRunning := by
  induction endings generalizing motor with
  | nil => exact hrunning
  | cons ending rest ih =>
    have hfinish : (motor.gate.finish ending.generation).isRunning := ih _ hrunning
    unfold Gate.finish at hfinish
    split at hfinish
    · cases hfinish
    · exact hfinish

/-- The end of the current generation leaves nothing running. -/
theorem not_isRunning_passAll {ending : Ending} (hmem : ending ∈ endings)
    (hcurrent : ending.generation = motor.gate.generation) :
    ¬ (motor.passAll endings).gate.isRunning := by
  induction endings generalizing motor with
  | nil => cases hmem
  | cons first rest ih =>
    rcases List.mem_cons.mp hmem with rfl | hrest
    · intro hrunning
      have hfinish : (motor.gate.finish ending.generation).isRunning :=
        isRunning_of_passAll (motor.finish ending.generation) hrunning
      unfold Gate.finish at hfinish
      split at hfinish
      case isTrue => cases hfinish
      case isFalse hidle => exact hidle ⟨hcurrent.symm, hfinish⟩
    · exact ih hrest (hcurrent.trans (Gate.generation_finish _ _).symm)

end Motor

/-! ## The diary -/

/-- An end on the agenda, and the operation that made it. -/
structure Entry where
  maker : Nat
  ending : Ending

namespace Entry

/-- Enters an end behind all that are due no later. -/
def schedule (entry : Entry) : List Entry → List Entry
  | [] => [entry]
  | next :: rest =>
    if next.ending.deadline ≤ entry.ending.deadline then next :: entry.schedule rest
    else entry :: next :: rest

theorem map_schedule (entry : Entry) (entries : List Entry) :
    (entry.schedule entries).map ending = entry.ending.schedule (entries.map ending) := by
  induction entries with
  | nil => rfl
  | cons next rest ih =>
    unfold schedule
    rw [List.map_cons, Ending.schedule]
    split
    · rw [List.map_cons, ih]
    · rfl

theorem schedule_perm (entry : Entry) (entries : List Entry) :
    (entry.schedule entries).Perm (entry :: entries) := by
  induction entries with
  | nil => exact List.Perm.refl _
  | cons next rest ih =>
    unfold schedule
    split
    · exact (ih.cons next).trans (List.Perm.swap entry next rest)
    · exact List.Perm.refl _

end Entry

/-- A motor, and what is remembered of its operations. -/
structure Diary (α : Type) where
  motor : Motor α := {}
  /-- How many operations were performed. -/
  length : Nat := 0
  /-- The operation that started the vibration that ran last. -/
  begun : Option Nat := none
  /-- The agenda, with the operations that made its entries. -/
  entries : List Entry := []

namespace Diary

variable {α : Type}

/-- The vibration runs that an operation started. -/
def Runs (diary : Diary α) (operation : Nat) : Prop :=
  diary.motor.gate.isRunning ∧ diary.begun = some operation

/-- The entries after an operation, which started a vibration or did not. -/
def enter (diary : Diary α) (accepted : Bool) : Motor.Operation α → List Entry
  | .buzz _ _ length =>
    if accepted then
      let ending : Ending := ⟨diary.motor.now + length, diary.motor.gate.generation⟩
      Entry.schedule ⟨diary.length, ending⟩ diary.entries
    else diary.entries
  | .settle => diary.entries.filter (diary.motor.now < ·.ending.deadline)
  | .advance milliseconds =>
    diary.entries.filter (diary.motor.now + milliseconds < ·.ending.deadline)
  | _ => diary.entries

def perform (diary : Diary α) (operation : Motor.Operation α) : Diary α :=
  let (motor, outcome) := diary.motor.perform operation
  { motor := motor
    length := diary.length + 1
    begun := if outcome.isAccepted then some diary.length else diary.begun
    entries := diary.enter outcome.isAccepted operation }

def run (diary : Diary α) (operations : List (Motor.Operation α)) : Diary α :=
  operations.foldl perform diary

theorem perform_eq {diary : Diary α} {operation : Motor.Operation α} {motor : Motor α}
    {outcome : Motor.Outcome α} (h : diary.motor.perform operation = (motor, outcome)) :
    diary.perform operation =
      { motor := motor
        length := diary.length + 1
        begun := if outcome.isAccepted then some diary.length else diary.begun
        entries := diary.enter outcome.isAccepted operation } := by
  simp only [perform, h]

theorem run_concat (diary : Diary α) (operations : List (Motor.Operation α))
    (operation : Motor.Operation α) :
    diary.run (operations ++ [operation]) = (diary.run operations).perform operation := by
  simp only [run, List.foldl_append, List.foldl_cons, List.foldl_nil]

/-- The diary is kept beside the motor and does not disturb it. -/
theorem motor_run (diary : Diary α) (operations : List (Motor.Operation α)) :
    (diary.run operations).motor = diary.motor.run operations := by
  induction operations generalizing diary with
  | nil => rfl
  | cons operation rest ih => exact ih (diary.perform operation)

theorem length_run (diary : Diary α) (operations : List (Motor.Operation α)) :
    (diary.run operations).length = diary.length + operations.length := by
  induction operations generalizing diary with
  | nil => rfl
  | cons operation rest ih =>
    rw [List.length_cons, Nat.add_comm rest.length, ← Nat.add_assoc]
    exact ih (diary.perform operation)

/-! ## What an operation enters -/

/-- The diary after a vibration began with a state of the gate. -/
def onset (diary : Diary α) (gate : Gate α) : Diary α :=
  { diary with
    motor := { diary.motor with gate := gate }
    length := diary.length + 1
    begun := some diary.length }

/-- The diary after the clock moved on to a limit. -/
def lapse (diary : Diary α) (limit : Nat) : Diary α :=
  { diary with
    motor := { diary.motor.passUntil limit with now := limit }
    length := diary.length + 1
    entries := diary.entries.filter (limit < ·.ending.deadline) }

/-- The diary after a brief vibration that began with a state of the gate and with an end. -/
def brief (diary : Diary α) (gate : Gate α) (ending : Ending) : Diary α where
  motor := { diary.motor with gate := gate, agenda := ending.schedule diary.motor.agenda }
  length := diary.length + 1
  begun := some diary.length
  entries := Entry.schedule ⟨diary.length, ending⟩ diary.entries

/-- The ways in which a diary goes on. -/
inductive Page (diary : Diary α) : Motor.Operation α → Diary α → Prop where
  /-- Nothing happens. -/
  | idle {operation : Motor.Operation α} (hactive : operation.passes = false)
      (hkeeps : operation.isCancel = false) :
      Page diary operation { diary with length := diary.length + 1 }
  /-- What runs is cancelled, and a generation begins. -/
  | cancel {gate : Gate α} (hrest : gate.running = none)
      (hgeneration : gate.generation = diary.motor.gate.generation + 1) :
      Page diary .cancel
        { diary with motor := { diary.motor with gate := gate }, length := diary.length + 1 }
  /-- A vibration starts that does not end by itself. -/
  | start {operation : Motor.Operation α} {gate : Gate α} (hactive : operation.passes = false)
      (hkeeps : operation.isCancel = false)
      (hrest : ¬ diary.motor.gate.isRunning)
      (hgeneration : gate.generation = diary.motor.gate.generation) :
      Page diary operation (diary.onset gate)
  /-- A brief vibration starts, and its end is entered. -/
  | brief {effect : Vibration.Effect} {usage : Vibration.Usage} {length : Nat} {gate : Gate α}
      (hrest : ¬ diary.motor.gate.isRunning) (hruns : gate.isRunning)
      (hgeneration : gate.generation = diary.motor.gate.generation) :
      Page diary (.buzz effect usage length)
        (diary.brief gate ⟨diary.motor.now + length, diary.motor.gate.generation⟩)
  /-- Time passes. -/
  | pass {operation : Motor.Operation α} {limit : Nat} (hpasses : operation.passes)
      (hlimit : diary.motor.now ≤ limit) : Page diary operation (diary.lapse limit)

variable {diary : Diary α}

theorem page_unchanged {operation : Motor.Operation α} {outcome : Motor.Outcome α}
    (hactive : operation.passes = false) (hkeeps : operation.isCancel = false)
    (hperform : diary.motor.perform operation = (diary.motor, outcome))
    (hrefused : outcome.isAccepted = false) : Page diary operation (diary.perform operation) := by
  have hentries : diary.enter false operation = diary.entries := by
    cases operation <;> first | rfl | cases hactive
  rw [perform_eq hperform, hrefused, hentries]
  exact .idle hactive hkeeps

theorem page_of_start {operation : Motor.Operation α} {owner : Option α}
    {effect : Vibration.Effect} {usage : Vibration.Usage}
    (hactive : operation.passes = false) (hkeeps : operation.isCancel = false)
    (hentries : diary.enter true operation = diary.entries)
    (hperform : diary.motor.perform operation = diary.motor.perform (.start owner effect usage)) :
    Page diary operation (diary.perform operation) := by
  by_cases hrest : diary.motor.gate.isRunning
  · have hstart := Motor.perform_start_of_running hrest owner effect usage
    exact page_unchanged hactive hkeeps (hperform.trans hstart) rfl
  · have hstart : diary.motor.perform (.start owner effect usage) =
        ((diary.motor.start owner effect usage).1, .started true) := by
      rw [Motor.perform, Motor.start_of_rest hrest]
      rfl
    rw [perform_eq (hperform.trans hstart), Motor.Outcome.isAccepted, hentries]
    exact .start hactive hkeeps hrest (Gate.generation_start _ _ _ _)

theorem page_buzz (hrest : ¬ diary.motor.gate.isRunning) (effect : Vibration.Effect)
    (usage : Vibration.Usage) (length : Nat) :
    ∃ gate : Gate α, gate.isRunning ∧ gate.generation = diary.motor.gate.generation ∧
      diary.perform (.buzz effect usage length) =
        diary.brief gate ⟨diary.motor.now + length, diary.motor.gate.generation⟩ := by
  have hgeneration := Gate.generation_start diary.motor.gate none effect usage
  refine ⟨(diary.motor.gate.start none effect usage).1, ?_, hgeneration, ?_⟩
  · simp only [Gate.start, if_neg hrest]
    rfl
  · have hbuzz : diary.motor.perform (.buzz effect usage length) =
        ({ diary.motor with
            gate := (diary.motor.gate.start none effect usage).1
            agenda := Ending.schedule ⟨diary.motor.now + length, diary.motor.gate.generation⟩
              diary.motor.agenda }, .started true) := by
      rw [Motor.perform, Motor.buzz_of_rest hrest]
      simp only [Motor.endAfter, Motor.start, hgeneration, Prod.map, id]
    rw [perform_eq hbuzz]
    rfl

theorem page_perform (diary : Diary α) (operation : Motor.Operation α) :
    Page diary operation (diary.perform operation) := by
  cases operation with
  | start owner effect usage => exact page_of_start rfl rfl rfl rfl
  | startIfCurrent generation owner effect usage =>
    have hperform := diary.motor.perform_startIfCurrent generation owner effect usage
    by_cases hcurrent : diary.motor.gate.generation = generation
    · rw [if_pos hcurrent] at hperform
      exact page_of_start rfl rfl rfl hperform
    · rw [if_neg hcurrent] at hperform
      exact page_unchanged rfl rfl hperform rfl
  | cancel =>
    have hrest : diary.motor.gate.cancel.1.running = none := by
      unfold Gate.cancel
      split
      next hidle => exact hidle
      next => rfl
    exact .cancel hrest (Gate.generation_cancel diary.motor.gate)
  | buzz effect usage length =>
    by_cases hrest : diary.motor.gate.isRunning
    · exact page_unchanged rfl rfl (Motor.perform_buzz_of_running hrest effect usage length) rfl
    · obtain ⟨gate, hruns, hgeneration, hbuzz⟩ := page_buzz hrest effect usage length
      rw [hbuzz]
      exact .brief hrest hruns hgeneration
  | settle =>
    have hsettle : diary.motor.perform .settle =
        ({ diary.motor.passUntil diary.motor.now with now := diary.motor.now }, .nothing) := by
      rw [Motor.perform, Motor.settle, Motor.passUntil_eq]
    rw [perform_eq hsettle]
    exact .pass rfl (Nat.le_refl _)
  | advance milliseconds =>
    have hadvance : diary.motor.perform (.advance milliseconds) =
        ({ diary.motor.passUntil (diary.motor.now + milliseconds) with
            now := diary.motor.now + milliseconds }, .nothing) := rfl
    rw [perform_eq hadvance]
    exact .pass rfl (Nat.le_add_right _ _)

/-! ## How the diary is kept -/

/-- The diary agrees with the agenda after a number of cancellations, and an end of the
current generation is the end of what runs. -/
structure Kept (diary : Diary α) (cancels : Nat) : Prop where
  agenda : diary.entries.map Entry.ending = diary.motor.agenda
  generation : diary.motor.gate.generation = .ofNat cancels
  past : ∀ entry ∈ diary.entries, ∃ count ≤ cancels, entry.ending.generation = .ofNat count
  apart : (diary.entries.map (·.ending.generation)).Nodup
  own : ∀ entry ∈ diary.entries,
    entry.ending.generation = diary.motor.gate.generation → diary.Runs entry.maker

variable {cancels : Nat} {after : Diary α} {operation : Motor.Operation α}

/-- Counting does not come back to where it was before the word is full. -/
theorem ofNat_ne_ofNat {count : Nat} (hless : count < cancels) (hfew : cancels < 2 ^ 64) :
    UInt64.ofNat count ≠ UInt64.ofNat cancels := by
  intro heq
  have hnat := congrArg UInt64.toNat heq
  rw [UInt64.toNat_ofNat', UInt64.toNat_ofNat', Nat.mod_eq_of_lt (Nat.lt_trans hless hfew),
    Nat.mod_eq_of_lt hfew] at hnat
  omega

/-- At rest no end of the current generation is left. -/
theorem Kept.stale_of_rest (h : diary.Kept cancels) (hrest : ¬ diary.motor.gate.isRunning) :
    ∀ entry ∈ diary.entries, entry.ending.generation ≠ diary.motor.gate.generation :=
  fun entry hmem hcurrent => hrest (h.own entry hmem hcurrent).1

/-- Two entries of one generation are one entry. -/
theorem Kept.eq_of_generation (h : diary.Kept cancels) {entry other : Entry}
    (hentry : entry ∈ diary.entries) (hother : other ∈ diary.entries)
    (hsame : entry.ending.generation = other.ending.generation) : entry = other :=
  List.inj_on_of_nodup_map h.apart hentry hother hsame

theorem Kept.cancelled (h : diary.Kept cancels) (hfew : cancels + 1 < 2 ^ 64) {gate : Gate α}
    (hgeneration : gate.generation = diary.motor.gate.generation + 1) :
    Kept { diary with motor := { diary.motor with gate := gate }, length := diary.length + 1 }
      (cancels + 1) := by
  have hnext : gate.generation = .ofNat (cancels + 1) := by
    rw [hgeneration, h.generation, UInt64.ofNat_add]
    rfl
  refine ⟨h.agenda, hnext, fun entry hmem => ?_, h.apart, fun entry hmem hcurrent => ?_⟩
  · obtain ⟨count, hcount, hentry⟩ := h.past entry hmem
    exact ⟨count, Nat.le_succ_of_le hcount, hentry⟩
  · obtain ⟨count, hcount, hentry⟩ := h.past entry hmem
    have hcurrent : entry.ending.generation = gate.generation := hcurrent
    rw [hentry, hnext] at hcurrent
    exact absurd hcurrent (ofNat_ne_ofNat (Nat.lt_succ_of_le hcount) hfew)

theorem Kept.onset (h : diary.Kept cancels) {gate : Gate α}
    (hrest : ¬ diary.motor.gate.isRunning)
    (hgeneration : gate.generation = diary.motor.gate.generation) :
    (diary.onset gate).Kept cancels := by
  refine ⟨h.agenda, hgeneration.trans h.generation, h.past, h.apart,
    fun entry hmem hcurrent => ?_⟩
  exact absurd (hcurrent.trans hgeneration) (h.stale_of_rest hrest entry hmem)

theorem Kept.brief (h : diary.Kept cancels) {gate : Gate α} {deadline : Nat}
    (hrest : ¬ diary.motor.gate.isRunning) (hruns : gate.isRunning)
    (hgeneration : gate.generation = diary.motor.gate.generation) :
    Kept (diary.brief gate ⟨deadline, diary.motor.gate.generation⟩) cancels := by
  have hstale := h.stale_of_rest hrest
  have hperm := Entry.schedule_perm
    ⟨diary.length, deadline, diary.motor.gate.generation⟩ diary.entries
  refine ⟨?_, hgeneration.trans h.generation, fun entry hmem => ?_, ?_,
    fun entry hmem hcurrent => ?_⟩
  · show (Entry.schedule _ diary.entries).map Entry.ending = Ending.schedule _ diary.motor.agenda
    rw [Entry.map_schedule, h.agenda]
  · rcases List.mem_cons.mp (hperm.mem_iff.mp hmem) with rfl | hold
    · exact ⟨cancels, Nat.le_refl cancels, h.generation⟩
    · exact h.past entry hold
  · refine (hperm.map _).nodup_iff.mpr (List.nodup_cons.mpr ⟨fun hmem => ?_, h.apart⟩)
    obtain ⟨entry, hentry, hsame⟩ := List.mem_map.mp hmem
    exact hstale entry hentry hsame
  · rcases List.mem_cons.mp (hperm.mem_iff.mp hmem) with rfl | hold
    · exact ⟨hruns, rfl⟩
    · exact absurd (hcurrent.trans hgeneration) (hstale entry hold)

theorem Kept.lapse (h : diary.Kept cancels) (limit : Nat) : (diary.lapse limit).Kept cancels := by
  rw [Diary.lapse, Motor.passUntil_eq]
  have hgeneration := Motor.generation_passAll diary.motor
    (diary.motor.agenda.filter (·.deadline ≤ limit))
  refine ⟨?_, hgeneration.trans h.generation, fun entry hmem => ?_, ?_,
    fun entry hmem hcurrent => ?_⟩
  · show (diary.entries.filter _).map Entry.ending = diary.motor.agenda.filter _
    rw [← h.agenda, List.filter_map]
    rfl
  · exact h.past entry (List.mem_of_mem_filter hmem)
  · exact h.apart.sublist (List.filter_sublist.map _)
  · -- an entry of the current generation that is left is the only one of it
    obtain ⟨hentry, hlater⟩ := List.mem_filter.mp hmem
    have hcurrent : entry.ending.generation = diary.motor.gate.generation :=
      hcurrent.trans hgeneration
    have hstale : ∀ ending ∈ diary.motor.agenda.filter (·.deadline ≤ limit),
        ending.generation ≠ diary.motor.gate.generation := by
      intro ending hdue hsame
      obtain ⟨hagenda, hearly⟩ := List.mem_filter.mp hdue
      rw [← h.agenda] at hagenda
      obtain ⟨other, hother, rfl⟩ := List.mem_map.mp hagenda
      obtain rfl := h.eq_of_generation hentry hother (hcurrent.trans hsame.symm)
      simp only [decide_eq_true_eq] at hlater hearly
      omega
    have hruns := h.own entry hentry hcurrent
    refine ⟨?_, hruns.2⟩
    show (diary.motor.passAll _).gate.isRunning
    rw [Motor.passAll_of_stale hstale]
    exact hruns.1

/-- The step: every operation keeps the diary. -/
theorem Kept.page (h : diary.Kept cancels) (hpage : diary.Page operation after)
    (hfew : cancels + [operation].countP Motor.Operation.isCancel < 2 ^ 64) :
    after.Kept (cancels + [operation].countP Motor.Operation.isCancel) := by
  have hcount : operation.isCancel = false →
      cancels + [operation].countP Motor.Operation.isCancel = cancels := by
    intro hkeeps
    rw [List.countP_singleton, hkeeps]
    rfl
  cases hpage with
  | idle hactive hkeeps =>
    rw [hcount hkeeps]
    exact ⟨h.agenda, h.generation, h.past, h.apart, h.own⟩
  | cancel hrest hgeneration => exact h.cancelled hfew hgeneration
  | start hactive hkeeps hrest hgeneration =>
    rw [hcount hkeeps]
    exact h.onset hrest hgeneration
  | brief hrest hruns hgeneration =>
    rw [hcount rfl]
    exact h.brief hrest hruns hgeneration
  | pass hpasses hlimit =>
    rw [hcount (by cases operation <;> first | rfl | cases hpasses)]
    exact h.lapse _

theorem kept_blank : ({} : Diary α).Kept 0 where
  agenda := rfl
  generation := rfl
  past := fun _ hmem => absurd hmem List.not_mem_nil
  apart := List.nodup_nil
  own := fun _ hmem => absurd hmem List.not_mem_nil

/-- The run: the diary of a motor that starts at rest is kept as long as there are fewer
cancellations than the generation can count. -/
theorem run_kept (operations : List (Motor.Operation α))
    (hfew : operations.countP Motor.Operation.isCancel < 2 ^ 64) :
    Kept (({} : Diary α).run operations) (operations.countP Motor.Operation.isCancel) := by
  induction operations using List.reverseRecOn with
  | nil => exact kept_blank
  | append_singleton operations operation ih =>
    rw [List.countP_append] at hfew ⊢
    have hbefore := ih (by omega)
    rw [run_concat]
    exact hbefore.page (page_perform _ operation) hfew

end Diary

end PhoneAudio
