import Mathlib.Data.List.Induction
import PhoneAudio.Call.Table

/-!
# The log of a call is the end of its history

While a session goes on, its calls are recorded against and revised in any order. The
history of a call is all that was ever recorded against it; its log is the end of that
history, as long as there is room for (`CallTable.log_newest`).

A log makes room by comparing its length with its capacity for equality. This is right
only because no log is made without room and none grows beyond it, so both stand as
premises of the law for one log (`entries_foldl_record`), which is an induction from the
end of what is recorded. A log that begins beyond its capacity would grow forever.
-/

namespace PhoneAudio

namespace Call.EventLog

theorem capacity_foldl_record (log : EventLog) (news : List Entry) :
    (news.foldl record log).capacity = log.capacity := by
  induction news generalizing log with
  | nil => rfl
  | cons entry rest ih => rw [List.foldl_cons, ih, capacity_record]

/-- A log holds the newest entries there is room for, of those it began with and those
recorded since. -/
theorem entries_foldl_record {log : EventLog} (news : List Entry) (hroom : 0 < log.capacity)
    (hlength : log.entries.length ≤ log.capacity) :
    (news.foldl record log).entries =
      (log.entries ++ news).drop ((log.entries ++ news).length - log.capacity) := by
  induction news using List.reverseRecOn with
  | nil => rw [List.foldl_nil, List.append_nil, Nat.sub_eq_zero_of_le hlength, List.drop_zero]
  | append_singleton earlier entry ih =>
    have hcapacity := capacity_foldl_record log earlier
    rw [List.foldl_append, List.foldl_cons, List.foldl_nil]
    generalize earlier.foldl record log = before at ih hcapacity ⊢
    rw [← List.append_assoc]
    generalize log.entries ++ earlier = told at ih ⊢
    -- what is dropped now comes after what was dropped before
    have hbefore : before.entries.length = told.length - (told.length - log.capacity) := by
      rw [ih, List.length_drop]
    rw [entries_record entry (by omega) (by omega), hcapacity, hbefore, ih, List.length_append,
      List.length_singleton, ← List.drop_append_of_le_length (Nat.sub_le _ _), List.drop_drop]
    congr 1
    omega

theorem has_iff (log : EventLog) (event : Event) :
    log.has event = true ↔ ∃ detail, ⟨event, detail⟩ ∈ log.entries := by
  rw [has, List.any_eq_true]
  constructor
  · rintro ⟨⟨recorded, detail⟩, hmem, hevent⟩
    exact ⟨detail, beq_iff_eq.mp hevent ▸ hmem⟩
  · rintro ⟨detail, hmem⟩
    exact ⟨_, hmem, beq_self_eq_true event⟩

end Call.EventLog

namespace CallTable

variable {n : Nat}

/-! ## A session of calls -/

/-- What is done to the calls of a session. -/
inductive Change (n : Nat) where
  | record (place : Fin n) (event : Call.Event) (detail : Option String)
  | revise (place : Fin n) (revision : Call.Revision)

def apply (table : CallTable n) : Change n → CallTable n
  | .record place event detail => table.record place event detail
  | .revise place revision => table.revise place revision

def run (table : CallTable n) (changes : List (Change n)) : CallTable n :=
  changes.foldl apply table

/-- What a change records against the call at a place. -/
def Change.entry? (place : Fin n) : Change n → Option Call.Entry
  | .record other event detail => if other = place then some ⟨event, detail⟩ else none
  | .revise _ _ => none

/-- All that was recorded against the call at a place, oldest first. -/
def history (place : Fin n) (changes : List (Change n)) : List Call.Entry :=
  changes.filterMap (Change.entry? place)

/-- A call has its own log: what is done to the others, and its own revisions, leave it. -/
theorem log_apply (table : CallTable n) (change : Change n) (place : Fin n) :
    ((table.apply change).get place).log =
      match change.entry? place with
      | some entry => (table.get place).log.record entry
      | none => (table.get place).log := by
  cases change with
  | record other event detail =>
    simp only [apply, record, get_modify, Change.entry?]
    split
    · next same => rw [same]; rfl
    · rfl
  | revise other revision =>
    exact get_modify_of_eq Call.log table other place fun _ => Call.log_revise _ _

theorem log_run (table : CallTable n) (changes : List (Change n)) (place : Fin n) :
    ((table.run changes).get place).log =
      (history place changes).foldl .record (table.get place).log := by
  induction changes generalizing table with
  | nil => rfl
  | cons change rest ih =>
    rw [run, List.foldl_cons, ← run, ih, log_apply, history, history, List.filterMap_cons]
    cases change.entry? place <;> rfl

/-- The log of a call, made with any capacity, is the exact end of all that was recorded
against it in a session; it is as long as the capacity allows, where none counts as one.
An event is in the log exactly if one of those last records is about it. -/
theorem log_newest (table : CallTable n) (changes : List (Change n)) (place : Fin n)
    (capacity : Nat) (hmade : (table.get place).log = .empty capacity) :
    ((table.run changes).get place).log.entries <:+ history place changes ∧
      ((table.run changes).get place).log.entries.length =
        min (history place changes).length (max capacity 1) ∧
      ∀ event, ((table.run changes).get place).log.has event = true ↔
        ∃ position detail, (history place changes)[position]? = some ⟨event, detail⟩ ∧
          (history place changes).length ≤ position + max capacity 1 := by
  generalize hhistory : history place changes = told
  have hentries : ((table.run changes).get place).log.entries =
      told.drop (told.length - max capacity 1) := by
    rw [log_run, hmade, hhistory]
    exact Call.EventLog.entries_foldl_record told (Nat.le_max_right capacity 1) (Nat.zero_le _)
  refine ⟨hentries ▸ List.drop_suffix _ _, ?_, fun event => ?_⟩
  · rw [hentries, List.length_drop]
    omega
  · simp only [Call.EventLog.has_iff, hentries, List.mem_iff_getElem?, List.getElem?_drop]
    constructor
    · rintro ⟨detail, position, hposition⟩
      exact ⟨_, detail, hposition, by omega⟩
    · rintro ⟨position, detail, hposition, hlate⟩
      refine ⟨detail, position - (told.length - max capacity 1), ?_⟩
      rwa [Nat.add_sub_cancel' (by omega)]

/-- Two calls, one made without room and one with room for two entries: the first keeps
one entry and the second its last two, whatever was done between. -/
theorem log_newest_two_calls :
    let call (number capacity : Nat) : Call :=
      { id := .ofNat number, log := .empty capacity }
    let table : CallTable 2 := ⟨#v[call 1 0, call 2 2]⟩
    let changes : List (Change 2) :=
      [.record 1 .startRinger none, .record 0 .skipRinging none, .revise 1 (.state .ringing),
        .record 1 .startVibrator none, .record 0 .startWaitingTone none, .revise 0 .silence,
        .record 1 .stopRinger (some "answered")]
    (((table.run changes).get 0).log.entries <:+ history 0 changes ∧
        ((table.run changes).get 0).log.entries = [⟨.startWaitingTone, none⟩]) ∧
      ((table.run changes).get 1).log.entries <:+ history 1 changes ∧
        ((table.run changes).get 1).log.entries =
          [⟨.startVibrator, none⟩, ⟨.stopRinger, some "answered"⟩] ∧
        ((table.run changes).get 1).log.has .startRinger = false := by
  intro call table changes
  exact ⟨⟨(log_newest table changes 0 0 rfl).1, by decide⟩,
    (log_newest table changes 1 2 rfl).1, by decide, by decide⟩

end CallTable

end PhoneAudio
