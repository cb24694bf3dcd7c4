import PhoneAudio.Proofs.Roster.Crossing

/-!
# Rows of starts and stops

A device that plays one thing at a time is told to start it and to stop it again. A
row of such words is *paired* if it consists of things that were started and stopped
one after the other, and at its end of the one that has not stopped yet, if there is
one. A paired row strictly alternates, every stop is for what was started last, and
what has not stopped can be read off its last word.
-/

namespace PhoneAudio

/-- Something starts or stops. -/
inductive Signal (α : Type) where
  | start (what : α)
  | stop (what : α)
deriving DecidableEq

namespace Signal

variable {α : Type}

def isStart : Signal α → Bool
  | start _ => true
  | stop _ => false

/-- What a word is about. -/
def what : Signal α → α
  | start what => what
  | stop what => what

/-- What starts. -/
def started? : Signal α → Option α
  | start what => some what
  | stop _ => none

/-- What was started last, if it has not stopped since. -/
def current? (row : List (Signal α)) : Option α :=
  match row.getLast? with
  | some (start what) => some what
  | _ => none

/-- A start and its stop for each of some things. -/
def pairs (past : List α) : List (Signal α) := past.flatMap fun what => [start what, stop what]

/-- Things that were started and stopped one after the other, and one that was started
and has not stopped yet. -/
def Paired (row : List (Signal α)) (current : Option α) : Prop :=
  ∃ past, row = pairs past ++ current.toList.map start

theorem paired_nil : Paired ([] : List (Signal α)) none := ⟨[], rfl⟩

/-- Where nothing plays something may start. -/
theorem Paired.concat_start {row : List (Signal α)} (h : Paired row none) (what : α) :
    Paired (row ++ [start what]) (some what) := by
  obtain ⟨past, rfl⟩ := h
  exact ⟨past, by simp⟩

/-- What plays may stop. -/
theorem Paired.concat_stop {row : List (Signal α)} {what : α} (h : Paired row (some what)) :
    Paired (row ++ [stop what]) none := by
  obtain ⟨past, rfl⟩ := h
  exact ⟨past ++ [what], by simp [pairs]⟩

theorem getLast?_pairs_concat (past : List α) (what : α) :
    (pairs (past ++ [what])).getLast? = some (stop what) := by
  simp [pairs]

theorem Paired.current?_eq {row : List (Signal α)} {current : Option α}
    (h : Paired row current) : current? row = current := by
  obtain ⟨past, rfl⟩ := h
  cases current with
  | some what => simp [current?]
  | none =>
    rcases past.eq_nil_or_concat with rfl | ⟨before, last, rfl⟩
    · rfl
    · simp [current?, getLast?_pairs_concat]

theorem Paired.alternates {row : List (Signal α)} {current : Option α}
    (h : Paired row current) : Crossing.Alternates true (row.map isStart) := by
  obtain ⟨past, rfl⟩ := h
  induction past with
  | nil =>
    cases current with
    | none => exact trivial
    | some what => exact ⟨rfl, trivial⟩
  | cons what past ih => exact ⟨rfl, rfl, ih⟩

/-- Every stop is for what was started last. -/
theorem Paired.getLast?_of_stop {row : List (Signal α)} {current : Option α}
    (h : Paired row current) {before after : List (Signal α)} {what : α}
    (hrow : row = before ++ stop what :: after) : before.getLast? = some (start what) := by
  obtain ⟨past, rfl⟩ := h
  induction past generalizing before with
  | nil =>
    have hmem : stop what ∈ current.toList.map start := by
      rw [show current.toList.map start = before ++ stop what :: after from hrow]
      simp
    simp at hmem
  | cons first past ih =>
    change start first :: stop first :: (pairs past ++ current.toList.map start) = _ at hrow
    -- the stop is the first one of the row, or it stands in the rest
    match before, hrow with
    | [_], hrow =>
      obtain ⟨rfl, hrest⟩ := List.cons.inj hrow
      obtain ⟨hstop, -⟩ := List.cons.inj hrest
      rw [Signal.stop.inj hstop]
      rfl
    | _ :: second :: rest, hrow =>
      obtain ⟨-, hrest⟩ := List.cons.inj hrow
      obtain ⟨-, hrest⟩ := List.cons.inj hrest
      have hlast := ih hrest
      simp [List.getLast?_cons, hlast]

/-- Something plays exactly if there is one more start than there are stops. -/
theorem Paired.count {row : List (Signal α)} {current : Option α} (h : Paired row current) :
    row.countP isStart = row.countP (fun signal => !signal.isStart) + current.toList.length := by
  obtain ⟨past, rfl⟩ := h
  induction past with
  | nil => cases current <;> rfl
  | cons what past ih =>
    change (start what :: stop what :: (pairs past ++ current.toList.map start)).countP _ =
      (start what :: stop what :: (pairs past ++ current.toList.map start)).countP _ + _
    rw [List.countP_cons_of_pos rfl, List.countP_cons_of_neg (by simp [isStart]),
      List.countP_cons_of_neg (by simp [isStart]), List.countP_cons_of_pos rfl, ih]
    omega

/-! ## What was started -/

theorem isSome_started? (signal : Signal α) : signal.started?.isSome = signal.isStart := by
  cases signal <;> rfl

/-- What plays is what started last. -/
theorem Paired.getLast?_started {row : List (Signal α)} {what : α} (h : Paired row (some what)) :
    (row.filterMap started?).getLast? = some what := by
  obtain ⟨past, rfl⟩ := h
  simp [started?]

theorem length_filterMap_started? (row : List (Signal α)) :
    (row.filterMap started?).length = (row.map isStart).count true := by
  rw [List.length_filterMap_eq_countP, List.count, List.countP_map]
  apply List.countP_congr
  intro signal _
  simp [isSome_started?]

end Signal

end PhoneAudio
