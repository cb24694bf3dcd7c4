import PhoneAudio.Proofs.Switchboard.Course

/-!
# The hold tone

The hold tone is brought up to date in two places: when another call comes to the front,
and at the end of every word that is taken in. What it goes by does not change between
the two, so the second finds nothing left to do if the first did anything, and one
operation starts or stops the tone at most once (`Turns`). After the second the tone is
as it is due (`Settled`).
-/

namespace PhoneAudio.Switchboard

variable {n : Nat}

/-- The hold tone plays exactly if it is due. -/
def Settled (s : Switchboard n) : Prop := s.holdTone.isSome = s.holdToneDue

/-- From `s` to `t` the hold tone started, stopped, or neither. -/
inductive Turns (s t : Switchboard n) : Prop
  | keeps (hplayer : t.holdTone = s.holdTone) (hrow : t.toneRow .hold = s.toneRow .hold)
  | starts (player : Nat) (hbefore : s.holdTone = none) (hplayer : t.holdTone = some player)
      (hrow : t.toneRow .hold = s.toneRow .hold ++ [.start player])
  | stops (player : Nat) (hbefore : s.holdTone = some player) (hplayer : t.holdTone = none)
      (hrow : t.toneRow .hold = s.toneRow .hold ++ [.stop player])

variable {s t u : Switchboard n}

theorem Aside.turns (h : Aside s t) : Turns s t := .keeps h.holdTone h.holdRow

theorem Turns.before (h : Turns t u) (hplayer : t.holdTone = s.holdTone)
    (hrow : t.toneRow .hold = s.toneRow .hold) : Turns s u := by
  cases h with
  | keeps hplayer' hrow' => exact .keeps (hplayer'.trans hplayer) (hrow'.trans hrow)
  | starts player hbefore hplayer' hrow' =>
    exact .starts player (hplayer.symm.trans hbefore) hplayer' (hrow ▸ hrow')
  | stops player hbefore hplayer' hrow' =>
    exact .stops player (hplayer.symm.trans hbefore) hplayer' (hrow ▸ hrow')

theorem Turns.after (h : Turns s t) (ht : Aside t u) : Turns s u := by
  cases h with
  | keeps hplayer hrow =>
    exact .keeps (ht.holdTone.trans hplayer) (ht.holdRow.trans hrow)
  | starts player hbefore hplayer hrow =>
    exact .starts player hbefore (ht.holdTone.trans hplayer) (ht.holdRow.trans hrow)
  | stops player hbefore hplayer hrow =>
    exact .stops player hbefore (ht.holdTone.trans hplayer) (ht.holdRow.trans hrow)

/-- At most one signal goes to a player. -/
theorem Turns.length_le (h : Turns s t) :
    ∃ news, t.toneRow .hold = s.toneRow .hold ++ news ∧ news.length ≤ 1 := by
  cases h with
  | keeps hplayer hrow => exact ⟨[], by rw [hrow, List.append_nil], by simp⟩
  | starts player hbefore hplayer hrow => exact ⟨_, hrow, by simp⟩
  | stops player hbefore hplayer hrow => exact ⟨_, hrow, by simp⟩

/-- The player that the switchboard remembers is the one that plays. -/
theorem Turns.paired (h : Turns s t) (hs : Signal.Paired (s.toneRow .hold) s.holdTone) :
    Signal.Paired (t.toneRow .hold) t.holdTone := by
  cases h with
  | keeps hplayer hrow =>
    rw [hplayer, hrow]
    exact hs
  | starts player hbefore hplayer hrow =>
    rw [hplayer, hrow]
    exact (hbefore ▸ hs).concat_start player
  | stops player hbefore hplayer hrow =>
    rw [hplayer, hrow]
    exact (hbefore ▸ hs).concat_stop

/-! ## When the hold tone is due -/

/-- The hold tone goes by the call in front, the ringing calls and the registry. -/
theorem holdToneDue_congr (hfront : t.front = s.front) (hroster : t.roster = s.roster)
    (hregistry : t.registry = s.registry)
    (hattributes : t.alerter.attributes = s.alerter.attributes) :
    t.holdToneDue = s.holdToneDue := by
  have hstate : ∀ place, (t.call place).state = (s.call place).state :=
    fun place => congrArg Call.Attributes.state (congrFun hattributes place)
  have hheld : ∀ place, (t.call place).remotelyHeld = (s.call place).remotelyHeld :=
    fun place => congrArg Call.Attributes.remotelyHeld (congrFun hattributes place)
  simp only [holdToneDue, unheldFront, hfront, hroster, hregistry, hstate, hheld]

theorem Still.holdToneDue (h : Still s t) : t.holdToneDue = s.holdToneDue :=
  holdToneDue_congr h.front h.roster h.registry h.attributes

theorem Still.settled (h : Still s t) (hs : s.Settled) : t.Settled := by
  rw [Settled, h.holdTone, h.holdToneDue]
  exact hs

theorem holdToneDue_iff (s : Switchboard n) :
    s.holdToneDue = true ↔ ∃ place, s.front = some place ∧ (s.call place).state ≠ .onHold ∧
      s.roster.ringing = [] ∧ s.registry.hasRingingCall = false ∧
      (s.call place).state = .active ∧ (s.call place).remotelyHeld = true := by
  have hactive : ∀ state : Call.State, state.isActive = true ↔ state = .active := by
    intro state
    cases state <;> decide
  have hringing : s.roster.isOccupied .ringing = false ↔ s.roster.ringing = [] := by
    rw [← Bool.not_eq_true, s.roster.isOccupied_iff, not_not, Roster.get]
  unfold holdToneDue unheldFront
  cases hfront : s.front with
  | none => simp
  | some place =>
    by_cases hheld : (s.call place).state = .onHold
    · simp [Option.filter, hheld]
    · simp [Option.filter, hheld, hactive, hringing, and_assoc]

/-! ## Bringing it up to date -/

theorem turns_adjustHoldTone (s : Switchboard n) : Turns s s.adjustHoldTone := by
  unfold adjustHoldTone
  split
  next _ hnone =>
    exact .starts (s.alerter.players + 1) hnone rfl (toneRow_onAlerter s (·.startTone .hold) .hold)
  next player _ hsome =>
    exact .stops player hsome rfl (toneRow_onAlerter { s with holdTone := none }
      (fun alerter => (alerter.stopTone .hold player, ())) .hold)
  · exact .keeps rfl rfl

theorem holdToneDue_adjustHoldTone (s : Switchboard n) :
    s.adjustHoldTone.holdToneDue = s.holdToneDue := by
  have htouch := touches_adjustHoldTone s
  exact holdToneDue_congr (htouch.keeps .front (by decide)) (htouch.keeps .roster (by decide))
    (htouch.keeps .registry (by decide)) (htouch.keeps .attributes (by decide))

theorem settled_adjustHoldTone (s : Switchboard n) : s.adjustHoldTone.Settled := by
  rw [Settled, holdToneDue_adjustHoldTone]
  unfold adjustHoldTone
  split
  next hdue _ => exact hdue.symm
  next hdue _ => exact hdue.symm
  next hnotStart hnotStop =>
    cases hdue : s.holdToneDue with
    | true =>
      rcases hplayer : s.holdTone with - | player
      · exact absurd hplayer (hnotStart hdue)
      · rfl
    | false =>
      rcases hplayer : s.holdTone with - | player
      · rfl
      · exact absurd hplayer (hnotStop player hdue)

/-- What is as it is due stays. -/
theorem adjustHoldTone_of_settled (h : s.Settled) : s.adjustHoldTone = s := by
  unfold adjustHoldTone
  split
  next hdue hnone =>
    rw [Settled, hdue, hnone] at h
    cases h
  next hdue hsome =>
    rw [Settled, hdue, hsome] at h
    cases h
  · rfl

/-- A new choice of the call in front leaves the hold tone alone, or as it is due. -/
theorem turns_updateFront (s : Switchboard n) :
    (s.updateFront.holdTone = s.holdTone ∧ s.updateFront.toneRow .hold = s.toneRow .hold) ∨
      (Turns s s.updateFront ∧ s.updateFront.Settled) := by
  have hrow : ∀ front old new, (({ s with front := front }.sendRoute .update).send
      (.frontChanged old new)).toneRow .hold = s.toneRow .hold :=
    fun front old new => (((touches_front s front).trans (touches_sendRoute _ .update)).trans
      (touches_frontChanged _ old new)).toneRow (by decide) .hold
  unfold updateFront
  dsimp only
  split
  · exact .inl ⟨rfl, rfl⟩
  · exact .inr ⟨(turns_adjustHoldTone _).before rfl (hrow _ _ _), settled_adjustHoldTone _⟩

/-! ## Operations -/

/-- The hold tone that turned when the call in front was chosen does not turn again. -/
theorem Takes.turns (h : Takes s u) : Turns s u := by
  obtain ⟨r, t, hr, ht, hu⟩ := h
  have hclose : Turns r t.adjustHoldTone := by
    rcases turns_updateFront r with ⟨hplayer, hrow⟩ | ⟨hturns, hsettled⟩
    · exact (turns_adjustHoldTone t).before (ht.holdTone.trans hplayer) (ht.holdRow.trans hrow)
    · rw [adjustHoldTone_of_settled (ht.settled hsettled)]
      exact hturns.after ht.toAside
  exact (hclose.before hr.holdTone hr.holdRow).after hu.toAside

theorem Takes.settled (h : Takes s u) : u.Settled := by
  obtain ⟨r, t, -, -, hu⟩ := h
  exact hu.settled (settled_adjustHoldTone t)

theorem turns_perform (s : Switchboard n) (operation : Operation n) :
    Turns s (s.perform operation).1 := by
  cases course_perform s operation with
  | taken haccepts h => exact h.turns
  | hold place hoperation h =>
    rw [h]
    exact turns_adjustHoldTone s
  | connection place hoperation h =>
    rw [h]
    exact .keeps rfl ((touches_sendRoute s .update).toneRow (by decide) .hold)
  | aside haccepts hconnection h hroster => exact h.turns

/-- The hold tone is as it is due after every word that is taken in, and when asked for. -/
theorem settled_perform {operation : Operation n}
    (h : s.accepts operation = true ∨ ∃ place, operation = .holdToneRequested place) :
    (s.perform operation).1.Settled := by
  rcases h with haccepts | ⟨place, rfl⟩
  · exact (takes_perform haccepts).settled
  · exact settled_adjustHoldTone s

/-- The switchboard remembers the player that was started last and has not stopped. -/
theorem paired_run {s : Switchboard n} (hs : Signal.Paired (s.toneRow .hold) s.holdTone)
    (operations : List (Operation n)) :
    Signal.Paired ((s.run operations).toneRow .hold) (s.run operations).holdTone := by
  induction operations generalizing s with
  | nil => exact hs
  | cons operation rest ih => exact ih ((turns_perform s operation).paired hs)

/-- In every run of an idle switchboard: after a word that is taken in, and after a
request for the hold tone, it plays exactly if there is a call in front that is not on
hold, no call rings, tracked or not, and the call in front is active and held by the
remote party. Its players start and stop in turn, beginning with a start, and each stop
goes to the player that was started last. It plays exactly if there is one more start
than there are stops, on the player started last. One operation starts or stops it at
most once. -/
theorem run_plays_hold_tone (calls : CallTable n) (profile : DeviceProfile)
    (settings : Settings) (surroundings : Surroundings) (timed : Bool) (registry : Registry)
    (desks : Option Desks) (operations : List (Operation n)) :
    let s := (idle calls profile settings surroundings timed registry desks).run operations
    let row := s.toneRow .hold
    (∀ operation,
      (s.accepts operation = true ∨ ∃ place, operation = .holdToneRequested place) →
      let t := (s.perform operation).1
      (t.holdTone.isSome = true ↔ ∃ place, t.front = some place ∧ (t.call place).state ≠ .onHold ∧
        t.roster.ringing = [] ∧ t.registry.hasRingingCall = false ∧
        (t.call place).state = .active ∧ (t.call place).remotelyHeld = true)) ∧
    Crossing.Alternates true (row.map Signal.isStart) ∧
    (∀ before player after, row = before ++ .stop player :: after →
      before.getLast? = some (.start player)) ∧
    row.countP Signal.isStart =
      row.countP (fun signal => !signal.isStart) + s.holdTone.toList.length ∧
    s.holdTone = Signal.current? row ∧
    ∀ operation, ∃ news,
      (s.perform operation).1.toneRow .hold = row ++ news ∧ news.length ≤ 1 := by
  intro s row
  have hpaired : Signal.Paired row s.holdTone :=
    paired_run (s := idle calls profile settings surroundings timed registry desks)
      Signal.paired_nil operations
  refine ⟨?_, hpaired.alternates, ?_, hpaired.count, hpaired.current?_eq.symm, ?_⟩
  · intro operation h t
    have hsettled : t.Settled := settled_perform h
    rw [hsettled]
    exact holdToneDue_iff t
  · intro before player after hrow
    exact hpaired.getLast?_of_stop hrow
  · intro operation
    exact (turns_perform s operation).length_le

end PhoneAudio.Switchboard
