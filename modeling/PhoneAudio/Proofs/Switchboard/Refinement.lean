import PhoneAudio.Proofs.Switchboard.Ledger

/-!
# The roster refines the ledger

The tracked calls and the four groups are two readings of one ledger. The tracked
calls are its arrivals, and each group is the ledger restricted to the entries
whose state belongs to it, in the order of the ledger. One operation on the
switchboard is at most one word for the ledger (`Refines.perform`), and so every
run from the idle switchboard keeps the two together (`run_refines_ledger`). What
the ledger does not take in, the switchboard does not hear.
-/

namespace PhoneAudio

namespace Switchboard

variable {n : Nat}

/-! ## Rosters that list a ledger -/

/-- Every group of a roster lists the calls that the entries put there. -/
def Lists (ident : Fin n → CallId) (roster : Roster (Fin n)) (entries : List Ledger.Entry) :
    Prop :=
  ∀ group, (roster.get group).map ident = Ledger.members entries group

theorem Lists.erase {ident : Fin n → CallId} {roster : Roster (Fin n)}
    {entries : List Ledger.Entry} (h : Lists ident roster entries) (id : CallId) :
    Lists ident (roster.erase ident id) (Ledger.others entries id) := by
  intro group
  rw [Roster.get_erase, Ledger.members_others, ← h group, List.filter_map]
  rfl

theorem Lists.insert {ident : Fin n → CallId} {roster : Roster (Fin n)}
    {entries : List Ledger.Entry} (h : Lists ident roster entries) {entry : Ledger.Entry}
    {group : Group} {place : Fin n} (hid : ident place = entry.id)
    (hgroup : entry.group? = some group) (hnew : entry.id ∉ entries.map Ledger.Entry.id) :
    Lists ident (roster.insert ident group place) (entries ++ [entry]) := by
  -- a call that is not entered stands in no group, so the insertion appends it
  have hfree : roster.has ident group (ident place) = false := by
    rw [Roster.has, List.any_eq_false]
    intro member hmember hsame
    apply hnew
    apply Ledger.members_subset entries group
    rw [← h group, ← hid, ← eq_of_beq hsame]
    exact List.mem_map_of_mem hmember
  intro other
  rw [Roster.get_insert, Ledger.members_concat, hgroup]
  by_cases hother : group = other
  · rw [if_pos ⟨hother, hfree⟩, if_pos (congrArg some hother), List.map_append, h other]
    rw [List.map_singleton, hid]
  · rw [if_neg fun hboth => hother hboth.1, if_neg fun hsome => hother (Option.some.inj hsome)]
    exact h other

theorem Lists.concat_of_none {ident : Fin n → CallId} {roster : Roster (Fin n)}
    {entries : List Ledger.Entry} (h : Lists ident roster entries) {entry : Ledger.Entry}
    (hgroup : entry.group? = none) : Lists ident roster (entries ++ [entry]) := by
  intro group
  rw [Ledger.members_concat, hgroup, if_neg (by simp)]
  exact h group

/-- A call takes its seat at the end of the ledger. -/
theorem lists_seat {s : Switchboard n} {entries : List Ledger.Entry}
    (h : Lists s.ident s.roster entries) {place : Fin n} (state : Call.State)
    (hnew : s.ident place ∉ entries.map Ledger.Entry.id) :
    Lists s.ident (s.seat place state).roster (entries ++ [.of (s.call place) state]) := by
  unfold seat
  split
  next group hgroup => exact h.insert rfl hgroup hnew
  next hgroup => exact h.concat_of_none hgroup

/-! ## The refinement -/

/-- The tracked calls and the groups are readings of a ledger. -/
structure Refines (s : Switchboard n) (ledger : Ledger) : Prop where
  tracked : s.tracked.map s.ident = ledger.arrivals
  roster : Lists s.ident s.roster ledger.entries

theorem Refines.isTracked_iff {s : Switchboard n} {ledger : Ledger} (h : s.Refines ledger)
    (id : CallId) : s.isTracked id = true ↔ id ∈ ledger.arrivals := by
  rw [← h.tracked]
  simp [isTracked]

theorem Refines.isTracked_eq_false {s : Switchboard n} {ledger : Ledger} (h : s.Refines ledger)
    {id : CallId} : s.isTracked id = false ↔ id ∉ ledger.arrivals := by
  rw [← h.isTracked_iff, Bool.not_eq_true]

/-- A step that leaves the roster and the tracked calls alone keeps the ledger. -/
theorem Refines.of_touches {parts : List Part} {s t : Switchboard n} {ledger : Ledger}
    (hs : s.Refines ledger) (h : Touches parts s t)
    (hparts : ∀ part ∈ parts, part ∉ [Part.natures, .roster, .tracked]) : t.Refines ledger := by
  have hkeeps : ∀ part ∈ [Part.natures, .roster, .tracked], part ∉ parts :=
    fun part hmem hpart => hparts part hpart hmem
  have hident : t.ident = s.ident := h.ident (hkeeps .natures (by simp))
  have hroster : t.roster = s.roster := h.keeps .roster (hkeeps .roster (by simp))
  have htracked : t.tracked = s.tracked := h.keeps .tracked (hkeeps .tracked (by simp))
  constructor
  · rw [htracked, hident]
    exact hs.tracked
  · rw [hroster, hident]
    exact hs.roster

/-- What comes last leaves the roster and the tracked calls alone. -/
theorem Refines.close {t : Switchboard n} {ledger : Ledger} (ht : t.Refines ledger)
    (before : Headcount) : (t.tellCrossings before).adjustHoldTone.Refines ledger :=
  ht.of_touches ((touches_tellCrossings t before).trans (touches_adjustHoldTone _)) (by decide)

theorem Refines.track {s : Switchboard n} {ledger : Ledger} (hs : s.Refines ledger)
    (place : Fin n) :
    (s.track place).Refines (ledger.take (.joined (.of (s.call place) (s.call place).state))) := by
  rw [Ledger.take]
  split
  next hold =>
    rw [track_of_tracked ((hs.isTracked_iff _).mpr hold)]
    exact hs
  next hnew =>
    obtain ⟨t, ht, hroster, htracked, heq⟩ := track_eq (hs.isTracked_eq_false.mpr hnew)
    have hident : t.ident = s.ident := ht.ident (by decide)
    rw [heq]
    apply Refines.close
    constructor
    · rw [htracked, hident, List.map_append, hs.tracked]
      rfl
    · rw [hroster, hident]
      exact lists_seat hs.roster _ fun h => hnew ((ledger.mem_arrivals _).mpr h)

theorem Refines.untrack {s : Switchboard n} {ledger : Ledger} (hs : s.Refines ledger)
    (place : Fin n) : (s.untrack place).Refines (ledger.take (.left (s.ident place))) := by
  rw [Ledger.take]
  split
  next hold =>
    obtain ⟨t, ht, hroster, htracked, heq⟩ := untrack_eq ((hs.isTracked_iff _).mpr hold)
    have hident : t.ident = s.ident := ht.ident (by decide)
    rw [heq]
    apply Refines.close
    constructor
    · rw [htracked, hident]
      show _ = ledger.arrivals.filter fun id => id != s.ident place
      rw [← hs.tracked, List.filter_map]
      rfl
    · rw [hroster, hident]
      exact hs.roster.erase (s.ident place)
  next hnew =>
    rw [untrack_of_untracked (hs.isTracked_eq_false.mpr hnew)]
    exact hs

theorem Refines.stateChanged {s : Switchboard n} {ledger : Ledger} (hs : s.Refines ledger)
    {place : Fin n} (old new : Call.State) (hheard : (s.call place).isIgnored = false) :
    (s.stateChanged place old new).Refines (ledger.take (.moved (.of (s.call place) new))) := by
  rw [Ledger.take]
  split
  next hold =>
    obtain ⟨t, ht, hroster, htracked, heq⟩ :=
      stateChanged_eq old new hheard ((hs.isTracked_iff _).mpr hold)
    have hident : t.ident = s.ident := ht.ident (by decide)
    rw [heq]
    apply Refines.close
    constructor
    · rw [htracked, hident]
      exact hs.tracked
    · rw [hroster, hident]
      -- the call is struck from every group before it takes its new seat
      have herased : Lists s.ident (s.roster.erase s.ident (s.ident place))
          (Ledger.others ledger.entries (s.ident place)) := hs.roster.erase (s.ident place)
      refine lists_seat (s := { s with roster := s.roster.erase s.ident (s.ident place) })
        herased new ?_
      show s.ident place ∉ (Ledger.others ledger.entries (s.ident place)).map Ledger.Entry.id
      rw [Ledger.map_id_others]
      simp
  next hnew =>
    rw [stateChanged_of_ignored old new (.inr (hs.isTracked_eq_false.mpr hnew))]
    exact hs

/-- A word that is only heard of calls that are not ignored. -/
theorem Refines.hear {s t : Switchboard n} {ledger : Ledger} {operation : Operation n}
    {word : Ledger.Word} (hs : s.Refines ledger) (call : Call)
    (hword : operation.word? s.alerter.calls = wordUnlessIgnored call word)
    (hignored : call.isIgnored = true → t = s)
    (hheard : call.isIgnored = false → t.Refines (ledger.take word)) :
    t.Refines (ledger.hear s.alerter.calls operation) := by
  cases h : call.isIgnored with
  | true =>
    rw [Ledger.hear_of_none (hword.trans (if_pos h)), hignored h]
    exact hs
  | false =>
    rw [Ledger.hear_of_some (hword.trans (if_neg (by simp [h])))]
    exact hheard h

theorem Refines.added {s : Switchboard n} {ledger : Ledger} (hs : s.Refines ledger)
    (place : Fin n) : (s.added place).Refines (ledger.hear s.alerter.calls (.added place)) := by
  refine hs.hear (s.call place) rfl (fun hignored => ?_) (fun hheard => ?_)
  · rw [Switchboard.added, if_pos hignored]
  · rw [Switchboard.added, if_neg (by simp [hheard])]
    exact hs.track place

theorem Refines.removed {s : Switchboard n} {ledger : Ledger} (hs : s.Refines ledger)
    (place : Fin n) : (s.removed place).Refines (ledger.hear s.alerter.calls (.removed place)) := by
  refine hs.hear (s.call place) rfl (fun hignored => ?_) (fun hheard => ?_)
  · rw [Switchboard.removed, if_pos hignored]
  · rw [Switchboard.removed, if_neg (by simp [hheard])]
    exact hs.untrack place

theorem Refines.conferenceChanged {s : Switchboard n} {ledger : Ledger} (hs : s.Refines ledger)
    (place : Fin n) :
    (s.conferenceChanged place).Refines
      (ledger.hear s.alerter.calls (.conferenceChanged place)) := by
  by_cases hparent : (s.call place).parent.isNone = true
  · have hword : (Operation.conferenceChanged place).word? s.alerter.calls =
        (Operation.added place).word? s.alerter.calls := if_pos hparent
    rw [Switchboard.conferenceChanged, if_pos hparent, Ledger.hear, hword]
    exact hs.added place
  · have hword : (Operation.conferenceChanged place).word? s.alerter.calls =
        some (.left (s.ident place)) := if_neg hparent
    rw [Switchboard.conferenceChanged, if_neg hparent, Ledger.hear_of_some hword]
    exact hs.untrack place

theorem Refines.externalChanged {s : Switchboard n} {ledger : Ledger} (hs : s.Refines ledger)
    (place : Fin n) (external : Bool) :
    (s.externalChanged place external).Refines
      (ledger.hear s.alerter.calls (.externalChanged place external)) := by
  cases external with
  | true => exact hs.untrack place
  | false =>
    have htrack := hs.track place
    show Refines (if (s.track place).registry.autoSpeaker ((s.track place).call place).video then
      (s.track place).autoSpeaker else s.track place) _
    split
    · exact htrack.of_touches (touches_autoSpeaker _) (by decide)
    · exact htrack

/-- The state that the owner gives to a call is not what decides whether the call is
ignored, and it does not show in the word about it. -/
theorem word?_revise (calls : CallTable n) (place : Fin n) (old state : Call.State) :
    (Operation.stateChanged place old state).word? (calls.revise place (.state state)) =
      (Operation.moved place state).word? calls := by
  have hignored : ((calls.revise place (.state state)).get place).isIgnored =
      (calls.get place).isIgnored :=
    CallTable.get_modify_of_eq Call.isIgnored calls place place fun _ => rfl
  have hentry : Ledger.Entry.of ((calls.revise place (.state state)).get place) state =
      .of (calls.get place) state :=
    CallTable.get_modify_of_eq (fun call => Ledger.Entry.of call state) calls place place
      fun _ => rfl
  rw [Operation.word?, Operation.word?, wordUnlessIgnored, wordUnlessIgnored, hignored, hentry]

theorem Refines.stateTold {s : Switchboard n} {ledger : Ledger} (hs : s.Refines ledger)
    (place : Fin n) (old new : Call.State) :
    (s.stateChanged place old new).Refines
      (ledger.hear s.alerter.calls (.stateChanged place old new)) := by
  refine hs.hear (s.call place) rfl (fun hignored => ?_) (fun hheard => ?_)
  · exact stateChanged_of_ignored old new (.inl hignored)
  · exact hs.stateChanged old new hheard

theorem Refines.moved {s : Switchboard n} {ledger : Ledger} (hs : s.Refines ledger)
    (place : Fin n) (state : Call.State) :
    (s.perform (.moved place state)).1.Refines
      (ledger.hear s.alerter.calls (.moved place state)) := by
  have hrevise := touches_revise s place (.state state)
  have htold := (hs.of_touches hrevise (by decide)).stateTold place (s.call place).state state
  have hword := word?_revise s.alerter.calls place (s.call place).state state
  rw [Ledger.hear, ← hword]
  exact htold

/-- One operation on the switchboard is one word for the ledger. -/
theorem Refines.perform {s : Switchboard n} {ledger : Ledger} (hs : s.Refines ledger)
    (operation : Operation n) :
    (s.perform operation).1.Refines (ledger.hear s.alerter.calls operation) := by
  cases operation with
  | added place => exact hs.added place
  | removed place => exact hs.removed place
  | moved place state => exact hs.moved place state
  | stateChanged place old new => exact hs.stateTold place old new
  | externalChanged place external => exact hs.externalChanged place external
  | conferenceChanged place => exact hs.conferenceChanged place
  | _ => exact hs.of_touches (touches_perform s _) (by simp [Operation.parts])

theorem Refines.run {s : Switchboard n} {ledger : Ledger} (hs : s.Refines ledger)
    (operations : List (Operation n)) :
    (s.run operations).Refines (ledger.follow s operations) := by
  induction operations generalizing s ledger with
  | nil => exact hs
  | cons operation rest ih => exact ih (hs.perform operation)

theorem refines_idle (calls : CallTable n) (profile : DeviceProfile) (settings : Settings)
    (surroundings : Surroundings) (timed : Bool) (registry : Registry) (desks : Option Desks) :
    (idle calls profile settings surroundings timed registry desks).Refines .empty := by
  constructor
  · rfl
  · intro group
    cases group <;> rfl

/-! ## Words that are not taken in -/

/-- The state if nothing had been said: a call that moved has moved all the same. -/
def unheard (s : Switchboard n) : Operation n → Switchboard n
  | .moved place state => (s.perform (.alerter (.revise place (.state state)))).1
  | _ => s

/-- What is not said to the switchboard makes it say nothing. -/
theorem sent_unheard (s : Switchboard n) (operation : Operation n) :
    (s.unheard operation).sent = s.sent := by
  cases operation with
  | moved place state => exact List.append_nil s.sent
  | _ => rfl

theorem Refines.track_of_refuses {s : Switchboard n} {ledger : Ledger} (hs : s.Refines ledger)
    {place : Fin n} {state : Call.State}
    (h : ledger.accepts (.joined (.of (s.call place) state)) = false) : s.track place = s := by
  apply track_of_tracked
  rw [hs.isTracked_iff]
  exact (ledger.accepts_joined _).mp h

theorem Refines.untrack_of_refuses {s : Switchboard n} {ledger : Ledger} (hs : s.Refines ledger)
    {place : Fin n} (h : ledger.accepts (.left (s.ident place)) = false) :
    s.untrack place = s := by
  apply untrack_of_untracked
  rw [hs.isTracked_eq_false]
  exact (ledger.accepts_left _).mp h

theorem Refines.added_of_refuses {s : Switchboard n} {ledger : Ledger} (hs : s.Refines ledger)
    {place : Fin n} (h : ledger.Refuses s.alerter.calls (.added place)) : s.added place = s := by
  rw [Switchboard.added]
  split
  · rfl
  next hheard => exact hs.track_of_refuses (h _ (if_neg hheard))

theorem Refines.removed_of_refuses {s : Switchboard n} {ledger : Ledger} (hs : s.Refines ledger)
    {place : Fin n} (h : ledger.Refuses s.alerter.calls (.removed place)) :
    s.removed place = s := by
  rw [Switchboard.removed]
  split
  · rfl
  next hheard => exact hs.untrack_of_refuses (h _ (if_neg hheard))

theorem Refines.stateChanged_of_refuses {s : Switchboard n} {ledger : Ledger}
    (hs : s.Refines ledger) {place : Fin n} {old new : Call.State}
    (h : ledger.Refuses s.alerter.calls (.stateChanged place old new)) :
    s.stateChanged place old new = s := by
  apply stateChanged_of_ignored
  by_cases hignored : (s.call place).isIgnored = true
  · exact .inl hignored
  · have hrefused := h _ (if_neg hignored)
    exact .inr (hs.isTracked_eq_false.mpr ((ledger.accepts_moved _).mp hrefused))

/-- The pull of a call that is tracked may put it on the speaker, and that is all. -/
theorem pull_of_tracked {s : Switchboard n} {place : Fin n} (h : s.track place = s) :
    s.externalChanged place false = s ∨
      s.externalChanged place false = s.sendRoute .autoSpeaker := by
  have hpull : s.externalChanged place false =
      if s.registry.autoSpeaker (s.call place).video then s.autoSpeaker else s := by
    rw [externalChanged, if_neg (by simp)]
    dsimp only
    rw [h]
  rw [hpull, autoSpeaker]
  split
  · split
    · exact .inl rfl
    · exact .inr rfl
  · exact .inl rfl

/-- A word that the ledger does not take in is not heard by the switchboard either. Only
the pull of a call that is tracked already may put it on the speaker. -/
theorem Refines.perform_of_ignores {s : Switchboard n} {ledger : Ledger} (hs : s.Refines ledger)
    {operation : Operation n} (h : ledger.ignores s.alerter.calls operation = true) :
    (s.perform operation).1 = s.unheard operation ∨
      ∃ place, operation = .externalChanged place false ∧
        (s.perform operation).1 = s.sendRoute .autoSpeaker := by
  have hrefused := Ledger.refuses_of_ignores h
  cases operation with
  | added place => exact .inl (hs.added_of_refuses hrefused)
  | removed place => exact .inl (hs.removed_of_refuses hrefused)
  | stateChanged place old new => exact .inl (hs.stateChanged_of_refuses hrefused)
  | moved place state =>
    have hrevised := hs.of_touches (touches_revise s place (.state state)) (by decide)
    left
    apply hrevised.stateChanged_of_refuses
    intro word hword
    exact hrefused word ((word?_revise s.alerter.calls place _ state).symm.trans hword)
  | externalChanged place external =>
    have hsame := hrefused _ rfl
    cases external with
    | true => exact .inl (hs.untrack_of_refuses hsame)
    | false =>
      have htrack : s.track place = s := hs.track_of_refuses hsame
      rcases pull_of_tracked htrack with hsame | hspeaker
      · exact .inl hsame
      · exact .inr ⟨place, rfl, hspeaker⟩
  | conferenceChanged place =>
    left
    show s.conferenceChanged place = s
    by_cases hparent : (s.call place).parent.isNone = true
    · rw [Switchboard.conferenceChanged, if_pos hparent]
      apply hs.added_of_refuses
      intro word hword
      exact hrefused word ((if_pos hparent).trans hword)
    · rw [Switchboard.conferenceChanged, if_neg hparent]
      exact hs.untrack_of_refuses (hrefused _ (if_neg hparent))
  | _ => simp [Ledger.ignores, Operation.isNotice] at h

/-! ## Every run -/

/-- After every run from the idle switchboard the tracked calls are the arrivals of the
ledger, and each group lists the entries that belong to it, in the order of the ledger.
So no call is tracked twice, none stands in two groups or twice in one, and the tracked
calls are those with an entry. A word that the ledger does not take in changes nothing
and sends nothing, but for the speaker at the pull of a call that is tracked already. -/
theorem run_refines_ledger (calls : CallTable n) (profile : DeviceProfile) (settings : Settings)
    (surroundings : Surroundings) (timed : Bool) (registry : Registry) (desks : Option Desks)
    (operations : List (Operation n)) :
    let start := idle calls profile settings surroundings timed registry desks
    let s := start.run operations
    let ledger := Ledger.empty.follow start operations
    s.tracked.map s.ident = ledger.arrivals ∧
      (∀ group, (s.roster.get group).map s.ident =
        (ledger.entries.filter fun entry => entry.group? = some group).map Ledger.Entry.id) ∧
      (s.tracked.map s.ident).Nodup ∧
      (∀ id, id ∈ s.tracked.map s.ident ↔ id ∈ ledger.entries.map Ledger.Entry.id) ∧
      (∀ group, ((s.roster.get group).map s.ident).Nodup) ∧
      (∀ group other, group ≠ other →
        ((s.roster.get group).map s.ident).Disjoint ((s.roster.get other).map s.ident)) ∧
      ∀ operation, ledger.ignores s.alerter.calls operation = true →
        ledger.hear s.alerter.calls operation = ledger ∧
          (s.unheard operation).sent = s.sent ∧
          ((s.perform operation).1 = s.unheard operation ∨
            ∃ place, operation = .externalChanged place false ∧
              (s.perform operation).1 = s.sendRoute .autoSpeaker) := by
  intro start s ledger
  have hs : s.Refines ledger :=
    (refines_idle calls profile settings surroundings timed registry desks).run operations
  refine ⟨hs.tracked, hs.roster, ?_, ?_, ?_, ?_, ?_⟩
  · rw [hs.tracked]
    exact ledger.nodup
  · intro id
    rw [hs.tracked]
    exact ledger.mem_arrivals id
  · intro group
    rw [hs.roster group]
    exact ledger.nodup_members group
  · intro group other hne
    rw [hs.roster group, hs.roster other]
    exact ledger.disjoint_members hne
  · intro operation h
    exact ⟨(Ledger.refuses_of_ignores h).hear, s.sent_unheard operation, hs.perform_of_ignores h⟩

end Switchboard

end PhoneAudio
