import PhoneAudio.Proofs.Switchboard.Aside
import PhoneAudio.Proofs.Switchboard.Refinement

/-!
# The course of an operation

The call in front and the hold tone change at few points. A word that is taken in
changes the roster, has the call in front chosen again, goes on with what follows from
it, and at last brings the hold tone up to date (`Takes`). A request for the hold tone
does only the last. Everything else is an aside: it says nothing about the call in
front, asks for no update of the route, and starts and stops no hold tone. This is all
that later modules need to know about an operation (`Course`, `course_perform`).
-/

namespace PhoneAudio.Switchboard

variable {n : Nat} {s u : Switchboard n} {operation : Operation n}

/-! ## Words that are taken in -/

/-- Whether a word is about a call that is tracked, or about one that is not if the call
joins. -/
def takesIn (s : Switchboard n) : Ledger.Word → Bool
  | .joined entry => !s.isTracked entry.id
  | .moved entry => s.isTracked entry.id
  | .left id => s.isTracked id

/-- Whether an operation has a word about a call that is taken in. -/
def accepts (s : Switchboard n) (operation : Operation n) : Bool :=
  (operation.word? s.alerter.calls).any s.takesIn

/-- A word that is taken in changes the roster, has the call in front chosen again, goes
on with what follows, and brings the hold tone up to date at its end. -/
def Takes (s u : Switchboard n) : Prop :=
  ∃ r t, Aside s r ∧ Still r.updateFront t ∧ Still t.adjustHoldTone u

theorem Takes.before {r u : Switchboard n} (h : Takes r u) (hs : Aside s r) : Takes s u := by
  obtain ⟨v, t, hv, ht, hu⟩ := h
  exact ⟨v, t, hs.trans hv, ht, hu⟩

theorem Takes.after {u v : Switchboard n} (h : Takes s u) (hv : Still u v) : Takes s v := by
  obtain ⟨r, t, hr, ht, hu⟩ := h
  exact ⟨r, t, hr, ht, hu.trans hv⟩

theorem takes_track {place : Fin n} (h : s.isTracked (s.ident place) = false) :
    Takes s (s.track place) := by
  rw [track, if_neg (by simp [h])]
  refine ⟨s.seat place (s.call place).state, _, aside_seat s place _, ?_, .refl _⟩
  refine Still.trans ?_ (still_tellCrossings _ _)
  refine Still.trans ?_ (still_enter _ place _)
  exact (still_tracked _ _).trans (still_updatePresence _)

theorem takes_untrack {place : Fin n} (h : s.isTracked (s.ident place) = true) :
    Takes s (s.untrack place) := by
  rw [untrack]
  dsimp only
  rw [if_pos h]
  refine ⟨{ s with roster := s.roster.erase s.ident (s.ident place) }, _, aside_roster s _, ?_,
    .refl _⟩
  refine Still.trans ?_ (still_tellCrossings _ _)
  refine Still.trans ?_ (still_leave _ place _)
  exact (still_tracked _ _).trans (still_updatePresence _)

theorem takes_stateChanged {place : Fin n} (old new : Call.State)
    (hheard : (s.call place).isIgnored = false) (h : s.isTracked (s.ident place) = true) :
    Takes s (s.stateChanged place old new) := by
  have hmode : ∀ t : Switchboard n,
      Still t (if t.carrierMode && new ≠ .ringing then t.endCarrierMode else t) := by
    intro t
    split
    · exact still_endCarrierMode t
    · exact .refl t
  rw [stateChanged, if_neg (by simp [hheard, h])]
  refine ⟨(seat { s with roster := s.roster.erase s.ident (s.ident place) } place
    new).updatePresence, _, ?_, ?_, .refl _⟩
  · refine Aside.trans ?_ (still_updatePresence _).toAside
    exact (aside_roster s _).trans (aside_seat _ place new)
  · refine Still.trans ?_ (still_tellCrossings _ _)
    refine Still.trans ?_ ((still_leave _ place old).trans (still_enter _ place new))
    exact (still_playChangeTones _ place old new).trans (hmode _)

/-! ## The course of every operation -/

/-- What an operation does to the call in front and to the hold tone. -/
inductive Course (s : Switchboard n) (operation : Operation n) (u : Switchboard n) : Prop
  | taken (haccepts : s.accepts operation = true) (h : Takes s u)
  | hold (place : Fin n) (hoperation : operation = .holdToneRequested place)
      (h : u = s.adjustHoldTone)
  | connection (place : Fin n) (hoperation : operation = .connectionChanged place)
      (h : u = s.sendRoute .update)
  | aside (haccepts : s.accepts operation = false)
      (hconnection : ∀ place, operation ≠ .connectionChanged place) (h : Aside s u)
      (hroster : u.roster = s.roster)

/-- A word that is not taken in has no course. -/
theorem course_refl (haccepts : s.accepts operation = false)
    (hconnection : ∀ place, operation ≠ .connectionChanged place) : Course s operation s :=
  .aside haccepts hconnection (Still.refl s).toAside rfl

theorem course_still (h : Still s u) (haccepts : s.accepts operation = false)
    (hconnection : ∀ place, operation ≠ .connectionChanged place) : Course s operation u :=
  .aside haccepts hconnection h.toAside h.roster

theorem accepts_of_word? (word : Ledger.Word) (h : operation.word? s.alerter.calls = some word) :
    s.accepts operation = s.takesIn word := by
  rw [accepts, h]
  rfl

theorem accepts_unlessIgnored (call : Call) (word : Ledger.Word)
    (h : operation.word? s.alerter.calls = wordUnlessIgnored call word) :
    s.accepts operation = (!call.isIgnored && s.takesIn word) := by
  rw [accepts, h, wordUnlessIgnored]
  cases call.isIgnored <;> rfl

theorem course_track {place : Fin n}
    (haccepts : s.accepts operation = !s.isTracked (s.ident place))
    (hconnection : ∀ place, operation ≠ .connectionChanged place) :
    Course s operation (s.track place) := by
  cases h : s.isTracked (s.ident place) with
  | true =>
    rw [track_of_tracked h]
    exact course_refl (by simp [haccepts, h]) hconnection
  | false => exact .taken (by simp [haccepts, h]) (takes_track h)

theorem course_untrack {place : Fin n}
    (haccepts : s.accepts operation = s.isTracked (s.ident place))
    (hconnection : ∀ place, operation ≠ .connectionChanged place) :
    Course s operation (s.untrack place) := by
  cases h : s.isTracked (s.ident place) with
  | true => exact .taken (by simp [haccepts, h]) (takes_untrack h)
  | false =>
    rw [untrack_of_untracked h]
    exact course_refl (by simp [haccepts, h]) hconnection

theorem course_added {place : Fin n} (hconnection : ∀ place, operation ≠ .connectionChanged place)
    (hword : operation.word? s.alerter.calls = (Operation.added place).word? s.alerter.calls) :
    Course s operation (s.added place) := by
  have haccepts : s.accepts operation =
      (!(s.call place).isIgnored && !s.isTracked (s.ident place)) :=
    accepts_unlessIgnored (s.call place) (.joined (.of (s.call place) (s.call place).state)) hword
  rw [added]
  split
  next hignored => exact course_refl (by simp [haccepts, hignored]) hconnection
  next hheard => exact course_track (by simp [haccepts, hheard]) hconnection

theorem course_removed (s : Switchboard n) (place : Fin n) :
    Course s (.removed place) (s.removed place) := by
  have haccepts : s.accepts (.removed place) =
      (!(s.call place).isIgnored && s.isTracked (s.ident place)) :=
    accepts_unlessIgnored (s.call place) (.left (s.ident place)) rfl
  rw [removed]
  split
  next hignored => exact course_refl (by simp [haccepts, hignored]) (by simp)
  next hheard => exact course_untrack (by simp [haccepts, hheard]) (by simp)

theorem course_stateChanged (s : Switchboard n) (place : Fin n) (old new : Call.State) :
    Course s (.stateChanged place old new) (s.stateChanged place old new) := by
  have haccepts : s.accepts (.stateChanged place old new) =
      (!(s.call place).isIgnored && s.isTracked (s.ident place)) :=
    accepts_unlessIgnored (s.call place) (.moved (.of (s.call place) new)) rfl
  by_cases h : (s.call place).isIgnored = true ∨ s.isTracked (s.ident place) = false
  · rw [stateChanged_of_ignored old new h]
    refine course_refl ?_ (by simp)
    rcases h with h | h <;> simp [haccepts, h]
  · simp only [not_or, Bool.not_eq_true, Bool.not_eq_false] at h
    exact .taken (by simp [haccepts, h]) (takes_stateChanged old new h.1 h.2)

theorem course_conferenceChanged (s : Switchboard n) (place : Fin n) :
    Course s (.conferenceChanged place) (s.conferenceChanged place) := by
  by_cases hparent : (s.call place).parent.isNone = true
  · rw [conferenceChanged, if_pos hparent]
    exact course_added (by simp) (if_pos hparent)
  · rw [conferenceChanged, if_neg hparent]
    exact course_untrack (accepts_of_word? (.left (s.ident place)) (if_neg hparent)) (by simp)

theorem course_externalChanged (s : Switchboard n) (place : Fin n) (external : Bool) :
    Course s (.externalChanged place external) (s.externalChanged place external) := by
  cases external with
  | true => exact course_untrack (accepts_of_word? (.left (s.ident place)) rfl) (by simp)
  | false =>
    have haccepts : s.accepts (.externalChanged place false) = !s.isTracked (s.ident place) :=
      accepts_of_word? (.joined (.of (s.call place) (s.call place).state)) rfl
    have hpull : ∀ t : Switchboard n,
        Still t (if t.registry.autoSpeaker (t.call place).video then t.autoSpeaker else t) := by
      intro t
      split
      · exact still_autoSpeaker t
      · exact .refl t
    cases h : s.isTracked (s.ident place) with
    | true =>
      have hstill := hpull (s.track place)
      rw [track_of_tracked h] at hstill
      refine course_still ?_ (by simp [haccepts, h]) (by simp)
      rw [externalChanged, if_neg (by simp), track_of_tracked h]
      exact hstill
    | false =>
      refine .taken (by simp [haccepts, h]) ?_
      rw [externalChanged, if_neg (by simp)]
      exact (takes_track h).after (hpull _)

/-- The state that the owner gives to a call does not decide whether the word about it
is taken in. -/
theorem accepts_revise (s : Switchboard n) (place : Fin n) (old state : Call.State) :
    (s.perform (.alerter (.revise place (.state state)))).1.accepts
      (.stateChanged place old state) = s.accepts (.moved place state) := by
  have hword := word?_revise s.alerter.calls place old state
  have hident : (s.perform (.alerter (.revise place (.state state)))).1.ident = s.ident :=
    (aside_alerter s (.revise place (.state state))).ident
  have htakesIn : (s.perform (.alerter (.revise place (.state state)))).1.takesIn = s.takesIn := by
    funext word
    cases word <;> simp only [takesIn, isTracked, hident] <;> rfl
  rw [accepts, accepts, htakesIn, ← hword]
  rfl

/-- A call that moved is heard of as one whose state changed. -/
theorem course_moved (s : Switchboard n) (place : Fin n) (state : Call.State) :
    Course s (.moved place state) (s.perform (.moved place state)).1 := by
  have hbefore : Aside s (s.perform (.alerter (.revise place (.state state)))).1 :=
    aside_alerter s (.revise place (.state state))
  have hroster : (s.perform (.alerter (.revise place (.state state)))).1.roster = s.roster := rfl
  have haccepts := s.accepts_revise place (s.call place).state state
  show Course s _ ((s.perform (.alerter (.revise place (.state state)))).1.stateChanged place
    (s.call place).state state)
  generalize (s.perform (.alerter (.revise place (.state state)))).1 = t
    at hbefore hroster haccepts ⊢
  cases course_stateChanged t place (s.call place).state state with
  | taken htold h => exact .taken (haccepts ▸ htold) (h.before hbefore)
  | hold place hoperation h => cases hoperation
  | connection place hoperation h => cases hoperation
  | aside hrefused hconnection h hkept =>
    exact .aside (haccepts ▸ hrefused) (by simp) (hbefore.trans h) (hkept.trans hroster)

theorem course_perform (s : Switchboard n) (operation : Operation n) :
    Course s operation (s.perform operation).1 := by
  cases operation with
  | added place => exact course_added (by simp) rfl
  | removed place => exact course_removed s place
  | moved place state => exact course_moved s place state
  | stateChanged place old new => exact course_stateChanged s place old new
  | externalChanged place external => exact course_externalChanged s place external
  | conferenceChanged place => exact course_conferenceChanged s place
  | answered place => exact course_still (still_answered s place) rfl (by simp)
  | rejected place => exact course_still (still_quietUnlessOthersRing s place) rfl (by simp)
  | videoRequested place video =>
    refine course_still ?_ rfl (by simp)
    show Still s (s.videoRequested place video)
    unfold videoRequested
    split
    · exact still_playTone s (by decide)
    · exact .refl s
  | holdToneRequested place => exact .hold place rfl rfl
  | connectionChanged place => exact .connection place rfl rfl
  | videoChanged place old new =>
    refine course_still ?_ rfl (by simp)
    show Still s (s.videoChanged place old new)
    unfold videoChanged
    split
    · exact still_autoSpeaker s
    · exact .refl s
  | mute on => exact course_still (still_mute s on) rfl (by simp)
  | toggleMute => exact course_still (still_toggleMute s) rfl (by simp)
  | setRoute route address => exact course_still (still_setRoute s route address) rfl (by simp)
  | setRouteNumber value address =>
    exact course_still (still_setRouteNumber s value address) rfl (by simp)
  | switchBaseline => exact course_still (still_sendRoute s (by simp)) rfl (by simp)
  | setFocus focus => exact course_still (still_sendRoute s (by simp)) rfl (by simp)
  | startRinging => exact course_still (still_startRinging s) rfl (by simp)
  | stopRinging => exact course_still (still_stopRinging s) rfl (by simp)
  | startWaiting reason => exact course_still (still_startWaiting s reason) rfl (by simp)
  | stopWaiting => exact course_still (still_stopWaiting s) rfl (by simp)
  | silenceRingers =>
    exact .aside rfl (by simp) (aside_silenceRingers s)
      ((touches_silenceRingers s).keeps .roster (by decide))
  | alerter operation => exact .aside rfl (by simp) (aside_alerter s operation) rfl
  | _ =>
    refine .aside rfl (by simp) ((touches_perform s _).asideQuietly ?_)
      ((touches_perform s _).keeps .roster ?_)
    · simp [Operation.parts]
    · simp [Operation.parts]

/-- A word that is taken in takes its course, by whatever operation it comes. -/
theorem takes_perform (h : s.accepts operation = true) : Takes s (s.perform operation).1 := by
  cases course_perform s operation with
  | taken _ htakes => exact htakes
  | hold place hoperation _ =>
    rw [hoperation] at h
    cases h
  | connection place hoperation _ =>
    rw [hoperation] at h
    cases h
  | aside hrefused _ _ _ =>
    rw [h] at hrefused
    cases hrefused

end PhoneAudio.Switchboard
