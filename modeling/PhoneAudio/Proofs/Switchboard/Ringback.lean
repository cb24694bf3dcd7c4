import Mathlib.Data.List.Induction
import PhoneAudio.Proofs.Signal
import PhoneAudio.Proofs.Switchboard.Eligibility

/-!
# Ringback

Nothing remembers whether the ringback of a call is on: it starts when the call in front
begins to dial, or when it is asked for, and it stops when a call no longer dials, or when
that is asked for. What is on is known from the last command about a call alone
(`RingsBack`).

Every start is for the call in front (`Cues`). The stop is not as sure. A call that is
taken out has its ringback stopped if it dials at that moment, so one whose ringback was
asked for in another state is *abandoned* by the word that takes it out, and so is one
that went on to another state when nobody heard it. What rings back and is not tracked has
been abandoned, and neither joined again nor had its ringback asked for since
(`run_ringback_outlives_iff`).
-/

namespace PhoneAudio.Switchboard

variable {n : Nat} {s t u : Switchboard n} {operation : Operation n} {parts : List Part}

/-! ## The row of commands -/

/-- The commands about ringback. -/
def Effect.ringback? : Effect n → Option (Signal (Fin n))
  | .startRingback place => some (.start place)
  | .stopRingback place => some (.stop place)
  | _ => none

/-- What the ringback player was told, oldest first. -/
def ringbackRow (s : Switchboard n) : List (Signal (Fin n)) :=
  (s.told .ringback).filterMap Effect.ringback?

/-- Whether the last command about a call starts its ringback. -/
def RingsBack (s : Switchboard n) (id : CallId) : Prop :=
  ((s.ringbackRow.filter fun signal => s.ident signal.what = id).getLast?.map Signal.isStart) =
    some true

instance decidableRingsBack (s : Switchboard n) (id : CallId) : Decidable (s.RingsBack id) :=
  inferInstanceAs (Decidable (_ = _))

theorem Touches.ringbackRow (h : Touches parts s t) (hparts : Part.told .ringback ∉ parts) :
    t.ringbackRow = s.ringbackRow :=
  congrArg (List.filterMap Effect.ringback?) (h.keeps (.told .ringback) hparts)

theorem ringbackRow_start (s : Switchboard n) (place : Fin n) :
    (s.send (.startRingback place)).ringbackRow = s.ringbackRow ++ [.start place] := by
  simp [ringbackRow, told, send, Effect.channel, Effect.ringback?]

theorem ringbackRow_stop (s : Switchboard n) (place : Fin n) :
    (s.send (.stopRingback place)).ringbackRow = s.ringbackRow ++ [.stop place] := by
  simp [ringbackRow, told, send, Effect.channel, Effect.ringback?]

theorem Touches.isFront (h : Touches parts s t) (hnatures : Part.natures ∉ parts)
    (hfront : Part.front ∉ parts) (place : Fin n) : t.isFront place = s.isFront place := by
  have hsame : t.front = s.front := h.keeps .front hfront
  rw [Switchboard.isFront, Switchboard.isFront, hsame, h.ident hnatures]

/-! ## Cues -/

/-- From `s` to `t` some commands about a call were given, and if one of them is a start
the call is in front. -/
structure Cues (place : Fin n) (news : List (Signal (Fin n))) (s t : Switchboard n) : Prop where
  ident : t.ident = s.ident
  row : t.ringbackRow = s.ringbackRow ++ news
  about : ∀ signal ∈ news, signal.what = place
  front : .start place ∈ news → t.isFront place = true

variable {place : Fin n} {news more : List (Signal (Fin n))} {id : CallId}

theorem cues_nothing (h : Touches parts s t) (hnatures : Part.natures ∉ parts)
    (hrow : Part.told .ringback ∉ parts) (place : Fin n) : Cues place [] s t where
  ident := h.ident hnatures
  row := by rw [h.ringbackRow hrow, List.append_nil]
  about := by simp
  front := by simp

theorem Cues.before (h : Cues place news t u) (hs : Touches parts s t)
    (hnatures : Part.natures ∉ parts) (hrow : Part.told .ringback ∉ parts) :
    Cues place news s u where
  ident := h.ident.trans (hs.ident hnatures)
  row := by rw [h.row, hs.ringbackRow hrow]
  about := h.about
  front := h.front

theorem Cues.after (h : Cues place news s t) (ht : Touches parts t u)
    (hnatures : Part.natures ∉ parts) (hrow : Part.told .ringback ∉ parts)
    (hfront : Part.front ∉ parts) : Cues place news s u where
  ident := (ht.ident hnatures).trans h.ident
  row := by rw [ht.ringbackRow hrow, h.row]
  about := h.about
  front := fun hstart => (ht.isFront hnatures hfront place).trans (h.front hstart)

/-- What stops comes before what starts. -/
theorem Cues.trans (h₁ : Cues place news s t) (h₂ : Cues place more t u)
    (hstop : .start place ∉ news) : Cues place (news ++ more) s u where
  ident := h₂.ident.trans h₁.ident
  row := by rw [h₂.row, h₁.row, List.append_assoc]
  about := fun signal hmem => (List.mem_append.mp hmem).elim (h₁.about signal) (h₂.about signal)
  front := fun hstart => h₂.front ((List.mem_append.mp hstart).resolve_left hstop)

/-- A call that leaves the dialing state is to be heard no more. -/
theorem cues_leave (s : Switchboard n) (place : Fin n) (state : Call.State) :
    Cues place (if state = .dialing then [.stop place] else []) s (s.leave place state) := by
  unfold leave
  split
  · refine ⟨rfl, ringbackRow_stop s place, ?_, ?_⟩
    · simp [Signal.what]
    · simp
  · exact cues_nothing (Touches.refl [] s) (by decide) (by decide) place

/-- A call that begins to dial is to be heard if that is wanted and it is in front. -/
theorem cues_enter (s : Switchboard n) (place : Fin n) (state : Call.State) :
    ∃ news, Cues place news s (s.enter place state) := by
  unfold enter
  split
  · exact ⟨[], cues_nothing (touches_enterRinging s place) (by decide) (by decide) place⟩
  · exact ⟨[], cues_nothing (touches_enterRinging s place) (by decide) (by decide) place⟩
  · split
    next hfront =>
      refine ⟨[.start place], rfl, ringbackRow_start s place, ?_, fun _ => ?_⟩
      · simp [Signal.what]
      · exact (Bool.and_eq_true_iff.mp hfront).2
    next => exact ⟨[], cues_nothing (Touches.refl [] s) (by decide) (by decide) place⟩
  · exact ⟨[], cues_nothing (Touches.refl [] s) (by decide) (by decide) place⟩

theorem cues_ringbackRequested (s : Switchboard n) (place : Fin n) (on : Bool) :
    Cues place [if on && s.isFront place then .start place else .stop place] s
      (s.ringbackRequested place on) := by
  unfold ringbackRequested
  split
  next hfront =>
    refine ⟨rfl, ringbackRow_start s place, ?_, fun _ => (Bool.and_eq_true_iff.mp hfront).2⟩
    simp [Signal.what]
  next =>
    refine ⟨rfl, ringbackRow_stop s place, ?_, ?_⟩
    · simp [Signal.what]
    · simp

/-! ### Words -/

theorem cues_track (h : s.isTracked (s.ident place) = false) :
    ∃ news, Cues place news s (s.track place) := by
  rw [track, if_neg (by simp [h])]
  dsimp only
  have hbefore := (touches_seat s place (s.call place).state).trans (touches_updateFront _)
  generalize (s.seat place (s.call place).state).updateFront = t at hbefore ⊢
  have hcounted := (hbefore.trans (touches_tracked t (t.tracked ++ [place]))).trans
    (touches_updatePresence _)
  obtain ⟨news, hnews⟩ := cues_enter
    { t with tracked := t.tracked ++ [place] }.updatePresence place (s.call place).state
  exact ⟨news, (hnews.before hcounted (by decide) (by decide)).after (touches_close _ _)
    (by decide) (by decide) (by decide)⟩

/-- A call that is taken out has its ringback stopped if it dials. -/
theorem cues_untrack (h : s.isTracked (s.ident place) = true) :
    Cues place (if (s.call place).state = .dialing then [.stop place] else []) s
      (s.untrack place) := by
  rw [untrack]
  dsimp only
  rw [if_pos h]
  have hbefore := (touches_roster s (s.roster.erase s.ident (s.ident place))).trans
    (touches_updateFront _)
  generalize updateFront { s with roster := s.roster.erase s.ident (s.ident place) } = t
    at hbefore ⊢
  have hcounted := (hbefore.trans (touches_tracked t
    (t.tracked.filter fun other => t.ident other != s.ident place))).trans
    (touches_updatePresence _)
  exact ((cues_leave _ place (s.call place).state).before hcounted (by decide) (by decide)).after
    (touches_close _ _) (by decide) (by decide) (by decide)

theorem cues_stateChanged (old new : Call.State) (hheard : (s.call place).isIgnored = false)
    (h : s.isTracked (s.ident place) = true) :
    ∃ news, Cues place news s (s.stateChanged place old new) := by
  have hseat := (touches_roster s (s.roster.erase s.ident (s.ident place))).trans
    (touches_seat _ place new)
  have htold := (hseat.trans (touches_updatePresence _)).trans (touches_updateFront _)
  have htones := htold.trans (touches_playChangeTones _ place old new)
  rw [stateChanged, if_neg (by simp [hheard, h])]
  dsimp only
  generalize (updatePresence (seat { s with
    roster := s.roster.erase s.ident (s.ident place) } place new)).updateFront.playChangeTones place
      old new = t at htones ⊢
  have hmode := htones.trans (touches_afterCarrierMode t new)
  generalize (if t.carrierMode && new ≠ .ringing then t.endCarrierMode else t) = r at hmode ⊢
  have hleft := (cues_leave r place old).before hmode (by decide) (by decide)
  obtain ⟨news, hentered⟩ := cues_enter (r.leave place old) place new
  have hstop : .start place ∉ if old = .dialing then [Signal.stop place] else [] := by
    split <;> simp
  exact ⟨_, (hleft.trans hentered hstop).after (touches_close _ _) (by decide) (by decide)
    (by decide)⟩

theorem cues_of_joining (hnew : s.isTracked (s.ident place) = false)
    (h : Touches routeParts (s.track place) (s.perform operation).1) :
    ∃ news, Cues place news s (s.perform operation).1 := by
  obtain ⟨news, hcues⟩ := cues_track hnew
  exact ⟨news, hcues.after h (by decide) (by decide) (by decide)⟩

theorem cues_of_moving {old new : Call.State} (hheard : (s.call place).isIgnored = false)
    (hold : s.isTracked (s.ident place) = true)
    (h : (s.perform operation).1 = (s.unheard operation).stateChanged place old new) :
    ∃ news, Cues place news s (s.perform operation).1 := by
  have hunheard := touches_unheard s operation
  have hheard' : ((s.unheard operation).call place).isIgnored = false := by
    rw [isIgnored_unheard, hheard]
  have hold' : (s.unheard operation).isTracked ((s.unheard operation).ident place) = true := by
    rw [hunheard.isTracked (by decide) (by decide), hunheard.ident (by decide), hold]
  obtain ⟨news, hcues⟩ := cues_stateChanged old new hheard' hold'
  rw [h]
  exact ⟨news, hcues.before hunheard (by decide) (by decide)⟩

/-- Every start is for the call in front. -/
theorem perform_starts_front (s : Switchboard n) (operation : Operation n) :
    ∃ news, (s.perform operation).1.ringbackRow = s.ringbackRow ++ news ∧
      ∀ place, .start place ∈ news → (s.perform operation).1.isFront place = true := by
  have hfront : (∃ place news, Cues place news s (s.perform operation).1) →
      ∃ news, (s.perform operation).1.ringbackRow = s.ringbackRow ++ news ∧
        ∀ place, .start place ∈ news → (s.perform operation).1.isFront place = true := by
    rintro ⟨subject, news, hcues⟩
    refine ⟨news, hcues.row, fun place hstart => ?_⟩
    obtain rfl : place = subject := hcues.about _ hstart
    exact hcues.front hstart
  cases deed_perform s operation with
  | nothing hrefused =>
    by_cases hasks : ∃ place on, operation = .ringbackRequested place on
    · obtain ⟨place, on, rfl⟩ := hasks
      exact hfront ⟨place, _, cues_ringbackRequested s place on⟩
    · have htouch := touches_of_silent hrefused fun place on h => hasks ⟨place, on, h⟩
      refine ⟨[], ?_, by simp⟩
      rw [htouch.ringbackRow (by decide), List.append_nil]
  | joins place hsubject hword hnew h => exact hfront ⟨place, cues_of_joining hnew h⟩
  | leaves place hsubject hword hold h =>
    rw [h] at hfront ⊢
    exact hfront ⟨place, _, cues_untrack hold⟩
  | moves place old new hsubject hword hheard hold h hoperation =>
    exact hfront ⟨place, cues_of_moving hheard hold h⟩

/-! ## What rings back after commands -/

theorem Cues.ringsBack_of_nothing (h : Cues place [] s t) (id : CallId) :
    t.RingsBack id ↔ s.RingsBack id := by
  rw [RingsBack, RingsBack, h.row, h.ident, List.append_nil]

/-- Commands about another call. -/
theorem Cues.ringsBack_of_other (h : Cues place news s t) (hother : s.ident place ≠ id) :
    t.RingsBack id ↔ s.RingsBack id := by
  have hnone : (news.filter fun signal => s.ident signal.what = id) = [] := by
    rw [List.filter_eq_nil_iff]
    intro signal hmem
    simpa [h.about signal hmem] using hother
  rw [RingsBack, RingsBack, h.row, h.ident, List.filter_append, hnone, List.append_nil]

theorem Cues.not_ringsBack_of_stop (h : Cues place [.stop place] s t) :
    ¬ t.RingsBack (s.ident place) := by
  rw [RingsBack, h.row, h.ident]
  simp [Signal.what, Signal.isStart]

/-! ## The call in front -/

/-- The call in front is tracked. -/
def FrontTracked (s : Switchboard n) : Prop :=
  ∀ place, s.front = some place → s.isTracked (s.ident place) = true

theorem FrontTracked.of_isFront (h : s.FrontTracked) (hfront : s.isFront place = true) :
    s.isTracked (s.ident place) = true := by
  unfold isFront at hfront
  split at hfront
  · cases hfront
  next front hsome =>
    rw [← eq_of_beq hfront]
    exact h front hsome

theorem FrontTracked.perform {ledger : Ledger} (h : s.FrontTracked) (hrefines : s.Refines ledger)
    (operation : Operation n) : (s.perform operation).1.FrontTracked := by
  cases haccepts : s.accepts operation with
  | true =>
    -- the call in front was chosen again among those that have a seat
    have hcurrent : (s.perform operation).1.front = (s.perform operation).1.chosen :=
      (takes_perform haccepts).current
    intro place hfront
    obtain ⟨group, -, hmem⟩ := mem_of_front? (hcurrent.symm.trans hfront)
    exact (hrefines.perform operation).isTracked_of_mem group hmem
  | false =>
    have htouch := touches_of_refused haccepts
    intro place hfront
    rw [(perform_of_refused haccepts).1] at hfront
    rw [htouch.isTracked (by decide) (by decide), htouch.ident (by decide)]
    exact h place hfront

/-! ## Operations -/

/-- Whether an operation asks for the ringback of a call, or asks to stop it. -/
def asksRingback (s : Switchboard n) (id : CallId) : Operation n → Bool
  | .ringbackRequested place _ => s.ident place = id
  | _ => false

/-- A call that rings back is taken out when it does not dial, so its ringback goes on. -/
def Abandons (s : Switchboard n) (operation : Operation n) (id : CallId) : Prop :=
  ∃ place, operation.subject? = some place ∧
    operation.word? s.alerter.calls = some (.left id) ∧ s.isTracked id = true ∧
    (s.call place).state ≠ .dialing ∧ s.RingsBack id

/-- A call joins, or its ringback is asked for or asked to stop. -/
def Recalls (s : Switchboard n) (operation : Operation n) (id : CallId) : Prop :=
  (∃ entry, operation.word? s.alerter.calls = some (.joined entry) ∧ entry.id = id) ∨
    s.asksRingback id operation = true

/-- A call rings back that is not tracked. -/
def Lingers (s : Switchboard n) (id : CallId) : Prop := s.isTracked id = false ∧ s.RingsBack id

theorem word?_of_asksRingback (h : s.asksRingback id operation = true) :
    operation.word? s.alerter.calls = none ∧
      ∃ place on, operation = .ringbackRequested place on ∧ s.ident place = id := by
  cases operation with
  | ringbackRequested place on => exact ⟨rfl, place, on, rfl, of_decide_eq_true h⟩
  | _ => cases h

/-- A word is no request for ringback. -/
theorem not_asksRingback_of_word {word : Ledger.Word}
    (h : operation.word? s.alerter.calls = some word) : ¬ s.asksRingback id operation = true := by
  intro hasks
  rw [(word?_of_asksRingback hasks).1] at h
  cases h

/-- A call is abandoned by the word that takes it out. -/
theorem not_abandons_of_word {word : Ledger.Word}
    (h : operation.word? s.alerter.calls = some word) (hstays : word ≠ .left id) :
    ¬ s.Abandons operation id := by
  rintro ⟨place, -, hleft, -⟩
  exact hstays (Option.some.inj (h.symm.trans hleft))

/-- A call is recalled by the word that brings it in. -/
theorem not_recalls_of_word {word : Ledger.Word}
    (h : operation.word? s.alerter.calls = some word) (hstays : ∀ entry, word ≠ .joined entry) :
    ¬ s.Recalls operation id := by
  rintro (⟨entry, hjoined, -⟩ | hasks)
  · exact hstays entry (Option.some.inj (h.symm.trans hjoined))
  · exact not_asksRingback_of_word h hasks

theorem Cues.lingers_of_other (h : Cues place news s t) (hother : s.ident place ≠ id)
    (htracked : t.isTracked id = s.isTracked id) : t.Lingers id ↔ s.Lingers id := by
  rw [Lingers, Lingers, htracked, h.ringsBack_of_other hother]

/-! ### One operation -/

/-- A call that is asked about while it is not tracked is not in front, so its ringback is
stopped. -/
theorem lingers_ringbackRequested_iff (hfront : s.FrontTracked) (place : Fin n) (on : Bool)
    (id : CallId) :
    (s.ringbackRequested place on).Lingers id ↔ s.Lingers id ∧ s.ident place ≠ id := by
  have hcues := cues_ringbackRequested s place on
  have htracked : (s.ringbackRequested place on).isTracked = s.isTracked :=
    (touches_ringbackRequested s place on).isTracked (by decide) (by decide)
  by_cases hid : s.ident place = id
  · refine iff_of_false ?_ fun h => h.2 hid
    rintro ⟨huntracked, hrings⟩
    rw [htracked] at huntracked
    have hbehind : s.isFront place = false := by
      rw [Bool.eq_false_iff]
      intro hsame
      rw [← hid, hfront.of_isFront hsame] at huntracked
      cases huntracked
    rw [hbehind, Bool.and_false, if_neg Bool.false_ne_true] at hcues
    exact hcues.not_ringsBack_of_stop (hid ▸ hrings)
  · rw [hcues.lingers_of_other hid (congrFun htracked id)]
    exact ⟨fun h => ⟨h, hid⟩, fun h => h.1⟩

theorem lingers_of_refused (hfront : s.FrontTracked) (hrefused : s.accepts operation = false)
    (id : CallId) :
    (s.perform operation).1.Lingers id ↔ s.Lingers id ∧ ¬ s.asksRingback id operation = true := by
  by_cases hasks : ∃ place on, operation = .ringbackRequested place on
  · obtain ⟨place, on, rfl⟩ := hasks
    rw [asksRingback, decide_eq_true_eq]
    exact lingers_ringbackRequested_iff hfront place on id
  · have htouch := touches_of_silent hrefused fun place on h => hasks ⟨place, on, h⟩
    have hrow := htouch.ringbackRow (by decide)
    have hsilent : ¬ s.asksRingback id operation = true := by
      intro h
      obtain ⟨-, place, on, hoperation, -⟩ := word?_of_asksRingback h
      exact hasks ⟨place, on, hoperation⟩
    rw [Lingers, Lingers, RingsBack, RingsBack, hrow, htouch.ident (by decide),
      htouch.isTracked (by decide) (by decide)]
    exact ⟨fun h => ⟨h, hsilent⟩, fun h => h.1⟩

theorem lingers_of_joining (hnew : s.isTracked (s.ident place) = false)
    (h : Touches routeParts (s.track place) (s.perform operation).1) (id : CallId) :
    (s.perform operation).1.Lingers id ↔ s.Lingers id ∧ s.ident place ≠ id := by
  obtain ⟨news, hcues⟩ := cues_of_joining hnew h
  have htracked : (s.perform operation).1.isTracked id =
      (s.isTracked id || s.ident place == id) := by
    have hsame : (s.perform operation).1.tracked = (s.track place).tracked :=
      h.keeps .tracked (by decide)
    rw [isTracked, hcues.ident, hsame, tracked_track hnew, List.any_append, List.any_cons,
      List.any_nil, Bool.or_false, isTracked]
  by_cases hid : s.ident place = id
  · refine iff_of_false ?_ fun h => h.2 hid
    rintro ⟨huntracked, -⟩
    simp [htracked, hid] at huntracked
  · rw [hcues.lingers_of_other hid (by simp [htracked, hid])]
    exact ⟨fun h => ⟨h, hid⟩, fun h => h.1⟩

theorem lingers_untrack_iff (hold : s.isTracked (s.ident place) = true) (id : CallId) :
    (s.untrack place).Lingers id ↔
      (s.ident place = id ∧ (s.call place).state ≠ .dialing ∧ s.RingsBack id) ∨
        s.Lingers id := by
  have hcues := cues_untrack hold
  have htracked : (s.untrack place).isTracked id =
      s.tracked.any fun other => s.ident other != s.ident place && s.ident other == id := by
    rw [isTracked, hcues.ident, tracked_untrack hold, List.any_filter]
  by_cases hid : s.ident place = id
  · subst hid
    have huntracked : (s.untrack place).isTracked (s.ident place) = false := by
      rw [htracked, List.any_eq_false]
      intro other _ hboth
      simp at hboth
    have hbefore : ¬ s.Lingers (s.ident place) := by
      rintro ⟨hnew, -⟩
      rw [hold] at hnew
      cases hnew
    rw [Lingers, or_iff_left hbefore]
    by_cases hdialing : (s.call place).state = .dialing
    · rw [if_pos hdialing] at hcues
      exact iff_of_false (fun h => hcues.not_ringsBack_of_stop h.2) fun h => h.2.1 hdialing
    · rw [if_neg hdialing] at hcues
      rw [hcues.ringsBack_of_nothing]
      exact ⟨fun h => ⟨rfl, hdialing, h.2⟩, fun h => ⟨huntracked, h.2.2⟩⟩
  · have hsame : (s.untrack place).isTracked id = s.isTracked id := by
      rw [htracked, isTracked]
      congr 1
      funext other
      by_cases hother : s.ident other = id
      · simp [hother, Ne.symm hid]
      · simp [hother]
    rw [hcues.lingers_of_other hid hsame, or_iff_right fun h => hid h.1]

theorem lingers_of_moving {old new : Call.State} (hheard : (s.call place).isIgnored = false)
    (hold : s.isTracked (s.ident place) = true)
    (h : (s.perform operation).1 = (s.unheard operation).stateChanged place old new)
    (id : CallId) : (s.perform operation).1.Lingers id ↔ s.Lingers id := by
  obtain ⟨news, hcues⟩ := cues_of_moving hheard hold h
  have htracked : (s.perform operation).1.isTracked = s.isTracked := by
    have hsame : (s.unheard operation).tracked = s.tracked :=
      (touches_unheard s operation).keeps .tracked (by decide)
    funext id
    rw [isTracked, hcues.ident, h, tracked_stateChanged, hsame, isTracked]
  by_cases hid : s.ident place = id
  · have htwice : (s.perform operation).1.isTracked id = true ∧ s.isTracked id = true := by
      rw [htracked, ← hid]
      exact ⟨hold, hold⟩
    refine iff_of_false ?_ ?_
    · rintro ⟨huntracked, -⟩
      rw [htwice.1] at huntracked
      cases huntracked
    · rintro ⟨huntracked, -⟩
      rw [htwice.2] at huntracked
      cases huntracked
  · exact hcues.lingers_of_other hid (congrFun htracked id)

/-- The step: what rings back untracked after an operation was abandoned by it, or did so
before and was not recalled. -/
theorem lingers_perform_iff (hfront : s.FrontTracked) (operation : Operation n) (id : CallId) :
    (s.perform operation).1.Lingers id ↔
      s.Abandons operation id ∨ s.Lingers id ∧ ¬ s.Recalls operation id := by
  cases deed_perform s operation with
  | nothing hrefused =>
    have hkept : ¬ s.Abandons operation id := by
      rintro ⟨place, -, hword, htracked, -⟩
      rw [accepts_of_word? _ hword, takesIn, htracked] at hrefused
      cases hrefused
    have hjoins : s.Lingers id →
        ¬ ∃ entry, operation.word? s.alerter.calls = some (.joined entry) ∧ entry.id = id := by
      rintro ⟨huntracked, -⟩ ⟨entry, hword, rfl⟩
      rw [accepts_of_word? _ hword, takesIn, huntracked] at hrefused
      cases hrefused
    rw [lingers_of_refused hfront hrefused, or_iff_right hkept]
    exact and_congr_right fun hlingers => (or_iff_right (hjoins hlingers)).symm.not
  | joins place hsubject hword hnew h =>
    have hkept : ¬ s.Abandons operation id := not_abandons_of_word hword (by simp)
    have hrecalls : s.Recalls operation id ↔ s.ident place = id := by
      rw [Recalls, or_iff_left (not_asksRingback_of_word hword), hword]
      constructor
      · rintro ⟨entry, hentry, hid⟩
        cases hentry
        exact hid
      · intro hid
        exact ⟨_, rfl, hid⟩
    rw [lingers_of_joining hnew h, or_iff_right hkept, hrecalls]
  | leaves place hsubject hword hold h =>
    have habandons : s.Abandons operation id ↔
        s.ident place = id ∧ (s.call place).state ≠ .dialing ∧ s.RingsBack id := by
      constructor
      · rintro ⟨subject, hsame, hleft, -, hstate, hrings⟩
        obtain rfl := Option.some.inj (hsubject.symm.trans hsame)
        cases hword.symm.trans hleft
        exact ⟨rfl, hstate, hrings⟩
      · rintro ⟨rfl, hstate, hrings⟩
        exact ⟨place, hsubject, hword, hold, hstate, hrings⟩
    have hrecalls : ¬ s.Recalls operation id := not_recalls_of_word hword (by simp)
    rw [h, lingers_untrack_iff hold, habandons, and_iff_left hrecalls]
  | moves place old new hsubject hword hheard hold h hoperation =>
    have hkept : ¬ s.Abandons operation id := not_abandons_of_word hword (by simp)
    have hrecalls : ¬ s.Recalls operation id := not_recalls_of_word hword (by simp)
    rw [lingers_of_moving hheard hold h, or_iff_right hkept, and_iff_left hrecalls]

/-! ## Runs -/

/-- In a run a call was abandoned, and it has not been recalled since. -/
def Abandoned (s : Switchboard n) (operations : List (Operation n)) (id : CallId) : Prop :=
  ∃ before operation after, operations = before ++ operation :: after ∧
    (s.run before).Abandons operation id ∧
    ∀ since later rest, after = since ++ later :: rest →
      ¬ (s.run (before ++ operation :: since)).Recalls later id

theorem abandoned_concat_iff (s : Switchboard n) (operations : List (Operation n))
    (operation : Operation n) (id : CallId) :
    s.Abandoned (operations ++ [operation]) id ↔
      (s.run operations).Abandons operation id ∨
        s.Abandoned operations id ∧ ¬ (s.run operations).Recalls operation id := by
  constructor
  · rintro ⟨before, lost, after, hsplit, habandons, hsince⟩
    rcases concat_eq_append_cons_iff.mp hsplit with ⟨rfl, rfl, rfl⟩ | ⟨since, rfl, rfl⟩
    · exact .inl habandons
    · refine .inr ⟨⟨before, lost, since, rfl, habandons, ?_⟩, hsince since operation [] rfl⟩
      rintro first later rest rfl
      exact hsince first later (rest ++ [operation]) (by simp)
  · rintro (habandons | ⟨⟨before, lost, since, rfl, habandons, hsince⟩, hlast⟩)
    · refine ⟨operations, operation, [], rfl, habandons, ?_⟩
      intro since later rest hnil
      simp at hnil
    · refine ⟨before, lost, since ++ [operation], by simp, habandons, ?_⟩
      intro first later rest hsplit
      rcases concat_eq_append_cons_iff.mp hsplit with ⟨rfl, rfl, rfl⟩ | ⟨middle, rfl, rfl⟩
      · exact hlast
      · exact hsince first later middle rfl

theorem frontTracked_run {ledger : Ledger} (h : s.FrontTracked) (hrefines : s.Refines ledger)
    (operations : List (Operation n)) : (s.run operations).FrontTracked := by
  induction operations generalizing s ledger with
  | nil => exact h
  | cons operation rest ih =>
    exact ih (h.perform hrefines operation) (hrefines.perform operation)

/-- The run: what rings back untracked was abandoned and not recalled. -/
theorem lingers_run_iff {ledger : Ledger} (hfront : s.FrontTracked) (hrefines : s.Refines ledger)
    (hfresh : ¬ s.RingsBack id) (operations : List (Operation n)) :
    (s.run operations).Lingers id ↔ s.Abandoned operations id := by
  induction operations using List.reverseRecOn with
  | nil =>
    refine iff_of_false (fun hlingers => hfresh hlingers.2) ?_
    rintro ⟨before, operation, after, hsplit, -⟩
    simp at hsplit
  | append_singleton operations operation ih =>
    rw [run_concat, lingers_perform_iff (frontTracked_run hfront hrefines operations), ih,
      abandoned_concat_iff]

/-- In every run of an idle switchboard, a call that is not tracked rings back, that is,
the last command about its ringback is a start, exactly if a word took it out at a moment
when it rang back and did not dial, and since then it has neither joined nor had its
ringback asked for or asked to stop. And whatever is done next, ringback is started for no
other call than the one that is in front. -/
theorem run_ringback_outlives_iff (calls : CallTable n) (profile : DeviceProfile)
    (settings : Settings) (surroundings : Surroundings) (timed : Bool) (registry : Registry)
    (desks : Option Desks) (operations : List (Operation n)) :
    let start := idle calls profile settings surroundings timed registry desks
    let s := start.run operations
    (∀ id, s.isTracked id = false ∧ s.RingsBack id ↔
      ∃ before operation after, operations = before ++ operation :: after ∧
        (start.run before).Abandons operation id ∧
        ∀ since later rest, after = since ++ later :: rest →
          ¬ (start.run (before ++ operation :: since)).Recalls later id) ∧
      ∀ operation, ∃ news, (s.perform operation).1.ringbackRow = s.ringbackRow ++ news ∧
        ∀ place, .start place ∈ news → (s.perform operation).1.isFront place = true := by
  intro start s
  have hrefines : start.Refines .empty :=
    refines_idle calls profile settings surroundings timed registry desks
  have hfront : start.FrontTracked := fun place hnone => by cases hnone
  have hfresh : ∀ id, ¬ start.RingsBack id := fun id hrings => by cases hrings
  exact ⟨fun id => lingers_run_iff hfront hrefines (hfresh id) operations, perform_starts_front s⟩

/-- A call that is connecting has its ringback asked for and is removed: its ringback is
never stopped. -/
theorem ringback_outlives_connecting_call :
    let call : Call := { state := .connecting, id := .ofNat 1, log := .empty 64 }
    let start := idle (n := 1) ⟨#v[call]⟩ {} {} {} false {} none
    let operations : List (Operation 1) := [.added 0, .ringbackRequested 0 true, .removed 0]
    (start.run operations).tracked = [] ∧
      (start.run operations).ringbackRow = [.start 0] ∧
      (start.run operations).RingsBack call.id := by
  decide

end PhoneAudio.Switchboard
