import PhoneAudio.Proofs.Switchboard.Course

/-!
# What a word does

An operation says at most one word about a call, and by the word it is known which of
three things it does: it tracks the call, it stops tracking it, or it takes the call to
another state (`perform_of_joined`, `perform_of_left`, `perform_of_moved`). Each of the
three has one equation for the roster that it leaves and one for the tracked calls, and
later modules need not look at the operations themselves: they take an operation apart by
the deed that it is (`deed_perform`).
-/

namespace PhoneAudio.Switchboard

variable {n : Nat} {s : Switchboard n}

/-! ## The three words -/

/-- The call that an operation has a word about. -/
def Operation.subject? : Operation n → Option (Fin n)
  | .added place => some place
  | .removed place => some place
  | .moved place _ => some place
  | .stateChanged place _ _ => some place
  | .externalChanged place _ => some place
  | .conferenceChanged place => some place
  | _ => none

theorem wordUnlessIgnored_eq_some {call : Call} {word word' : Ledger.Word}
    (h : wordUnlessIgnored call word = some word') : call.isIgnored = false ∧ word = word' := by
  obtain ⟨hheard, hsome⟩ := Option.ite_none_left_eq_some.mp h
  exact ⟨Bool.eq_false_iff.mpr hheard, Option.some.inj hsome⟩

theorem added_of_heard {place : Fin n} (h : (s.call place).isIgnored = false) :
    s.added place = s.track place := by
  rw [added, if_neg (by simp [h])]

theorem removed_of_heard {place : Fin n} (h : (s.call place).isIgnored = false) :
    s.removed place = s.untrack place := by
  rw [removed, if_neg (by simp [h])]

/-- A call that joins is tracked. One that is pulled may be put on the speaker besides. -/
theorem perform_of_joined {operation : Operation n} {entry : Ledger.Entry}
    (h : operation.word? s.alerter.calls = some (.joined entry)) :
    ∃ place, operation.subject? = some place ∧
      entry = .of (s.call place) (s.call place).state ∧
      ((s.perform operation).1 = s.track place ∨
        (s.perform operation).1 = (s.track place).autoSpeaker) := by
  cases operation with
  | added place =>
    obtain ⟨hheard, hword⟩ := wordUnlessIgnored_eq_some h
    exact ⟨place, rfl, (Ledger.Word.joined.inj hword).symm, .inl (added_of_heard hheard)⟩
  | removed place => cases (wordUnlessIgnored_eq_some h).2
  | moved place state => cases (wordUnlessIgnored_eq_some h).2
  | stateChanged place old new => cases (wordUnlessIgnored_eq_some h).2
  | externalChanged place external =>
    cases external with
    | true => cases h
    | false =>
      refine ⟨place, rfl, (Ledger.Word.joined.inj (Option.some.inj h)).symm, ?_⟩
      show s.externalChanged place false = _ ∨ s.externalChanged place false = _
      rw [externalChanged, if_neg (by simp)]
      dsimp only
      split
      · exact .inr rfl
      · exact .inl rfl
  | conferenceChanged place =>
    by_cases hparent : (s.call place).parent.isNone = true
    · have hadded := (if_pos hparent).symm.trans h
      obtain ⟨hheard, hword⟩ := wordUnlessIgnored_eq_some hadded
      refine ⟨place, rfl, (Ledger.Word.joined.inj hword).symm, .inl ?_⟩
      show s.conferenceChanged place = _
      rw [conferenceChanged, if_pos hparent, added_of_heard hheard]
    · cases (if_neg hparent).symm.trans h
  | _ => cases h

theorem touches_joined {t : Switchboard n} {place : Fin n}
    (h : t = s.track place ∨ t = (s.track place).autoSpeaker) :
    Touches routeParts (s.track place) t := by
  rcases h with rfl | rfl
  · exact Touches.refl _ _
  · exact touches_autoSpeaker _

/-- A call that leaves is tracked no more. -/
theorem perform_of_left {operation : Operation n} {id : CallId}
    (h : operation.word? s.alerter.calls = some (.left id)) :
    ∃ place, operation.subject? = some place ∧ id = s.ident place ∧
      (s.perform operation).1 = s.untrack place := by
  cases operation with
  | added place => cases (wordUnlessIgnored_eq_some h).2
  | removed place =>
    obtain ⟨hheard, hword⟩ := wordUnlessIgnored_eq_some h
    exact ⟨place, rfl, (Ledger.Word.left.inj hword).symm, removed_of_heard hheard⟩
  | moved place state => cases (wordUnlessIgnored_eq_some h).2
  | stateChanged place old new => cases (wordUnlessIgnored_eq_some h).2
  | externalChanged place external =>
    cases external with
    | true => exact ⟨place, rfl, (Ledger.Word.left.inj (Option.some.inj h)).symm, rfl⟩
    | false => cases h
  | conferenceChanged place =>
    by_cases hparent : (s.call place).parent.isNone = true
    · cases (wordUnlessIgnored_eq_some ((if_pos hparent).symm.trans h)).2
    · have hleft := Option.some.inj ((if_neg hparent).symm.trans h)
      refine ⟨place, rfl, (Ledger.Word.left.inj hleft).symm, ?_⟩
      show s.conferenceChanged place = _
      rw [conferenceChanged, if_neg hparent]
  | _ => cases h

/-- A call that moves to another state is taken there. -/
theorem perform_of_moved {operation : Operation n} {entry : Ledger.Entry}
    (h : operation.word? s.alerter.calls = some (.moved entry)) :
    ∃ place old new, operation.subject? = some place ∧ entry = .of (s.call place) new ∧
      (s.call place).isIgnored = false ∧
      (s.perform operation).1 = (s.unheard operation).stateChanged place old new ∧
      (operation = .stateChanged place old new ∨ operation = .moved place new) := by
  cases operation with
  | added place => cases (wordUnlessIgnored_eq_some h).2
  | removed place => cases (wordUnlessIgnored_eq_some h).2
  | moved place state =>
    obtain ⟨hheard, hword⟩ := wordUnlessIgnored_eq_some h
    exact ⟨place, (s.call place).state, state, rfl, (Ledger.Word.moved.inj hword).symm, hheard,
      rfl, .inr rfl⟩
  | stateChanged place old new =>
    obtain ⟨hheard, hword⟩ := wordUnlessIgnored_eq_some h
    exact ⟨place, old, new, rfl, (Ledger.Word.moved.inj hword).symm, hheard, rfl, .inl rfl⟩
  | externalChanged place external => cases external <;> cases h
  | conferenceChanged place =>
    by_cases hparent : (s.call place).parent.isNone = true
    · cases (wordUnlessIgnored_eq_some ((if_pos hparent).symm.trans h)).2
    · cases (if_neg hparent).symm.trans h
  | _ => cases h

/-! ## The roster and the tracked calls after a word -/

/-- What is told at the end of a word changes neither the roster nor the tracked calls. -/
theorem touches_close (t : Switchboard n) (before : Headcount) :
    Touches (modeParts ++ holdParts) t (t.tellCrossings before).adjustHoldTone :=
  (touches_tellCrossings t before).trans (touches_adjustHoldTone _)

theorem roster_track {place : Fin n} (h : s.isTracked (s.ident place) = false) :
    (s.track place).roster = (s.seat place (s.call place).state).roster := by
  obtain ⟨t, -, hroster, -, heq⟩ := track_eq h
  rw [heq]
  exact Eq.trans ((touches_close t _).keeps .roster (by decide)) hroster

theorem roster_untrack {place : Fin n} (h : s.isTracked (s.ident place) = true) :
    (s.untrack place).roster = s.roster.erase s.ident (s.ident place) := by
  obtain ⟨t, -, hroster, -, heq⟩ := untrack_eq h
  rw [heq]
  exact Eq.trans ((touches_close t _).keeps .roster (by decide)) hroster

theorem roster_stateChanged {place : Fin n} (old new : Call.State)
    (hheard : (s.call place).isIgnored = false) (h : s.isTracked (s.ident place) = true) :
    (s.stateChanged place old new).roster =
      (seat { s with roster := s.roster.erase s.ident (s.ident place) } place new).roster := by
  obtain ⟨t, -, hroster, -, heq⟩ := stateChanged_eq old new hheard h
  rw [heq]
  exact Eq.trans ((touches_close t _).keeps .roster (by decide)) hroster

theorem tracked_track {place : Fin n} (h : s.isTracked (s.ident place) = false) :
    (s.track place).tracked = s.tracked ++ [place] := by
  obtain ⟨t, -, -, htracked, heq⟩ := track_eq h
  rw [heq]
  exact Eq.trans ((touches_close t _).keeps .tracked (by decide)) htracked

theorem tracked_untrack {place : Fin n} (h : s.isTracked (s.ident place) = true) :
    (s.untrack place).tracked =
      s.tracked.filter fun other => s.ident other != s.ident place := by
  obtain ⟨t, -, -, htracked, heq⟩ := untrack_eq h
  rw [heq]
  exact Eq.trans ((touches_close t _).keeps .tracked (by decide)) htracked

theorem tracked_stateChanged (s : Switchboard n) (place : Fin n) (old new : Call.State) :
    (s.stateChanged place old new).tracked = s.tracked := by
  by_cases h : (s.call place).isIgnored = true ∨ s.isTracked (s.ident place) = false
  · rw [stateChanged_of_ignored old new h]
  · simp only [not_or, Bool.not_eq_true, Bool.not_eq_false] at h
    obtain ⟨t, -, -, htracked, heq⟩ := stateChanged_eq old new h.1 h.2
    rw [heq]
    exact Eq.trans ((touches_close t _).keeps .tracked (by decide)) htracked

/-! ## Words that are not taken in -/

theorem added_of_refused {place : Fin n} (h : s.accepts (.added place) = false) :
    s.added place = s := by
  have haccepts : s.accepts (.added place) =
      (!(s.call place).isIgnored && !s.isTracked (s.ident place)) :=
    accepts_unlessIgnored (s.call place) (.joined (.of (s.call place) (s.call place).state)) rfl
  rw [added]
  split
  · rfl
  next hheard => exact track_of_tracked (by simpa [haccepts, hheard] using h)

theorem removed_of_refused {place : Fin n} (h : s.accepts (.removed place) = false) :
    s.removed place = s := by
  have haccepts : s.accepts (.removed place) =
      (!(s.call place).isIgnored && s.isTracked (s.ident place)) :=
    accepts_unlessIgnored (s.call place) (.left (s.ident place)) rfl
  rw [removed]
  split
  · rfl
  next hheard => exact untrack_of_untracked (by simpa [haccepts, hheard] using h)

theorem stateChanged_of_refused {place : Fin n} {old new : Call.State}
    (h : s.accepts (.stateChanged place old new) = false) : s.stateChanged place old new = s := by
  have haccepts : s.accepts (.stateChanged place old new) =
      (!(s.call place).isIgnored && s.isTracked (s.ident place)) :=
    accepts_unlessIgnored (s.call place) (.moved (.of (s.call place) new)) rfl
  apply stateChanged_of_ignored
  cases hignored : (s.call place).isIgnored with
  | true => exact .inl rfl
  | false => exact .inr (by simpa [haccepts, hignored] using h)

theorem conferenceChanged_of_refused {place : Fin n}
    (h : s.accepts (.conferenceChanged place) = false) : s.conferenceChanged place = s := by
  by_cases hparent : (s.call place).parent.isNone = true
  · have hword : (Operation.conferenceChanged place).word? s.alerter.calls =
        (Operation.added place).word? s.alerter.calls := if_pos hparent
    rw [conferenceChanged, if_pos hparent]
    apply added_of_refused
    rw [accepts, ← hword]
    exact h
  · have hleft : s.accepts (.conferenceChanged place) = s.isTracked (s.ident place) :=
      accepts_of_word? (.left (s.ident place)) (if_neg hparent)
    rw [conferenceChanged, if_neg hparent]
    exact untrack_of_untracked (hleft.symm.trans h)

/-- The parts that are touched without a word: neither the groups nor the tracked calls, nor
the call in front, nor the carrier mode are among them. -/
abbrev wordlessParts : List Part :=
  [.attributes, .registry, .tonePlaying, .disconnectTonePlaying, .told .disconnectTone,
    .told .ringback] ++ routeParts ++ modeParts ++ holdParts

theorem touches_externalChanged_of_refused {place : Fin n} {external : Bool}
    (h : s.accepts (.externalChanged place external) = false) :
    Touches routeParts s (s.externalChanged place external) := by
  cases external with
  | true =>
    have hleft : s.untrack place = s :=
      untrack_of_untracked ((accepts_of_word? (.left (s.ident place)) rfl).symm.trans h)
    show Touches routeParts s (s.untrack place)
    rw [hleft]
    exact Touches.refl _ s
  | false =>
    have hjoined : s.accepts (.externalChanged place false) = !s.isTracked (s.ident place) :=
      accepts_of_word? (.joined (.of (s.call place) (s.call place).state)) rfl
    have hsame : s.track place = s := track_of_tracked (by simpa [hjoined] using h)
    rcases pull_of_tracked hsame with hpull | hpull
    · rw [hpull]
      exact Touches.refl _ s
    · rw [hpull]
      exact touches_sendRoute s .autoSpeaker

/-- The parts that are touched without a word and without a request for ringback. -/
abbrev silentParts : List Part :=
  [.attributes, .registry, .tonePlaying, .disconnectTonePlaying, .told .disconnectTone] ++
    routeParts ++ modeParts ++ holdParts

/-- What is not taken in has nothing to do with ringback unless it asks for it. -/
theorem touches_of_silent {operation : Operation n} (h : s.accepts operation = false)
    (hsilent : ∀ place on, operation ≠ .ringbackRequested place on) :
    Touches silentParts s (s.perform operation).1 := by
  cases operation with
  | ringbackRequested place on => exact absurd rfl (hsilent place on)
  | added place =>
    show Touches _ s (s.added place)
    rw [added_of_refused h]
    exact Touches.refl _ s
  | removed place =>
    show Touches _ s (s.removed place)
    rw [removed_of_refused h]
    exact Touches.refl _ s
  | moved place state =>
    have hrefused := (s.accepts_revise place (s.call place).state state).trans h
    show Touches _ s ((s.perform (.alerter (.revise place (.state state)))).1.stateChanged place
      (s.call place).state state)
    rw [stateChanged_of_refused hrefused]
    exact (touches_revise s place (.state state)).mono (by decide)
  | stateChanged place old new =>
    show Touches _ s (s.stateChanged place old new)
    rw [stateChanged_of_refused h]
    exact Touches.refl _ s
  | externalChanged place external =>
    exact (touches_externalChanged_of_refused h).mono (by decide)
  | conferenceChanged place =>
    show Touches _ s (s.conferenceChanged place)
    rw [conferenceChanged_of_refused h]
    exact Touches.refl _ s
  | _ => exact (touches_perform s _).mono (by simp [Operation.parts])

/-- What is not taken in touches only what is touched without a word. -/
theorem touches_of_refused {operation : Operation n} (h : s.accepts operation = false) :
    Touches wordlessParts s (s.perform operation).1 := by
  by_cases hasks : ∃ place on, operation = .ringbackRequested place on
  · obtain ⟨place, on, rfl⟩ := hasks
    exact (touches_ringbackRequested s place on).mono (by decide)
  · have hsilent : ∀ place on, operation ≠ .ringbackRequested place on :=
      fun place on hoperation => hasks ⟨place, on, hoperation⟩
    exact (touches_of_silent h hsilent).mono (by decide)

/-! ## Deeds -/

/-- What an operation does to the tracked calls and their groups: nothing if its word is not
taken in, and one of three things by its word if it is. -/
inductive Deed (s : Switchboard n) (operation : Operation n) : Prop
  | nothing (hrefused : s.accepts operation = false)
  | joins (place : Fin n) (hsubject : operation.subject? = some place)
      (hword : operation.word? s.alerter.calls =
        some (.joined (.of (s.call place) (s.call place).state)))
      (hnew : s.isTracked (s.ident place) = false)
      (h : Touches routeParts (s.track place) (s.perform operation).1)
  | leaves (place : Fin n) (hsubject : operation.subject? = some place)
      (hword : operation.word? s.alerter.calls = some (.left (s.ident place)))
      (hold : s.isTracked (s.ident place) = true)
      (h : (s.perform operation).1 = s.untrack place)
  | moves (place : Fin n) (old new : Call.State) (hsubject : operation.subject? = some place)
      (hword : operation.word? s.alerter.calls = some (.moved (.of (s.call place) new)))
      (hheard : (s.call place).isIgnored = false)
      (hold : s.isTracked (s.ident place) = true)
      (h : (s.perform operation).1 = (s.unheard operation).stateChanged place old new)
      (hoperation : operation = .stateChanged place old new ∨ operation = .moved place new)

theorem deed_perform (s : Switchboard n) (operation : Operation n) : Deed s operation := by
  cases haccepts : s.accepts operation with
  | false => exact .nothing haccepts
  | true =>
    cases hword : operation.word? s.alerter.calls with
    | none =>
      rw [accepts, hword] at haccepts
      cases haccepts
    | some word =>
      rw [accepts_of_word? word hword] at haccepts
      cases word with
      | joined entry =>
        obtain ⟨place, hsubject, rfl, h⟩ := perform_of_joined hword
        exact .joins place hsubject hword (Bool.not_eq_true' _ |>.mp haccepts) (touches_joined h)
      | left id =>
        obtain ⟨place, hsubject, rfl, h⟩ := perform_of_left hword
        exact .leaves place hsubject hword haccepts h
      | moved entry =>
        obtain ⟨place, old, new, hsubject, rfl, hheard, h, hoperation⟩ := perform_of_moved hword
        exact .moves place old new hsubject hword hheard haccepts h hoperation

/-- A call that moves has moved before the word of it, and nothing else has changed. -/
theorem touches_unheard (s : Switchboard n) (operation : Operation n) :
    Touches (.attributes :: alerterParts) s (s.unheard operation) := by
  cases operation with
  | moved place state => exact touches_revise s place (.state state)
  | _ => exact Touches.refl _ s

/-- Whether a call is ignored is not decided by its state. -/
theorem isIgnored_unheard (s : Switchboard n) (operation : Operation n) (place : Fin n) :
    ((s.unheard operation).call place).isIgnored = (s.call place).isIgnored := by
  cases operation with
  | moved other state =>
    exact CallTable.get_modify_of_eq Call.isIgnored s.alerter.calls other place fun _ => rfl
  | _ => rfl

theorem Touches.isTracked {parts : List Part} {t : Switchboard n} (h : Touches parts s t)
    (hnatures : Part.natures ∉ parts) (htracked : Part.tracked ∉ parts) :
    t.isTracked = s.isTracked := by
  have hsame : t.tracked = s.tracked := h.keeps .tracked htracked
  funext id
  rw [Switchboard.isTracked, Switchboard.isTracked, h.ident hnatures, hsame]

/-- A run and one operation more. -/
theorem run_concat (s : Switchboard n) (operations : List (Operation n))
    (operation : Operation n) :
    s.run (operations ++ [operation]) = ((s.run operations).perform operation).1 := by
  rw [run, List.foldl_append]
  rfl

/-- A row that is one longer is parted at its last, or where the row was parted. -/
theorem concat_eq_append_cons_iff {α : Type} {row before after : List α} {last middle : α} :
    row ++ [last] = before ++ middle :: after ↔
      (before = row ∧ middle = last ∧ after = []) ∨
        ∃ since, row = before ++ middle :: since ∧ after = since ++ [last] := by
  constructor
  · intro hsplit
    rcases List.eq_nil_or_concat' after with rfl | ⟨since, final, rfl⟩
    · obtain ⟨rfl, hlast⟩ := List.append_inj' hsplit rfl
      cases hlast
      exact .inl ⟨rfl, rfl, rfl⟩
    · rw [← List.cons_append, ← List.append_assoc] at hsplit
      obtain ⟨rfl, hlast⟩ := List.append_inj' hsplit rfl
      cases hlast
      exact .inr ⟨since, rfl, rfl⟩
  · rintro (⟨rfl, rfl, rfl⟩ | ⟨since, rfl, rfl⟩)
    · rfl
    · rw [← List.cons_append, ← List.append_assoc]

end PhoneAudio.Switchboard
