import PhoneAudio.Proofs.Switchboard.Words

/-!
# Presence

Whether the user is in a call is worked out from the tracked calls and the processing group,
and told once for each word that is taken in. The three words tell it at different points:
before the call in front is chosen again or after, and always when the groups and the tracked
calls have their new shape. What follows in the same word touches neither, so the value that
was told is the one that would be told at the end (`Publishes`). All else tells nothing and
changes nothing that the value is worked out from, so after every run the value told last is
the present one (`run_mirrors_presence`).
-/

namespace PhoneAudio.Switchboard

variable {n : Nat} {s t u : Switchboard n} {operation : Operation n} {parts more : List Part}

/-! ## What was told -/

/-- What the presence is told. -/
def Effect.presence? : Effect n → Option Bool
  | .presence inCall => some inCall
  | _ => none

/-- The values that the presence was told, oldest first. -/
def presences (s : Switchboard n) : List Bool :=
  (s.told .presence).filterMap Effect.presence?

theorem Touches.presences (h : Touches parts s t) (hparts : Part.told .presence ∉ parts) :
    t.presences = s.presences :=
  congrArg (List.filterMap Effect.presence?) (h.keeps (.told .presence) hparts)

theorem presences_updatePresence (s : Switchboard n) :
    s.updatePresence.presences = s.presences ++ [s.isInCall] := by
  simp [presences, told, updatePresence, send, Effect.channel, Effect.presence?]

/-- The parts by which it is decided whether the user is in a call. -/
abbrev inCallParts : List Part := [.natures, .roster, .tracked]

theorem Touches.isInCall (h : Touches parts s t) (hparts : ∀ part ∈ inCallParts, part ∉ parts) :
    t.isInCall = s.isInCall := by
  have hroster : t.roster = s.roster := h.keeps .roster (hparts _ (by simp))
  have htracked : t.tracked = s.tracked := h.keeps .tracked (hparts _ (by simp))
  rw [Switchboard.isInCall, Switchboard.isInCall, hroster, htracked, h.ident (hparts _ (by simp))]

/-- Some tracked call is not merely being processed; it may be in no group at all. -/
theorem isInCall_iff (s : Switchboard n) :
    s.isInCall = true ↔
      ∃ place ∈ s.tracked, ∀ member ∈ s.roster.processing, s.ident member ≠ s.ident place := by
  rw [isInCall, Bool.not_eq_true', List.all_eq_false]
  refine exists_congr fun place => and_congr_right fun _ => ?_
  rw [Bool.not_eq_true, Roster.has, List.any_eq_false]
  refine forall₂_congr fun member _ => ?_
  rw [beq_iff_eq]

/-! ## Words -/

/-- From `s` to `t` one value was told, and it is still the present one. -/
def Publishes (s t : Switchboard n) : Prop := t.presences = s.presences ++ [t.isInCall]

/-- The value is told at some point, nothing is told before it, and after it nothing changes
that it is worked out from. -/
theorem publishes_of_touches {r : Switchboard n} (hbefore : Touches parts s r)
    (hsilent : Part.told .presence ∉ parts) (hafter : Touches more r.updatePresence t)
    (hkept : ∀ part ∈ Part.told .presence :: inCallParts, part ∉ more) : Publishes s t := by
  have htold : t.presences = r.updatePresence.presences :=
    hafter.presences (hkept _ (by simp))
  have hvalue : t.isInCall = r.updatePresence.isInCall :=
    hafter.isInCall fun part hpart => hkept part (List.mem_cons_of_mem _ hpart)
  have hsame : r.updatePresence.isInCall = r.isInCall :=
    (touches_updatePresence r).isInCall (by decide)
  rw [Publishes, htold, hvalue, hsame, presences_updatePresence, hbefore.presences hsilent]

theorem Publishes.before (h : Publishes t u) (hs : Touches parts s t)
    (hsilent : Part.told .presence ∉ parts) : Publishes s u := by
  rw [Publishes, h, hs.presences hsilent]

theorem Publishes.after (h : Publishes s t) (ht : Touches parts t u)
    (hkept : ∀ part ∈ Part.told .presence :: inCallParts, part ∉ parts) : Publishes s u := by
  rw [Publishes, ht.presences (hkept _ (by simp)),
    ht.isInCall fun part hpart => hkept part (List.mem_cons_of_mem _ hpart)]
  exact h

theorem publishes_track {place : Fin n} (h : s.isTracked (s.ident place) = false) :
    Publishes s (s.track place) := by
  rw [track, if_neg (by simp [h])]
  dsimp only
  have hfront := (touches_seat s place (s.call place).state).trans (touches_updateFront _)
  generalize (s.seat place (s.call place).state).updateFront = r at hfront ⊢
  -- the call is among the tracked ones when the value is worked out
  have hjoined := hfront.trans (touches_tracked r (r.tracked ++ [place]))
  exact publishes_of_touches hjoined (by decide)
    ((touches_enter _ place _).trans (touches_close _ _)) (by decide)

theorem publishes_untrack {place : Fin n} (h : s.isTracked (s.ident place) = true) :
    Publishes s (s.untrack place) := by
  rw [untrack]
  dsimp only
  rw [if_pos h]
  have hfront := (touches_roster s (s.roster.erase s.ident (s.ident place))).trans
    (touches_updateFront _)
  generalize updateFront { s with roster := s.roster.erase s.ident (s.ident place) } = r
    at hfront ⊢
  have hleft := hfront.trans (touches_tracked r
    (r.tracked.filter fun other => r.ident other != s.ident place))
  exact publishes_of_touches hleft (by decide)
    ((touches_leave _ place _).trans (touches_close _ _)) (by decide)

theorem publishes_stateChanged {place : Fin n} (old new : Call.State)
    (hheard : (s.call place).isIgnored = false) (h : s.isTracked (s.ident place) = true) :
    Publishes s (s.stateChanged place old new) := by
  rw [stateChanged, if_neg (by simp [hheard, h])]
  dsimp only
  have hseat := (touches_roster s (s.roster.erase s.ident (s.ident place))).trans
    (touches_seat _ place new)
  exact publishes_of_touches hseat (by decide)
    (((touches_updateFront _).trans (touches_afterMove _ place old new)).trans
      (touches_close _ _)) (by decide)

/-- A word that is taken in tells the value once. -/
theorem publishes_perform (h : s.accepts operation = true) :
    Publishes s (s.perform operation).1 := by
  cases deed_perform s operation with
  | nothing hrefused =>
    rw [h] at hrefused
    cases hrefused
  | joins place hsubject hword hnew htrack =>
    exact (publishes_track hnew).after htrack (by decide)
  | leaves place hsubject hword hold huntrack =>
    rw [huntrack]
    exact publishes_untrack hold
  | moves place old new hsubject hword hheard hold hmoved hoperation =>
    have hunheard := touches_unheard s operation
    rw [hmoved]
    refine (publishes_stateChanged old new ?_ ?_).before hunheard (by decide)
    · rw [isIgnored_unheard, hheard]
    · rw [hunheard.isTracked (by decide) (by decide), hunheard.ident (by decide), hold]

/-- What is not taken in tells nothing, and the value stays. -/
theorem presences_of_refused (h : s.accepts operation = false) :
    (s.perform operation).1.presences = s.presences ∧
      (s.perform operation).1.isInCall = s.isInCall :=
  have htouch := touches_of_refused h
  ⟨htouch.presences (by decide), htouch.isInCall (by decide)⟩

/-! ## Runs -/

/-- The value that was told last is the present one; before the first it is no. -/
def PresenceTold (s : Switchboard n) : Prop := s.presences.getLast?.getD false = s.isInCall

theorem PresenceTold.perform (hs : s.PresenceTold) (operation : Operation n) :
    (s.perform operation).1.PresenceTold := by
  cases haccepts : s.accepts operation with
  | true =>
    rw [PresenceTold, publishes_perform haccepts, List.getLast?_concat, Option.getD_some]
  | false =>
    obtain ⟨hpresences, hvalue⟩ := presences_of_refused haccepts
    rw [PresenceTold, hpresences, hvalue]
    exact hs

theorem PresenceTold.run (hs : s.PresenceTold) (operations : List (Operation n)) :
    (s.run operations).PresenceTold := by
  induction operations generalizing s with
  | nil => exact hs
  | cons operation rest ih => exact ih (hs.perform operation)

/-- After every run of an idle switchboard, the value that the presence was told last, or no
if it was told none, says whether some tracked call stands outside the processing group, be
it in another group or in none. Whatever is done next, a word that is taken in tells exactly
one value, which says the same of the state that the word leaves, and anything else tells
nothing. -/
theorem run_mirrors_presence (calls : CallTable n) (profile : DeviceProfile)
    (settings : Settings) (surroundings : Surroundings) (timed : Bool) (registry : Registry)
    (desks : Option Desks) (operations : List (Operation n)) :
    let s := (idle calls profile settings surroundings timed registry desks).run operations
    (s.presences.getLast?.getD false = true ↔
      ∃ place ∈ s.tracked, ∀ member ∈ s.roster.processing, s.ident member ≠ s.ident place) ∧
    ∀ operation,
      let t := (s.perform operation).1
      (s.accepts operation = true → ∃ inCall, t.presences = s.presences ++ [inCall] ∧
        (inCall = true ↔
          ∃ place ∈ t.tracked, ∀ member ∈ t.roster.processing, t.ident member ≠ t.ident place)) ∧
      (s.accepts operation = false → t.presences = s.presences) := by
  intro s
  have htold : s.PresenceTold :=
    PresenceTold.run (s := idle calls profile settings surroundings timed registry desks) rfl
      operations
  constructor
  · rw [htold]
    exact isInCall_iff s
  · intro operation t
    constructor
    · intro haccepts
      exact ⟨t.isInCall, publishes_perform haccepts, isInCall_iff t⟩
    · intro hrefused
      exact (presences_of_refused hrefused).1

end PhoneAudio.Switchboard
