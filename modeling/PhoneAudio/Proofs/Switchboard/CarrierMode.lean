import Mathlib.Data.List.Induction
import PhoneAudio.Proofs.Switchboard.Front
import PhoneAudio.Proofs.Switchboard.Words

/-!
# The carrier mode

The carrier mode is one flag for all calls. A call that begins to ring sets it by what
it is, any other change of a tracked call's state ends it, and nothing else touches it:
of the words that are taken in, these *rule* on the mode, and after any run the mode is
what the last ruling made of it (`carrierMode_run`). The medium of the ring is remembered
beside the flag and ruled on by the same words, so all this is proved of the mode for some
kind of media first (`modeFor_run`).

A word that rules leaves no stale mode behind: if the mode is on after it, the call that
it is about rings by the carrier. A word that does not rule keeps the mode, and in a
prompt run it keeps the callers, too, unless it makes one leave. So the mode outlives the
callers in one way only, namely if the last of them leaves while it rings
(`run_carrierMode_stale_iff`).
-/

namespace PhoneAudio.Switchboard

variable {n : Nat} {s t : Switchboard n} {operation : Operation n}

/-! ## Rulings -/

/-- What a word makes of the carrier mode, if it rules on it, when the call it is about is
one that rings by the carrier or is not. -/
def ruledBy (byCarrier : Bool) : Ledger.Word → Option Bool
  | .joined entry => if entry.state.isRinging then some byCarrier else none
  | .moved entry => some (entry.state.isRinging && byCarrier)
  | .left _ => none

/-- What an operation makes of the carrier mode, if it rules on it. -/
def ruling? (s : Switchboard n) (operation : Operation n) : Option Bool :=
  operation.subject?.bind fun place =>
    ((operation.word? s.alerter.calls).filter s.takesIn).bind (ruledBy (s.call place).carrierRing)

/-- The rulings of a run, oldest first. -/
def rulings (s : Switchboard n) : List (Operation n) → List Bool
  | [] => []
  | operation :: rest => (s.ruling? operation).toList ++ (s.perform operation).1.rulings rest

/-- The same, when only some calls count as ringing by the carrier. -/
def rulingOf? (s : Switchboard n) (rings : Fin n → Bool) (operation : Operation n) : Option Bool :=
  operation.subject?.bind fun place =>
    ((operation.word? s.alerter.calls).filter s.takesIn).bind (ruledBy (rings place))

theorem rulingOf?_eq {rings : Fin n → Bool} {place : Fin n} {word : Ledger.Word}
    (hsubject : operation.subject? = some place)
    (hword : operation.word? s.alerter.calls = some word) (htaken : s.takesIn word = true) :
    s.rulingOf? rings operation = ruledBy (rings place) word := by
  rw [rulingOf?, hsubject, hword, Option.bind_some, Option.filter_some_pos htaken,
    Option.bind_some]

theorem takesIn_joined {place : Fin n} (h : s.isTracked (s.ident place) = false) :
    s.takesIn (.joined (.of (s.call place) (s.call place).state)) = true := by
  show (!s.isTracked (s.ident place)) = true
  rw [h]
  rfl

/-- A call that joins rules on the mode if it rings. -/
theorem rulingOf?_of_joining {rings : Fin n → Bool} {place : Fin n}
    (hsubject : operation.subject? = some place)
    (hword : operation.word? s.alerter.calls =
      some (.joined (.of (s.call place) (s.call place).state)))
    (hnew : s.isTracked (s.ident place) = false) :
    s.rulingOf? rings operation =
      if (s.call place).state.isRinging then some (rings place) else none :=
  rulingOf?_eq hsubject hword (takesIn_joined hnew)

theorem rulingOf?_of_refused {rings : Fin n → Bool} (h : s.accepts operation = false) :
    s.rulingOf? rings operation = none := by
  have hnone : (operation.word? s.alerter.calls).filter s.takesIn = none := by
    rw [Option.filter_eq_none_iff]
    intro word hword htaken
    rw [accepts_of_word? word hword, htaken] at h
    cases h
  rw [rulingOf?, hnone]
  cases operation.subject? <;> rfl

theorem ruling?_eq {place : Fin n} {word : Ledger.Word} (hsubject : operation.subject? = some place)
    (hword : operation.word? s.alerter.calls = some word) (htaken : s.takesIn word = true) :
    s.ruling? operation = ruledBy (s.call place).carrierRing word :=
  rulingOf?_eq hsubject hword htaken

theorem ruling?_of_joining {place : Fin n} (hsubject : operation.subject? = some place)
    (hword : operation.word? s.alerter.calls =
      some (.joined (.of (s.call place) (s.call place).state)))
    (hnew : s.isTracked (s.ident place) = false) :
    s.ruling? operation =
      if (s.call place).state.isRinging then some (s.call place).carrierRing else none :=
  rulingOf?_of_joining hsubject hword hnew

theorem ruling?_of_refused (h : s.accepts operation = false) : s.ruling? operation = none :=
  rulingOf?_of_refused h

theorem rulings_concat (s : Switchboard n) (operations : List (Operation n))
    (operation : Operation n) :
    s.rulings (operations ++ [operation]) =
      s.rulings operations ++ ((s.run operations).ruling? operation).toList := by
  induction operations generalizing s with
  | nil => exact List.append_nil _
  | cons first rest ih =>
    rw [List.cons_append, rulings, ih, rulings, List.append_assoc]
    rfl

/-! ## The mode after a word -/

/-- The carrier mode is on, for media of some kind. -/
def modeFor (s : Switchboard n) (wanted : Option Video → Bool) : Bool :=
  s.carrierMode && wanted s.carrierMedia

/-- A call rings by the carrier, with media of some kind. -/
def ringsFor (s : Switchboard n) (wanted : Option Video → Bool) (place : Fin n) : Bool :=
  (s.call place).carrierRing && wanted (some (s.call place).ringMedia)

/-- The rulings of a run on the mode for media of some kind, oldest first. -/
def rulingsFor (s : Switchboard n) (wanted : Option Video → Bool) : List (Operation n) → List Bool
  | [] => []
  | operation :: rest =>
    (s.rulingOf? (s.ringsFor wanted) operation).toList ++
      (s.perform operation).1.rulingsFor wanted rest

theorem Touches.carrierRing {parts : List Part} (h : Touches parts s t)
    (hparts : Part.natures ∉ parts) (place : Fin n) :
    (t.call place).carrierRing = (s.call place).carrierRing :=
  congrArg Call.Nature.carrierRing (h.natures hparts place)

theorem Touches.ringsFor {parts : List Part} (h : Touches parts s t)
    (hparts : Part.natures ∉ parts) (wanted : Option Video → Bool) :
    t.ringsFor wanted = s.ringsFor wanted := by
  funext place
  have hmedia : (t.call place).ringMedia = (s.call place).ringMedia :=
    congrArg Call.Nature.ringMedia (h.natures hparts place)
  rw [Switchboard.ringsFor, Switchboard.ringsFor, h.carrierRing hparts, hmedia]

theorem Touches.modeFor {parts : List Part} (h : Touches parts s t)
    (hmode : Part.carrierMode ∉ parts) (hmedia : Part.carrierMedia ∉ parts)
    (wanted : Option Video → Bool) : t.modeFor wanted = s.modeFor wanted := by
  have hsame : t.carrierMode = s.carrierMode := h.keeps .carrierMode hmode
  have hkept : t.carrierMedia = s.carrierMedia := h.keeps .carrierMedia hmedia
  rw [Switchboard.modeFor, Switchboard.modeFor, hsame, hkept]

variable (wanted : Option Video → Bool)

theorem modeFor_enterRinging (s : Switchboard n) (place : Fin n) :
    (s.enterRinging place).modeFor wanted = s.ringsFor wanted place := by
  unfold enterRinging
  dsimp only
  split
  · exact (touches_setRoute _ .speaker none).modeFor (by decide) (by decide) wanted
  · rfl

/-- A call that begins to ring sets the mode. -/
theorem modeFor_enter (s : Switchboard n) (place : Fin n) (state : Call.State) :
    (s.enter place state).modeFor wanted =
      if state.isRinging then s.ringsFor wanted place else s.modeFor wanted := by
  cases state with
  | ringing => exact modeFor_enterRinging wanted s place
  | simulatedRinging => exact modeFor_enterRinging wanted s place
  | dialing =>
    unfold enter
    dsimp only
    split <;> rfl
  | _ => rfl

theorem modeFor_endCarrierMode (s : Switchboard n) : s.endCarrierMode.modeFor wanted = false := by
  have hoff : s.endCarrierMode.carrierMode = false := by
    unfold endCarrierMode
    dsimp only
    split
    · exact (touches_setRoute { s with carrierMode := false } .earpiece none).keeps .carrierMode
        (by decide)
    · rfl
  rw [modeFor, hoff, Bool.false_and]

/-- Before a call enters a state that does not ring, a mode that is on is ended. -/
theorem modeFor_afterMove (s : Switchboard n) {new : Call.State} (h : new.isRinging = false) :
    (if s.carrierMode && new ≠ .ringing then s.endCarrierMode else s).modeFor wanted = false := by
  have hne : new ≠ .ringing := by
    rintro rfl
    cases h
  split
  · exact modeFor_endCarrierMode wanted s
  next hoff =>
    have hmode : s.carrierMode = false := by simpa [hne] using hoff
    rw [modeFor, hmode, Bool.false_and]

theorem modeFor_close (t : Switchboard n) (before : Headcount) :
    ((t.tellCrossings before).adjustHoldTone).modeFor wanted = t.modeFor wanted :=
  (touches_close t before).modeFor (by decide) (by decide) wanted

theorem modeFor_track {place : Fin n} (h : s.isTracked (s.ident place) = false) :
    (s.track place).modeFor wanted =
      if (s.call place).state.isRinging then s.ringsFor wanted place else s.modeFor wanted := by
  have hbefore := (touches_seat s place (s.call place).state).trans (touches_updateFront _)
  have hmode := hbefore.modeFor (by decide) (by decide) wanted
  have hring := hbefore.ringsFor (by decide) wanted
  rw [track, if_neg (by simp [h])]
  dsimp only
  rw [modeFor_close, modeFor_enter, ← hmode, ← hring]
  rfl

theorem modeFor_untrack {place : Fin n} (h : s.isTracked (s.ident place) = true) :
    (s.untrack place).modeFor wanted = s.modeFor wanted := by
  have herase := touches_roster s (s.roster.erase s.ident (s.ident place))
  have hfront := herase.trans (touches_updateFront _)
  rw [untrack]
  dsimp only
  rw [if_pos h, modeFor_close]
  refine ((touches_leave _ place _).modeFor (by decide) (by decide) wanted).trans ?_
  exact hfront.modeFor (by decide) (by decide) wanted

theorem modeFor_stateChanged {place : Fin n} (old new : Call.State)
    (hheard : (s.call place).isIgnored = false) (h : s.isTracked (s.ident place) = true) :
    (s.stateChanged place old new).modeFor wanted =
      (new.isRinging && s.ringsFor wanted place) := by
  have hseat := (touches_roster s (s.roster.erase s.ident (s.ident place))).trans
    (touches_seat _ place new)
  have htold := (hseat.trans (touches_updatePresence _)).trans (touches_updateFront _)
  have htones := htold.trans (touches_playChangeTones _ place old new)
  rw [stateChanged, if_neg (by simp [hheard, h])]
  dsimp only
  rw [modeFor_close, modeFor_enter]
  generalize (updatePresence (seat { s with
    roster := s.roster.erase s.ident (s.ident place) } place new)).updateFront.playChangeTones place
      old new = u at htones ⊢
  have hleft := touches_leave (if u.carrierMode && new ≠ .ringing then u.endCarrierMode else u)
    place old
  cases hring : new.isRinging with
  | true =>
    have hafter := (htones.trans (touches_afterCarrierMode u new)).trans hleft
    exact congrFun (hafter.ringsFor (by decide) wanted) place
  | false =>
    refine (hleft.modeFor (by decide) (by decide) wanted).trans ?_
    exact modeFor_afterMove wanted u hring

/-- An operation that rules sets the mode, and any other keeps it. -/
theorem modeFor_perform (s : Switchboard n) (operation : Operation n) :
    (s.perform operation).1.modeFor wanted =
      (s.rulingOf? (s.ringsFor wanted) operation).getD (s.modeFor wanted) := by
  cases deed_perform s operation with
  | nothing hrefused =>
    rw [rulingOf?_of_refused hrefused]
    exact (touches_of_refused hrefused).modeFor (by decide) (by decide) wanted
  | joins place hsubject hword hnew h =>
    have hmode := h.modeFor (by decide) (by decide) wanted
    rw [hmode, modeFor_track wanted hnew, rulingOf?_of_joining hsubject hword hnew]
    split <;> rfl
  | leaves place hsubject hword hold h =>
    rw [rulingOf?_eq hsubject hword hold, h]
    exact modeFor_untrack wanted hold
  | moves place old new hsubject hword hheard hold h hoperation =>
    have hunheard := touches_unheard s operation
    have hident : (s.unheard operation).ident = s.ident := hunheard.ident (by decide)
    have hring := hunheard.ringsFor (by decide) wanted
    rw [h, modeFor_stateChanged wanted old new, hring, rulingOf?_eq hsubject hword hold]
    · rfl
    · rw [isIgnored_unheard, hheard]
    · rw [hunheard.isTracked (by decide) (by decide), hident, hold]

/-- After a run the mode is what the last ruling made of it. -/
theorem modeFor_run (s : Switchboard n) (operations : List (Operation n)) :
    (s.run operations).modeFor wanted =
      (s.rulingsFor wanted operations).getLast?.getD (s.modeFor wanted) := by
  induction operations generalizing s with
  | nil => rfl
  | cons operation rest ih =>
    have hrest := ih (s.perform operation).1
    rw [modeFor_perform] at hrest
    rw [rulingsFor, List.getLast?_append]
    refine hrest.trans ?_
    cases (rulingsFor (s.perform operation).1 wanted rest).getLast? <;>
      cases s.rulingOf? (s.ringsFor wanted) operation <;> rfl

/-! For media of any kind this is the carrier mode itself. -/

/-- Media of any kind. -/
abbrev anyMedia : Option Video → Bool := fun _ => true

theorem modeFor_anyMedia (s : Switchboard n) : s.modeFor anyMedia = s.carrierMode :=
  Bool.and_true _

theorem ringsFor_anyMedia (s : Switchboard n) :
    s.ringsFor anyMedia = fun place => (s.call place).carrierRing :=
  funext fun _ => Bool.and_true _

theorem rulingsFor_anyMedia (s : Switchboard n) (operations : List (Operation n)) :
    s.rulingsFor anyMedia operations = s.rulings operations := by
  induction operations generalizing s with
  | nil => rfl
  | cons operation rest ih =>
    rw [rulingsFor, rulings, ih, ringsFor_anyMedia]
    rfl

theorem carrierMode_stateChanged {place : Fin n} (old new : Call.State)
    (hheard : (s.call place).isIgnored = false) (h : s.isTracked (s.ident place) = true) :
    (s.stateChanged place old new).carrierMode =
      (new.isRinging && (s.call place).carrierRing) := by
  have hmode := modeFor_stateChanged anyMedia old new hheard h
  rwa [modeFor_anyMedia, ringsFor_anyMedia] at hmode

theorem carrierMode_perform (s : Switchboard n) (operation : Operation n) :
    (s.perform operation).1.carrierMode = (s.ruling? operation).getD s.carrierMode := by
  have hmode := modeFor_perform anyMedia s operation
  rwa [modeFor_anyMedia, modeFor_anyMedia, ringsFor_anyMedia] at hmode

theorem carrierMode_run (s : Switchboard n) (operations : List (Operation n)) :
    (s.run operations).carrierMode = (s.rulings operations).getLast?.getD s.carrierMode := by
  have hmode := modeFor_run anyMedia s operations
  rwa [modeFor_anyMedia, modeFor_anyMedia, rulingsFor_anyMedia] at hmode

/-! ## Callers -/

/-- Whether a call rings and the carrier renders its ring. -/
def ringsByCarrier (s : Switchboard n) (place : Fin n) : Bool :=
  (s.call place).carrierRing && (s.call place).state.isRinging

/-- The calls of the ringing group for which the carrier mode is meant, oldest first. -/
def carrierCallers (s : Switchboard n) : List (Fin n) := s.roster.ringing.filter s.ringsByCarrier

/-- The mode is on, and no tracked call of the ringing group rings by the carrier. -/
def Stale (s : Switchboard n) : Prop :=
  s.carrierMode = true ∧ ¬∃ place ∈ s.roster.ringing, s.isTracked (s.ident place) = true ∧
    (s.call place).carrierRing = true ∧ (s.call place).state.isRinging = true

instance decidableStale (s : Switchboard n) : Decidable s.Stale :=
  inferInstanceAs (Decidable (_ ∧ _))

/-- What stands in the ringing group is tracked, so the mode is stale if it has no caller. -/
theorem stale_iff {ledger : Ledger} (hrefines : s.Refines ledger) :
    s.Stale ↔ s.carrierMode = true ∧ s.carrierCallers = [] := by
  rw [Stale, carrierCallers, List.filter_eq_nil_iff]
  refine and_congr_right fun _ => ⟨fun hnone place hmem hring => ?_, ?_⟩
  · obtain ⟨hcarrier, hrings⟩ := Bool.and_eq_true_iff.mp hring
    exact hnone ⟨place, hmem, hrefines.isTracked_of_mem .ringing hmem, hcarrier, hrings⟩
  · rintro hnone ⟨place, hmem, -, hcarrier, hrings⟩
    exact hnone place hmem (Bool.and_eq_true_iff.mpr ⟨hcarrier, hrings⟩)

theorem Touches.ringsByCarrier {parts : List Part} (h : Touches parts s t)
    (hnatures : Part.natures ∉ parts) (hattributes : Part.attributes ∉ parts) :
    t.ringsByCarrier = s.ringsByCarrier := by
  have hsame : t.alerter.attributes = s.alerter.attributes := h.keeps .attributes hattributes
  funext place
  have hstate : (t.call place).state = (s.call place).state :=
    congrArg Call.Attributes.state (congrFun hsame place)
  rw [Switchboard.ringsByCarrier, Switchboard.ringsByCarrier, h.carrierRing hnatures, hstate]

theorem Touches.carrierCallers {parts : List Part} (h : Touches parts s t)
    (hparts : ∀ part ∈ [Part.natures, .attributes, .roster], part ∉ parts) :
    t.carrierCallers = s.carrierCallers := by
  have hroster : t.roster = s.roster := h.keeps .roster (hparts _ (by simp))
  rw [Switchboard.carrierCallers, Switchboard.carrierCallers, hroster,
    h.ringsByCarrier (hparts _ (by simp)) (hparts _ (by simp))]

/-- A call that rings takes its seat in the ringing group. -/
theorem ringing_seat {place : Fin n} {state : Call.State} (h : state.isRinging = true)
    (hfree : s.roster.has s.ident .ringing (s.ident place) = false) :
    (s.seat place state).roster.ringing = s.roster.ringing ++ [place] := by
  have hgroup : Group.ofState? state (s.call place).traits.speedUpAnswer = some .ringing := by
    cases state <;> first | rfl | cases h
  rw [seat, hgroup]
  exact (Roster.get_insert s.ident s.roster .ringing .ringing place).trans (if_pos ⟨rfl, hfree⟩)

/-- An answered call may sit in the ringing group, too, but no seat in it makes a call that
does not ring a caller. -/
theorem carrierCallers_seat {place : Fin n} {state : Call.State}
    (h : s.ringsByCarrier place = false) :
    (s.seat place state).carrierCallers = s.carrierCallers := by
  have hsame := (touches_seat s place state).ringsByCarrier (by decide) (by decide)
  rw [carrierCallers, carrierCallers, hsame, seat]
  split
  next group hgroup =>
    have hget := Roster.get_insert s.ident s.roster group .ringing place
    rw [show (s.roster.insert s.ident group place).ringing = _ from hget]
    split
    · rw [List.filter_append, List.filter_singleton, h]
      exact List.append_nil _
    · rfl
  · rfl

theorem has_eq_false_of_untracked {ledger : Ledger} (hrefines : s.Refines ledger) {id : CallId}
    (h : s.isTracked id = false) (group : Group) : s.roster.has s.ident group id = false := by
  rw [Roster.has, List.any_eq_false]
  intro member hmember hsame
  have htracked := hrefines.isTracked_of_mem group hmember
  rw [eq_of_beq hsame, h] at htracked
  cases htracked

/-! ## What a word does to the callers -/

/-- The call that an operation says is no longer to be tracked. -/
def Operation.departure? (calls : CallTable n) (operation : Operation n) : Option CallId :=
  match operation.word? calls with
  | some (.left id) => some id
  | _ => none

/-- Whether a word about a change of state gives the state that the call is in. -/
def honest (s : Switchboard n) : Operation n → Bool
  | .stateChanged place _ new => (s.call place).state = new
  | _ => true

/-- A call whose move is told honestly is in the state that it moved to. -/
theorem state_unheard {place : Fin n} {old new : Call.State} (hhonest : s.honest operation = true)
    (h : operation = .stateChanged place old new ∨ operation = .moved place new) :
    ((s.unheard operation).call place).state = new := by
  rcases h with rfl | rfl
  · exact of_decide_eq_true hhonest
  · have hget := s.alerter.calls.get_modify place place (·.revise (.state new))
    rw [if_pos rfl] at hget
    exact congrArg (fun call : Call => call.state) hget

theorem carrierCallers_ne_nil {place : Fin n} (hring : s.ringsByCarrier place = true)
    (hmem : place ∈ s.roster.ringing) : s.carrierCallers ≠ [] :=
  List.ne_nil_of_mem (List.mem_filter.mpr ⟨hmem, hring⟩)

theorem carrierCallers_of_joining {ledger : Ledger} (hrefines : s.Refines ledger) {place : Fin n}
    (hnew : s.isTracked (s.ident place) = false) (hstate : (s.call place).state.isRinging = true)
    (hcarrier : (s.call place).carrierRing = true) : (s.track place).carrierCallers ≠ [] := by
  have hrings : (s.track place).ringsByCarrier = s.ringsByCarrier :=
    (heeds_track s place).touches.ringsByCarrier (by decide) (by decide)
  have hring : (s.track place).ringsByCarrier place = true := by
    rw [hrings, ringsByCarrier, hcarrier, hstate]
    rfl
  refine carrierCallers_ne_nil hring ?_
  have hfree := has_eq_false_of_untracked hrefines hnew .ringing
  rw [roster_track hnew, ringing_seat hstate hfree]
  exact List.mem_append_right _ (List.mem_singleton_self place)

theorem carrierCallers_of_moving {place : Fin n} (old : Call.State) {new : Call.State}
    (hheard : (s.call place).isIgnored = false) (hold : s.isTracked (s.ident place) = true)
    (hstate : (s.call place).state = new)
    (hmode : (s.stateChanged place old new).carrierMode = true) :
    (s.stateChanged place old new).carrierCallers ≠ [] := by
  rw [carrierMode_stateChanged old new hheard hold, Bool.and_eq_true] at hmode
  have hrings : (s.stateChanged place old new).ringsByCarrier = s.ringsByCarrier :=
    (heeds_stateChanged s place old new).touches.ringsByCarrier (by decide) (by decide)
  have hring : (s.stateChanged place old new).ringsByCarrier place = true := by
    rw [hrings, ringsByCarrier, hstate, hmode.1, hmode.2]
    rfl
  refine carrierCallers_ne_nil hring ?_
  -- the call has no seat left when it takes the new one
  have hfree : (s.roster.erase s.ident (s.ident place)).has s.ident .ringing (s.ident place) =
      false := by
    rw [Roster.has, Roster.get_erase, List.any_filter, List.any_eq_false]
    simp
  rw [roster_stateChanged old new hheard hold]
  rw [ringing_seat (s := { s with roster := s.roster.erase s.ident (s.ident place) }) hmode.1 hfree]
  exact List.mem_append_right _ (List.mem_singleton_self place)

/-- A word that rules leaves the mode on only for a call that rings by the carrier. -/
theorem not_stale_of_ruling {ledger : Ledger} (hrefines : s.Refines ledger)
    (hhonest : s.honest operation = true) (h : s.ruling? operation ≠ none) :
    ¬(s.perform operation).1.Stale := by
  rw [stale_iff (hrefines.perform operation)]
  rintro ⟨hon, hcallers⟩
  revert hcallers
  cases deed_perform s operation with
  | nothing hrefused => exact absurd (ruling?_of_refused hrefused) h
  | joins place hsubject hword hnew hperform =>
    have hmode := carrierMode_perform s operation
    rw [ruling?_of_joining hsubject hword hnew] at hmode h
    have hstate : (s.call place).state.isRinging = true := by
      by_contra hquiet
      exact h (if_neg hquiet)
    have hcarrier : (s.call place).carrierRing = true := by
      rw [if_pos hstate] at hmode
      exact hmode.symm.trans hon
    rw [hperform.carrierCallers (by decide)]
    exact carrierCallers_of_joining hrefines hnew hstate hcarrier
  | leaves place hsubject hword hold hperform =>
    exact absurd (ruling?_eq hsubject hword hold) h
  | moves place old new hsubject hword hheard hold hperform hoperation =>
    have hunheard := touches_unheard s operation
    have hident : (s.unheard operation).ident = s.ident := hunheard.ident (by decide)
    rw [hperform] at hon ⊢
    refine carrierCallers_of_moving old ?_ ?_ (state_unheard hhonest hoperation) hon
    · rw [isIgnored_unheard, hheard]
    · rw [hunheard.isTracked (by decide) (by decide), hident, hold]

/-- A call that is told to leave, and is not heard, is none of the tracked ones. -/
theorem departure?_of_refused {place : Fin n} (hrefused : s.accepts operation = false)
    (htracked : s.isTracked (s.ident place) = true) :
    operation.departure? s.alerter.calls ≠ some (s.ident place) := by
  intro hdeparture
  unfold Operation.departure? at hdeparture
  split at hdeparture
  next id hword =>
    rw [accepts_of_word? _ hword, Option.some.inj hdeparture] at hrefused
    exact absurd (htracked.symm.trans hrefused) (by simp)
  · cases hdeparture

theorem carrierCallers_of_refused {ledger : Ledger} (hrefines : s.Refines ledger)
    (hrefused : s.accepts operation = false) (hsteady : ∀ place, s.shifts operation place = false) :
    (s.perform operation).1.carrierCallers = s.carrierCallers := by
  have htouch := touches_of_refused hrefused
  have hroster : (s.perform operation).1.roster = s.roster := htouch.keeps .roster (by decide)
  rw [carrierCallers, carrierCallers, hroster]
  apply List.filter_congr
  intro place hmem
  have htracked := hrefines.isTracked_of_mem .ringing hmem
  have hstate : ((s.perform operation).1.call place).state = (s.call place).state := by
    simpa [shifts, htracked] using hsteady place
  rw [ringsByCarrier, ringsByCarrier, htouch.carrierRing (by decide), hstate]

/-- A call that joins and does not ring is no new caller. -/
theorem carrierCallers_track {place : Fin n} (hnew : s.isTracked (s.ident place) = false)
    (hquiet : (s.call place).state.isRinging = false) :
    (s.track place).carrierCallers = s.carrierCallers := by
  have hrings : (s.track place).ringsByCarrier = s.ringsByCarrier :=
    (heeds_track s place).touches.ringsByCarrier (by decide) (by decide)
  have hseat : (s.seat place (s.call place).state).ringsByCarrier = s.ringsByCarrier :=
    (touches_seat s place _).ringsByCarrier (by decide) (by decide)
  have hsilent : s.ringsByCarrier place = false := by
    rw [ringsByCarrier, hquiet, Bool.and_false]
  rw [← carrierCallers_seat hsilent, carrierCallers, carrierCallers, hrings, hseat,
    roster_track hnew]

theorem carrierCallers_untrack {place : Fin n} (hold : s.isTracked (s.ident place) = true) :
    (s.untrack place).carrierCallers =
      s.carrierCallers.filter fun other => s.ident other != s.ident place := by
  have hrings : (s.untrack place).ringsByCarrier = s.ringsByCarrier :=
    (heeds_untrack s place).touches.ringsByCarrier (by decide) (by decide)
  rw [carrierCallers, carrierCallers, hrings, roster_untrack hold, List.filter_filter,
    Roster.erase, List.filter_filter]
  apply List.filter_congr
  intro other _
  rw [Bool.and_comm]

/-- Without a ruling, and with no call that changes its state, all callers stay but the one
that leaves. -/
theorem carrierCallers_perform {ledger : Ledger} (hrefines : s.Refines ledger)
    (hnone : s.ruling? operation = none) (hsteady : ∀ place, s.shifts operation place = false) :
    (s.perform operation).1.carrierCallers =
      s.carrierCallers.filter fun place =>
        operation.departure? s.alerter.calls ≠ some (s.ident place) := by
  cases deed_perform s operation with
  | nothing hrefused =>
    rw [carrierCallers_of_refused hrefines hrefused hsteady, eq_comm, List.filter_eq_self]
    intro place hmem
    have htracked := hrefines.isTracked_of_mem .ringing (List.mem_of_mem_filter hmem)
    exact decide_eq_true (departure?_of_refused hrefused htracked)
  | joins place hsubject hword hnew hperform =>
    have hquiet : (s.call place).state.isRinging = false := by
      rw [ruling?_of_joining hsubject hword hnew] at hnone
      simpa using hnone
    have hstay : operation.departure? s.alerter.calls = none := by
      rw [Operation.departure?, hword]
    rw [hperform.carrierCallers (by decide), carrierCallers_track hnew hquiet, hstay, eq_comm,
      List.filter_eq_self]
    simp
  | leaves place hsubject hword hold hperform =>
    have hleft : operation.departure? s.alerter.calls = some (s.ident place) := by
      rw [Operation.departure?, hword]
    rw [hperform, carrierCallers_untrack hold, hleft]
    apply List.filter_congr
    intro other _
    rw [Bool.eq_iff_iff, bne_iff_ne, decide_eq_true_iff, Ne, Ne, Option.some_inj, eq_comm]
  | moves place old new hsubject hword hheard hold hperform hoperation =>
    rw [ruling?_eq hsubject hword hold] at hnone
    cases hnone

/-! ## The last caller -/

/-- Whether an operation makes the last callers leave while the mode is on. -/
def losesCaller (s : Switchboard n) (operation : Operation n) : Bool :=
  s.carrierMode && s.carrierCallers ≠ [] && s.carrierCallers.all fun place =>
    operation.departure? s.alerter.calls = some (s.ident place)

/-- A departure does not rule on the mode. -/
theorem ruling?_of_losesCaller (h : s.losesCaller operation = true) :
    s.ruling? operation = none := by
  simp only [losesCaller, Bool.and_eq_true, decide_eq_true_eq, List.all_eq_true] at h
  obtain ⟨⟨-, hcallers⟩, hleave⟩ := h
  obtain ⟨place, hmem⟩ := List.exists_mem_of_ne_nil _ hcallers
  have hdeparture := hleave place hmem
  unfold Operation.departure? at hdeparture
  split at hdeparture
  next id hword =>
    cases htaken : s.takesIn (.left id) with
    | true =>
      cases hsubject : operation.subject? with
      | none => rw [ruling?, hsubject, Option.bind_none]
      | some subject => exact ruling?_eq hsubject hword htaken
    | false => exact ruling?_of_refused ((accepts_of_word? _ hword).trans htaken)
  · cases hdeparture

/-- Without a ruling a mode grows stale when its last callers leave. -/
theorem stale_perform_iff {ledger : Ledger} (hrefines : s.Refines ledger)
    (hnone : s.ruling? operation = none) (hsteady : ∀ place, s.shifts operation place = false) :
    (s.perform operation).1.Stale ↔ s.Stale ∨ s.losesCaller operation = true := by
  have hmode := carrierMode_perform s operation
  rw [hnone, Option.getD_none] at hmode
  rw [stale_iff (hrefines.perform operation), stale_iff hrefines, hmode,
    carrierCallers_perform hrefines hnone hsteady, losesCaller, List.filter_eq_nil_iff]
  simp only [decide_not, Bool.not_eq_true', decide_eq_false_iff_not, not_not, Bool.and_eq_true,
    decide_eq_true_eq, List.all_eq_true]
  by_cases hcallers : s.carrierCallers = []
  · simp [hcallers]
  · simp [hcallers]

/-! ## Runs -/

/-- A run in which every word about a change of state gives the state that the call is in. -/
def Honest (s : Switchboard n) : List (Operation n) → Prop
  | [] => True
  | operation :: rest => s.honest operation = true ∧ (s.perform operation).1.Honest rest

instance decidableHonest (s : Switchboard n) (operations : List (Operation n)) :
    Decidable (s.Honest operations) :=
  match operations with
  | [] => isTrue trivial
  | operation :: rest =>
    have := decidableHonest (s.perform operation).1 rest
    inferInstanceAs (Decidable (_ ∧ _))

theorem Honest.concat {operations : List (Operation n)}
    (h : s.Honest (operations ++ [operation])) :
    s.Honest operations ∧ (s.run operations).honest operation = true := by
  induction operations generalizing s with
  | nil => exact ⟨trivial, h.1⟩
  | cons first rest ih =>
    obtain ⟨hfirst, hrest⟩ := h
    exact ⟨⟨hfirst, (ih hrest).1⟩, (ih hrest).2⟩

/-- The last operation of a prompt run tells of every change that it makes itself. -/
theorem Prompt.last {operations : List (Operation n)} (h : s.Prompt (operations ++ [operation]))
    (place : Fin n) (hshifts : (s.run operations).shifts operation place = true) :
    (s.run operations).hears place operation = true := by
  induction operations generalizing s with
  | nil =>
    have htold : (s.hears place operation || false) = true := h.1 place hshifts
    rwa [Bool.or_false] at htold
  | cons first rest ih => exact ih h.2 hshifts

/-- Where the last operation tells of no change, none was left to be told. -/
theorem Prompt.init {operations : List (Operation n)} (h : s.Prompt (operations ++ [operation]))
    (hdeaf : ∀ place, (s.run operations).hears place operation = false) : s.Prompt operations := by
  induction operations generalizing s with
  | nil => trivial
  | cons first rest ih =>
    obtain ⟨hfirst, hrest⟩ := h
    refine ⟨fun place hshifts => ?_, ih hrest hdeaf⟩
    have htold := hfirst place hshifts
    cases rest with
    | nil =>
      have hsilent : (s.perform first).1.hears place operation = false := hdeaf place
      change (s.hears place first || (s.perform first).1.hears place operation) = true at htold
      rw [hsilent, Bool.or_false] at htold
      rw [htold, Bool.true_or]
    | cons next later => exact htold

/-- A change of state that is told is a word that rules. -/
theorem ruling?_of_hears {place : Fin n} (h : s.hears place operation = true) :
    s.ruling? operation ≠ none := by
  have haccepts := accepts_of_hears h
  have hmoved : ∀ word, operation.word? s.alerter.calls = some word →
      ∃ entry, word = .moved entry := by
    intro word hword
    cases operation with
    | moved other state => exact ⟨_, (wordUnlessIgnored_eq_some hword).2.symm⟩
    | stateChanged other old new => exact ⟨_, (wordUnlessIgnored_eq_some hword).2.symm⟩
    | _ => cases h
  cases deed_perform s operation with
  | nothing hrefused =>
    rw [haccepts] at hrefused
    cases hrefused
  | joins subject hsubject hword hnew hperform =>
    obtain ⟨entry, hentry⟩ := hmoved _ hword
    cases hentry
  | leaves subject hsubject hword hold hperform =>
    obtain ⟨entry, hentry⟩ := hmoved _ hword
    cases hentry
  | moves subject old new hsubject hword hheard hold hperform hoperation =>
    rw [ruling?_eq hsubject hword hold]
    exact Option.some_ne_none _

/-- In a run the last callers left, and no word has ruled on the mode since. -/
def Bereft (s : Switchboard n) (operations : List (Operation n)) : Prop :=
  ∃ before operation after, operations = before ++ operation :: after ∧
    (s.run before).losesCaller operation = true ∧
    (s.run (before ++ [operation])).rulings after = []

theorem run_append (s : Switchboard n) (first second : List (Operation n)) :
    s.run (first ++ second) = (s.run first).run second := List.foldl_append

theorem bereft_concat_iff (s : Switchboard n) (operations : List (Operation n))
    (operation : Operation n) :
    s.Bereft (operations ++ [operation]) ↔
      (s.run operations).losesCaller operation = true ∨
        s.Bereft operations ∧ (s.run operations).ruling? operation = none := by
  constructor
  · rintro ⟨before, lost, after, hsplit, hloses, hrulings⟩
    rcases concat_eq_append_cons_iff.mp hsplit with ⟨rfl, rfl, rfl⟩ | ⟨since, rfl, rfl⟩
    · exact .inl hloses
    · rw [rulings_concat, ← run_append, List.append_assoc, List.append_eq_nil_iff] at hrulings
      refine .inr ⟨⟨before, lost, since, rfl, hloses, hrulings.1⟩, ?_⟩
      simpa using hrulings.2
  · rintro (hloses | ⟨⟨before, lost, since, rfl, hloses, hrulings⟩, hnone⟩)
    · exact ⟨operations, operation, [], rfl, hloses, rfl⟩
    · refine ⟨before, lost, since ++ [operation], by simp, hloses, ?_⟩
      rw [rulings_concat, hrulings, ← run_append, List.append_assoc]
      exact congrArg Option.toList hnone

/-- In a prompt and honest run the mode is stale exactly if its last callers left since the
last ruling. -/
theorem stale_run_iff {ledger : Ledger} (hrefines : s.Refines ledger) (hfresh : ¬s.Stale)
    {operations : List (Operation n)} (hprompt : s.Prompt operations)
    (hhonest : s.Honest operations) : (s.run operations).Stale ↔ s.Bereft operations := by
  -- From the end: only the last operation says whether the mode that the rest left is kept.
  induction operations using List.reverseRecOn with
  | nil =>
    refine ⟨fun hstale => absurd hstale hfresh, ?_⟩
    rintro ⟨before, operation, after, hsplit, -⟩
    simp at hsplit
  | append_singleton operations operation ih =>
    obtain ⟨hhonest, hlast⟩ := hhonest.concat
    have hreached := hrefines.run operations
    rw [run_concat, bereft_concat_iff]
    by_cases hnone : (s.run operations).ruling? operation = none
    -- A word that does not rule tells of no change, so in a prompt run nothing changed by it.
    · have hdeaf : ∀ place, (s.run operations).hears place operation = false := by
        intro place
        by_contra hhears
        exact ruling?_of_hears ((Bool.not_eq_false _).mp hhears) hnone
      have hsteady : ∀ place, (s.run operations).shifts operation place = false := by
        intro place
        by_contra hshifts
        have hhears := hprompt.last place ((Bool.not_eq_false _).mp hshifts)
        exact ruling?_of_hears hhears hnone
      rw [stale_perform_iff hreached hnone hsteady, ih (hprompt.init hdeaf) hhonest]
      tauto
    · have hfresh := not_stale_of_ruling hreached hlast hnone
      have hkept : (s.run operations).losesCaller operation ≠ true :=
        fun hloses => hnone (ruling?_of_losesCaller hloses)
      tauto

/-- In a run of an idle switchboard in which every change of a tracked call's state is told
at once, with the state that it changed to, the carrier mode is stale exactly if, while it
was on, one operation made the last calls leave that rang by the carrier, and since then no
call began to ring and none was told to have changed its state. -/
theorem run_carrierMode_stale_iff (calls : CallTable n) (profile : DeviceProfile)
    (settings : Settings) (surroundings : Surroundings) (timed : Bool) (registry : Registry)
    (desks : Option Desks) (operations : List (Operation n)) :
    let start := idle calls profile settings surroundings timed registry desks
    start.Prompt operations → start.Honest operations →
      ((start.run operations).Stale ↔
        ∃ before operation after, operations = before ++ operation :: after ∧
          (start.run before).losesCaller operation = true ∧
          (start.run (before ++ [operation])).rulings after = []) := by
  intro start hprompt hhonest
  have hrefines : start.Refines .empty :=
    refines_idle calls profile settings surroundings timed registry desks
  have hfresh : ¬start.Stale := fun hstale => absurd hstale.1 (by simp [start, idle])
  exact stale_run_iff hrefines hfresh hprompt hhonest

/-- A carrier ring call goes to another device while it rings, and an active call stays: the
mode is stale, and it still is when the hold tone was asked for. -/
theorem carrierMode_stale_after_handover :
    let call (id : Nat) (state : Call.State) (byCarrier : Bool) : Call :=
      { state := state, carrierRing := byCarrier, id := .ofNat id, log := .empty 64 }
    let start := idle (n := 2)
      ⟨#v[call 1 .ringing true, call 2 .active false]⟩ {} {} {} false {} none
    let operations : List (Operation 2) :=
      [.added 0, .added 1, .externalChanged 0 true, .holdToneRequested 1]
    start.Prompt operations ∧ start.Honest operations ∧ (start.run operations).Stale := by
  intro call start operations
  have hprompt : start.Prompt operations := by decide
  have hhonest : start.Honest operations := by decide
  have hstale := (run_carrierMode_stale_iff
    ⟨#v[call 1 .ringing true, call 2 .active false]⟩ {} {} {} false {} none operations hprompt
    hhonest).mpr ⟨[.added 0, .added 1], .externalChanged 0 true, [.holdToneRequested 1], rfl,
      by decide, by decide⟩
  exact ⟨hprompt, hhonest, hstale⟩

/-- A carrier ring call is added and removed while it rings: the mode stays on though no
call is tracked any more. -/
theorem carrierMode_outlives_caller :
    let call : Call := { state := .ringing, carrierRing := true, id := .ofNat 1, log := .empty 64 }
    let start := idle (n := 1) ⟨#v[call]⟩ {} {} {} false {} none
    let operations : List (Operation 1) := [.added 0, .removed 0]
    start.Prompt operations ∧ start.Honest operations ∧ (start.run operations).tracked = [] ∧
      (start.run operations).Stale := by
  decide

end PhoneAudio.Switchboard
