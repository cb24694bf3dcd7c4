import PhoneAudio.Proofs.Switchboard.CarrierMode
import PhoneAudio.Proofs.Switchboard.Emergency

/-!
# The speaker of a carrier ring

A carrier ring goes to the speaker if there is no device for it, and when a call moves on
while the carrier mode is on, the audio of a ring that was placed without video goes back to
the ear. Of each operation it is worked out what it asks the route layer for, in order, and
from this when it asks for the earpiece: the user does so, or a call moves on while the mode
is on for audio (`sends_perform`).

There is one mode for all calls, so the one that is on when a call moves on need not be that
of the call for which the speaker came on. That call is led back to the ear exactly if some
call moves on while the last ruling on the mode is that of a carrier ring without video, be it
its own or a later one (`run_earpiece_restored_iff`).
-/

namespace PhoneAudio.Switchboard

variable {n : Nat} {s t u : Switchboard n} {parts : List Part} {place : Fin n}
  {operation : Operation n} {first second : List Route.Request}

/-! ## What is asked for -/

/-- From `s` to `t` exactly these requests were sent. -/
def Sends (news : List Route.Request) (s t : Switchboard n) : Prop :=
  t.requests = s.requests ++ news

theorem Sends.trans (h₁ : Sends first s t) (h₂ : Sends second t u) :
    Sends (first ++ second) s u := by
  rw [Sends, h₂, h₁, List.append_assoc]

theorem Touches.sends (h : Touches parts s t) (hparts : Part.told .route ∉ parts) :
    Sends [] s t := by
  rw [Sends, h.requests hparts, List.append_nil]

/-- What is silent before or after a step adds nothing to its requests. -/
theorem Sends.before (h : Sends first t u) (hs : Sends [] s t) : Sends first s u := hs.trans h

theorem Sends.after (h : Sends first s t) (ht : Sends [] t u) : Sends first s u := by
  rw [← List.append_nil first]
  exact h.trans ht

theorem sends_refl (s : Switchboard n) : Sends [] s s := (Touches.refl [] s).sends (by decide)

theorem sends_sendRoute (s : Switchboard n) (request : Route.Request) :
    Sends [request] s (s.sendRoute request) := requests_sendRoute s request

/-- A route that is open is the one that was asked for. -/
theorem eq_of_requestFor? {emergency : Bool} {route : Route} {address : Option String}
    {request : Route.Request} (h : requestFor? emergency route address = some request) :
    request = route.request address := by
  cases route <;> cases emergency <;> cases h <;> rfl

theorem sends_updateFront (s : Switchboard n) :
    ∃ count, Sends (List.replicate count .update) s s.updateFront := by
  have hsent : ∀ front old new, Sends [.update] s (({ s with front := front }.sendRoute .update).send
      (.frontChanged old new)).adjustHoldTone := by
    intro front old new
    have hafter := ((touches_frontChanged ({ s with front := front }.sendRoute .update) old
      new).trans (touches_adjustHoldTone _)).sends (by decide)
    exact ((sends_sendRoute _ .update).before ((touches_front s front).sends (by decide))).after
      hafter
  unfold updateFront
  dsimp only
  split
  · exact ⟨0, (touches_front s _).sends (by decide)⟩
  · exact ⟨1, hsent _ _ _⟩

/-- Audio without video. -/
abbrev audioMedia : Option Video → Bool := fun media => media = some .audioOnly

/-- The request for the earpiece when the carrier mode ends. -/
def restoring (s : Switchboard n) : List Route.Request :=
  if s.carrierMedia = some .audioOnly && !s.registry.wiredOrBluetooth then [.earpiece] else []

theorem sends_endCarrierMode (s : Switchboard n) : Sends s.restoring s s.endCarrierMode := by
  have hmode : Sends [] s { s with carrierMode := false } :=
    (touches_carrierMode s false).sends (by decide)
  unfold endCarrierMode restoring
  dsimp only
  split
  · exact ((sends_sendRoute _ .earpiece).before hmode).after
      ((touches_carrierMedia _ none).sends (by decide))
  · exact hmode.after ((touches_carrierMedia _ none).sends (by decide))

/-- The requests of a change of state for the end of the carrier mode. -/
def movingOn (s : Switchboard n) (new : Call.State) : List Route.Request :=
  if s.carrierMode && new ≠ .ringing then s.restoring else []

theorem sends_afterMove (s : Switchboard n) (new : Call.State) :
    Sends (s.movingOn new) s
      (if s.carrierMode && new ≠ .ringing then s.endCarrierMode else s) := by
  unfold movingOn
  split
  · exact sends_endCarrierMode s
  · exact sends_refl s

theorem Touches.movingOn (h : Touches parts s t)
    (hparts : ∀ part ∈ [Part.carrierMode, .carrierMedia, .registry], part ∉ parts)
    (new : Call.State) : t.movingOn new = s.movingOn new := by
  have hmode : t.carrierMode = s.carrierMode := h.keeps .carrierMode (hparts _ (by simp))
  have hmedia : t.carrierMedia = s.carrierMedia := h.keeps .carrierMedia (hparts _ (by simp))
  have hregistry : t.registry = s.registry := h.keeps .registry (hparts _ (by simp))
  rw [Switchboard.movingOn, Switchboard.movingOn, restoring, restoring, hmode, hmedia, hregistry]

theorem mem_movingOn (s : Switchboard n) (new : Call.State) :
    .earpiece ∈ s.movingOn new ↔ new ≠ .ringing ∧ s.registry.wiredOrBluetooth = false ∧
      s.modeFor audioMedia = true := by
  unfold movingOn restoring modeFor
  by_cases hnew : new = .ringing
  · simp [hnew]
  · cases s.carrierMode <;> cases s.registry.wiredOrBluetooth <;>
      by_cases hmedia : s.carrierMedia = some .audioOnly <;> simp [hnew, hmedia]

/-- A call that begins to ring asks for the speaker at most, and only if the carrier renders
its ring. -/
def Forces (s : Switchboard n) (place : Fin n) (state : Call.State)
    (news : List Route.Request) : Prop :=
  news = [] ∨ news = [.speaker] ∧ state.isRinging = true ∧ (s.call place).carrierRing = true

theorem sends_enterRinging (s : Switchboard n) (place : Fin n) {state : Call.State}
    (hstate : state.isRinging = true) :
    ∃ news, Sends news s (s.enterRinging place) ∧ s.Forces place state news := by
  have hmode := ((touches_carrierMode s (s.call place).carrierRing).trans
    (touches_carrierMedia _ (some (s.call place).ringMedia))).sends (by decide)
  unfold enterRinging
  dsimp only
  split
  next hloud =>
    obtain ⟨hcarrier, -⟩ := Bool.and_eq_true_iff.mp hloud
    unfold setRoute
    split
    next request hrequest =>
      rw [eq_of_requestFor? hrequest]
      exact ⟨_, (sends_sendRoute _ .speaker).before hmode, .inr ⟨rfl, hstate, hcarrier⟩⟩
    · exact ⟨_, hmode, .inl rfl⟩
  · exact ⟨_, hmode, .inl rfl⟩

theorem sends_enter (s : Switchboard n) (place : Fin n) (state : Call.State) :
    ∃ news, Sends news s (s.enter place state) ∧ s.Forces place state news := by
  cases state with
  | ringing => exact sends_enterRinging s place rfl
  | simulatedRinging => exact sends_enterRinging s place rfl
  | dialing =>
    refine ⟨[], ?_, .inl rfl⟩
    unfold enter
    dsimp only
    split
    · exact Touches.sends (touches_send s (.startRingback place)) (by simp [Effect.channel])
    · exact sends_refl s
  | _ => exact ⟨[], sends_refl s, .inl rfl⟩

theorem Touches.forces (h : Touches parts s t) (hparts : Part.natures ∉ parts)
    {state : Call.State} (hforces : t.Forces place state first) : s.Forces place state first := by
  rw [Forces, ← h.carrierRing hparts place]
  exact hforces

theorem sends_close (t : Switchboard n) (before : Headcount) :
    Sends [] t (t.tellCrossings before).adjustHoldTone := (touches_close t before).sends (by decide)

/-! ## Words -/

theorem sends_track (h : s.isTracked (s.ident place) = false) :
    ∃ count news, Sends (List.replicate count .update ++ news) s (s.track place) ∧
      s.Forces place (s.call place).state news := by
  have hseat := touches_seat s place (s.call place).state
  have hfront := hseat.trans (touches_updateFront _)
  obtain ⟨count, hupdates⟩ := sends_updateFront (s.seat place (s.call place).state)
  rw [track, if_neg (by simp [h])]
  dsimp only
  generalize (s.seat place (s.call place).state).updateFront = t at hfront hupdates ⊢
  have hcounted := (touches_tracked t (t.tracked ++ [place])).trans (touches_updatePresence _)
  obtain ⟨news, hnews, hforces⟩ := sends_enter
    { t with tracked := t.tracked ++ [place] }.updatePresence place (s.call place).state
  refine ⟨count, news, ?_, (hfront.trans hcounted).forces (by decide) hforces⟩
  have hbefore := (hupdates.before (hseat.sends (by decide))).after (hcounted.sends (by decide))
  exact (hbefore.trans hnews).after (sends_close _ _)

theorem sends_untrack (h : s.isTracked (s.ident place) = true) :
    ∃ count, Sends (List.replicate count .update) s (s.untrack place) := by
  have herase := touches_roster s (s.roster.erase s.ident (s.ident place))
  obtain ⟨count, hupdates⟩ := sends_updateFront
    { s with roster := s.roster.erase s.ident (s.ident place) }
  rw [untrack]
  dsimp only
  rw [if_pos h]
  refine ⟨count, ((hupdates.before (herase.sends (by decide))).after ?_).after (sends_close _ _)⟩
  exact (((touches_tracked _ _).trans (touches_updatePresence _)).trans
    (touches_leave _ place _)).sends (by decide)

theorem sends_stateChanged (old new : Call.State) (hheard : (s.call place).isIgnored = false)
    (h : s.isTracked (s.ident place) = true) :
    ∃ count news, Sends (List.replicate count .update ++ s.movingOn new ++ news) s
        (s.stateChanged place old new) ∧ s.Forces place new news := by
  have hseat := ((touches_roster s (s.roster.erase s.ident (s.ident place))).trans
    (touches_seat _ place new)).trans (touches_updatePresence _)
  have htones := (hseat.trans (touches_updateFront _)).trans (touches_playChangeTones _ place old new)
  obtain ⟨count, hupdates⟩ := sends_updateFront (updatePresence
    (seat { s with roster := s.roster.erase s.ident (s.ident place) } place new))
  have hplayed := (hupdates.before (hseat.sends (by decide))).after
    ((touches_playChangeTones _ place old new).sends (by decide))
  rw [stateChanged, if_neg (by simp [hheard, h])]
  dsimp only
  generalize (updatePresence (seat { s with
    roster := s.roster.erase s.ident (s.ident place) } place new)).updateFront.playChangeTones place
      old new = u at htones hplayed ⊢
  -- what comes first leaves the mode alone, so it ends as the call found it
  have hsame := htones.movingOn (by decide) new
  have hended := hplayed.trans (sends_afterMove u new)
  have hleft := (touches_afterCarrierMode u new).trans (touches_leave _ place old)
  rw [hsame] at hended
  obtain ⟨news, hnews, hforces⟩ := sends_enter (leave (if u.carrierMode && new ≠ .ringing then
    u.endCarrierMode else u) place old) place new
  refine ⟨count, news, ?_, (htones.trans hleft).forces (by decide) hforces⟩
  exact ((hended.after ((touches_leave _ place old).sends (by decide))).trans hnews).after
    (sends_close _ _)

/-! ## Operations without a word -/

/-- The speaker and the earpiece are asked for only if the user wants them. -/
def Obeys (operation : Operation n) (news : List Route.Request) : Prop :=
  ∀ request ∈ news, request = .speaker ∨ request = .earpiece →
    operation.Requests request

theorem obeys_nil (operation : Operation n) : Obeys operation [] := by
  intro request hmem
  cases hmem

theorem obeys_single {request : Route.Request}
    (h : request = .speaker ∨ request = .earpiece → operation.Requests request) :
    Obeys operation [request] := by
  intro other hmem
  rw [List.mem_singleton.mp hmem]
  exact h

theorem sends_autoSpeaker (s : Switchboard n) :
    ∃ news, Sends news s s.autoSpeaker ∧ news ⊆ [.autoSpeaker] := by
  unfold autoSpeaker
  split
  · exact ⟨[], sends_refl s, List.nil_subset _⟩
  · exact ⟨_, sends_sendRoute s .autoSpeaker, List.Subset.refl _⟩

theorem obeys_autoSpeaker (h : first ⊆ [.autoSpeaker]) : Obeys operation first := by
  intro request hmem hloud
  rw [List.mem_singleton.mp (h hmem)] at hloud
  simp at hloud

theorem sends_setRoute (s : Switchboard n) {route : Route} {address : Option String}
    (h : operation.Requests (route.request address)) :
    ∃ news, Sends news s (s.setRoute route address) ∧ Obeys operation news := by
  unfold setRoute
  split
  next request hrequest =>
    rw [eq_of_requestFor? hrequest]
    exact ⟨_, sends_sendRoute s _, obeys_single fun _ => h⟩
  · exact ⟨_, sends_refl s, obeys_nil operation⟩

/-- What is not taken in asks for the speaker or the earpiece only if the user does. -/
theorem sends_of_refused (h : s.accepts operation = false) :
    ∃ news, Sends news s (s.perform operation).1 ∧ Obeys operation news := by
  have hsame : ∀ t, t = s → ∃ news, Sends news s t ∧ Obeys operation news := by
    rintro t rfl
    exact ⟨_, sends_refl t, obeys_nil operation⟩
  have hplain : ∀ request : Route.Request, ¬(request = .speaker ∨ request = .earpiece) →
      ∃ news, Sends news s (s.sendRoute request) ∧ Obeys operation news :=
    fun request hrequest => ⟨_, sends_sendRoute s request, obeys_single fun hloud =>
      absurd hloud hrequest⟩
  have hauto : ∃ news, Sends news s s.autoSpeaker ∧ Obeys operation news := by
    obtain ⟨news, hnews, hauto⟩ := sends_autoSpeaker s
    exact ⟨news, hnews, obeys_autoSpeaker hauto⟩
  cases operation with
  | added place => exact hsame _ (added_of_refused h)
  | removed place => exact hsame _ (removed_of_refused h)
  | stateChanged place old new => exact hsame _ (stateChanged_of_refused h)
  | conferenceChanged place => exact hsame _ (conferenceChanged_of_refused h)
  | moved place state =>
    have hrefused := (s.accepts_revise place (s.call place).state state).trans h
    refine ⟨[], ?_, obeys_nil _⟩
    show Sends [] s ((s.perform (.alerter (.revise place (.state state)))).1.stateChanged place
      (s.call place).state state)
    rw [stateChanged_of_refused hrefused]
    exact (touches_revise s place (.state state)).sends (by decide)
  | externalChanged place external =>
    cases external with
    | true =>
      have hleft := (accepts_of_word? (.left (s.ident place)) rfl).symm.trans h
      exact hsame _ (untrack_of_untracked hleft)
    | false =>
      have hjoined : s.accepts (.externalChanged place false) = !s.isTracked (s.ident place) :=
        accepts_of_word? (.joined (.of (s.call place) (s.call place).state)) rfl
      have htracked : s.track place = s := track_of_tracked (by simpa [hjoined] using h)
      show ∃ news, Sends news s (s.externalChanged place false) ∧ _
      rcases pull_of_tracked htracked with hpull | hpull
      · exact hsame _ hpull
      · rw [hpull]
        exact hplain .autoSpeaker (by simp)
  | answered place =>
    show ∃ news, Sends news s (s.answered place) ∧ _
    unfold answered
    split
    · have hquiet : ∀ t : Switchboard n, Sends [] t (t.quietUnlessOthersRing place) :=
        fun t => (touches_quietUnlessOthersRing t place).sends (by decide)
      split
      · exact ⟨_, hquiet s, obeys_nil _⟩
      · obtain ⟨news, hnews, hobeys⟩ := hplain .muteOff (by simp)
        exact ⟨news, hnews.after (hquiet _), hobeys⟩
    · exact hsame _ rfl
  | connectionChanged => exact hplain .update (by simp)
  | videoChanged place old new =>
    show ∃ news, Sends news s (s.videoChanged place old new) ∧ _
    unfold videoChanged
    split
    · exact hauto
    · exact hsame _ rfl
  | mute on =>
    refine hplain (if on && !s.inEmergency then .muteOn else .muteOff) ?_
    split <;> simp
  | toggleMute =>
    show ∃ news, Sends news s s.toggleMute ∧ _
    unfold toggleMute
    split
    · exact hsame _ rfl
    · exact hplain .toggleMute (by simp)
  | setRoute route address => exact sends_setRoute s (.setRoute route address)
  | setRouteNumber value address =>
    show ∃ news, Sends news s (s.setRouteNumber value address) ∧ _
    unfold setRouteNumber
    cases hroute : Route.ofNumber? value with
    | ok route =>
      obtain rfl := Route.number_of_ofNumber? hroute
      exact sends_setRoute s (.setRouteNumber route address)
    | error fault => exact hsame _ rfl
  | switchBaseline => exact hplain _ (by simp)
  | setFocus focus => exact hplain _ (by simp)
  | _ => exact ⟨[], (touches_perform s _).sends (by simp [Operation.parts]), obeys_nil _⟩

/-- The earpiece is open to the user even in an emergency. -/
theorem perform_of_earpiece {request : Route.Request} (h : operation.Requests request)
    (hearpiece : request = .earpiece) : (s.perform operation).1 = s.sendRoute request := by
  have hroute : ∀ (route : Route) (address : Option String), route.request address = .earpiece →
      s.setRoute route address = s.sendRoute (route.request address) := by
    intro route address hrequest
    cases route <;> first | rfl | cases hrequest
  cases h with
  | mute on => cases on <;> cases hearpiece
  | setRoute route address => exact hroute route address hearpiece
  | setRouteNumber route address =>
    show s.setRouteNumber route.number address = _
    rw [setRouteNumber, Route.ofNumber?_number]
    exact hroute route address hearpiece
  | _ => cases hearpiece

/-! ## When the earpiece is asked for -/

/-- Whether a word takes a call to another state than ringing. -/
def tellsOn : Ledger.Word → Bool
  | .moved entry => entry.state ≠ .ringing
  | _ => false

/-- Whether an operation has a word that takes a tracked call to another state than ringing. -/
def movesOn (s : Switchboard n) (operation : Operation n) : Bool :=
  (operation.word? s.alerter.calls).any fun word => s.takesIn word && tellsOn word

/-- The user asks for the earpiece, or a call moves on while the carrier mode is on for audio
and there is no device. -/
def Restores (s : Switchboard n) (operation : Operation n) : Prop :=
  operation.Requests .earpiece ∨
    s.movesOn operation = true ∧ s.registry.wiredOrBluetooth = false ∧
      s.modeFor audioMedia = true

theorem movesOn_of_word? {word : Ledger.Word} (h : operation.word? s.alerter.calls = some word) :
    s.movesOn operation = (s.takesIn word && tellsOn word) := by
  rw [movesOn, h]
  rfl

theorem movesOn_of_refused (h : s.accepts operation = false) : s.movesOn operation = false := by
  rw [accepts, Option.any_eq_false_iff_get] at h
  rw [movesOn, Option.any_eq_false_iff_get]
  intro hword
  simp [h hword]

/-- Who has a word about a call is not the user. -/
theorem not_requests_of_word? {calls : CallTable n} {word : Ledger.Word}
    (h : operation.word? calls = some word) (request : Route.Request) :
    ¬operation.Requests request := by
  intro hrequests
  cases hrequests <;> cases h

theorem not_restores_of_word? {word : Ledger.Word}
    (h : operation.word? s.alerter.calls = some word) (hword : tellsOn word = false) :
    ¬s.Restores operation := by
  rintro (hrequested | ⟨hmoves, -⟩)
  · exact not_requests_of_word? h _ hrequested
  · rw [movesOn_of_word? h, hword, Bool.and_false] at hmoves
    cases hmoves

theorem Forces.ne_earpiece {state : Call.State} (h : s.Forces place state first) :
    .earpiece ∉ first := by
  rcases h with rfl | ⟨rfl, -⟩ <;> simp

/-- Where a call joins, what is asked for first are updates, then perhaps the speaker. -/
theorem sends_of_joining (hsubject : operation.subject? = some place)
    (hword : operation.word? s.alerter.calls =
      some (.joined (.of (s.call place) (s.call place).state)))
    (hnew : s.isTracked (s.ident place) = false) :
    ∃ count news late, Sends (List.replicate count .update ++ news ++ late) s
        (s.perform operation).1 ∧ s.Forces place (s.call place).state news ∧
      late ⊆ [.autoSpeaker] := by
  obtain ⟨joined, hsubject', -, hperform⟩ := perform_of_joined hword
  obtain rfl : place = joined := Option.some.inj (hsubject.symm.trans hsubject')
  obtain ⟨count, news, hnews, hforces⟩ := sends_track hnew
  rcases hperform with hperform | hperform
  · rw [hperform]
    exact ⟨count, news, [], by rwa [List.append_nil], hforces, List.nil_subset _⟩
  · obtain ⟨late, hlate, hauto⟩ := sends_autoSpeaker (s.track place)
    rw [hperform]
    exact ⟨count, news, late, hnews.trans hlate, hforces, hauto⟩

/-- Where a call moves, the mode ends before the call may begin to ring. -/
theorem sends_of_moving {old new : Call.State} (hheard : (s.call place).isIgnored = false)
    (hold : s.isTracked (s.ident place) = true)
    (h : (s.perform operation).1 = (s.unheard operation).stateChanged place old new) :
    ∃ count news, Sends (List.replicate count .update ++ s.movingOn new ++ news) s
        (s.perform operation).1 ∧ s.Forces place new news := by
  have hunheard := touches_unheard s operation
  have hident : (s.unheard operation).ident = s.ident := hunheard.ident (by decide)
  have htracked : (s.unheard operation).isTracked ((s.unheard operation).ident place) = true := by
    rw [hunheard.isTracked (by decide) (by decide), hident, hold]
  obtain ⟨count, news, hnews, hforces⟩ := sends_stateChanged old new
    ((s.isIgnored_unheard operation place).trans hheard) htracked
  have hsame := hunheard.movingOn (by decide) new
  rw [hsame] at hnews
  rw [h]
  exact ⟨count, news, hnews.before (hunheard.sends (by decide)), hunheard.forces (by decide) hforces⟩

/-- What an operation asks the route layer for has the earpiece in it exactly if the user asks
for it or a call moves on while the carrier mode is on for audio. -/
theorem sends_perform (s : Switchboard n) (operation : Operation n) :
    ∃ news, Sends news s (s.perform operation).1 ∧ (.earpiece ∈ news ↔ s.Restores operation) := by
  cases deed_perform s operation with
  | nothing hrefused =>
    by_cases hrequested : operation.Requests .earpiece
    · rw [perform_of_earpiece hrequested rfl]
      exact ⟨_, sends_sendRoute s .earpiece, by simp [Restores, hrequested]⟩
    · obtain ⟨news, hnews, hobeys⟩ := sends_of_refused hrefused
      refine ⟨news, hnews, ?_⟩
      rw [Restores, movesOn_of_refused hrefused]
      have hsilent : .earpiece ∉ news := fun hmem => hrequested (hobeys .earpiece hmem (.inr rfl))
      simp [hsilent, hrequested]
  | joins place hsubject hword hnew _ =>
    obtain ⟨count, news, late, hsends, hforces, hauto⟩ := sends_of_joining hsubject hword hnew
    refine ⟨_, hsends, iff_of_false ?_ (not_restores_of_word? hword rfl)⟩
    have hlate : .earpiece ∉ late := fun hmem => by simpa using hauto hmem
    simp [hforces.ne_earpiece, hlate, List.mem_replicate]
  | leaves place hsubject hword hold h =>
    obtain ⟨count, hupdates⟩ := sends_untrack hold
    rw [h]
    refine ⟨_, hupdates, iff_of_false ?_ (not_restores_of_word? hword rfl)⟩
    simp [List.mem_replicate]
  | moves place old new hsubject hword hheard hold h _ =>
    obtain ⟨count, news, hsends, hforces⟩ := sends_of_moving hheard hold h
    refine ⟨_, hsends, ?_⟩
    have htaken : s.takesIn (.moved (.of (s.call place) new)) = true := hold
    have hmoves : s.movesOn operation = decide (new ≠ .ringing) := by
      rw [movesOn_of_word? hword, htaken, Bool.true_and]
      rfl
    rw [Restores, or_iff_right (not_requests_of_word? hword _), hmoves]
    simp [hforces.ne_earpiece, List.mem_replicate, mem_movingOn]

/-- In a run the earpiece is asked for exactly if some operation of it asks for it. -/
theorem sends_run (s : Switchboard n) (operations : List (Operation n)) :
    ∃ news, Sends news s (s.run operations) ∧ (.earpiece ∈ news ↔
      ∃ since change rest, operations = since ++ change :: rest ∧
        (s.run since).Restores change) := by
  induction operations generalizing s with
  | nil => exact ⟨[], sends_refl s, by simp⟩
  | cons operation rest ih =>
    obtain ⟨first, hfirst, hrestores⟩ := sends_perform s operation
    obtain ⟨later, hlater, hrest⟩ := ih (s.perform operation).1
    refine ⟨first ++ later, hfirst.trans hlater, ?_⟩
    rw [List.mem_append, hrestores, hrest]
    -- the earpiece is asked for by the first operation or by one of the rest
    constructor
    · rintro (hnow | ⟨since, change, after, rfl, hchange⟩)
      · exact ⟨[], operation, rest, rfl, hnow⟩
      · exact ⟨operation :: since, change, after, rfl, hchange⟩
    · rintro ⟨since, change, after, hsplit, hchange⟩
      rcases since with - | ⟨head, since⟩
      · obtain ⟨rfl, rfl⟩ := List.cons.inj hsplit
        exact .inl hchange
      · obtain ⟨rfl, rfl⟩ := List.cons.inj hsplit
        exact .inr ⟨since, change, after, rfl, hchange⟩

/-! ## The call for which the speaker came on -/

theorem Sends.drop (h : Sends first s t) : t.requests.drop s.requests.length = first := by
  rw [h, List.drop_left]

theorem Forces.of_speaker {state : Call.State} (h : s.Forces place state first)
    (hmem : .speaker ∈ first) :
    first = [.speaker] ∧ state.isRinging = true ∧ (s.call place).carrierRing = true := by
  rcases h with rfl | hloud
  · cases hmem
  · exact hloud

theorem speaker_notMem_movingOn (s : Switchboard n) (new : Call.State) :
    .speaker ∉ s.movingOn new := by
  unfold movingOn restoring
  split
  · split <;> simp
  · simp

/-- Where a word about a call puts it on the speaker, the call begins to ring by the carrier,
and nothing that could undo it is asked for by the same word any more. -/
theorem rings_of_speaker (hsubject : operation.subject? = some place)
    (hspeaker : .speaker ∈ (s.perform operation).1.requests.drop s.requests.length)
    (wanted : Option Video → Bool) :
    ∃ head late, (s.perform operation).1.requests = head ++ .speaker :: late ∧
      s.requests.length ≤ head.length ∧ .earpiece ∉ late ∧
      s.rulingOf? (s.ringsFor wanted) operation =
        some (wanted (some (s.call place).ringMedia)) := by
  have hrings : (s.call place).carrierRing = true →
      s.ringsFor wanted place = wanted (some (s.call place).ringMedia) := by
    intro hcarrier
    rw [ringsFor, hcarrier, Bool.true_and]
  cases deed_perform s operation with
  | nothing hrefused =>
    obtain ⟨news, hsends, hobeys⟩ := sends_of_refused hrefused
    rw [hsends.drop] at hspeaker
    have hrequested := hobeys .speaker hspeaker (.inl rfl)
    cases operation <;> first | cases hrequested | cases hsubject
  | joins joined hsubject' hword hnew _ =>
    obtain rfl : place = joined := Option.some.inj (hsubject.symm.trans hsubject')
    obtain ⟨count, news, late, hsends, hforces, hauto⟩ := sends_of_joining hsubject hword hnew
    rw [hsends.drop] at hspeaker
    have hlate : ∀ request, request ≠ .autoSpeaker → request ∉ late :=
      fun request hne hmem => hne (List.mem_singleton.mp (hauto hmem))
    have hmem : .speaker ∈ news := by
      simpa [List.mem_replicate, hlate .speaker (by simp)] using hspeaker
    obtain ⟨rfl, hstate, hcarrier⟩ := hforces.of_speaker hmem
    refine ⟨s.requests ++ List.replicate count .update, late, ?_, by simp,
      hlate .earpiece (by simp), ?_⟩
    · rw [hsends]
      simp
    · rw [rulingOf?_of_joining hsubject hword hnew, if_pos hstate, hrings hcarrier]
  | leaves left hsubject' hword hold h =>
    obtain ⟨count, hsends⟩ := sends_untrack hold
    rw [h, hsends.drop] at hspeaker
    simp [List.mem_replicate] at hspeaker
  | moves moved old new hsubject' hword hheard hold h _ =>
    obtain rfl : place = moved := Option.some.inj (hsubject.symm.trans hsubject')
    obtain ⟨count, news, hsends, hforces⟩ := sends_of_moving hheard hold h
    rw [hsends.drop] at hspeaker
    have hmem : .speaker ∈ news := by
      simpa [List.mem_replicate, s.speaker_notMem_movingOn new] using hspeaker
    obtain ⟨rfl, hstate, hcarrier⟩ := hforces.of_speaker hmem
    refine ⟨s.requests ++ List.replicate count .update ++ s.movingOn new, [], ?_, by simp, by simp,
      ?_⟩
    · rw [hsends]
      simp
    · rw [rulingOf?_eq hsubject hword hold, hrings hcarrier, ruledBy]
      show some (new.isRinging && _) = _
      rw [hstate, Bool.true_and]

/-- In every run of an idle switchboard, when a word about a call that was placed without
video puts it on the speaker: after this request the earpiece is asked for exactly if the user
does so, or a call moves on to another state than ringing, with no device there, when the last
call since then that began to ring, or changed its state, began to ring by the carrier and
without video, or there was none. -/
theorem run_earpiece_restored_iff (calls : CallTable n) (profile : DeviceProfile)
    (settings : Settings) (surroundings : Surroundings) (timed : Bool) (registry : Registry)
    (desks : Option Desks) (before : List (Operation n)) (entry : Operation n) (place : Fin n)
    (after : List (Operation n)) :
    let start := idle calls profile settings surroundings timed registry desks
    let s := start.run before
    let t := (s.perform entry).1
    entry.subject? = some place → (s.call place).ringMedia = .audioOnly →
    .speaker ∈ t.requests.drop s.requests.length →
    ∃ head tail, (t.run after).requests = head ++ .speaker :: tail ∧
      s.requests.length ≤ head.length ∧ head.length < t.requests.length ∧
      (.earpiece ∈ tail ↔ ∃ since change rest, after = since ++ change :: rest ∧
        (change.Requests .earpiece ∨
          (t.run since).movesOn change = true ∧
            (t.run since).registry.wiredOrBluetooth = false ∧
            (t.rulingsFor audioMedia since).getLast?.getD true = true)) := by
  intro start s t hsubject hmedia hspeaker
  obtain ⟨head, late, hrequests, hlength, hlate, hruling⟩ :=
    rings_of_speaker hsubject hspeaker audioMedia
  -- the word that asked for the speaker has put the mode on for audio
  have hon : t.modeFor audioMedia = true := by
    rw [modeFor_perform, hruling, hmedia]
    rfl
  have hmode : ∀ since, (t.run since).modeFor audioMedia =
      (t.rulingsFor audioMedia since).getLast?.getD true :=
    fun since => hon ▸ modeFor_run audioMedia t since
  obtain ⟨news, hnews, hrestores⟩ := sends_run t after
  refine ⟨head, late ++ news, ?_, hlength, ?_, ?_⟩
  · rw [hnews, hrequests]
    simp
  · rw [hrequests]
    simp
  · rw [List.mem_append, or_iff_right hlate, hrestores]
    simp only [Restores, hmode]

/-- A carrier ring call rings on the speaker and is answered while an ordinary call is on hold:
the audio goes back to the ear. -/
theorem earpiece_after_answered_carrier_ring :
    let call (id : Nat) (state : Call.State) (byCarrier : Bool) : Call :=
      { state := state, carrierRing := byCarrier, id := .ofNat id, log := .empty 64 }
    let start := idle (n := 2) ⟨#v[call 1 .ringing true, call 2 .onHold false]⟩ {} {} {} false {} none
    let t := ((start.run [.added 1]).perform (.added 0)).1
    (start.run [.added 1]).inEmergency = false ∧
      ∃ head tail, (t.run [.moved 0 .active]).requests = head ++ .speaker :: tail ∧
        .earpiece ∈ tail := by
  intro call start t
  obtain ⟨head, tail, hrequests, -, -, hearpiece⟩ := run_earpiece_restored_iff
    ⟨#v[call 1 .ringing true, call 2 .onHold false]⟩ {} {} {} false {} none [.added 1] (.added 0) 0
    [.moved 0 .active] rfl (by decide) (by decide)
  refine ⟨by decide, head, tail, hrequests,
    hearpiece.mpr ⟨[], .moved 0 .active, [], rfl, .inr ⟨?_, ?_, rfl⟩⟩⟩
  · decide
  · decide

/-- A carrier ring call rings on the speaker, an ordinary call begins to ring, too, and the
first one is answered: the speaker stays on. -/
theorem earpiece_missing_after_second_ring :
    let call (id : Nat) (byCarrier : Bool) : Call :=
      { state := .ringing, carrierRing := byCarrier, id := .ofNat id, log := .empty 64 }
    let start := idle (n := 2) ⟨#v[call 1 true, call 2 false]⟩ {} {} {} false {} none
    let t := start.run [.added 0, .added 1, .moved 0 .active]
    start.Prompt [.added 0, .added 1, .moved 0 .active] ∧ t.inEmergency = false ∧
      t.registry.wiredOrBluetooth = false ∧ (t.call 0).ringMedia = .audioOnly ∧
      (start.run [.added 0]).requests = [.update, .speaker] ∧ (t.call 0).state = .active ∧
      t.requests = [.update, .speaker] := by
  decide

end PhoneAudio.Switchboard
