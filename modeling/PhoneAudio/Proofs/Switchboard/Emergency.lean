import PhoneAudio.Proofs.Switchboard.Frame

/-!
# Emergency calls

While an emergency call is tracked the user stays unmuted and the audio stays at
the ear: no operation asks the route layer for anything else, whether the call is
tracked before the operation or only after it. Each request is sent by a step of
its own, and what has to be known of that step is only that it sees the emergency;
so the argument is about a fixed flag that is up for the whole of an operation
(`Asks`), and the one place where the order of the steps matters is the moment
from which a new call counts (`asks_track`).

Without an emergency call every request of the user is passed on as it is.
-/

namespace PhoneAudio

/-- The requests that could keep the other side from hearing the user, or the user from
hearing it at the ear. -/
def Route.Request.isGuarded : Route.Request → Bool
  | .muteOn => true
  | .toggleMute => true
  | .bluetooth _ => true
  | .speaker => true
  | .headset => true
  | .autoSpeaker => true
  | .baseline includeBluetooth => includeBluetooth
  | .update => false
  | .earpiece => false
  | .muteOff => false
  | .focus _ => false

/-- The request that switches to a route. -/
def Route.request (route : Route) (address : Option String) : Route.Request :=
  match route with
  | .bluetooth => .bluetooth address
  | .speaker => .speaker
  | .wiredHeadset => .headset
  | .earpiece => .earpiece
  | .wiredOrEarpiece => .baseline false

namespace Switchboard

variable {n : Nat}

/-! ## Emergencies come and go with the tracked calls -/

theorem inEmergency_eq_true_iff (s : Switchboard n) :
    s.inEmergency = true ↔ ∃ place ∈ s.tracked, (s.call place).emergency = true :=
  List.any_eq_true

theorem inEmergency_eq_false_iff (s : Switchboard n) :
    s.inEmergency = false ↔ ∀ place ∈ s.tracked, (s.call place).emergency = false := by
  simp only [inEmergency, List.any_eq_false, Bool.not_eq_true]

/-- A call that is tracked still, or by now, counts as it did. -/
theorem Touches.inEmergency_of_subset {parts : List Part} {s t : Switchboard n}
    (h : Touches parts s t) (hparts : Part.natures ∉ parts) (hsub : s.tracked ⊆ t.tracked)
    (hs : s.inEmergency = true) : t.inEmergency = true := by
  obtain ⟨place, hmem, hemergency⟩ := s.inEmergency_eq_true_iff.mp hs
  have hsame : (t.call place).emergency = (s.call place).emergency :=
    congrArg Call.Nature.emergency (h.natures hparts place)
  exact t.inEmergency_eq_true_iff.mpr ⟨place, hsub hmem, hsame.trans hemergency⟩

theorem Touches.inEmergency_of_tracked {parts : List Part} {s t : Switchboard n}
    (h : Touches parts s t) (hnatures : Part.natures ∉ parts) (hsame : t.tracked = s.tracked) :
    t.inEmergency = s.inEmergency := by
  have hcalls : ∀ place, (t.call place).emergency = (s.call place).emergency :=
    fun place => congrArg Call.Nature.emergency (h.natures hnatures place)
  simp only [Switchboard.inEmergency, hsame, hcalls]

theorem Touches.inEmergency {parts : List Part} {s t : Switchboard n} (h : Touches parts s t)
    (hnatures : Part.natures ∉ parts) (htracked : Part.tracked ∉ parts) :
    t.inEmergency = s.inEmergency :=
  h.inEmergency_of_tracked hnatures (h.keeps .tracked htracked)

/-! ## Steps that ask -/

/-- From `s` to `t` some requests were sent, and if the flag is up none of them is a
guarded one. -/
def Asks (emergency : Bool) (s t : Switchboard n) : Prop :=
  ∃ news, t.requests = s.requests ++ news ∧
    (emergency = true → ∀ request ∈ news, request.isGuarded = false)

variable {emergency : Bool}

theorem Asks.trans {s t u : Switchboard n} (hst : Asks emergency s t) (htu : Asks emergency t u) :
    Asks emergency s u := by
  obtain ⟨first, hfirst, hguarded⟩ := hst
  obtain ⟨second, hsecond, hguarded'⟩ := htu
  refine ⟨first ++ second, ?_, ?_⟩
  · rw [hsecond, hfirst, List.append_assoc]
  · intro h request hmem
    rcases List.mem_append.mp hmem with hmem | hmem
    · exact hguarded h request hmem
    · exact hguarded' h request hmem

/-- Who says nothing to the route layer asks for nothing. -/
theorem Touches.asks {parts : List Part} {s t : Switchboard n} (h : Touches parts s t)
    (hparts : Part.told .route ∉ parts) : Asks emergency s t :=
  ⟨[], by rw [List.append_nil, h.requests hparts], by simp⟩

theorem asks_refl (s : Switchboard n) : Asks emergency s s :=
  (Touches.refl [] s).asks (by decide)

theorem asks_sendRoute (s : Switchboard n) {request : Route.Request}
    (h : emergency = true → request.isGuarded = false) :
    Asks emergency s (s.sendRoute request) := by
  refine ⟨[request], requests_sendRoute s request, ?_⟩
  intro hflag other hmem
  rw [List.mem_singleton.mp hmem]
  exact h hflag

/-- In an emergency muting turns into unmuting. -/
theorem asks_mute (s : Switchboard n) (on : Bool)
    (h : emergency = true → s.inEmergency = true) : Asks emergency s (s.mute on) := by
  refine asks_sendRoute s fun hflag => ?_
  rw [h hflag]
  cases on <;> rfl

theorem asks_toggleMute (s : Switchboard n)
    (h : emergency = true → s.inEmergency = true) : Asks emergency s s.toggleMute := by
  unfold toggleMute
  split
  · exact asks_refl s
  next hsafe => exact asks_sendRoute s fun hflag => absurd (h hflag) hsafe

theorem asks_autoSpeaker (s : Switchboard n)
    (h : emergency = true → s.inEmergency = true) : Asks emergency s s.autoSpeaker := by
  unfold autoSpeaker
  split
  · exact asks_refl s
  next hsafe => exact asks_sendRoute s fun hflag => absurd (h hflag) hsafe

/-- The routes that are open in an emergency are not guarded. -/
theorem isGuarded_of_requestFor? {route : Route} {address : Option String}
    {request : Route.Request} (h : requestFor? true route address = some request) :
    request.isGuarded = false := by
  cases route <;> simp [requestFor?] at h <;> subst h <;> rfl

theorem asks_setRoute (s : Switchboard n) (route : Route) (address : Option String)
    (h : emergency = true → s.inEmergency = true) :
    Asks emergency s (s.setRoute route address) := by
  unfold setRoute
  split
  next request hrequest =>
    refine asks_sendRoute s fun hflag => ?_
    rw [h hflag] at hrequest
    exact isGuarded_of_requestFor? hrequest
  · exact asks_refl s

theorem asks_setRouteNumber (s : Switchboard n) (value : Int) (address : Option String)
    (h : emergency = true → s.inEmergency = true) :
    Asks emergency s (s.setRouteNumber value address) := by
  unfold setRouteNumber
  split
  · exact asks_setRoute s _ _ h
  · exact asks_refl s

theorem asks_switchBaseline (s : Switchboard n)
    (h : emergency = true → s.inEmergency = true) : Asks emergency s s.switchBaseline := by
  refine asks_sendRoute s fun hflag => ?_
  rw [h hflag]
  rfl

/-! ## The life of a call -/

theorem asks_updateFront (s : Switchboard n) : Asks emergency s s.updateFront := by
  unfold updateFront
  dsimp only
  split
  · exact (touches_front s _).asks (by decide)
  · refine Asks.trans ?_ ((touches_adjustHoldTone _).asks (by decide))
    refine Asks.trans ?_ ((touches_frontChanged _ _ _).asks (by decide))
    exact Asks.trans ((touches_front s _).asks (by decide)) (asks_sendRoute _ fun _ => rfl)

/-- The end of a carrier ring takes the audio back to the ear, emergency or not. -/
theorem asks_endCarrierMode (s : Switchboard n) : Asks emergency s s.endCarrierMode := by
  have hmode : Asks emergency s { s with carrierMode := false } :=
    (touches_carrierMode s false).asks (by decide)
  unfold endCarrierMode
  dsimp only
  split
  · refine Asks.trans ?_ ((touches_carrierMedia _ none).asks (by decide))
    exact hmode.trans (asks_sendRoute _ fun _ => rfl)
  · exact hmode.trans ((touches_carrierMedia _ none).asks (by decide))

theorem asks_afterCarrierMode (s : Switchboard n) (new : Call.State) :
    Asks emergency s (if s.carrierMode && new ≠ .ringing then s.endCarrierMode else s) := by
  split
  · exact asks_endCarrierMode s
  · exact asks_refl s

theorem asks_enter (s : Switchboard n) (place : Fin n) (state : Call.State)
    (h : emergency = true → s.inEmergency = true) : Asks emergency s (s.enter place state) := by
  have hringing : Asks emergency s (s.enterRinging place) := by
    have hmode := (touches_carrierMode s (s.call place).carrierRing).trans
      (touches_carrierMedia _ (some (s.call place).ringMedia))
    unfold enterRinging
    dsimp only
    split
    · refine (hmode.asks (by decide)).trans (asks_setRoute _ _ _ ?_)
      intro hflag
      exact (hmode.inEmergency (by decide) (by decide)).trans (h hflag)
    · exact hmode.asks (by decide)
  unfold enter
  split
  · exact hringing
  · exact hringing
  · split
    · exact (touches_send s (.startRingback place)).asks (by simp [Effect.channel])
    · exact asks_refl s
  · exact asks_refl s

/-- The crossings and the hold tone ask for nothing. -/
theorem asks_close (s : Switchboard n) (before : Headcount) :
    Asks emergency s (s.tellCrossings before).adjustHoldTone :=
  ((touches_tellCrossings s before).trans (touches_adjustHoldTone _)).asks (by decide)

theorem inEmergency_close (s : Switchboard n) (before : Headcount) :
    (s.tellCrossings before).adjustHoldTone.inEmergency = s.inEmergency :=
  ((touches_tellCrossings s before).trans (touches_adjustHoldTone _)).inEmergency
    (by decide) (by decide)

/-- A further tracked call ends no emergency. -/
theorem inEmergency_track {s : Switchboard n} {place : Fin n} (hs : s.inEmergency = true) :
    (s.track place).inEmergency = true := by
  cases h : s.isTracked (s.ident place) with
  | true =>
    rw [track_of_tracked h]
    exact hs
  | false =>
    obtain ⟨t, ht, -, htracked, heq⟩ := track_eq h
    rw [heq, inEmergency_close]
    refine ht.inEmergency_of_subset (by decide) ?_ hs
    rw [htracked]
    exact List.subset_append_left _ _

/-- A change of state begins and ends no emergency. -/
theorem inEmergency_stateChanged (s : Switchboard n) (place : Fin n) (old new : Call.State) :
    (s.stateChanged place old new).inEmergency = s.inEmergency := by
  by_cases h : (s.call place).isIgnored = true ∨ s.isTracked (s.ident place) = false
  · rw [stateChanged_of_ignored old new h]
  · simp only [not_or, Bool.not_eq_true, Bool.not_eq_false] at h
    obtain ⟨t, ht, -, htracked, heq⟩ := stateChanged_eq old new h.1 h.2
    rw [heq, inEmergency_close]
    exact ht.inEmergency_of_tracked (by decide) htracked

/-- The call in front is chosen before the new call counts, and asks for nothing that is
guarded; the call enters its state after that. -/
theorem asks_track (s : Switchboard n) (place : Fin n)
    (h : emergency = true → s.inEmergency = true ∨ (s.track place).inEmergency = true) :
    Asks emergency s (s.track place) := by
  replace h : emergency = true → (s.track place).inEmergency = true :=
    fun hflag => (h hflag).elim inEmergency_track id
  cases htracked : s.isTracked (s.ident place) with
  | true =>
    rw [track_of_tracked htracked]
    exact asks_refl s
  | false =>
    have hfront : Asks emergency s (s.seat place (s.call place).state).updateFront :=
      ((touches_seat s place _).asks (by decide)).trans (asks_updateFront _)
    rw [track, if_neg (by simp [htracked])] at h ⊢
    dsimp only at h ⊢
    generalize (s.seat place (s.call place).state).updateFront = t at hfront h ⊢
    have hjoin : Asks emergency t (updatePresence { t with tracked := t.tracked ++ [place] }) :=
      ((touches_tracked t _).trans (touches_updatePresence _)).asks (by decide)
    generalize updatePresence { t with tracked := t.tracked ++ [place] } = u at hjoin h ⊢
    have hclose := ((touches_enter u place (s.call place).state).trans
      (touches_tellCrossings _ s.roster.headcount)).trans (touches_adjustHoldTone _)
    have hcounts : emergency = true → u.inEmergency = true :=
      fun hflag => (hclose.inEmergency (by decide) (by decide)).symm.trans (h hflag)
    exact (hfront.trans hjoin).trans ((asks_enter u place _ hcounts).trans (asks_close _ _))

/-- A call that leaves asks for nothing that is guarded. -/
theorem asks_untrack (s : Switchboard n) (place : Fin n) :
    Asks emergency s (s.untrack place) := by
  cases htracked : s.isTracked (s.ident place) with
  | false =>
    rw [untrack_of_untracked htracked]
    exact asks_refl s
  | true =>
    have hfront : Asks emergency s
        (updateFront { s with roster := s.roster.erase s.ident (s.ident place) }) :=
      ((touches_roster s _).asks (by decide)).trans (asks_updateFront _)
    rw [untrack]
    dsimp only
    rw [if_pos htracked]
    refine hfront.trans (Asks.trans ?_ (asks_close _ _))
    exact (((touches_tracked _ _).trans (touches_updatePresence _)).trans
      (touches_leave _ _ _)).asks (by decide)

theorem asks_added (s : Switchboard n) (place : Fin n)
    (h : emergency = true → s.inEmergency = true ∨ (s.added place).inEmergency = true) :
    Asks emergency s (s.added place) := by
  unfold added at h ⊢
  split
  · exact asks_refl s
  next hheard =>
    rw [if_neg hheard] at h
    exact asks_track s place h

theorem asks_removed (s : Switchboard n) (place : Fin n) :
    Asks emergency s (s.removed place) := by
  unfold removed
  split
  · exact asks_refl s
  · exact asks_untrack s place

theorem asks_stateChanged (s : Switchboard n) (place : Fin n) (old new : Call.State)
    (h : emergency = true → s.inEmergency = true) :
    Asks emergency s (s.stateChanged place old new) := by
  unfold stateChanged
  split
  · exact asks_refl s
  · dsimp only
    have hseat := ((touches_roster s (s.roster.erase s.ident (s.ident place))).trans
      (touches_seat _ place new)).trans (touches_updatePresence _)
    have htones := (hseat.trans (touches_updateFront _)).trans
      (touches_playChangeTones _ place old new)
    have hasks : Asks emergency s _ := ((hseat.asks (by decide)).trans (asks_updateFront _)).trans
      ((touches_playChangeTones _ place old new).asks (by decide))
    generalize (seat { s with roster := s.roster.erase s.ident (s.ident place) } place
      new).updatePresence.updateFront.playChangeTones place old new = t at htones hasks ⊢
    have hcarrier : Asks emergency t _ := asks_afterCarrierMode t new
    have hparts := touches_afterCarrierMode t new
    generalize (if t.carrierMode && new ≠ .ringing then t.endCarrierMode else t) = u
      at hcarrier hparts ⊢
    -- the tracked calls are the same throughout, so the emergency is seen at the end as well
    have hleave := (htones.trans hparts).trans (touches_leave u place old)
    have hcounts : emergency = true → (u.leave place old).inEmergency = true :=
      fun hflag => (hleave.inEmergency (by decide) (by decide)).trans (h hflag)
    have hleft : Asks emergency s (u.leave place old) :=
      (hasks.trans hcarrier).trans ((touches_leave u place old).asks (by decide))
    exact (hleft.trans (asks_enter _ place new hcounts)).trans (asks_close _ _)

theorem asks_externalChanged (s : Switchboard n) (place : Fin n) (external : Bool)
    (h : emergency = true →
      s.inEmergency = true ∨ (s.externalChanged place external).inEmergency = true) :
    Asks emergency s (s.externalChanged place external) := by
  cases external with
  | true => exact asks_untrack s place
  | false =>
    unfold externalChanged at h ⊢
    rw [if_neg (by simp)] at h ⊢
    dsimp only at h ⊢
    split
    next hpull =>
      rw [if_pos hpull] at h
      have hsame := (touches_autoSpeaker (s.track place)).inEmergency (by decide) (by decide)
      rw [hsame] at h
      refine (asks_track s place h).trans (asks_autoSpeaker _ fun hflag => ?_)
      exact (h hflag).elim inEmergency_track id
    next hpull =>
      rw [if_neg hpull] at h
      exact asks_track s place h

theorem asks_conferenceChanged (s : Switchboard n) (place : Fin n)
    (h : emergency = true →
      s.inEmergency = true ∨ (s.conferenceChanged place).inEmergency = true) :
    Asks emergency s (s.conferenceChanged place) := by
  unfold conferenceChanged at h ⊢
  split
  next hparent =>
    rw [if_pos hparent] at h
    exact asks_added s place h
  · exact asks_untrack s place

/-- An answer unmutes, unless the call is handed over. -/
theorem asks_answered (s : Switchboard n) (place : Fin n) :
    Asks emergency s (s.answered place) := by
  have hmute : Asks emergency s (if (s.call place).handover then s else s.mute false) := by
    split
    · exact asks_refl s
    · exact asks_sendRoute s fun _ => rfl
  unfold answered
  split
  · exact hmute.trans ((touches_quietUnlessOthersRing _ place).asks (by decide))
  · exact asks_refl s

theorem asks_videoChanged (s : Switchboard n) (place : Fin n) (old new : Video)
    (h : emergency = true → s.inEmergency = true) :
    Asks emergency s (s.videoChanged place old new) := by
  unfold videoChanged
  split
  · exact asks_autoSpeaker s h
  · exact asks_refl s

/-! ## Every operation -/

/-- The flag of an operation may be up because of the state before it or of the state
after it. What the operation asks for is not guarded either way. -/
theorem asks_perform (s : Switchboard n) (operation : Operation n)
    (h : emergency = true →
      s.inEmergency = true ∨ (s.perform operation).1.inEmergency = true) :
    Asks emergency s (s.perform operation).1 := by
  -- where the tracked calls stay, the state before the operation decides
  have hbefore : Part.tracked ∉ operation.parts → emergency = true → s.inEmergency = true := by
    intro htracked hflag
    have hsame := (touches_perform s operation).inEmergency (natures_notMem_parts operation)
      htracked
    exact (h hflag).elim id fun hafter => hsame.symm.trans hafter
  cases operation with
  | added place => exact asks_added s place h
  | removed place => exact asks_removed s place
  | moved place state =>
    have hrevise := touches_revise s place (.state state)
    have hsame := hrevise.inEmergency (by decide) (by decide)
    refine (hrevise.asks (by decide)).trans (asks_stateChanged _ place _ state fun hflag => ?_)
    rcases h hflag with hs | ht
    · exact hsame.trans hs
    · exact (inEmergency_stateChanged _ place _ state).symm.trans ht
  | stateChanged place old new =>
    refine asks_stateChanged s place old new fun hflag => ?_
    exact (h hflag).elim id fun ht => (inEmergency_stateChanged s place old new).symm.trans ht
  | externalChanged place external => exact asks_externalChanged s place external h
  | conferenceChanged place => exact asks_conferenceChanged s place h
  | answered place => exact asks_answered s place
  | connectionChanged => exact asks_sendRoute s fun _ => rfl
  | videoChanged place old new =>
    exact asks_videoChanged s place old new (hbefore (by simp [Operation.parts]))
  | mute on => exact asks_mute s on (hbefore (by simp [Operation.parts]))
  | toggleMute => exact asks_toggleMute s (hbefore (by simp [Operation.parts]))
  | setRoute route address =>
    exact asks_setRoute s route address (hbefore (by simp [Operation.parts]))
  | setRouteNumber value address =>
    exact asks_setRouteNumber s value address (hbefore (by simp [Operation.parts]))
  | switchBaseline => exact asks_switchBaseline s (hbefore (by simp [Operation.parts]))
  | setFocus focus => exact asks_sendRoute s fun _ => rfl
  | _ => exact (touches_perform s _).asks (by simp [Operation.parts])

/-- What the user asks the route layer for by an operation. A route may be named or be given
by its number. -/
inductive Operation.Requests : Operation n → Route.Request → Prop
  | mute (on : Bool) : Requests (.mute on) (if on then .muteOn else .muteOff)
  | toggleMute : Requests .toggleMute .toggleMute
  | setRoute (route : Route) (address : Option String) :
    Requests (.setRoute route address) (route.request address)
  | setRouteNumber (route : Route) (address : Option String) :
    Requests (.setRouteNumber route.number address) (route.request address)
  | switchBaseline : Requests .switchBaseline (.baseline true)

theorem setRoute_of_safe {s : Switchboard n} (hs : s.inEmergency = false) (route : Route)
    (address : Option String) : s.setRoute route address = s.sendRoute (route.request address) := by
  rw [setRoute, hs]
  cases route <;> rfl

/-- Without an emergency call each request of the user is passed on, and nothing else is
done. -/
theorem perform_of_safe {s : Switchboard n} (hs : s.inEmergency = false) {operation : Operation n}
    {request : Route.Request} (h : operation.Requests request) :
    (s.perform operation).1 = s.sendRoute request := by
  cases h with
  | mute on =>
    show s.mute on = _
    rw [mute, hs]
    cases on <;> rfl
  | toggleMute => exact if_neg (by simp [hs])
  | setRoute route address => exact setRoute_of_safe hs route address
  | setRouteNumber route address =>
    show s.setRouteNumber route.number address = _
    rw [setRouteNumber, Route.ofNumber?_number]
    exact setRoute_of_safe hs route address
  | switchBaseline =>
    show s.switchBaseline = _
    rw [switchBaseline, hs]
    rfl

/-- No operation asks the route layer for anything guarded if an emergency call is tracked
before it or after it. If none is tracked, a request of the user is passed on as it is,
and that is all that is sent. -/
theorem perform_guards_emergency (s : Switchboard n) (operation : Operation n) :
    let t := (s.perform operation).1
    (∃ news, t.requests = s.requests ++ news ∧
      ((∃ place ∈ s.tracked, (s.call place).emergency = true) ∨
        (∃ place ∈ t.tracked, (t.call place).emergency = true) →
        ∀ request ∈ news, request.isGuarded = false)) ∧
    ((∀ place ∈ s.tracked, (s.call place).emergency = false) →
      ∀ request, operation.Requests request →
        t = s.sendRoute request ∧ t.sent = s.sent ++ [.route request]) := by
  intro t
  rw [← inEmergency_eq_true_iff, ← inEmergency_eq_true_iff, ← inEmergency_eq_false_iff]
  constructor
  · have hasks : Asks (s.inEmergency || t.inEmergency) s t :=
      asks_perform s operation fun h => by simpa using h
    obtain ⟨news, hrequests, hguarded⟩ := hasks
    exact ⟨news, hrequests, fun h => hguarded (by simpa using h)⟩
  · intro hs request hrequested
    have hsame : t = s.sendRoute request := perform_of_safe hs hrequested
    exact ⟨hsame, congrArg Switchboard.sent hsame⟩

end Switchboard

end PhoneAudio
