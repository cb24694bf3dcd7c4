import PhoneAudio.Proofs.Alerter.Rest
import PhoneAudio.Proofs.Switchboard.Aside
import PhoneAudio.Proofs.Switchboard.Refinement

/-!
# Answering and rejecting beside other rings

That a call is answered or rejected is told before its state changes, so the call may
still be in the ringing group itself. Whether another one rings is read off the shape of
the group: with two members there is another one, and with one member it is the given
call or another one. This is right because no identity is listed twice, which holds after
every run (`Refines.run`).

If no other call rings, the switchboard falls quiet and its alerter comes to rest. From
then on the motor is not told to vibrate until something asks for it again, no matter what
the ringtone player tells, how much time goes by, and what else becomes of the calls
(`rests_run`).
-/

namespace PhoneAudio.Switchboard

variable {n : Nat}

/-! ## Steps that vibrate nothing at rest -/

def Effect.effectFor? (usage : Vibration.Usage) : Effect n → Option Vibration.Effect
  | .alerter command => command.effectFor? usage
  | _ => none

/-- The effects of one kind that the motor was told to play, oldest first. -/
def effectsFor (s : Switchboard n) (usage : Vibration.Usage) : List Vibration.Effect :=
  (s.told .alerter).filterMap (Effect.effectFor? usage)

/-- If the alerter is at rest, the step begins no vibration and leaves it at rest. -/
def Rests (s t : Switchboard n) : Prop :=
  s.alerter.AtRest → t.alerter.AtRest ∧ t.effectsFor = s.effectsFor

/-- Whether an operation may have the motor vibrate even if the alerter is at rest. -/
def Operation.asksToVibrate : Operation n → Bool
  | .startRinging => true
  | .startWaiting _ => true
  | .alerter operation => operation.asksToVibrate
  | _ => false

theorem Rests.refl (s : Switchboard n) : Rests s s := fun hs => ⟨hs, rfl⟩

theorem Rests.trans {s t u : Switchboard n} (h₁ : Rests s t) (h₂ : Rests t u) : Rests s u := by
  intro hs
  obtain ⟨ht, hst⟩ := h₁ hs
  obtain ⟨hu, htu⟩ := h₂ ht
  exact ⟨hu, htu.trans hst⟩

/-- A step that does not let the alerter work. -/
theorem Touches.rests {parts : List Part} {s t : Switchboard n} (h : Touches parts s t)
    (hparts : ∀ part ∈ alerterParts, part ∉ parts) : Rests s t := by
  have halerter : t.alerter = s.alerter := h.keeps .alerter (hparts _ (by simp))
  have htold : t.told .alerter = s.told .alerter :=
    h.keeps (.told .alerter) (hparts _ (by simp))
  intro hs
  refine ⟨halerter ▸ hs, funext fun usage => ?_⟩
  rw [effectsFor, htold, effectsFor]

theorem effectsFor_onAlerter {β : Type} (s : Switchboard n) (act : Alerter n → Alerter n × β)
    (usage : Vibration.Usage) :
    (s.onAlerter act).1.effectsFor usage =
      s.effectsFor usage ++ (act { s.alerter with sent := [] }).1.effectsFor usage :=
  s.filterMap_onAlerter act fun _ => rfl

theorem rests_onAlerter {β : Type} (s : Switchboard n) {act : Alerter n → Alerter n × β}
    (hact : ∀ alerter, Alerter.Rests alerter (act alerter).1) : Rests s (s.onAlerter act).1 := by
  intro hs
  obtain ⟨hrest, heffects⟩ := hact { s.alerter with sent := [] } ⟨hs.wait, hs.running⟩
  refine ⟨⟨hrest.wait, hrest.running⟩, funext fun usage => ?_⟩
  rw [effectsFor_onAlerter, heffects]
  exact List.append_nil _

theorem rests_tellAlerter (s : Switchboard n) {act : Alerter n → Alerter n}
    (hact : ∀ alerter, Alerter.Rests alerter (act alerter)) : Rests s (s.tellAlerter act) :=
  rests_onAlerter s hact

/-- A change that the owner of a call makes to it. -/
theorem rests_revise (s : Switchboard n) (place : Fin n) (revision : Call.Revision) :
    Rests s (s.tellAlerter fun alerter => (alerter.perform (.revise place revision)).1) :=
  rests_tellAlerter s fun alerter => alerter.rests_perform rfl

theorem rests_adjustHoldTone (s : Switchboard n) : Rests s s.adjustHoldTone := by
  unfold adjustHoldTone
  split
  · exact (rests_onAlerter s fun alerter => alerter.rests_startTone .hold).trans
      ((touches_holdTone _ _).rests (by decide))
  · next player _ _ =>
    exact ((touches_holdTone s none).rests (by decide)).trans
      (rests_tellAlerter _ fun alerter => alerter.rests_stopTone .hold player)
  · exact .refl s

theorem rests_updateFront (s : Switchboard n) : Rests s s.updateFront := by
  unfold updateFront
  dsimp only
  split
  · exact (touches_front s _).rests (by decide)
  · refine Rests.trans ?_ (rests_adjustHoldTone _)
    exact (((touches_front s _).trans (touches_sendRoute _ .update)).trans
      (touches_frontChanged _ _ _)).rests (by decide)

theorem rests_playTone (s : Switchboard n) (tone : Tone) : Rests s (s.playTone tone) :=
  rests_tellAlerter s fun alerter => alerter.rests_startTone tone

theorem rests_playDisconnectTone (s : Switchboard n) (tone : Tone) :
    Rests s (s.playDisconnectTone tone) := by
  have htone := rests_playTone s tone
  unfold playDisconnectTone
  dsimp only
  split
  · exact htone.trans (((touches_disconnectTonePlaying _ true).trans
      (touches_disconnectTone _ true)).rests (by decide))
  · exact htone

theorem rests_playChangeTones (s : Switchboard n) (place : Fin n) (old new : Call.State) :
    Rests s (s.playChangeTones place old new) := by
  have hconnected : ∀ t, Rests s t → ∀ c : Bool,
      Rests s (if c then t.playTone .connected else t) := by
    intro t ht c
    cases c with
    | true => exact ht.trans (rests_playTone t .connected)
    | false => exact ht
  unfold playChangeTones
  apply hconnected
  split
  · split
    · exact rests_playDisconnectTone s _
    · exact .refl s
  · exact .refl s

theorem rests_fallQuiet (s : Switchboard n) : Rests s s.fallQuiet :=
  (rests_tellAlerter s Alerter.rests_stopRinging).trans
    (rests_tellAlerter _ Alerter.rests_stopWaiting)

/-! ### Words about the calls -/

theorem rests_track (s : Switchboard n) (place : Fin n) : Rests s (s.track place) := by
  unfold track
  split
  · exact .refl s
  · refine Rests.trans ?_ (rests_adjustHoldTone _)
    refine Rests.trans ?_ (((touches_enter _ place _).trans
      (touches_tellCrossings _ _)).rests (by decide))
    refine Rests.trans ?_ (((touches_tracked _ _).trans
      (touches_updatePresence _)).rests (by decide))
    exact ((touches_seat s place _).rests (by decide)).trans (rests_updateFront _)

theorem rests_untrack (s : Switchboard n) (place : Fin n) : Rests s (s.untrack place) := by
  unfold untrack
  dsimp only
  split
  · refine Rests.trans ?_ (rests_adjustHoldTone _)
    refine Rests.trans ?_ (((touches_leave _ place _).trans
      (touches_tellCrossings _ _)).rests (by decide))
    refine Rests.trans ?_ (((touches_tracked _ _).trans
      (touches_updatePresence _)).rests (by decide))
    exact ((touches_roster s _).rests (by decide)).trans (rests_updateFront _)
  · exact .refl s

theorem rests_stateChanged (s : Switchboard n) (place : Fin n) (old new : Call.State) :
    Rests s (s.stateChanged place old new) := by
  have hmode : ∀ t : Switchboard n,
      Rests t (if t.carrierMode && new ≠ .ringing then t.endCarrierMode else t) := by
    intro t
    split
    · exact (touches_endCarrierMode t).rests (by decide)
    · exact .refl t
  unfold stateChanged
  split
  · exact .refl s
  · refine Rests.trans ?_ (rests_adjustHoldTone _)
    refine Rests.trans ?_ (((touches_leave _ place old).trans
      ((touches_enter _ place new).trans (touches_tellCrossings _ _))).rests (by decide))
    refine Rests.trans ?_ (hmode _)
    refine Rests.trans ?_ ((rests_updateFront _).trans (rests_playChangeTones _ place old new))
    exact ((touches_roster s _).trans ((touches_seat _ place new).trans
      (touches_updatePresence _))).rests (by decide)

theorem rests_added (s : Switchboard n) (place : Fin n) : Rests s (s.added place) := by
  unfold added
  split
  · exact .refl s
  · exact rests_track s place

theorem rests_removed (s : Switchboard n) (place : Fin n) : Rests s (s.removed place) := by
  unfold removed
  split
  · exact .refl s
  · exact rests_untrack s place

theorem rests_externalChanged (s : Switchboard n) (place : Fin n) (external : Bool) :
    Rests s (s.externalChanged place external) := by
  unfold externalChanged
  split
  · exact rests_untrack s place
  · dsimp only
    split
    · exact (rests_track s place).trans ((touches_autoSpeaker _).rests (by decide))
    · exact rests_track s place

theorem rests_quietUnlessOthersRing (s : Switchboard n) (place : Fin n) :
    Rests s (s.quietUnlessOthersRing place) := by
  unfold quietUnlessOthersRing
  split
  · exact rests_fallQuiet s
  · split
    · exact rests_fallQuiet s
    · exact .refl s
  · exact .refl s

theorem rests_silenceRingers (s : Switchboard n) : Rests s s.silenceRingers := by
  have hsilence : ∀ (places : List (Fin n)) (s : Switchboard n),
      Rests s (places.foldl (fun s place =>
        s.tellAlerter fun alerter => (alerter.perform (.revise place .silence)).1) s) := by
    intro places
    induction places with
    | nil => exact fun s => .refl s
    | cons place rest ih =>
      exact fun s => (rests_revise s place .silence).trans (ih _)
  unfold silenceRingers
  dsimp only
  split
  · exact ((hsilence _ s).trans ((touches_sendMode _ _).rests (by decide))).trans
      (rests_fallQuiet _)
  · exact (hsilence _ s).trans (rests_fallQuiet _)

theorem rests_perform (s : Switchboard n) {operation : Operation n}
    (h : operation.asksToVibrate = false) : Rests s (s.perform operation).1 := by
  cases operation with
  | added place => exact rests_added s place
  | removed place => exact rests_removed s place
  | moved place state =>
    exact (rests_revise s place (.state state)).trans (rests_stateChanged _ place _ state)
  | stateChanged place old new => exact rests_stateChanged s place old new
  | externalChanged place external => exact rests_externalChanged s place external
  | conferenceChanged place =>
    show Rests s (s.conferenceChanged place)
    unfold conferenceChanged
    split
    · exact rests_added s place
    · exact rests_untrack s place
  | answered place =>
    show Rests s (s.answered place)
    unfold answered
    split
    · exact ((touches_unmuted s place).rests (by decide)).trans
        (rests_quietUnlessOthersRing _ place)
    · exact .refl s
  | rejected place => exact rests_quietUnlessOthersRing s place
  | videoRequested place video =>
    show Rests s (s.videoRequested place video)
    unfold videoRequested
    split
    · exact rests_playTone s .videoUpgrade
    · exact .refl s
  | holdToneRequested place => exact rests_adjustHoldTone s
  | startRinging => cases h
  | stopRinging => exact rests_tellAlerter s Alerter.rests_stopRinging
  | startWaiting reason => cases h
  | stopWaiting => exact rests_tellAlerter s Alerter.rests_stopWaiting
  | silenceRingers => exact rests_silenceRingers s
  | alerter operation => exact rests_onAlerter s fun alerter => alerter.rests_perform h
  | _ => exact (touches_perform s _).rests (by simp [Operation.parts])

theorem rests_run (s : Switchboard n) {operations : List (Operation n)}
    (h : ∀ operation ∈ operations, operation.asksToVibrate = false) :
    Rests s (s.run operations) := by
  induction operations generalizing s with
  | nil => exact .refl s
  | cons operation rest ih =>
    obtain ⟨hfirst, hrest⟩ := List.forall_mem_cons.mp h
    exact (rests_perform s hfirst).trans (ih _ hrest)

/-! ## Whether another call rings -/

variable {s t : Switchboard n} {place : Fin n}

/-- No identity is listed twice among the ringing calls. -/
theorem Refines.nodup_ringing {ledger : Ledger} (hs : s.Refines ledger) :
    (s.roster.ringing.map s.ident).Nodup := by
  have hlists : s.roster.ringing.map s.ident = Ledger.members ledger.entries .ringing :=
    hs.roster .ringing
  rw [hlists]
  exact ledger.nodup_members .ringing

theorem quietUnlessOthersRing_of_other {other : Fin n} (hmem : other ∈ s.roster.ringing)
    (hother : s.ident other ≠ s.ident place) : s.quietUnlessOthersRing place = s := by
  unfold quietUnlessOthersRing
  split
  next hnone =>
    rw [hnone] at hmem
    cases hmem
  next only honly =>
    rw [honly, List.mem_singleton] at hmem
    exact if_neg (hmem ▸ hother)
  · rfl

theorem quietUnlessOthersRing_of_alone (hnodup : (s.roster.ringing.map s.ident).Nodup)
    (halone : ∀ other ∈ s.roster.ringing, s.ident other = s.ident place) :
    s.quietUnlessOthersRing place = s.fallQuiet := by
  unfold quietUnlessOthersRing
  split
  · rfl
  next only honly => exact if_pos (halone only (by simp [honly]))
  next hmany hone =>
    -- a second member would be of the same identity as the first
    match hringing : s.roster.ringing with
    | [] => exact absurd hringing hmany
    | [only] => exact absurd hringing (hone only)
    | first :: second :: rest =>
      rw [hringing, List.map_cons, List.map_cons] at hnodup
      refine absurd ?_ (List.nodup_cons.mp hnodup).1
      rw [halone first (by simp [hringing]), halone second (by simp [hringing])]
      exact List.mem_cons_self

/-! ## Falling quiet -/

/-- No call rings, the waiting tone is off, the alerter is at rest, and nothing was told to
vibrate on the way. -/
structure FellQuiet (s t : Switchboard n) : Prop where
  ringing : t.alerter.ringing = none
  waiting : t.alerter.waiting = none
  rest : t.alerter.AtRest
  effects : t.effectsFor = s.effectsFor

theorem effectsFor_stopRinging (s : Switchboard n) :
    (s.tellAlerter Alerter.stopRinging).effectsFor = s.effectsFor := by
  have hnothing := Alerter.effectsFor_stopRinging { s.alerter with sent := [] }
  funext usage
  refine (effectsFor_onAlerter s _ usage).trans ?_
  rw [show Alerter.effectsFor _ usage = [] from congrFun hnothing usage]
  exact List.append_nil _

theorem fellQuiet_fallQuiet (s : Switchboard n) : FellQuiet s s.fallQuiet := by
  have hstopped : (s.tellAlerter Alerter.stopRinging).alerter.ringing = none :=
    (Alerter.stopRinging_atRest _).1
  have hrest : (s.tellAlerter Alerter.stopRinging).alerter.AtRest :=
    ⟨(Alerter.atRest_stopRinging _).wait, (Alerter.atRest_stopRinging _).running⟩
  have hringing : s.fallQuiet.alerter.ringing =
      (s.tellAlerter Alerter.stopRinging).alerter.ringing :=
    (Alerter.touches_stopWaiting _).keeps .ringing (by decide)
  obtain ⟨hquiet, heffects⟩ := rests_tellAlerter _ Alerter.rests_stopWaiting hrest
  exact ⟨hringing.trans hstopped, Alerter.waiting_stopWaiting _, hquiet,
    heffects.trans (effectsFor_stopRinging s)⟩

/-- From then on nothing vibrates until something asks for it. -/
theorem FellQuiet.run (h : FellQuiet s t) {later : List (Operation n)}
    (hlater : ∀ operation ∈ later, operation.asksToVibrate = false) :
    (t.run later).alerter.motor.gate.running = none ∧ (t.run later).effectsFor = s.effectsFor := by
  obtain ⟨hrest, heffects⟩ := rests_run t hlater h.rest
  exact ⟨hrest.running, heffects.trans h.effects⟩

/-- A call that is rejected, or tracked and answered, is looked at once the route layer was
told whatever it is told. -/
theorem perform_of_dismissal {operation : Operation n}
    (h : operation = .rejected place ∨
      operation = .answered place ∧ s.isTracked (s.ident place) = true) :
    ∃ r, Touches routeParts s r ∧ (s.perform operation).1 = r.quietUnlessOthersRing place := by
  rcases h with rfl | ⟨rfl, htracked⟩
  · exact ⟨s, .refl _ s, rfl⟩
  · exact ⟨s.unmuted place, touches_unmuted s place, if_pos htracked⟩

/-- A call that is rejected, or tracked and answered, ends no ring but its own: while another
call rings the alerter stays as it is and is told nothing. While no other call rings, no
ringing call, no wait, no vibration and no waiting tone are left, and nothing vibrates until
something asks for it again, whatever the ringtone player tells and however much time goes
by. The calls stay where they are in either case. -/
theorem run_dismissal_spares_other_rings (calls : CallTable n) (profile : DeviceProfile)
    (settings : Settings) (surroundings : Surroundings) (timed : Bool) (registry : Registry)
    (desks : Option Desks) (operations : List (Operation n)) (place : Fin n)
    (unique : ∀ other, calls.id other = calls.id place → other = place) :
    let s := (idle calls profile settings surroundings timed registry desks).run operations
    ∀ operation, operation = .rejected place ∨
        operation = .answered place ∧ s.isTracked (s.ident place) = true →
      let t := (s.perform operation).1
      (t.roster = s.roster ∧ t.tracked = s.tracked ∧ t.front = s.front) ∧
      ((∃ other ∈ s.roster.ringing, other ≠ place) →
        t.alerter = s.alerter ∧ t.told .alerter = s.told .alerter) ∧
      ((∀ other ∈ s.roster.ringing, other = place) →
        t.alerter.ringing = none ∧ t.alerter.wait = none ∧
        t.alerter.motor.gate.running = none ∧ t.alerter.waiting = none ∧
        ∀ later, (∀ operation ∈ later, operation.asksToVibrate = false) →
          (t.run later).alerter.motor.gate.running = none ∧
          (t.run later).effectsFor = s.effectsFor) := by
  intro s operation hdismissal t
  obtain ⟨r, hroute, hperform⟩ := perform_of_dismissal hdismissal
  have hident : r.ident = s.ident := hroute.ident (by decide)
  have hroster : r.roster = s.roster := hroute.keeps .roster (by decide)
  have hunique : ∀ other, r.ident other = r.ident place → other = place := by
    have hids : r.ident = calls.id := by
      rw [hident]
      exact funext fun other => congrArg Call.Nature.id (nature_run _ operations other)
    rw [hids]
    exact unique
  have hs : s.Refines (Ledger.empty.follow _ operations) :=
    (refines_idle calls profile settings surroundings timed registry desks).run operations
  have hnodup : (r.roster.ringing.map r.ident).Nodup := by
    rw [hroster, hident]
    exact hs.nodup_ringing
  have htouch : Touches (routeParts ++ alerterParts) s t := by
    show Touches _ s (s.perform operation).1
    rw [hperform]
    exact hroute.trans (touches_quietUnlessOthersRing r place)
  refine ⟨⟨htouch.keeps .roster (by decide), htouch.keeps .tracked (by decide),
    htouch.keeps .front (by decide)⟩, ?_, ?_⟩
  · rintro ⟨other, hmem, hother⟩
    have ht : t = r := hperform.trans
      (quietUnlessOthersRing_of_other (hroster ▸ hmem) fun h => hother (hunique other h))
    rw [ht]
    exact ⟨hroute.keeps .alerter (by decide), hroute.keeps (.told .alerter) (by decide)⟩
  · intro halone
    have ht : t = r.fallQuiet := hperform.trans
      (quietUnlessOthersRing_of_alone hnodup fun other hmem =>
        congrArg r.ident (halone other (hroster ▸ hmem)))
    have hquiet : FellQuiet r t := ht ▸ fellQuiet_fallQuiet r
    refine ⟨hquiet.ringing, hquiet.rest.wait, hquiet.rest.running, hquiet.waiting, ?_⟩
    intro later hlater
    obtain ⟨hrest, heffects⟩ := hquiet.run hlater
    refine ⟨hrest, heffects.trans (funext fun usage => ?_)⟩
    have htold : r.told .alerter = s.told .alerter := hroute.keeps (.told .alerter) (by decide)
    rw [effectsFor, htold, effectsFor]

/-- Two calls ring. The second one is rejected and the first one rings on, with a vibration to
come once the ringtone player gives up; the first one is answered, and none comes. -/
theorem dismissal_beside_and_after_another_ring :
    let call (id : Nat) : Call :=
      { state := .ringing, ringtone := some ⟨"content://ring"⟩, id := .ofNat id, log := .empty 64 }
    let start := idle (n := 2) ⟨#v[call 1, call 2]⟩ {} {}
      { hapticsSignal := some .awaited } true {} none
    let both : List (Operation 2) := [.added 0, .added 1, .startRinging]
    let one : List (Operation 2) := both ++ [.rejected 1, .removed 1]
    let later : List (Operation 2) := [.alerter .loseHaptics, .alerter (.advance 600)]
    ((start.run both).perform (.rejected 1)).1.alerter = (start.run both).alerter ∧
      (start.run one).alerter.ringing = some 0 ∧
      ((start.run one).run later).alerter.motor.gate.running = some (some 0) ∧
      ((start.run one).perform (.answered 0)).1.alerter.ringing = none ∧
      (((start.run one).perform (.answered 0)).1.run later).alerter.motor.gate.running = none := by
  intro call start both one later
  have hfirst := run_dismissal_spares_other_rings ⟨#v[call 1, call 2]⟩ {} {}
    { hapticsSignal := some .awaited } true {} none both 1 (by decide) (.rejected 1) (.inl rfl)
  have hsecond := run_dismissal_spares_other_rings ⟨#v[call 1, call 2]⟩ {} {}
    { hapticsSignal := some .awaited } true {} none one 0 (by decide) (.answered 0)
    (.inr ⟨rfl, by decide⟩)
  have hspared := (hfirst.2.1 ⟨0, by decide, by decide⟩).1
  obtain ⟨hringing, -, -, -, hlater⟩ := hsecond.2.2 (by decide)
  have hquiet := (hlater later (by decide)).1
  -- spelled out, the start is seen to be the same without running anything
  have hstart : start = idle ⟨#v[call 1, call 2]⟩ {} {} { hapticsSignal := some .awaited } true
    {} none := rfl
  rw [hstart]
  exact ⟨hspared, by decide, by decide, hringing, hquiet⟩

end PhoneAudio.Switchboard
