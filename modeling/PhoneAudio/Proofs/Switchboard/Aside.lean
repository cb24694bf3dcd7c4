import PhoneAudio.Proofs.Alerter.Tone
import PhoneAudio.Proofs.Switchboard.Frame

/-!
# Asides

What was said about the call in front, about the updates of the route and about the
hold tone is read off everything that was sent. A step that adds nothing to it, and that
leaves the call in front and the player of the hold tone alone, is an *aside*. It is
*still* if it also leaves alone what these are chosen by: the roster, the registry and
the attributes of the calls. Nearly every step of a switchboard is still.
-/

namespace PhoneAudio.Switchboard

variable {n : Nat}

/-! ## What was said about the call in front and the tones -/

/-- The identities of the calls that were in front before and after a change. -/
def Effect.frontChange? : Effect n → Option (Option CallId × Option CallId)
  | .frontChanged old new => some (old, new)
  | _ => none

/-- The changes of the call in front, oldest first. -/
def frontChanges (s : Switchboard n) : List (Option CallId × Option CallId) :=
  (s.told .front).filterMap Effect.frontChange?

/-- How often the route layer was asked to bring the route up to date. -/
def updates (s : Switchboard n) : Nat := s.requests.count .update

/-- The start or the stop of a player of a tone. -/
def Effect.toneSignal? (tone : Tone) : Effect n → Option (Signal Nat)
  | .alerter command => command.toneSignal? tone
  | _ => none

/-- The players of a tone that started and stopped, oldest first. -/
def toneRow (s : Switchboard n) (tone : Tone) : List (Signal Nat) :=
  (s.told .alerter).filterMap (Effect.toneSignal? tone)

theorem Touches.frontChanges {parts : List Part} {s t : Switchboard n} (h : Touches parts s t)
    (hparts : Part.told .front ∉ parts) : t.frontChanges = s.frontChanges :=
  congrArg (List.filterMap Effect.frontChange?) (h.keeps (.told .front) hparts)

theorem Touches.updates {parts : List Part} {s t : Switchboard n} (h : Touches parts s t)
    (hparts : Part.told .route ∉ parts) : t.updates = s.updates :=
  congrArg (List.count Route.Request.update) (h.requests hparts)

theorem Touches.toneRow {parts : List Part} {s t : Switchboard n} (h : Touches parts s t)
    (hparts : Part.told .alerter ∉ parts) (tone : Tone) : t.toneRow tone = s.toneRow tone :=
  congrArg (List.filterMap (Effect.toneSignal? tone)) (h.keeps (.told .alerter) hparts)

theorem frontChanges_frontChanged (s : Switchboard n) (old new : Option CallId) :
    (s.send (.frontChanged old new)).frontChanges = s.frontChanges ++ [(old, new)] := by
  simp [frontChanges, told, send, Effect.channel, Effect.frontChange?]

theorem updates_sendRoute (s : Switchboard n) (request : Route.Request) :
    (s.sendRoute request).updates = s.updates + if request = .update then 1 else 0 := by
  rw [updates, requests_sendRoute, List.count_append, List.count_singleton]
  simp [updates]

/-- What the alerter does when it works shows in every reading of what it was told. -/
theorem filterMap_onAlerter {α β : Type} (s : Switchboard n) (act : Alerter n → Alerter n × β)
    {read : Effect n → Option α} {reading : Alerter.Command n → Option α}
    (hread : ∀ command, read (.alerter command) = reading command) :
    ((s.onAlerter act).1.told .alerter).filterMap read =
      (s.told .alerter).filterMap read ++
        (act { s.alerter with sent := [] }).1.sent.filterMap reading := by
  have hall : ∀ commands : List (Alerter.Command n),
      (commands.map Effect.alerter).filter (fun effect => effect.channel = .alerter) =
        commands.map Effect.alerter := by
    intro commands
    rw [List.filter_eq_self]
    intro effect hmem
    obtain ⟨command, -, rfl⟩ := List.mem_map.mp hmem
    simp [Effect.channel]
  rw [told, onAlerter, List.filter_append, hall, List.filterMap_append, List.filterMap_map]
  congr 2
  exact funext hread

/-- The players that the alerter starts and stops show in the row. -/
theorem toneRow_onAlerter {β : Type} (s : Switchboard n) (act : Alerter n → Alerter n × β)
    (tone : Tone) :
    (s.onAlerter act).1.toneRow tone =
      s.toneRow tone ++ (act { s.alerter with sent := [] }).1.toneRow tone :=
  s.filterMap_onAlerter act fun _ => rfl

/-! ## Asides -/

/-- A step that has nothing to do with the call in front or the hold tone. -/
structure Aside (s t : Switchboard n) : Prop where
  ident : t.ident = s.ident
  front : t.front = s.front
  frontChanges : t.frontChanges = s.frontChanges
  updates : t.updates = s.updates
  holdTone : t.holdTone = s.holdTone
  holdRow : t.toneRow .hold = s.toneRow .hold

/-- A step that leaves what these are chosen by alone, too. -/
structure Still (s t : Switchboard n) : Prop extends Aside s t where
  roster : t.roster = s.roster
  registry : t.registry = s.registry
  attributes : t.alerter.attributes = s.alerter.attributes

theorem Aside.trans {s t u : Switchboard n} (h₁ : Aside s t) (h₂ : Aside t u) : Aside s u where
  ident := h₂.ident.trans h₁.ident
  front := h₂.front.trans h₁.front
  frontChanges := h₂.frontChanges.trans h₁.frontChanges
  updates := h₂.updates.trans h₁.updates
  holdTone := h₂.holdTone.trans h₁.holdTone
  holdRow := h₂.holdRow.trans h₁.holdRow

theorem Still.trans {s t u : Switchboard n} (h₁ : Still s t) (h₂ : Still t u) : Still s u where
  toAside := h₁.toAside.trans h₂.toAside
  roster := h₂.roster.trans h₁.roster
  registry := h₂.registry.trans h₁.registry
  attributes := h₂.attributes.trans h₁.attributes

theorem Still.refl (s : Switchboard n) : Still s s :=
  ⟨⟨rfl, rfl, rfl, rfl, rfl, rfl⟩, rfl, rfl, rfl⟩

/-- The parts that make up the call in front and the hold tone, their requests apart. -/
abbrev frontAndHold : List Part := [.natures, .front, .told .front, .holdTone]

/-- The parts by which they are chosen. -/
abbrev choiceParts : List Part := [.roster, .registry, .attributes]

variable {parts : List Part} {s t : Switchboard n}

theorem Touches.aside (h : Touches parts s t) (hparts : ∀ part ∈ frontAndHold, part ∉ parts)
    (hupdates : t.updates = s.updates) (hrow : t.toneRow .hold = s.toneRow .hold) : Aside s t where
  ident := h.ident (hparts _ (by simp))
  front := h.keeps .front (hparts _ (by simp))
  frontChanges := h.frontChanges (hparts _ (by simp))
  updates := hupdates
  holdTone := h.keeps .holdTone (hparts _ (by simp))
  holdRow := hrow

theorem Touches.still (h : Touches parts s t)
    (hparts : ∀ part ∈ frontAndHold ++ choiceParts, part ∉ parts)
    (hupdates : t.updates = s.updates) (hrow : t.toneRow .hold = s.toneRow .hold) :
    Still s t where
  toAside := h.aside (fun part hpart => hparts part (List.mem_append_left _ hpart)) hupdates hrow
  roster := h.keeps .roster (hparts _ (by simp))
  registry := h.keeps .registry (hparts _ (by simp))
  attributes := h.keeps .attributes (hparts _ (by simp))

/-- A step that says nothing to the route layer and does not let the alerter work. -/
theorem Touches.asideQuietly (h : Touches parts s t)
    (hparts : ∀ part ∈ frontAndHold ++ [.told .route, .told .alerter], part ∉ parts) :
    Aside s t :=
  h.aside (fun part hpart => hparts part (List.mem_append_left _ hpart))
    (h.updates (hparts _ (by simp))) (h.toneRow (hparts _ (by simp)) .hold)

theorem Touches.stillQuietly (h : Touches parts s t)
    (hparts : ∀ part ∈ frontAndHold ++ choiceParts ++ [.told .route, .told .alerter],
      part ∉ parts) : Still s t :=
  h.still (fun part hpart => hparts part (List.mem_append_left _ hpart))
    (h.updates (hparts _ (by simp))) (h.toneRow (hparts _ (by simp)) .hold)

/-! ### The route layer -/

theorem still_sendRoute (s : Switchboard n) {request : Route.Request} (h : request ≠ .update) :
    Still s (s.sendRoute request) :=
  (touches_sendRoute s request).still (by decide)
    (by rw [updates_sendRoute, if_neg h, Nat.add_zero])
    ((touches_sendRoute s request).toneRow (by decide) .hold)

theorem still_mute (s : Switchboard n) (on : Bool) : Still s (s.mute on) := by
  apply still_sendRoute
  split <;> simp

theorem still_toggleMute (s : Switchboard n) : Still s s.toggleMute := by
  unfold toggleMute
  split
  · exact .refl s
  · exact still_sendRoute s (by simp)

theorem still_autoSpeaker (s : Switchboard n) : Still s s.autoSpeaker := by
  unfold autoSpeaker
  split
  · exact .refl s
  · exact still_sendRoute s (by simp)

theorem requestFor?_ne_update {emergency : Bool} {route : Route} {address : Option String}
    {request : Route.Request} (h : requestFor? emergency route address = some request) :
    request ≠ .update := by
  rintro rfl
  cases route <;> simp [requestFor?] at h

theorem still_setRoute (s : Switchboard n) (route : Route) (address : Option String) :
    Still s (s.setRoute route address) := by
  unfold setRoute
  split
  next hrequest => exact still_sendRoute s (requestFor?_ne_update hrequest)
  · exact .refl s

theorem still_setRouteNumber (s : Switchboard n) (value : Int) (address : Option String) :
    Still s (s.setRouteNumber value address) := by
  unfold setRouteNumber
  split
  · exact still_setRoute s _ _
  · exact .refl s

theorem still_endCarrierMode (s : Switchboard n) : Still s s.endCarrierMode := by
  have hmode : Still s { s with carrierMode := false } :=
    (touches_carrierMode s false).stillQuietly (by decide)
  unfold endCarrierMode
  dsimp only
  split
  · exact (hmode.trans (still_setRoute _ _ _)).trans
      ((touches_carrierMedia _ none).stillQuietly (by decide))
  · exact hmode.trans ((touches_carrierMedia _ none).stillQuietly (by decide))

theorem still_enterRinging (s : Switchboard n) (place : Fin n) :
    Still s (s.enterRinging place) := by
  have hmode := ((touches_carrierMode s (s.call place).carrierRing).trans
    (touches_carrierMedia _ (some (s.call place).ringMedia))).stillQuietly (by decide)
  unfold enterRinging
  dsimp only
  split
  · exact hmode.trans (still_setRoute _ _ _)
  · exact hmode

theorem still_enter (s : Switchboard n) (place : Fin n) (state : Call.State) :
    Still s (s.enter place state) := by
  unfold enter
  split
  · exact still_enterRinging s place
  · exact still_enterRinging s place
  · split
    · exact (touches_send s (.startRingback place)).stillQuietly (by simp [Effect.channel])
    · exact .refl s
  · exact .refl s

theorem still_leave (s : Switchboard n) (place : Fin n) (state : Call.State) :
    Still s (s.leave place state) :=
  (touches_leave s place state).stillQuietly (by decide)

theorem still_tellCrossings (s : Switchboard n) (before : Headcount) :
    Still s (s.tellCrossings before) :=
  (touches_tellCrossings s before).stillQuietly (by decide)

theorem still_updatePresence (s : Switchboard n) : Still s s.updatePresence :=
  (touches_updatePresence s).stillQuietly (by decide)

theorem still_tracked (s : Switchboard n) (tracked : List (Fin n)) :
    Still s { s with tracked := tracked } :=
  (touches_tracked s tracked).stillQuietly (by decide)

theorem aside_roster (s : Switchboard n) (roster : Roster (Fin n)) :
    Aside s { s with roster := roster } :=
  (touches_roster s roster).asideQuietly (by decide)

theorem aside_seat (s : Switchboard n) (place : Fin n) (state : Call.State) :
    Aside s (s.seat place state) :=
  (touches_seat s place state).asideQuietly (by decide)

/-! ### The alerter -/

/-- The topics of the hold tone. -/
abbrev holdTopics : List Alerter.Topic := [.toneStart .hold, .toneStop .hold]

/-- An alerter that works without a word about the hold tone. -/
theorem holdRow_onAlerter {β : Type} (s : Switchboard n) {act : Alerter n → Alerter n × β}
    (h : ∀ alerter, (act alerter).1.toneRow .hold = alerter.toneRow .hold) :
    (s.onAlerter act).1.toneRow .hold = s.toneRow .hold := by
  have hnone : (act { s.alerter with sent := [] }).1.toneRow .hold = [] := h _
  rw [toneRow_onAlerter, hnone, List.append_nil]

theorem still_onAlerter {β : Type} {parts : List Alerter.Part} {topics : List Alerter.Topic}
    (s : Switchboard n) {act : Alerter n → Alerter n × β}
    (htouch : ∀ alerter, Alerter.Touches parts alerter (act alerter).1)
    (hsaid : ∀ alerter, Alerter.Says topics alerter (act alerter).1)
    (hparts : ∀ part ∈ [Alerter.Part.natures, .attributes], part ∉ parts)
    (htopics : ∀ topic ∈ holdTopics, topic ∉ topics) : Still s (s.onAlerter act).1 := by
  have htouches := touches_onAlerter_quietly s htouch (hparts _ (by simp)) (hparts _ (by simp))
  refine htouches.still (by decide) (htouches.updates (by decide)) (holdRow_onAlerter s ?_)
  exact fun alerter => (hsaid alerter).toneRow (htopics _ (by simp)) (htopics _ (by simp))

/-- Whatever happens to the alerter, it may change the calls but not the hold tone. -/
theorem aside_alerter (s : Switchboard n) (operation : Alerter.Operation n) :
    Aside s (s.onAlerter (·.perform operation)).1 := by
  have htouches := touches_onAlerter s (fun alerter => alerter.touches_perform operation)
    operation.natures_notMem_parts
  exact htouches.aside (by decide) (htouches.updates (by decide))
    (holdRow_onAlerter s fun alerter => alerter.toneRow_perform operation (by decide))

theorem still_startRinging (s : Switchboard n) : Still s s.startRinging.1 := by
  unfold startRinging
  dsimp only
  split
  · exact still_onAlerter s (fun alerter => alerter.touches_startCarrierRing _ _)
      (fun alerter => alerter.says_startCarrierRing _ _) (by decide)
      (by simp [Alerter.Operation.topics])
  · exact still_onAlerter s (fun alerter => alerter.touches_startRinging _ _)
      (fun alerter => alerter.says_startRinging _ _) (by decide)
      (by simp [Alerter.Operation.topics])

theorem still_startWaiting (s : Switchboard n) (reason : Option String) :
    Still s (s.startWaiting reason) := by
  unfold startWaiting
  split
  · exact still_onAlerter s (fun alerter => alerter.touches_startWaiting _ _)
      (fun alerter => alerter.says_startWaiting _ _) (by decide)
      (by simp [Alerter.Operation.topics])
  · exact .refl s

theorem still_stopRinging (s : Switchboard n) : Still s (s.tellAlerter Alerter.stopRinging) :=
  still_onAlerter s Alerter.touches_stopRinging Alerter.says_stopRinging (by decide) (by decide)

theorem still_stopWaiting (s : Switchboard n) : Still s (s.tellAlerter Alerter.stopWaiting) :=
  still_onAlerter s Alerter.touches_stopWaiting Alerter.says_stopWaiting (by decide) (by decide)

theorem still_fallQuiet (s : Switchboard n) : Still s s.fallQuiet :=
  (still_stopRinging s).trans (still_stopWaiting _)

theorem still_quietUnlessOthersRing (s : Switchboard n) (place : Fin n) :
    Still s (s.quietUnlessOthersRing place) := by
  unfold quietUnlessOthersRing
  split
  · exact still_fallQuiet s
  · split
    · exact still_fallQuiet s
    · exact .refl s
  · exact .refl s

theorem still_answered (s : Switchboard n) (place : Fin n) : Still s (s.answered place) := by
  have hmute : Still s (if (s.call place).handover then s else s.mute false) := by
    split
    · exact .refl s
    · exact still_mute s false
  unfold answered
  split
  · exact hmute.trans (still_quietUnlessOthersRing _ place)
  · exact .refl s

theorem still_playTone (s : Switchboard n) {tone : Tone} (h : tone ≠ .hold) :
    Still s (s.playTone tone) :=
  still_onAlerter s (fun alerter => alerter.touches_startTone tone)
    (fun alerter => alerter.says_startTone tone) (by decide) (by simp [Ne.symm h])

theorem aside_silenceRingers (s : Switchboard n) : Aside s s.silenceRingers := by
  have hsilence : ∀ (places : List (Fin n)) (s : Switchboard n),
      Aside s (places.foldl (fun s place =>
        s.tellAlerter fun alerter => (alerter.perform (.revise place .silence)).1) s) := by
    intro places
    induction places with
    | nil => exact fun s => (Still.refl s).toAside
    | cons place rest ih =>
      exact fun s => (aside_alerter s (.revise place .silence)).trans (ih _)
  unfold silenceRingers
  dsimp only
  split
  · exact ((hsilence _ s).trans ((touches_sendMode _ _).asideQuietly (by decide))).trans
      (still_fallQuiet _).toAside
  · exact (hsilence _ s).trans (still_fallQuiet _).toAside

/-! ### The tones of a change -/

/-- The hold tone is not for the end of a call. -/
theorem disconnectTone?_ne_hold {place : Fin n} {tone : Tone}
    (h : s.disconnectTone? place = some tone) : tone ≠ .hold := by
  rintro rfl
  unfold disconnectTone? at h
  split at h
  · cases h
  · split at h
    · cases h
    · obtain ⟨cause, -, htone⟩ := Option.bind_eq_some_iff.mp h
      cases cause <;> cases htone

theorem still_playDisconnectTone (s : Switchboard n) {tone : Tone} (h : tone ≠ .hold) :
    Still s (s.playDisconnectTone tone) := by
  have htone := still_playTone s h
  unfold playDisconnectTone
  dsimp only
  split
  · exact htone.trans (((touches_disconnectTonePlaying _ true).trans
      (touches_disconnectTone _ true)).stillQuietly (by decide))
  · exact htone

theorem still_playChangeTones (s : Switchboard n) (place : Fin n) (old new : Call.State) :
    Still s (s.playChangeTones place old new) := by
  have hconnected : ∀ t, Still s t → ∀ c : Bool,
      Still s (if c then t.playTone .connected else t) := by
    intro t ht c
    cases c with
    | true => exact ht.trans (still_playTone t (by decide))
    | false => exact ht
  unfold playChangeTones
  apply hconnected
  cases isDisconnect old new with
  | false => exact .refl s
  | true =>
    cases htone : s.disconnectTone? place with
    | none => exact .refl s
    | some tone => exact still_playDisconnectTone s (disconnectTone?_ne_hold htone)

end PhoneAudio.Switchboard
