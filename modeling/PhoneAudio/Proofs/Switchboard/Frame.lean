import PhoneAudio.Proofs.Alerter.Frame
import PhoneAudio.Switchboard.Operation

/-!
# What the steps of a switchboard leave alone

The same as for the alerter, one level up: a switchboard is taken apart into
parts, and `Touches parts s t` says that `t` differs from `s` at most in the
listed ones. What is told to the outside is one part for each receiver.

The alerter as a whole is one part. The nature of the calls and their attributes
are two more, so that a step which only lets the alerter work is seen to leave
the calls as they are, their logs apart. No step touches the nature of a call,
and with it goes all that is decided by it: who is who (`Touches.ident`).
-/

namespace PhoneAudio.Switchboard

variable {n : Nat}

/-! ## Parts -/

/-- Who an effect of the switchboard goes to. -/
inductive Channel where
  | alerter
  | mode
  | route
  | front
  | presence
  | ringback
  | disconnectTone
deriving DecidableEq

def Effect.channel : Effect n → Channel
  | .alerter _ => .alerter
  | .mode _ _ => .mode
  | .route _ => .route
  | .frontChanged _ _ => .front
  | .presence _ => .presence
  | .startRingback _ => .ringback
  | .stopRingback _ => .ringback
  | .disconnectTone _ => .disconnectTone

/-- What a channel was told, oldest first. -/
def told (s : Switchboard n) (channel : Channel) : List (Effect n) :=
  s.sent.filter fun effect => effect.channel = channel

/-- The parts of a switchboard. -/
inductive Part where
  | natures
  | attributes
  | alerter
  | registry
  | desks
  | roster
  | tracked
  | front
  | tonePlaying
  | disconnectTonePlaying
  | holdTone
  | carrierMode
  | carrierMedia
  | told (channel : Channel)
deriving DecidableEq

/-- Two switchboards agree in a part. -/
def Part.Agrees (s t : Switchboard n) : Part → Prop
  | .natures => t.alerter.natures = s.alerter.natures
  | .attributes => t.alerter.attributes = s.alerter.attributes
  | .alerter => t.alerter = s.alerter
  | .registry => t.registry = s.registry
  | .desks => t.desks = s.desks
  | .roster => t.roster = s.roster
  | .tracked => t.tracked = s.tracked
  | .front => t.front = s.front
  | .tonePlaying => t.tonePlaying = s.tonePlaying
  | .disconnectTonePlaying => t.disconnectTonePlaying = s.disconnectTonePlaying
  | .holdTone => t.holdTone = s.holdTone
  | .carrierMode => t.carrierMode = s.carrierMode
  | .carrierMedia => t.carrierMedia = s.carrierMedia
  | .told channel => t.told channel = s.told channel

/-- `t` differs from `s` at most in the listed parts. -/
def Touches (parts : List Part) (s t : Switchboard n) : Prop :=
  ∀ part, part ∉ parts → part.Agrees s t

theorem Part.Agrees.refl (s : Switchboard n) (part : Part) : part.Agrees s s := by
  cases part <;> rfl

theorem Part.Agrees.trans {s t u : Switchboard n} {part : Part} (h₁ : part.Agrees s t)
    (h₂ : part.Agrees t u) : part.Agrees s u := by
  cases part <;> exact Eq.trans h₂ h₁

namespace Touches

variable {parts more : List Part} {s t u : Switchboard n}

theorem refl (parts : List Part) (s : Switchboard n) : Touches parts s s :=
  fun part _ => Part.Agrees.refl s part

theorem mono (h : Touches parts s t) (sub : parts ⊆ more) : Touches more s t :=
  fun part hpart => h part fun hmem => hpart (sub hmem)

/-- Two steps, one after the other. -/
theorem trans (h₁ : Touches parts s t) (h₂ : Touches more t u) : Touches (parts ++ more) s u :=
  fun part hpart =>
    (h₁ part fun hmem => hpart (List.mem_append_left _ hmem)).trans
      (h₂ part fun hmem => hpart (List.mem_append_right _ hmem))

/-- What is not listed is the same. -/
theorem keeps (h : Touches parts s t) (part : Part) (hpart : part ∉ parts) : part.Agrees s t :=
  h part hpart

end Touches

theorem Touches.natures {parts : List Part} {s t : Switchboard n} (h : Touches parts s t)
    (hparts : Part.natures ∉ parts) (place : Fin n) :
    (t.call place).nature = (s.call place).nature :=
  congrFun (h.keeps .natures hparts) place

/-- No step changes who is who. -/
theorem Touches.ident {parts : List Part} {s t : Switchboard n} (h : Touches parts s t)
    (hparts : Part.natures ∉ parts) : t.ident = s.ident := by
  funext place
  exact congrArg Call.Nature.id (h.natures hparts place)

/-! ## The small steps -/

theorem touches_send (s : Switchboard n) (effect : Effect n) :
    Touches [.told effect.channel] s (s.send effect) := by
  intro part hpart
  cases part with
  | told channel =>
    have hne : effect.channel ≠ channel := fun h => hpart (by simp [h])
    simp [Part.Agrees, told, send, hne]
  | _ => rfl

theorem touches_disconnectTone (s : Switchboard n) (on : Bool) :
    Touches [.told .disconnectTone] s (s.send (.disconnectTone on)) :=
  touches_send s (.disconnectTone on)

theorem touches_frontChanged (s : Switchboard n) (old new : Option CallId) :
    Touches [.told .front] s (s.send (.frontChanged old new)) :=
  touches_send s (.frontChanged old new)

/-- The parts that a step of the alerter may touch, if it changes no call. -/
abbrev alerterParts : List Part := [.alerter, .told .alerter]

/-- The alerter works on nothing of the switchboard's but the alerter. -/
theorem touches_onAlerter {β : Type} {parts : List Alerter.Part} (s : Switchboard n)
    {act : Alerter n → Alerter n × β}
    (hact : ∀ alerter, Alerter.Touches parts alerter (act alerter).1)
    (hnatures : Alerter.Part.natures ∉ parts) :
    Touches (.attributes :: alerterParts) s (s.onAlerter act).1 := by
  intro part hpart
  cases part with
  | natures => exact (hact { s.alerter with sent := [] }).keeps .natures hnatures
  | attributes => exact absurd (by simp) hpart
  | alerter => exact absurd (by simp) hpart
  | told channel =>
    have hne : Channel.alerter ≠ channel := fun h => hpart (by simp [h])
    simp [Part.Agrees, told, onAlerter, List.filter_map, Function.comp_def, Effect.channel, hne]
  | _ => rfl

/-- A step of the alerter that changes no call changes none for the switchboard. -/
theorem touches_onAlerter_quietly {β : Type} {parts : List Alerter.Part} (s : Switchboard n)
    {act : Alerter n → Alerter n × β}
    (hact : ∀ alerter, Alerter.Touches parts alerter (act alerter).1)
    (hnatures : Alerter.Part.natures ∉ parts) (hattributes : Alerter.Part.attributes ∉ parts) :
    Touches alerterParts s (s.onAlerter act).1 := by
  intro part hpart
  by_cases h : part = .attributes
  · subst h
    exact (hact { s.alerter with sent := [] }).keeps .attributes hattributes
  · exact touches_onAlerter s hact hnatures part (by simpa [h] using hpart)

theorem touches_tellAlerter {parts : List Alerter.Part} (s : Switchboard n)
    {act : Alerter n → Alerter n} (hact : ∀ alerter, Alerter.Touches parts alerter (act alerter))
    (hnatures : Alerter.Part.natures ∉ parts) (hattributes : Alerter.Part.attributes ∉ parts) :
    Touches alerterParts s (s.tellAlerter act) :=
  touches_onAlerter_quietly s hact hnatures hattributes

/-- A change that the owner of a call makes to it. -/
theorem touches_revise (s : Switchboard n) (place : Fin n) (revision : Call.Revision) :
    Touches (.attributes :: alerterParts) s
      (s.tellAlerter fun alerter => (alerter.perform (.revise place revision)).1) :=
  touches_onAlerter s (fun alerter => Alerter.touches_perform alerter (.revise place revision))
    (by simp [Alerter.Operation.parts])

theorem touches_desks (s : Switchboard n) (desks : Option Desks) :
    Touches [.desks] s { s with desks := desks } := by
  intro part hpart
  cases part with
  | desks => exact absurd (by simp) hpart
  | _ => rfl

theorem touches_roster (s : Switchboard n) (roster : Roster (Fin n)) :
    Touches [.roster] s { s with roster := roster } := by
  intro part hpart
  cases part with
  | roster => exact absurd (by simp) hpart
  | _ => rfl

theorem touches_tracked (s : Switchboard n) (tracked : List (Fin n)) :
    Touches [.tracked] s { s with tracked := tracked } := by
  intro part hpart
  cases part with
  | tracked => exact absurd (by simp) hpart
  | _ => rfl

theorem touches_front (s : Switchboard n) (front : Option (Fin n)) :
    Touches [.front] s { s with front := front } := by
  intro part hpart
  cases part with
  | front => exact absurd (by simp) hpart
  | _ => rfl

theorem touches_tonePlaying (s : Switchboard n) (on : Bool) :
    Touches [.tonePlaying] s { s with tonePlaying := on } := by
  intro part hpart
  cases part with
  | tonePlaying => exact absurd (by simp) hpart
  | _ => rfl

theorem touches_disconnectTonePlaying (s : Switchboard n) (on : Bool) :
    Touches [.disconnectTonePlaying] s { s with disconnectTonePlaying := on } := by
  intro part hpart
  cases part with
  | disconnectTonePlaying => exact absurd (by simp) hpart
  | _ => rfl

theorem touches_holdTone (s : Switchboard n) (player : Option Nat) :
    Touches [.holdTone] s { s with holdTone := player } := by
  intro part hpart
  cases part with
  | holdTone => exact absurd (by simp) hpart
  | _ => rfl

theorem touches_carrierMode (s : Switchboard n) (on : Bool) :
    Touches [.carrierMode] s { s with carrierMode := on } := by
  intro part hpart
  cases part with
  | carrierMode => exact absurd (by simp) hpart
  | _ => rfl

theorem touches_carrierMedia (s : Switchboard n) (media : Option Video) :
    Touches [.carrierMedia] s { s with carrierMedia := media } := by
  intro part hpart
  cases part with
  | carrierMedia => exact absurd (by simp) hpart
  | _ => rfl

theorem touches_registry (s : Switchboard n) (registry : Registry) :
    Touches [.registry] s { s with registry := registry } := by
  intro part hpart
  cases part with
  | registry => exact absurd (by simp) hpart
  | _ => rfl

/-! ## The two layers -/

/-- The parts that a message to the mode layer touches. -/
abbrev modeParts : List Part := [.desks, .told .mode]

/-- The parts that a request to the route layer touches. -/
abbrev routeParts : List Part := [.desks, .told .route]

theorem touches_sendMode (s : Switchboard n) (message : Mode.Message) :
    Touches modeParts s (s.sendMode message) :=
  (touches_desks s _).trans (touches_send _ (.mode message s.snapshot))

theorem touches_sendRoute (s : Switchboard n) (request : Route.Request) :
    Touches routeParts s (s.sendRoute request) :=
  (touches_desks s _).trans (touches_send _ (.route request))

def Effect.request? : Effect n → Option Route.Request
  | .route request => some request
  | _ => none

/-- The requests to the route layer, oldest first. -/
def requests (s : Switchboard n) : List Route.Request :=
  (s.told .route).filterMap Effect.request?

theorem Touches.requests {parts : List Part} {s t : Switchboard n} (h : Touches parts s t)
    (hparts : Part.told .route ∉ parts) : t.requests = s.requests :=
  congrArg (List.filterMap Effect.request?) (h.keeps (.told .route) hparts)

theorem requests_sendRoute (s : Switchboard n) (request : Route.Request) :
    (s.sendRoute request).requests = s.requests ++ [request] := by
  simp [requests, told, sendRoute, send, Effect.channel, Effect.request?]

theorem touches_tellCrossings (s : Switchboard n) (before : Headcount) :
    Touches modeParts s (s.tellCrossings before) := by
  unfold tellCrossings
  generalize Crossing.between before s.roster.headcount = crossings
  induction crossings generalizing s with
  | nil => exact Touches.refl _ s
  | cons crossing rest ih =>
    exact ((touches_sendMode s _).trans (ih _)).mono (by decide)

theorem touches_mute (s : Switchboard n) (on : Bool) : Touches routeParts s (s.mute on) :=
  touches_sendRoute s _

theorem touches_toggleMute (s : Switchboard n) : Touches routeParts s s.toggleMute := by
  unfold toggleMute
  split
  · exact Touches.refl _ s
  · exact touches_sendRoute s _

theorem touches_autoSpeaker (s : Switchboard n) : Touches routeParts s s.autoSpeaker := by
  unfold autoSpeaker
  split
  · exact Touches.refl _ s
  · exact touches_sendRoute s _

theorem touches_setRoute (s : Switchboard n) (route : Route) (address : Option String) :
    Touches routeParts s (s.setRoute route address) := by
  unfold setRoute
  split
  · exact touches_sendRoute s _
  · exact Touches.refl _ s

theorem touches_setRouteNumber (s : Switchboard n) (value : Int) (address : Option String) :
    Touches routeParts s (s.setRouteNumber value address) := by
  unfold setRouteNumber
  split
  · exact touches_setRoute s _ _
  · exact Touches.refl _ s

theorem touches_setTonePlaying (s : Switchboard n) (on : Bool) :
    Touches ([.tonePlaying, .disconnectTonePlaying, .told .disconnectTone] ++ modeParts) s
      (s.setTonePlaying on) := by
  have htone := (touches_tonePlaying s on).trans
    (touches_sendMode { s with tonePlaying := on } (if on then .toneStarted else .toneStopped))
  unfold setTonePlaying
  dsimp only
  generalize ({ s with tonePlaying := on } : Switchboard n).sendMode
    (if on then .toneStarted else .toneStopped) = t at htone ⊢
  split
  · exact ((htone.trans (touches_disconnectTonePlaying _ false)).trans
      (touches_disconnectTone _ false)).mono (by decide)
  · exact htone.mono (by decide)

/-! ## The alerter and the tones -/

theorem touches_startRinging (s : Switchboard n) :
    Touches alerterParts s s.startRinging.1 := by
  unfold startRinging
  dsimp only
  split
  · exact touches_onAlerter_quietly s (fun alerter => alerter.touches_startCarrierRing _ _)
      (by decide) (by decide)
  · exact touches_onAlerter_quietly s (fun alerter => alerter.touches_startRinging _ _)
      (by decide) (by decide)

theorem touches_startWaiting (s : Switchboard n) (reason : Option String) :
    Touches alerterParts s (s.startWaiting reason) := by
  unfold startWaiting
  split
  · exact touches_tellAlerter s (fun alerter => alerter.touches_startWaiting _ _)
      (by decide) (by decide)
  · exact Touches.refl _ s

theorem touches_stopRinging (s : Switchboard n) :
    Touches alerterParts s (s.tellAlerter Alerter.stopRinging) :=
  touches_tellAlerter s Alerter.touches_stopRinging (by decide) (by decide)

theorem touches_stopWaiting (s : Switchboard n) :
    Touches alerterParts s (s.tellAlerter Alerter.stopWaiting) :=
  touches_tellAlerter s Alerter.touches_stopWaiting (by decide) (by decide)

theorem touches_fallQuiet (s : Switchboard n) : Touches alerterParts s s.fallQuiet :=
  ((touches_stopRinging s).trans (touches_stopWaiting _)).mono (by decide)

theorem touches_playTone (s : Switchboard n) (tone : Tone) :
    Touches alerterParts s (s.playTone tone) :=
  touches_tellAlerter s (fun alerter => alerter.touches_startTone tone) (by decide) (by decide)

theorem touches_silence (s : Switchboard n) (places : List (Fin n)) :
    Touches (.attributes :: alerterParts) s (places.foldl (fun s place =>
      s.tellAlerter fun alerter => (alerter.perform (.revise place .silence)).1) s) := by
  induction places generalizing s with
  | nil => exact Touches.refl _ s
  | cons place rest ih => exact ((touches_revise s place .silence).trans (ih _)).mono (by decide)

theorem touches_silenceRingers (s : Switchboard n) :
    Touches (.attributes :: alerterParts ++ modeParts) s s.silenceRingers := by
  have hsilence := touches_silence s s.roster.ringing
  unfold silenceRingers
  dsimp only
  split
  · exact ((hsilence.trans (touches_sendMode _ _)).trans (touches_fallQuiet _)).mono (by decide)
  · exact (hsilence.trans (touches_fallQuiet _)).mono (by decide)

/-! ## The call in front -/

/-- The parts that the hold tone touches. -/
abbrev holdParts : List Part := .holdTone :: alerterParts

theorem touches_adjustHoldTone (s : Switchboard n) : Touches holdParts s s.adjustHoldTone := by
  unfold adjustHoldTone
  split
  · have hstart : Touches alerterParts s (s.onAlerter (·.startTone .hold)).1 :=
      touches_onAlerter_quietly s (fun alerter => alerter.touches_startTone .hold)
        (by decide) (by decide)
    exact (hstart.trans (touches_holdTone _ _)).mono (by decide)
  · exact (touches_holdTone s none).trans (touches_tellAlerter _
      (fun alerter => alerter.touches_stopTone .hold _) (by decide) (by decide))
  · exact Touches.refl _ s

/-- The parts that a new choice of the call in front touches. -/
abbrev frontParts : List Part := [.front, .told .front] ++ routeParts ++ holdParts

theorem touches_updateFront (s : Switchboard n) : Touches frontParts s s.updateFront := by
  unfold updateFront
  dsimp only
  split
  · exact (touches_front s _).mono (by decide)
  · exact ((((touches_front s _).trans (touches_sendRoute _ _)).trans
      (touches_frontChanged _ _ _)).trans (touches_adjustHoldTone _)).mono (by decide)

theorem touches_updatePresence (s : Switchboard n) :
    Touches [.told .presence] s s.updatePresence :=
  touches_send s (.presence s.isInCall)

/-! ## The life of a call -/

/-- The parts that a carrier ring touches. -/
abbrev carrierParts : List Part := [.carrierMode, .carrierMedia] ++ routeParts

theorem touches_endCarrierMode (s : Switchboard n) : Touches carrierParts s s.endCarrierMode := by
  unfold endCarrierMode
  dsimp only
  split
  · exact (((touches_carrierMode s false).trans (touches_setRoute _ _ _)).trans
      (touches_carrierMedia _ _)).mono (by decide)
  · exact ((touches_carrierMode s false).trans (touches_carrierMedia _ _)).mono (by decide)

theorem touches_enterRinging (s : Switchboard n) (place : Fin n) :
    Touches carrierParts s (s.enterRinging place) := by
  have hmode := (touches_carrierMode s (s.call place).carrierRing).trans
    (touches_carrierMedia _ (some (s.call place).ringMedia))
  unfold enterRinging
  dsimp only
  split
  · exact (hmode.trans (touches_setRoute _ _ _)).mono (by decide)
  · exact hmode.mono (by decide)

theorem touches_enter (s : Switchboard n) (place : Fin n) (state : Call.State) :
    Touches (.told .ringback :: carrierParts) s (s.enter place state) := by
  unfold enter
  split
  · exact (touches_enterRinging s place).mono (by decide)
  · exact (touches_enterRinging s place).mono (by decide)
  · split
    · have htold : Touches [.told .ringback] s (s.send (.startRingback place)) :=
        touches_send s (.startRingback place)
      exact htold.mono (by decide)
    · exact Touches.refl _ s
  · exact Touches.refl _ s

theorem touches_leave (s : Switchboard n) (place : Fin n) (state : Call.State) :
    Touches [.told .ringback] s (s.leave place state) := by
  unfold leave
  split
  · exact touches_send s (.stopRingback place)
  · exact Touches.refl _ s

theorem touches_seat (s : Switchboard n) (place : Fin n) (state : Call.State) :
    Touches [.roster] s (s.seat place state) := by
  unfold seat
  split
  · exact touches_roster s _
  · exact Touches.refl _ s

/-- The parts that the disconnect tone touches. -/
abbrev toneParts : List Part := [.disconnectTonePlaying, .told .disconnectTone] ++ alerterParts

theorem touches_playDisconnectTone (s : Switchboard n) (tone : Tone) :
    Touches toneParts s (s.playDisconnectTone tone) := by
  have htone := touches_playTone s tone
  unfold playDisconnectTone
  dsimp only
  split
  · exact ((htone.trans (touches_disconnectTonePlaying _ true)).trans
      (touches_disconnectTone _ true)).mono (by decide)
  · exact htone.mono (by decide)

theorem touches_playChangeTones (s : Switchboard n) (place : Fin n) (old new : Call.State) :
    Touches toneParts s (s.playChangeTones place old new) := by
  have hconnected : ∀ t, Touches toneParts s t → ∀ c : Bool,
      Touches toneParts s (if c then t.playTone .connected else t) := by
    intro t ht c
    cases c with
    | true => exact (ht.trans (touches_playTone t .connected)).mono (by decide)
    | false => exact ht
  unfold playChangeTones
  apply hconnected
  cases isDisconnect old new with
  | false => exact Touches.refl _ s
  | true =>
    cases s.disconnectTone? place with
    | none => exact Touches.refl _ s
    | some tone => exact touches_playDisconnectTone s tone

/-! ## Accepted words

An accepted word about a call changes the switchboard, tells which groups filled or
emptied by it, and brings the hold tone up to date. -/

/-- The parts that an accepted word may touch before the crossings are told. -/
abbrev changeParts : List Part :=
  [.roster, .tracked, .told .presence, .told .ringback] ++ frontParts ++ carrierParts ++ toneParts

/-- The parts that an accepted word may touch. -/
abbrev lifeParts : List Part := changeParts ++ modeParts ++ holdParts

/-- A call that is not tracked yet. -/
theorem track_eq {s : Switchboard n} {place : Fin n}
    (h : s.isTracked (s.ident place) = false) :
    ∃ t, Touches changeParts s t ∧ t.roster = (s.seat place (s.call place).state).roster ∧
      t.tracked = s.tracked ++ [place] ∧
      s.track place = (t.tellCrossings s.roster.headcount).adjustHoldTone := by
  have hseat := touches_seat s place (s.call place).state
  have hfront := touches_updateFront (s.seat place (s.call place).state)
  have hroster : (s.seat place (s.call place).state).updateFront.roster =
      (s.seat place (s.call place).state).roster := hfront.keeps .roster (by decide)
  have htracked : (s.seat place (s.call place).state).updateFront.tracked = s.tracked :=
    (hseat.trans hfront).keeps .tracked (by decide)
  rw [track, if_neg (by simp [h])]
  dsimp only
  generalize (s.seat place (s.call place).state).updateFront = t at hfront hroster htracked ⊢
  have hafter := (touches_updatePresence { t with tracked := t.tracked ++ [place] }).trans
    (touches_enter _ place (s.call place).state)
  have hall := ((hseat.trans hfront).trans (touches_tracked t _)).trans hafter
  refine ⟨_, hall.mono (by decide), Eq.trans (hafter.keeps .roster (by decide)) hroster,
    Eq.trans (hafter.keeps .tracked (by decide)) ?_, rfl⟩
  rw [htracked]

/-- A call that is tracked no more. -/
theorem untrack_eq {s : Switchboard n} {place : Fin n}
    (h : s.isTracked (s.ident place) = true) :
    ∃ t, Touches changeParts s t ∧ t.roster = s.roster.erase s.ident (s.ident place) ∧
      t.tracked = s.tracked.filter (fun other => s.ident other != s.ident place) ∧
      s.untrack place = (t.tellCrossings s.roster.headcount).adjustHoldTone := by
  have herase := touches_roster s (s.roster.erase s.ident (s.ident place))
  have hfront := touches_updateFront { s with roster := s.roster.erase s.ident (s.ident place) }
  have hroster : (updateFront { s with roster := s.roster.erase s.ident (s.ident place) }).roster =
      s.roster.erase s.ident (s.ident place) := hfront.keeps .roster (by decide)
  have htracked : (updateFront
      { s with roster := s.roster.erase s.ident (s.ident place) }).tracked = s.tracked :=
    (herase.trans hfront).keeps .tracked (by decide)
  have hident : (updateFront
      { s with roster := s.roster.erase s.ident (s.ident place) }).ident = s.ident :=
    (herase.trans hfront).ident (by decide)
  rw [untrack]
  dsimp only
  rw [if_pos h]
  generalize updateFront { s with roster := s.roster.erase s.ident (s.ident place) } = t
    at hfront hroster htracked hident ⊢
  have hafter := (touches_updatePresence { t with
      tracked := t.tracked.filter fun other => t.ident other != s.ident place }).trans
    (touches_leave _ place (s.call place).state)
  have hall := ((herase.trans hfront).trans (touches_tracked t _)).trans hafter
  refine ⟨_, hall.mono (by decide), Eq.trans (hafter.keeps .roster (by decide)) hroster,
    Eq.trans (hafter.keeps .tracked (by decide)) ?_, rfl⟩
  rw [hident, htracked]

theorem touches_afterCarrierMode (s : Switchboard n) (new : Call.State) :
    Touches carrierParts s (if s.carrierMode && new ≠ .ringing then s.endCarrierMode else s) := by
  split
  · exact touches_endCarrierMode s
  · exact Touches.refl _ s

/-- What follows from a change of state once the roster and the call in front are new. -/
theorem touches_afterMove (s : Switchboard n) (place : Fin n) (old new : Call.State) :
    Touches (toneParts ++ .told .ringback :: carrierParts) s
      (let s := s.playChangeTones place old new
       let s := if s.carrierMode && new ≠ .ringing then s.endCarrierMode else s
       (s.leave place old).enter place new) := by
  have htones := touches_playChangeTones s place old new
  generalize s.playChangeTones place old new = t at htones ⊢
  exact (((htones.trans (touches_afterCarrierMode t new)).trans (touches_leave _ _ _)).trans
    (touches_enter _ _ _)).mono (by decide)

/-- A tracked call that moved from one state to another. -/
theorem stateChanged_eq {s : Switchboard n} {place : Fin n} (old new : Call.State)
    (hheard : (s.call place).isIgnored = false) (h : s.isTracked (s.ident place) = true) :
    ∃ t, Touches changeParts s t ∧
      t.roster =
        (seat { s with roster := s.roster.erase s.ident (s.ident place) } place new).roster ∧
      t.tracked = s.tracked ∧
      s.stateChanged place old new = (t.tellCrossings s.roster.headcount).adjustHoldTone := by
  have hseat := (touches_roster s (s.roster.erase s.ident (s.ident place))).trans
    (touches_seat _ place new)
  have htracked : (seat { s with roster := s.roster.erase s.ident (s.ident place) } place
      new).tracked = s.tracked := hseat.keeps .tracked (by decide)
  rw [stateChanged, if_neg (by simp [hheard, h])]
  dsimp only
  generalize seat { s with roster := s.roster.erase s.ident (s.ident place) } place new = t
    at hseat htracked ⊢
  have hafter := ((touches_updatePresence t).trans (touches_updateFront _)).trans
    (touches_afterMove _ place old new)
  exact ⟨_, (hseat.trans hafter).mono (by decide), hafter.keeps .roster (by decide),
    Eq.trans (hafter.keeps .tracked (by decide)) htracked, rfl⟩

theorem track_of_tracked {s : Switchboard n} {place : Fin n}
    (h : s.isTracked (s.ident place) = true) : s.track place = s := by
  rw [track, if_pos h]

theorem untrack_of_untracked {s : Switchboard n} {place : Fin n}
    (h : s.isTracked (s.ident place) = false) : s.untrack place = s := by
  rw [untrack]
  exact if_neg (by simp [h])

theorem stateChanged_of_ignored {s : Switchboard n} {place : Fin n} (old new : Call.State)
    (h : (s.call place).isIgnored = true ∨ s.isTracked (s.ident place) = false) :
    s.stateChanged place old new = s := by
  rw [stateChanged]
  exact if_pos (by simpa using h)

/-- What a word about a call does: nothing at all, or a change that is told at its end. -/
def Heeds (s u : Switchboard n) : Prop :=
  u = s ∨ ∃ t, Touches changeParts s t ∧
    u = (t.tellCrossings s.roster.headcount).adjustHoldTone

theorem Heeds.touches {s u : Switchboard n} (h : Heeds s u) : Touches lifeParts s u := by
  rcases h with rfl | ⟨t, ht, rfl⟩
  · exact Touches.refl _ u
  · exact (ht.trans (touches_tellCrossings t _)).trans (touches_adjustHoldTone _)

theorem heeds_track (s : Switchboard n) (place : Fin n) : Heeds s (s.track place) := by
  cases h : s.isTracked (s.ident place) with
  | true => exact .inl (track_of_tracked h)
  | false =>
    obtain ⟨t, ht, -, -, heq⟩ := track_eq h
    exact .inr ⟨t, ht, heq⟩

theorem heeds_untrack (s : Switchboard n) (place : Fin n) : Heeds s (s.untrack place) := by
  cases h : s.isTracked (s.ident place) with
  | true =>
    obtain ⟨t, ht, -, -, heq⟩ := untrack_eq h
    exact .inr ⟨t, ht, heq⟩
  | false => exact .inl (untrack_of_untracked h)

theorem heeds_stateChanged (s : Switchboard n) (place : Fin n) (old new : Call.State) :
    Heeds s (s.stateChanged place old new) := by
  by_cases h : (s.call place).isIgnored = true ∨ s.isTracked (s.ident place) = false
  · exact .inl (stateChanged_of_ignored old new h)
  · simp only [not_or, Bool.not_eq_true, Bool.not_eq_false] at h
    obtain ⟨t, ht, -, -, heq⟩ := stateChanged_eq old new h.1 h.2
    exact .inr ⟨t, ht, heq⟩

theorem heeds_added (s : Switchboard n) (place : Fin n) : Heeds s (s.added place) := by
  unfold added
  split
  · exact .inl rfl
  · exact heeds_track s place

theorem heeds_removed (s : Switchboard n) (place : Fin n) : Heeds s (s.removed place) := by
  unfold removed
  split
  · exact .inl rfl
  · exact heeds_untrack s place

theorem heeds_conferenceChanged (s : Switchboard n) (place : Fin n) :
    Heeds s (s.conferenceChanged place) := by
  unfold conferenceChanged
  split
  · exact heeds_added s place
  · exact heeds_untrack s place

theorem touches_externalChanged (s : Switchboard n) (place : Fin n) (external : Bool) :
    Touches lifeParts s (s.externalChanged place external) := by
  unfold externalChanged
  split
  · exact (heeds_untrack s place).touches
  · have htrack := (heeds_track s place).touches
    dsimp only
    split
    · exact (htrack.trans (touches_autoSpeaker _)).mono (by decide)
    · exact htrack

theorem touches_quietUnlessOthersRing (s : Switchboard n) (place : Fin n) :
    Touches alerterParts s (s.quietUnlessOthersRing place) := by
  unfold quietUnlessOthersRing
  split
  · exact touches_fallQuiet s
  · split
    · exact touches_fallQuiet s
    · exact Touches.refl _ s
  · exact Touches.refl _ s

/-- An answered call is unmuted, unless it is handed over, before the ring is looked at. -/
def unmuted (s : Switchboard n) (place : Fin n) : Switchboard n :=
  if (s.call place).handover then s else s.mute false

theorem touches_unmuted (s : Switchboard n) (place : Fin n) :
    Touches routeParts s (s.unmuted place) := by
  unfold unmuted
  split
  · exact Touches.refl _ s
  · exact touches_mute s false

theorem touches_answered (s : Switchboard n) (place : Fin n) :
    Touches (routeParts ++ alerterParts) s (s.answered place) := by
  unfold answered
  split
  · exact (touches_unmuted s place).trans (touches_quietUnlessOthersRing _ place)
  · exact Touches.refl _ s

theorem touches_videoRequested (s : Switchboard n) (place : Fin n) (video : Video) :
    Touches alerterParts s (s.videoRequested place video) := by
  unfold videoRequested
  split
  · exact touches_playTone s _
  · exact Touches.refl _ s

theorem touches_voipChanged (s : Switchboard n) (place : Fin n) :
    Touches modeParts s (s.voipChanged place) := by
  unfold voipChanged
  split
  · exact touches_sendMode s _
  · exact Touches.refl _ s

theorem touches_ringbackRequested (s : Switchboard n) (place : Fin n) (on : Bool) :
    Touches [.told .ringback] s (s.ringbackRequested place on) := by
  unfold ringbackRequested
  split
  · exact touches_send s (.startRingback place)
  · exact touches_send s (.stopRingback place)

theorem touches_videoChanged (s : Switchboard n) (place : Fin n) (old new : Video) :
    Touches routeParts s (s.videoChanged place old new) := by
  unfold videoChanged
  split
  · exact touches_autoSpeaker s
  · exact Touches.refl _ s

theorem touches_atDesks (s : Switchboard n) (operation : Desks.Operation) :
    Touches [.desks] s (s.atDesks operation).1 := by
  unfold atDesks
  split
  · exact Touches.refl _ s
  · exact touches_desks s _

/-! ## Operations -/

/-- The parts that an operation may touch. -/
def Operation.parts : Operation n → List Part
  | .added _ => lifeParts
  | .removed _ => lifeParts
  | .moved _ _ => .attributes :: lifeParts
  | .stateChanged _ _ _ => lifeParts
  | .externalChanged _ _ => lifeParts
  | .conferenceChanged _ => lifeParts
  | .answered _ => routeParts ++ alerterParts
  | .rejected _ => alerterParts
  | .videoRequested _ _ => alerterParts
  | .holdToneRequested _ => holdParts
  | .voipChanged _ => modeParts
  | .ringbackRequested _ _ => [.told .ringback]
  | .connectionChanged _ => routeParts
  | .videoChanged _ _ _ => routeParts
  | .mute _ => routeParts
  | .toggleMute => routeParts
  | .setRoute _ _ => routeParts
  | .setRouteNumber _ _ => routeParts
  | .switchBaseline => routeParts
  | .setFocus _ => routeParts
  | .ringerModeChanged => modeParts
  | .operationsComplete => modeParts
  | .setTonePlaying _ => [.tonePlaying, .disconnectTonePlaying, .told .disconnectTone] ++ modeParts
  | .startRinging => alerterParts
  | .stopRinging => alerterParts
  | .startWaiting _ => alerterParts
  | .stopWaiting => alerterParts
  | .silenceRingers => .attributes :: alerterParts ++ modeParts
  | .alerter _ => .attributes :: alerterParts
  | .registry _ => [.registry]
  | .desks _ => [.desks]

theorem touches_perform (s : Switchboard n) (operation : Operation n) :
    Touches operation.parts s (s.perform operation).1 := by
  cases operation with
  | added place => exact (heeds_added s place).touches
  | removed place => exact (heeds_removed s place).touches
  | moved place state =>
    show Touches (.attributes :: lifeParts) s _
    exact ((touches_revise s place (.state state)).trans
      (heeds_stateChanged _ place _ state).touches).mono (by decide)
  | stateChanged place old new => exact (heeds_stateChanged s place old new).touches
  | externalChanged place external => exact touches_externalChanged s place external
  | conferenceChanged place => exact (heeds_conferenceChanged s place).touches
  | answered place => exact touches_answered s place
  | rejected place => exact touches_quietUnlessOthersRing s place
  | videoRequested place video => exact touches_videoRequested s place video
  | holdToneRequested => exact touches_adjustHoldTone s
  | voipChanged place => exact touches_voipChanged s place
  | ringbackRequested place on => exact touches_ringbackRequested s place on
  | connectionChanged => exact touches_sendRoute s .update
  | videoChanged place old new => exact touches_videoChanged s place old new
  | mute on => exact touches_mute s on
  | toggleMute => exact touches_toggleMute s
  | setRoute route address => exact touches_setRoute s route address
  | setRouteNumber value address => exact touches_setRouteNumber s value address
  | switchBaseline => exact touches_sendRoute s _
  | setFocus focus => exact touches_sendRoute s _
  | ringerModeChanged => exact touches_sendMode s _
  | operationsComplete => exact touches_sendMode s _
  | setTonePlaying on => exact touches_setTonePlaying s on
  | startRinging => exact touches_startRinging s
  | stopRinging => exact touches_stopRinging s
  | startWaiting reason => exact touches_startWaiting s reason
  | stopWaiting => exact touches_stopWaiting s
  | silenceRingers => exact touches_silenceRingers s
  | alerter operation =>
    exact touches_onAlerter s (fun alerter => alerter.touches_perform operation)
      operation.natures_notMem_parts
  | registry registry => exact touches_registry s registry
  | desks operation => exact touches_atDesks s operation

theorem natures_notMem_parts (operation : Operation n) : Part.natures ∉ operation.parts := by
  cases operation <;> simp [Operation.parts]

/-- No run changes what is settled about a call. -/
theorem nature_run (s : Switchboard n) (operations : List (Operation n)) (place : Fin n) :
    ((s.run operations).call place).nature = (s.call place).nature := by
  induction operations generalizing s with
  | nil => rfl
  | cons operation rest ih =>
    have hstep := touches_perform s operation
    exact (ih _).trans (hstep.natures (natures_notMem_parts operation) place)

end PhoneAudio.Switchboard
