import Mathlib.Tactic.ByContra
import PhoneAudio.Proofs.Alerter.Rung

/-!
# Rings of a call's own kind

A call with a carrier ring is rung by raising the voice volume, and any other by a
ringtone: this is the ring of its own kind. Whether it is heard is decided by the facts
about the call alone. What a ring of its own kind says about the volumes and to the
ringtone player, and which call rings after it, is known exactly (`RingsOwn`), and of the
two requests to ring it is the one of the right kind that rings so. The other one does
it only for a call that is not heard anyway (`ringsOwn_startCarrierRing_iff`,
`ringsOwn_startRinging_iff`).
-/

namespace PhoneAudio.Alerter

variable {n : Nat} {s t : Alerter n} {parts : List Part}

/-! ## The ring of its own kind -/

/-- The facts about a ring of the call's own kind: a carrier ring needs no ringtone. -/
def ownInputs (s : Alerter n) (place : Fin n) : RingInputs :=
  s.inputs place
    ((s.call place).carrierRing || (s.surroundings.ringtoneOf (s.call place)).isSome)

/-- Whether a ring of the call's own kind is heard: it is audible and does not end early. -/
def isHeard (s : Alerter n) (place : Fin n) : Bool :=
  (s.ownInputs place).isAudible && !(s.ownInputs place).endsEarly

/-- What raising the voice volume says about the volumes. The watch begins with the first
raise. -/
def voiceRaise (s : Alerter n) : List (Command n) :=
  .setVolume .voiceCall (carrierVolume s.surroundings.ringVolume) ::
    match s.override with
    | none => [.watchVolume (s.watches + 1)]
    | some _ => []

/-- What is said to the player of the call's ringtone. -/
def tune (s : Alerter n) (place : Fin n) : List (Command n) :=
  (s.surroundings.ringtoneOf (s.call place)).toList.map fun ringtone =>
    .play ringtone s.curve s.isMotorEnabled

/-- From `s` to `t` a call is rung by the ring of its own kind. If it is heard it is the
call that rings; a carrier ring raises the voice volume and plays nothing, and any other
ring plays the ringtone and leaves the volumes alone. -/
structure RingsOwn (s t : Alerter n) (place : Fin n) : Prop where
  ringing : t.ringing = if s.isHeard place then some place else s.ringing
  override : t.override.isSome =
    (s.override.isSome || (s.isHeard place && (s.call place).carrierRing))
  volume : t.told .volume = s.told .volume ++
    if s.isHeard place && (s.call place).carrierRing then s.voiceRaise else []
  ringtone : t.told .ringtone = s.told .ringtone ++
    if s.isHeard place && !(s.call place).carrierRing then s.tune place else []

/-- The parts in which a ring of its own kind is seen. -/
abbrev ringFacts : List Part := [.ringing, .override, .told .volume, .told .ringtone]

/-- For a call that is not heard nothing is to be seen. -/
theorem Touches.ringsOwn (h : Touches parts s t) (hparts : ∀ part ∈ ringFacts, part ∉ parts)
    {place : Fin n} (hsilent : s.isHeard place = false) : RingsOwn s t place where
  ringing := by
    rw [hsilent]
    exact h.keeps .ringing (hparts _ (by simp))
  override := by
    rw [hsilent, Bool.false_and, Bool.or_false]
    exact congrArg Option.isSome (h.keeps .override (hparts _ (by simp)))
  volume := by
    rw [hsilent, Bool.false_and, if_neg (by simp), List.append_nil]
    exact h.keeps (.told .volume) (hparts _ (by simp))
  ringtone := by
    rw [hsilent, Bool.false_and, if_neg (by simp), List.append_nil]
    exact h.keeps (.told .ringtone) (hparts _ (by simp))

/-! ## Requests for a ringtone -/

/-- The facts about a request to ring by a ringtone. -/
def toneInputs (s : Alerter n) (place : Fin n) : RingInputs :=
  s.inputs place (s.surroundings.ringtoneOf (s.call place)).isSome

theorem startRinging_eq {place : Fin n} (handsFree : Bool)
    (h : (s.call place).state.isRinging = true) :
    (s.startRinging (some place) handsFree).1 =
      if (s.toneInputs place).endsEarly then s.noteEarlyEnd place (s.toneInputs place)
      else s.renderRing place (s.surroundings.ringtoneOf (s.call place)) (s.toneInputs place) := by
  simp only [startRinging, h, if_true]
  rfl

theorem startRinging_answer {place : Fin n} (handsFree : Bool)
    (h : (s.call place).state.isRinging = true) :
    (s.startRinging (some place) handsFree).2 = (s.toneInputs place).wantsFocus handsFree := by
  simp only [startRinging, h, if_true]
  rfl

theorem told_ringAloud (s : Alerter n) (place : Fin n) (ringtone : Ringtone)
    (contact enabled : Bool) :
    (s.ringAloud place ringtone contact enabled).told .ringtone =
      s.told .ringtone ++ [.play ringtone s.curve enabled] := by
  have hplay : ({ s.beginRing place with playing := true }.send
      (.play ringtone s.curve enabled)).told .ringtone =
        s.told .ringtone ++ [.play ringtone s.curve enabled] := by
    simp [told, send, beginRing, note, Command.channel]
  unfold ringAloud
  dsimp only
  split
  · exact Eq.trans ((touches_schedule _ _ _).keeps (.told .ringtone) (by decide)) hplay
  · exact Eq.trans ((touches_vibrateFor _ _ _ _ _ _).keeps (.told .ringtone) (by decide)) hplay

theorem ringing_ringAloud (s : Alerter n) (place : Fin n) (ringtone : Ringtone)
    (contact enabled : Bool) :
    (s.ringAloud place ringtone contact enabled).ringing = some place := by
  unfold ringAloud
  dsimp only
  split
  · exact (touches_schedule _ _ _).keeps .ringing (by decide)
  · exact (touches_vibrateFor _ _ _ _ _ _).keeps .ringing (by decide)

theorem Touches.curve (h : Touches parts s t) (hparts : Part.settings ∉ parts) :
    t.curve = s.curve := by
  have hsettings : t.settings = s.settings := h.keeps .settings hparts
  rw [Alerter.curve, Alerter.curve, hsettings]

/-- A ring by a ringtone plays it if the call is audible. -/
theorem renderRing_of_audible (s : Alerter n) (place : Fin n) {ringtone : Option Ringtone}
    {inputs : RingInputs} (h : inputs.isAudible = true)
    (hsource : inputs.source = ringtone.isSome) :
    (s.renderRing place ringtone inputs).ringing = some place ∧
      (s.renderRing place ringtone inputs).told .ringtone = s.told .ringtone ++
        ringtone.toList.map fun ringtone => .play ringtone s.curve s.isMotorEnabled := by
  have hwaited := touches_stopWaiting s
  have hnoted := hwaited.trans (touches_noteMotor _ place)
  have henabled : s.stopWaiting.isMotorEnabled = s.isMotorEnabled :=
    hwaited.isMotorEnabled (by decide)
  have hcurve : (s.stopWaiting.noteMotor place).curve = s.curve := hnoted.curve (by decide)
  have htold : (s.stopWaiting.noteMotor place).told .ringtone = s.told .ringtone :=
    hnoted.keeps (.told .ringtone) (by decide)
  cases ringtone with
  | none =>
    have hsilent : inputs.isAudible = false := by
      rw [RingInputs.isAudible, hsource]
      exact Bool.and_false _
    rw [h] at hsilent
    cases hsilent
  | some ringtone =>
    unfold renderRing
    dsimp only
    rw [if_pos h, henabled]
    constructor
    · refine Eq.trans ((touches_flashOn _).keeps .ringing (by decide)) ?_
      exact ringing_ringAloud _ place ringtone _ _
    · refine Eq.trans ((touches_flashOn _).keeps (.told .ringtone) (by decide)) ?_
      rw [told_ringAloud, hcurve, htold]
      rfl

/-- The parts that a request to ring touches if the call is not audible. -/
abbrev silentParts : List Part := [.waiting, .told .tone, .flashing, .told .flash] ++ feltParts

theorem touches_renderRing_of_inaudible (s : Alerter n) (place : Fin n)
    (ringtone : Option Ringtone) {inputs : RingInputs} (h : inputs.isAudible = false) :
    Touches silentParts s (s.renderRing place ringtone inputs) := by
  have hnoted := (touches_stopWaiting s).trans (touches_noteMotor _ place)
  have hsilently := fun enabled => (hnoted.trans (touches_ringSilently _ place inputs enabled)).trans
    (touches_flashOn _)
  unfold renderRing
  dsimp only
  cases ringtone with
  | none => exact (hsilently _).mono (by decide)
  | some ringtone =>
    dsimp only
    rw [if_neg (by simp [h])]
    exact (hsilently _).mono (by decide)

theorem endsEarly_toneInputs (s : Alerter n) (place : Fin n) :
    (s.toneInputs place).endsEarly = (s.ownInputs place).endsEarly := rfl

/-- A call that is audible by a ringtone is audible by the ring of its own kind. -/
theorem isAudible_ownInputs {place : Fin n} (h : (s.toneInputs place).isAudible = true) :
    (s.ownInputs place).isAudible = true := by
  obtain ⟨hadmitted, hsource⟩ := Bool.and_eq_true_iff.mp h
  have hown : (s.ownInputs place).source = true := by
    show ((s.call place).carrierRing || (s.surroundings.ringtoneOf (s.call place)).isSome) = true
    rw [show (s.surroundings.ringtoneOf (s.call place)).isSome = true from hsource, Bool.or_true]
  exact Bool.and_eq_true_iff.mpr ⟨hadmitted, hown⟩

theorem isHeard_iff {place : Fin n} :
    s.isHeard place = true ↔
      (s.ownInputs place).isAudible = true ∧ (s.ownInputs place).endsEarly = false := by
  rw [isHeard, Bool.and_eq_true, Bool.not_eq_true']

theorem touches_startRinging_of_unheard {place : Fin n} (handsFree : Bool)
    (h : (s.call place).state.isRinging = true) (hsilent : s.isHeard place = false) :
    Touches silentParts s (s.startRinging (some place) handsFree).1 := by
  rw [startRinging_eq handsFree h]
  split
  · exact (touches_noteEarlyEnd s _ _).mono (by decide)
  next hlate =>
    apply touches_renderRing_of_inaudible
    by_contra haudible
    rw [Bool.not_eq_false] at haudible
    rw [Bool.not_eq_true, endsEarly_toneInputs] at hlate
    rw [isHeard_iff.mpr ⟨isAudible_ownInputs haudible, hlate⟩] at hsilent
    cases hsilent

/-- A request for a ringtone rings a call that has no carrier ring by its own kind. -/
theorem ringsOwn_startRinging {place : Fin n} (handsFree : Bool)
    (h : (s.call place).state.isRinging = true) (hordinary : (s.call place).carrierRing = false) :
    RingsOwn s (s.startRinging (some place) handsFree).1 place := by
  cases hheard : s.isHeard place with
  | false => exact (touches_startRinging_of_unheard handsFree h hheard).ringsOwn (by decide) hheard
  | true =>
    obtain ⟨haudible, hlate⟩ := isHeard_iff.mp hheard
    have hown : s.ownInputs place = s.toneInputs place := by
      rw [ownInputs, hordinary, Bool.false_or]
      rfl
    have hring : (s.startRinging (some place) handsFree).1 =
        s.renderRing place (s.surroundings.ringtoneOf (s.call place)) (s.toneInputs place) := by
      rw [startRinging_eq handsFree h, ← hown, if_neg (by simp [hlate])]
    have hsource : (s.toneInputs place).source =
        (s.surroundings.ringtoneOf (s.call place)).isSome := rfl
    have hrings := s.renderRing_of_audible place (hown ▸ haudible) hsource
    have htouch := s.touches_startRinging (some place) handsFree
    have hoverride : (s.startRinging (some place) handsFree).1.override = s.override :=
      htouch.keeps .override (by decide)
    refine ⟨?_, ?_, ?_, ?_⟩
    · rw [hheard, hring]
      exact hrings.1
    · rw [hoverride, hordinary, Bool.and_false, Bool.or_false]
    · rw [hordinary, Bool.and_false, if_neg (by simp), List.append_nil]
      exact htouch.keeps (.told .volume) (by decide)
    · rw [hheard, hordinary, hring]
      exact hrings.2

theorem ringsOwn_startRinging_iff {place : Fin n} (handsFree : Bool)
    (h : (s.call place).state.isRinging = true) :
    RingsOwn s (s.startRinging (some place) handsFree).1 place ↔
      (s.call place).carrierRing = false ∨ s.isHeard place = false := by
  constructor
  · intro hrings
    by_contra hboth
    simp only [not_or, Bool.not_eq_false] at hboth
    obtain ⟨hcarrier, hheard⟩ := hboth
    -- a ringtone says nothing about the volumes, and the carrier ring of the call would
    have hvolume : (s.startRinging (some place) handsFree).1.told .volume = s.told .volume :=
      (s.touches_startRinging (some place) handsFree).keeps (.told .volume) (by decide)
    have hraised := hrings.volume
    rw [hvolume, hheard, hcarrier, Bool.and_self, if_pos rfl, List.self_eq_append_right] at hraised
    cases hraised
  · rintro (hordinary | hsilent)
    · exact ringsOwn_startRinging handsFree h hordinary
    · exact (touches_startRinging_of_unheard handsFree h hsilent).ringsOwn (by decide) hsilent

/-! ## Requests for the carrier's ring -/

theorem startCarrierRing_eq {place : Fin n} (handsFree : Bool)
    (h : (s.call place).state.isRinging = true) (hcarrier : (s.call place).carrierRing = true) :
    (s.startCarrierRing (some place) handsFree).1 =
      if (s.ownInputs place).endsEarly then s.noteEarlyEnd place (s.ownInputs place)
      else s.renderCarrierRing place (s.ownInputs place) := by
  simp only [startCarrierRing, ownInputs, h, hcarrier, Bool.and_self, Bool.true_or, if_true]

/-- A call without a carrier ring is refused. -/
theorem startCarrierRing_of_ordinary {place : Fin n} (handsFree : Bool)
    (hordinary : (s.call place).carrierRing = false) :
    s.startCarrierRing (some place) handsFree = (s, false) := by
  simp [startCarrierRing, hordinary]

theorem told_raiseVoice (s : Alerter n) :
    s.raiseVoice.told .volume = s.told .volume ++ s.voiceRaise := by
  unfold raiseVoice voiceRaise
  dsimp only
  cases hoverride : s.override with
  | none =>
    simp [told, setVolume, changeVolume, hearVolume, send, watchVolume, Command.channel, hoverride]
  | some override =>
    by_cases hheard : override.token ∈ s.watching <;>
      simp [told, setVolume, changeVolume, hearVolume, send, Command.channel, hoverride, hheard]

theorem override_raiseVoice (s : Alerter n) : s.raiseVoice.override.isSome = true := by
  unfold raiseVoice
  dsimp only
  cases s.override <;> rfl

theorem Touches.voiceRaise (h : Touches parts s t)
    (hparts : ∀ part ∈ voiceParts, part ∉ parts) : t.voiceRaise = s.voiceRaise := by
  have hvolumes : t.surroundings.volume = s.surroundings.volume :=
    h.keeps .volumes (hparts _ (by simp))
  have hring : t.surroundings.ringVolume = s.surroundings.ringVolume := congrFun hvolumes .ring
  have hoverride : t.override = s.override := h.keeps .override (hparts _ (by simp))
  have hwatches : t.watches = s.watches := h.keeps .watches (hparts _ (by simp))
  rw [Alerter.voiceRaise, Alerter.voiceRaise, hring, hoverride, hwatches]

/-- A carrier ring raises the voice volume if the call is audible. -/
theorem renderCarrierRing_of_audible (s : Alerter n) (place : Fin n) {inputs : RingInputs}
    (h : inputs.isAudible = true) :
    (s.renderCarrierRing place inputs).ringing = some place ∧
      (s.renderCarrierRing place inputs).override.isSome = true ∧
      (s.renderCarrierRing place inputs).told .volume = s.told .volume ++ s.voiceRaise := by
  have hbegun := ((touches_stopWaiting s).trans (touches_noteMotor _ place)).trans
    (touches_beginRing _ place)
  have htold : ((s.stopWaiting.noteMotor place).beginRing place).told .volume = s.told .volume :=
    hbegun.keeps (.told .volume) (by decide)
  have hvibrates := fun effect enabled => touches_vibrateFor
    ((s.stopWaiting.noteMotor place).beginRing place).raiseVoice none place inputs.contact effect
    enabled
  unfold renderCarrierRing
  dsimp only
  rw [if_pos h]
  refine ⟨?_, ?_, ?_⟩
  · refine Eq.trans ((hvibrates _ _).keeps .ringing (by decide)) ?_
    exact (touches_raiseVoice _).keeps .ringing (by decide)
  · refine (congrArg Option.isSome ((hvibrates _ _).keeps .override (by decide))).trans ?_
    exact override_raiseVoice _
  · refine Eq.trans ((hvibrates _ _).keeps (.told .volume) (by decide)) ?_
    rw [told_raiseVoice, htold, hbegun.voiceRaise (by decide)]

theorem touches_renderCarrierRing_of_inaudible (s : Alerter n) (place : Fin n)
    {inputs : RingInputs} (h : inputs.isAudible = false) :
    Touches silentParts s (s.renderCarrierRing place inputs) := by
  have hnoted := (touches_stopWaiting s).trans (touches_noteMotor _ place)
  have hinaudible : Touches [.logs, .told .log] (s.stopWaiting.noteMotor place)
      ((s.stopWaiting.noteMotor place).noteInaudibleCarrier place inputs) := touches_note _ _ _ _
  unfold renderCarrierRing
  dsimp only
  rw [if_neg (by simp [h])]
  exact ((hnoted.trans hinaudible).trans (touches_vibrateFor _ _ _ _ _ _)).mono (by decide)

/-- A request for the carrier's ring rings a call that has one by its own kind. -/
theorem ringsOwn_startCarrierRing {place : Fin n} (handsFree : Bool)
    (h : (s.call place).state.isRinging = true) (hcarrier : (s.call place).carrierRing = true) :
    RingsOwn s (s.startCarrierRing (some place) handsFree).1 place := by
  cases hearly : (s.ownInputs place).endsEarly with
  | true =>
    have hsilent : s.isHeard place = false := by simp [isHeard, hearly]
    rw [startCarrierRing_eq handsFree h hcarrier, if_pos hearly]
    exact (touches_noteEarlyEnd s place _).ringsOwn (by decide) hsilent
  | false =>
    rw [startCarrierRing_eq handsFree h hcarrier, if_neg (by simp [hearly])]
    cases haudible : (s.ownInputs place).isAudible with
    | false =>
      have hsilent : s.isHeard place = false := by simp [isHeard, haudible]
      exact (touches_renderCarrierRing_of_inaudible s place haudible).ringsOwn (by decide) hsilent
    | true =>
      have hheard : s.isHeard place = true := isHeard_iff.mpr ⟨haudible, hearly⟩
      obtain ⟨hringing, hoverride, hvolume⟩ := s.renderCarrierRing_of_audible place haudible
      refine ⟨?_, ?_, ?_, ?_⟩
      · rw [hheard, hringing, if_pos rfl]
      · rw [hheard, hcarrier, hoverride, Bool.and_self, Bool.or_true]
      · rw [hheard, hcarrier, hvolume, Bool.and_self, if_pos rfl]
      · rw [hcarrier, Bool.not_true, Bool.and_false, if_neg (by simp), List.append_nil]
        exact (touches_renderCarrierRing s place _).keeps (.told .ringtone) (by decide)

theorem ringsOwn_startCarrierRing_iff {place : Fin n} (handsFree : Bool)
    (h : (s.call place).state.isRinging = true) :
    RingsOwn s (s.startCarrierRing (some place) handsFree).1 place ↔
      (s.call place).carrierRing = true ∨ s.isHeard place = false := by
  constructor
  · intro hrings
    by_contra hboth
    simp only [not_or, Bool.not_eq_false, Bool.not_eq_true] at hboth
    obtain ⟨hordinary, hheard⟩ := hboth
    -- the call is refused, and there is a ringtone that would have been played for it
    have hsource := (Bool.and_eq_true_iff.mp (isHeard_iff.mp hheard).1).2
    have hplayed := hrings.ringtone
    rw [startCarrierRing_of_ordinary handsFree hordinary, hheard, hordinary, Bool.not_false,
      Bool.and_self, if_pos rfl, List.self_eq_append_right, tune, List.map_eq_nil_iff,
      Option.toList_eq_nil_iff] at hplayed
    simp [ownInputs, inputs, RingInputs.ofCall, hordinary, hplayed] at hsource
  · rintro (hcarrier | hsilent)
    · exact ringsOwn_startCarrierRing handsFree h hcarrier
    · cases hcarrier : (s.call place).carrierRing with
      | true => exact ringsOwn_startCarrierRing handsFree h hcarrier
      | false =>
        rw [startCarrierRing_of_ordinary handsFree hcarrier]
        exact (Touches.refl [] s).ringsOwn (by decide) hsilent

end PhoneAudio.Alerter
