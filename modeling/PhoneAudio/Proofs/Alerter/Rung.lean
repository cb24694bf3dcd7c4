import PhoneAudio.Proofs.Alerter.Request
import PhoneAudio.Proofs.Alerter.Teardown

/-!
# The vibrations of a ring, step by step

A vibration for a ring starts either at once, when a request to ring is rendered, or
later, when the plan of a request that waited is carried out. `rung` are the effects
that were started, in their order, and `pending` is the plan that waits.

Every operation does one of three things. One that silences starts no vibration, and no
plan waits after it (`perform_of_silences`). A request that is rendered `Decides`: it
starts one vibration that it justifies, or it leaves a plan of such vibrations to wait.
Any other operation `Carries`: it leaves both as they are, or it carries out the plan
that waits, once and for all (`perform_rings`).
-/

namespace PhoneAudio.Alerter

variable {n : Nat}

/-! ## What has rung, and what may still ring -/

/-- The effect of a vibration for a ring. -/
def Command.ringEffect? : Command n → Option Vibration.Effect
  | .motor (.vibrate effect .ringtone) => some effect
  | _ => none

/-- The vibrations for rings that the motor was told to start, oldest first. -/
def rung (s : Alerter n) : List Vibration.Effect := s.sent.filterMap Command.ringEffect?

/-- The plan that waits for word from the ringtone player. -/
def pending (s : Alerter n) : Option (Plan n) := s.wait.map Wait.plan

/-- The vibrations that a plan may start. -/
structure Plan.Warrants (plan : Plan n) (effect : Vibration.Effect) : Prop where
  enabled : plan.enabled = true
  contact : plan.contact = true
  effect : effect = plan.effect ∨ effect = plan.fallback

/-- The effect of the vibration that a request asks for. -/
def effectOf (s : Alerter n) (request : Request n) : Vibration.Effect :=
  if request.inputs.isAudible then s.selectEffect request.call else s.ringEffect

/-- The effects that a request takes from the settings of its time: the one it asks for
and, unless the carrier rings, the one to fall back on. -/
def captured (s : Alerter n) (request : Request n) : List Vibration.Effect :=
  if request.byCarrier then [s.effectOf request] else [s.effectOf request, s.ringEffect]

/-- The vibrations that a request justifies. -/
structure Justifies (s : Alerter n) (request : Request n) (effect : Vibration.Effect) : Prop where
  enabled : s.isMotorEnabled = true
  contact : s.surroundings.admits (s.call request.call).contact = true
  captured : effect ∈ s.captured request

/-- Whether an operation ends every ring: a stop, and a waiting tone that is not skipped. -/
def silences (s : Alerter n) : Operation n → Bool
  | .stopRinging => true
  | .startWaiting place _ =>
    !(s.settings.theaterMode || s.surroundings.dialerRings || (s.call place).traits.selfManaged)
  | _ => false

/-! ## Steps that ring nothing -/

/-- No vibration for a ring started, and the same plan waits. -/
structure Keeps (s t : Alerter n) : Prop where
  rung : t.rung = s.rung
  pending : t.pending = s.pending

theorem Keeps.refl (s : Alerter n) : Keeps s s := ⟨rfl, rfl⟩

theorem Keeps.trans {s t u : Alerter n} (h₁ : Keeps s t) (h₂ : Keeps t u) : Keeps s u :=
  ⟨h₂.rung.trans h₁.rung, h₂.pending.trans h₁.pending⟩

theorem ringEffect?_eq_none {command : Command n}
    (h : command.topic ≠ .motor (.vibration .ringtone)) : command.ringEffect? = none := by
  cases command with
  | motor told =>
    cases told with
    | vibrate effect usage =>
      cases usage with
      | ringtone => exact absurd rfl h
      | _ => rfl
    | stop => rfl
  | _ => rfl

theorem Says.rung {topics : List Topic} {s t : Alerter n} (h : Says topics s t)
    (htopics : .motor (.vibration .ringtone) ∉ topics) : t.rung = s.rung :=
  h.filterMap fun _ hmem => ringEffect?_eq_none fun htopic => htopics (htopic ▸ hmem)

theorem Touches.pending {parts : List Part} {s t : Alerter n} (h : Touches parts s t)
    (hwait : Part.wait ∉ parts) : t.pending = s.pending :=
  congrArg (Option.map Wait.plan) (h.keeps .wait hwait)

theorem Keeps.of_step {parts : List Part} {topics : List Topic} {s t : Alerter n}
    (htouch : Touches parts s t) (hsaid : Says topics s t) (hwait : Part.wait ∉ parts)
    (htopics : .motor (.vibration .ringtone) ∉ topics) : Keeps s t :=
  ⟨hsaid.rung htopics, htouch.pending hwait⟩

theorem keeps_note (s : Alerter n) (place : Fin n) (event : Call.Event)
    (detail : Option String) : Keeps s (s.note place event detail) :=
  .of_step (touches_note s place event detail) (says_note s place event detail) (by decide)
    (by simp)

theorem keeps_passUntil (s : Alerter n) (deadline : Nat) : Keeps s (s.passUntil deadline) :=
  .of_step (touches_passUntil s deadline) (says_passUntil s deadline) (by decide) (by decide)

theorem keeps_passFirst (s : Alerter n) (count : Nat) : Keeps s (s.passFirst count) :=
  .of_step (touches_onMotor s _) (says_passFirst s count) (by decide) (by decide)

/-! ## Steps that may ring -/

/-- At most one vibration for a ring started, an allowed one, and the same plan waits. -/
structure Rings (allowed : Vibration.Effect → Prop) (s t : Alerter n) : Prop where
  rung : t.rung = s.rung ∨ ∃ effect, allowed effect ∧ t.rung = s.rung ++ [effect]
  pending : t.pending = s.pending

theorem Keeps.rings {allowed : Vibration.Effect → Prop} {s t : Alerter n} (h : Keeps s t) :
    Rings allowed s t :=
  ⟨.inl h.rung, h.pending⟩

theorem Rings.mono {allowed more : Vibration.Effect → Prop} {s t : Alerter n}
    (h : Rings allowed s t) (sub : ∀ effect, allowed effect → more effect) : Rings more s t := by
  obtain ⟨hsame | ⟨effect, hallowed, hrung⟩, hpending⟩ := h
  · exact ⟨.inl hsame, hpending⟩
  · exact ⟨.inr ⟨effect, sub effect hallowed, hrung⟩, hpending⟩

theorem Rings.before {allowed : Vibration.Effect → Prop} {s t u : Alerter n}
    (h : Rings allowed t u) (hs : Keeps s t) : Rings allowed s u :=
  ⟨hs.rung ▸ h.rung, h.pending.trans hs.pending⟩

theorem Rings.after {allowed : Vibration.Effect → Prop} {s t u : Alerter n}
    (h : Rings allowed s t) (ht : Keeps t u) : Rings allowed s u :=
  ⟨ht.rung.symm ▸ h.rung, ht.pending.trans h.pending⟩

/-- What the motor is told to start on the way through its gate. -/
theorem rung_onMotor_start (s : Alerter n) (generation : Option UInt64) (place : Fin n)
    (effect : Vibration.Effect) :
    let t := (s.onMotor fun motor =>
      match generation with
      | some generation => motor.startIfCurrent generation (some place) effect .ringtone
      | none => motor.start (some place) effect .ringtone).1
    t.rung = s.rung ∨ t.rung = s.rung ++ [effect] := by
  have hrung : ∀ gate : Gate (Fin n), gate.sent = [] ∨ gate.sent = [.vibrate effect .ringtone] →
      (s.sent ++ gate.sent.map Command.motor).filterMap Command.ringEffect? = s.rung ∨
      (s.sent ++ gate.sent.map Command.motor).filterMap Command.ringEffect? =
        s.rung ++ [effect] := by
    rintro gate (hsent | hsent)
    · left
      rw [hsent, List.map_nil, List.append_nil]
      rfl
    · right
      rw [hsent, List.filterMap_append]
      rfl
  cases generation with
  | none => exact hrung _ (Gate.sent_start _ (some place) effect .ringtone)
  | some generation =>
    refine hrung (Gate.startIfCurrent _ generation (some place) effect .ringtone).1 ?_
    unfold Gate.startIfCurrent
    split
    · exact Gate.sent_start _ (some place) effect .ringtone
    · exact .inl rfl

theorem rings_vibrateFor (s : Alerter n) (generation : Option UInt64) (place : Fin n)
    (contact : Bool) (effect : Vibration.Effect) (enabled : Bool) :
    Rings (fun other => enabled = true ∧ contact = true ∧ other = effect) s
      (s.vibrateFor generation place contact effect enabled) := by
  refine ⟨?_, (touches_vibrateFor s _ _ _ _ _).pending (by decide)⟩
  unfold vibrateFor
  split
  next s' started h =>
  have hs : s'.rung = s.rung ∨
      ∃ other, (enabled = true ∧ contact = true ∧ other = effect) ∧
        s'.rung = s.rung ++ [other] := by
    split at h
    next hboth =>
      obtain rfl : _ = s' := congrArg Prod.fst h
      rw [Bool.and_eq_true] at hboth
      rcases rung_onMotor_start s generation place effect with hsame | hrung
      · exact .inl hsame
      · exact .inr ⟨effect, ⟨hboth.1, hboth.2, rfl⟩, hrung⟩
    next =>
      obtain rfl : s = s' := congrArg Prod.fst h
      exact .inl rfl
  split
  · exact hs
  · split
    · rw [(keeps_note s' _ _ _).rung]
      exact hs
    · exact hs

theorem rings_fallBack (s : Alerter n) (generation : Option UInt64) (plan : Plan n) :
    Rings plan.Warrants s (s.fallBack generation plan) := by
  refine (rings_vibrateFor s _ _ _ _ _).mono ?_
  rintro effect ⟨henabled, hcontact, rfl⟩
  exact ⟨henabled, hcontact, .inr rfl⟩

theorem rings_carryOut (s : Alerter n) (generation : Option UInt64) (plan : Plan n)
    (coupled : Bool) : Rings plan.Warrants s (s.carryOut generation plan coupled) := by
  unfold carryOut
  split
  · refine (rings_vibrateFor s _ _ _ _ _).mono ?_
    rintro effect ⟨henabled, hcontact, rfl⟩
    exact ⟨henabled, hcontact, .inl rfl⟩
  · exact (keeps_note s _ _ _).rings

/-! ## Requests decide -/

/-- A vibration is started at once, or a plan is left to wait for it. -/
inductive Decides (allowed : Vibration.Effect → Prop) (s t : Alerter n) : Prop
  | atOnce (h : Rings allowed s t)
  | later (plan : Plan n) (hallowed : ∀ effect, plan.Warrants effect → allowed effect)
      (hrung : t.rung = s.rung) (hpending : t.pending = some plan)

theorem Decides.mono {allowed more : Vibration.Effect → Prop} {s t : Alerter n}
    (h : Decides allowed s t) (sub : ∀ effect, allowed effect → more effect) :
    Decides more s t := by
  cases h with
  | atOnce h => exact .atOnce (h.mono sub)
  | later plan hallowed hrung hpending =>
    exact .later plan (fun effect heffect => sub effect (hallowed effect heffect)) hrung hpending

theorem Decides.before {allowed : Vibration.Effect → Prop} {s t u : Alerter n}
    (h : Decides allowed t u) (hs : Keeps s t) : Decides allowed s u := by
  cases h with
  | atOnce h => exact .atOnce (h.before hs)
  | later plan hallowed hrung hpending =>
    exact .later plan hallowed (hrung.trans hs.rung) hpending

theorem Decides.after {allowed : Vibration.Effect → Prop} {s t u : Alerter n}
    (h : Decides allowed s t) (ht : Keeps t u) : Decides allowed s u := by
  cases h with
  | atOnce h => exact .atOnce (h.after ht)
  | later plan hallowed hrung hpending =>
    exact .later plan hallowed (ht.rung.trans hrung) (ht.pending.trans hpending)

/-- With a runtime the plan waits; without one it is carried out at once. -/
theorem decides_schedule (s : Alerter n) (signal : HapticsSignal) (plan : Plan n) :
    Decides plan.Warrants s (s.schedule signal plan) := by
  unfold schedule
  split
  · exact .later plan (fun _ h => h) rfl rfl
  · cases signal with
    | known coupled => exact .atOnce (rings_carryOut s none plan coupled)
    | lost => exact .atOnce (rings_fallBack s none plan)
    | awaited => exact .atOnce (rings_fallBack s none plan)

/-! ### The facts of a request

A request looks at the facts that decide about its vibration one after the other, with
notes, the end of the waiting tone and the start of the ring in between. None of these
touches the facts. -/

/-- The parts that the facts are read off. -/
abbrev factParts : List Part := [.natures, .settings, .ringEffect, .answers]

variable {parts : List Part} {s t : Alerter n}

theorem Touches.isMotorEnabled (h : Touches parts s t) (hparts : ∀ part ∈ factParts, part ∉ parts) :
    t.isMotorEnabled = s.isMotorEnabled := by
  have hsettings : t.settings = s.settings := h.keeps .settings (hparts _ (by simp))
  have hanswers : t.answers = s.answers := h.keeps .answers (hparts _ (by simp))
  have hmotor : t.surroundings.hasMotor = s.surroundings.hasMotor :=
    (congrArg Surroundings.hasMotor hanswers :)
  have hmode : t.surroundings.ringerMode = s.surroundings.ringerMode :=
    (congrArg Surroundings.ringerMode hanswers :)
  rw [Alerter.isMotorEnabled, Alerter.isMotorEnabled, hsettings, hmotor, hmode]

theorem Touches.selectEffect (h : Touches parts s t) (hparts : ∀ part ∈ factParts, part ∉ parts)
    (place : Fin n) : t.selectEffect place = s.selectEffect place := by
  have hsettings : t.settings = s.settings := h.keeps .settings (hparts _ (by simp))
  have heffect : t.ringEffect = s.ringEffect := h.keeps .ringEffect (hparts _ (by simp))
  have hanswers : t.answers = s.answers := h.keeps .answers (hparts _ (by simp))
  have hnatures : t.natures = s.natures := h.keeps .natures (hparts _ (by simp))
  have hringtone : (t.call place).ringtone = (s.call place).ringtone :=
    congrArg Call.Nature.ringtone (congrFun hnatures place)
  have hdefault : t.surroundings.defaultRingtone = s.surroundings.defaultRingtone :=
    (congrArg Surroundings.defaultRingtone hanswers :)
  have hread : t.surroundings.ringtoneEffect = s.surroundings.ringtoneEffect :=
    (congrArg Surroundings.ringtoneEffect hanswers :)
  have hof : t.surroundings.ringtoneOf (t.call place) =
      s.surroundings.ringtoneOf (s.call place) := by
    rw [Surroundings.ringtoneOf, Surroundings.ringtoneOf, hringtone, hdefault]
  rw [Alerter.selectEffect, Alerter.selectEffect, hsettings, heffect, hof, hread]

/-! ### Rendering -/

theorem keeps_stopWaiting (s : Alerter n) : Keeps s s.stopWaiting :=
  .of_step (touches_stopWaiting s) (says_stopWaiting s) (by decide) (by decide)

theorem keeps_noteMotor (s : Alerter n) (place : Fin n) : Keeps s (s.noteMotor place) :=
  .of_step (touches_noteMotor s place) (says_noteMotor s place) (by decide) (by decide)

theorem keeps_beginRing (s : Alerter n) (place : Fin n) : Keeps s (s.beginRing place) :=
  .of_step (touches_beginRing s place) (says_beginRing s place) (by decide) (by decide)

theorem keeps_flashOn (s : Alerter n) : Keeps s s.flashOn :=
  .of_step (touches_flashOn s) (says_flashOn s) (by decide) (by decide)

/-- What a ring with a ringtone may vibrate with. -/
theorem decides_ringAloud (s : Alerter n) (place : Fin n) (ringtone : Ringtone)
    (contact enabled : Bool) :
    Decides (fun effect => enabled = true ∧ contact = true ∧
      (effect = s.selectEffect place ∨ effect = s.ringEffect)) s
      (s.ringAloud place ringtone contact enabled) := by
  have htouch := (touches_beginRing s place).trans
    (touches_play _ ringtone (s.beginRing place).curve enabled)
  have hsaid := (says_beginRing s place).trans
    (says_play _ ringtone (s.beginRing place).curve enabled)
  have hkeeps := Keeps.of_step htouch hsaid (by decide) (by decide)
  have hselect := htouch.selectEffect (by decide) place
  have hring := htouch.keeps .ringEffect (by decide)
  unfold ringAloud
  dsimp only
  split
  · refine ((decides_schedule _ _ _).before hkeeps).mono ?_
    rintro effect ⟨henabled, hcontact, heffect⟩
    refine ⟨henabled, hcontact, ?_⟩
    rw [← hselect, ← hring]
    exact heffect
  · refine .atOnce (((rings_vibrateFor _ _ _ _ _ _).before hkeeps).mono ?_)
    rintro effect ⟨henabled, hcontact, heffect⟩
    refine ⟨henabled, hcontact, .inl ?_⟩
    rw [← hselect]
    exact heffect

theorem rings_ringSilently (s : Alerter n) (place : Fin n) (inputs : RingInputs)
    (enabled : Bool) :
    Rings (fun effect => enabled = true ∧ inputs.contact = true ∧ effect = s.ringEffect) s
      (s.ringSilently place inputs enabled) := by
  unfold ringSilently
  exact (rings_vibrateFor _ _ _ _ _ _).before (keeps_note s _ _ _)

/-- A ring decides about its vibration by the facts that it found. -/
theorem decides_renderRing (s : Alerter n) (request : Request n) (ringtone : Option Ringtone) :
    Decides (fun effect => s.isMotorEnabled = true ∧ request.inputs.contact = true ∧
      (effect = s.effectOf request ∨ effect = s.ringEffect)) s
      (s.renderRing request.call ringtone request.inputs) := by
  have htouch := (touches_stopWaiting s).trans (touches_noteMotor s.stopWaiting request.call)
  have hkeeps := (keeps_stopWaiting s).trans (keeps_noteMotor s.stopWaiting request.call)
  have henabled := (touches_stopWaiting s).isMotorEnabled (by decide)
  have hselect := htouch.selectEffect (by decide) request.call
  have hring := htouch.keeps .ringEffect (by decide)
  have hsilent : Decides (fun effect => s.isMotorEnabled = true ∧ request.inputs.contact = true ∧
      (effect = s.effectOf request ∨ effect = s.ringEffect)) s
      ((s.stopWaiting.noteMotor request.call).ringSilently request.call request.inputs
        s.stopWaiting.isMotorEnabled) := by
    refine .atOnce (((rings_ringSilently _ _ _ _).before hkeeps).mono ?_)
    rintro effect ⟨hen, hcontact, heffect⟩
    exact ⟨henabled ▸ hen, hcontact, .inr (heffect.trans hring)⟩
  unfold renderRing
  refine Decides.after ?_ (keeps_flashOn _)
  cases ringtone with
  | none => exact hsilent
  | some ringtone =>
    dsimp only
    split
    next haudible =>
      refine ((decides_ringAloud _ _ _ _ _).before hkeeps).mono ?_
      rintro effect ⟨hen, hcontact, heffect⟩
      rw [hselect, hring] at heffect
      refine ⟨henabled ▸ hen, hcontact, ?_⟩
      rwa [effectOf, if_pos haudible]
    next => exact hsilent

theorem keeps_raiseVoice (s : Alerter n) : Keeps s s.raiseVoice :=
  .of_step (touches_raiseVoice s) (says_raiseVoice s) (by decide) (by decide)

/-- A carrier ring vibrates at once, by the facts that it found. -/
theorem rings_renderCarrierRing (s : Alerter n) (request : Request n) :
    Rings (fun effect => s.isMotorEnabled = true ∧ request.inputs.contact = true ∧
      effect = s.effectOf request) s (s.renderCarrierRing request.call request.inputs) := by
  have htouch := (touches_stopWaiting s).trans (touches_noteMotor s.stopWaiting request.call)
  have hkeeps := (keeps_stopWaiting s).trans (keeps_noteMotor s.stopWaiting request.call)
  have henabled := (touches_stopWaiting s).isMotorEnabled (by decide)
  have hring := htouch.keeps .ringEffect (by decide)
  have hselect := (htouch.trans (touches_beginRing _ request.call)).selectEffect (by decide)
    request.call
  unfold renderCarrierRing
  dsimp only
  split
  next haudible =>
    have hraised := hkeeps.trans ((keeps_beginRing _ request.call).trans (keeps_raiseVoice _))
    refine ((rings_vibrateFor _ _ _ _ _ _).before hraised).mono ?_
    rintro effect ⟨hen, hcontact, heffect⟩
    refine ⟨henabled ▸ hen, hcontact, ?_⟩
    rw [effectOf, if_pos haudible]
    exact heffect.trans hselect
  next haudible =>
    refine ((rings_vibrateFor _ _ _ _ _ _).before (hkeeps.trans (keeps_note _ _ _ _))).mono ?_
    rintro effect ⟨hen, hcontact, heffect⟩
    refine ⟨henabled ▸ hen, hcontact, ?_⟩
    rw [effectOf, if_neg haudible]
    exact heffect.trans hring

/-- The contact that a request looks at is the one of its call. -/
theorem contact_of_request? {operation : Operation n} {request : Request n}
    (h : s.request? operation = some request) :
    request.inputs.contact = s.surroundings.admits (s.call request.call).contact := by
  cases operation with
  | startRinging place handsFree =>
    rcases place with - | place
    · cases h
    · obtain ⟨-, hsome⟩ := Option.ite_none_right_eq_some.mp h
      obtain rfl := Option.some.inj hsome
      rfl
  | startCarrierRing place handsFree =>
    rcases place with - | place
    · cases h
    · obtain ⟨-, hsome⟩ := Option.ite_none_right_eq_some.mp h
      obtain rfl := Option.some.inj hsome
      rfl
  | _ => cases h

/-- A request that is rendered starts, or plans, only what it justifies. -/
theorem decides_of_rendered? {operation : Operation n} {request : Request n}
    (h : s.rendered? operation = some request) :
    Decides (s.Justifies request) s (s.perform operation).1 := by
  have hcontact := contact_of_request? (Option.filter_eq_some_iff.mp h).1
  rw [perform_of_rendered? h, render]
  split
  next hcarrier =>
    refine .atOnce ((rings_renderCarrierRing s request).mono ?_)
    rintro effect ⟨henabled, hmatches, heffect⟩
    refine ⟨henabled, hcontact ▸ hmatches, ?_⟩
    rw [captured, if_pos hcarrier, List.mem_singleton]
    exact heffect
  next hcarrier =>
    refine (decides_renderRing s request _).mono ?_
    rintro effect ⟨henabled, hmatches, heffect⟩
    refine ⟨henabled, hcontact ▸ hmatches, ?_⟩
    rw [captured, if_neg hcarrier, List.mem_cons, List.mem_singleton]
    exact heffect

/-! ## Plans are carried out -/

/-- Nothing happens to the rings, or the plan that waits is carried out and waits no more. -/
inductive Carries (s t : Alerter n) : Prop
  | keeps (h : Keeps s t)
  | plays (plan : Plan n) (hplan : s.pending = some plan)
      (hrung : t.rung = s.rung ∨ ∃ effect, plan.Warrants effect ∧ t.rung = s.rung ++ [effect])
      (hpending : t.pending = none)

theorem Carries.trans {s t u : Alerter n} (h₁ : Carries s t) (h₂ : Carries t u) :
    Carries s u := by
  cases h₁ with
  | keeps h =>
    cases h₂ with
    | keeps h' => exact .keeps (h.trans h')
    | plays plan hplan hrung hpending =>
      exact .plays plan (h.pending ▸ hplan) (h.rung ▸ hrung) hpending
  | plays plan hplan hrung hpending =>
    -- what was carried out does not wait any more, so it is not carried out again
    cases h₂ with
    | keeps h' => exact .plays plan hplan (h'.rung.symm ▸ hrung) (h'.pending.trans hpending)
    | plays other hother _ _ => exact absurd (hpending.symm.trans hother) (by simp)

/-- The plan of a wait that is over. -/
theorem Carries.of_wait {s t : Alerter n} {wait : Wait n} (hwait : s.wait = some wait)
    (h : Rings wait.plan.Warrants { s with wait := none } t) : Carries s t :=
  .plays wait.plan (congrArg (Option.map Wait.plan) hwait) h.rung h.pending

theorem carries_attend (s : Alerter n) {wait : Wait n} (hwait : s.wait = some wait) :
    Carries s (s.attend wait) := by
  unfold attend
  split
  · exact .of_wait hwait (rings_carryOut _ _ _ _)
  · exact .of_wait hwait (rings_fallBack _ _ _)
  · split
    · exact .of_wait hwait (rings_fallBack _ _ _)
    · exact .keeps ⟨rfl, (congrArg (Option.map Wait.plan) hwait).symm⟩

theorem carries_takeTurn (s : Alerter n) : Carries s s.takeTurn := by
  unfold takeTurn
  split
  · exact .keeps (.refl s)
  next wait hwait =>
    split
    · exact .keeps (.refl s)
    next ahead _ =>
      have hpassed := (touches_onMotor s fun motor => (motor.passFirst ahead, ())).keeps .wait
        (by decide)
      exact (Carries.keeps (keeps_passFirst s ahead)).trans
        (carries_attend _ (Eq.trans hpassed hwait))

theorem carries_timeOut (s : Alerter n) (deadline : Nat) : Carries s (s.timeOut deadline) := by
  unfold timeOut
  split
  · exact .keeps (.refl s)
  next wait hwait =>
    split
    · have hpassed := (touches_passUntil s wait.deadline).keeps .wait (by decide)
      exact (Carries.keeps (keeps_passUntil s wait.deadline)).trans
        (.of_wait (Eq.trans hpassed hwait) (rings_fallBack _ _ _))
    · exact .keeps (.refl s)

theorem carries_settle (s : Alerter n) : Carries s s.settle := by
  unfold settle
  split
  · exact (carries_takeTurn s).trans (.keeps (keeps_passUntil _ _))
  · exact .keeps (keeps_passUntil s _)

theorem keeps_moveClock (s : Alerter n) (time : Nat) : Keeps s (s.moveClock time) :=
  (keeps_passUntil s time).trans ⟨rfl, rfl⟩

theorem carries_advance (s : Alerter n) (milliseconds : Nat) :
    Carries s (s.advance milliseconds) := by
  unfold advance
  dsimp only
  split
  · exact ((carries_settle s).trans (carries_timeOut _ _)).trans (.keeps (keeps_moveClock _ _))
  · exact (carries_settle s).trans (.keeps (keeps_moveClock _ _))

/-- Word from the player does not change the plan that it is about. -/
theorem keeps_signal (s : Alerter n) (word : HapticsSignal) : Keeps s (s.signal word) := by
  refine ⟨(says_signal s word).rung (by simp), ?_⟩
  unfold Alerter.signal
  split
  · rfl
  next wait hwait =>
    split
    · exact (congrArg (Option.map Wait.plan) hwait).symm
    · rfl

/-! ## Operations -/

/-- A waiting tone that is not skipped begins with a stop. -/
theorem startWaiting_of_silences {place : Fin n} {reason : Option String}
    (h : s.silences (.startWaiting place reason) = true) :
    s.startWaiting place reason = s.stopRinging.tap.beginWaiting place reason := by
  simp only [silences, Bool.not_eq_true', Bool.or_eq_false_iff] at h
  obtain ⟨⟨htheater, hdialer⟩, hself⟩ := h
  rw [startWaiting, if_neg (by simp [htheater]), if_neg (by simp [hdialer]),
    if_neg (by simp [hself])]

/-- After an operation that silences nothing waits, and nothing started on the way. -/
theorem perform_of_silences {operation : Operation n} (h : s.silences operation = true) :
    (s.perform operation).1.rung = s.rung ∧ (s.perform operation).1.pending = none := by
  have hstop : s.stopRinging.rung = s.rung := (says_stopRinging s).rung (by decide)
  have hwait : s.stopRinging.pending = none :=
    congrArg (Option.map Wait.plan) (stopRinging_atRest s).2.1
  cases operation with
  | stopRinging => exact ⟨hstop, hwait⟩
  | startWaiting place reason =>
    have hkeeps : Keeps s.stopRinging (s.stopRinging.tap.beginWaiting place reason) :=
      .of_step ((touches_tap _).trans (touches_beginWaiting _ place reason))
        ((says_tap _).trans (says_beginWaiting _ place reason)) (by decide) (by decide)
    show (s.startWaiting place reason).rung = s.rung ∧ (s.startWaiting place reason).pending = none
    rw [startWaiting_of_silences h]
    exact ⟨hkeeps.rung.trans hstop, hkeeps.pending.trans hwait⟩
  | _ => cases h

/-- A waiting tone that is skipped leaves a note at most. -/
theorem startWaiting_of_skipped {place : Fin n} {reason : Option String}
    (h : s.silences (.startWaiting place reason) = false) :
    s.startWaiting place reason = s ∨
      ∃ detail, s.startWaiting place reason = s.note place .skipRinging detail := by
  unfold startWaiting
  split
  · exact .inl rfl
  · split
    · exact .inr ⟨_, rfl⟩
    · split
      · exact .inr ⟨_, rfl⟩
      · simp_all [silences]

/-- A waiting tone that is skipped touches the log of its call at most. -/
theorem touches_startWaiting_of_skipped {place : Fin n} {reason : Option String}
    (h : s.silences (.startWaiting place reason) = false) :
    Touches [.logs, .told .log] s (s.startWaiting place reason) := by
  rcases startWaiting_of_skipped h with hsame | ⟨detail, hnote⟩
  · rw [hsame]
    exact .refl _ s
  · rw [hnote]
    exact touches_note s place .skipRinging detail

/-- So it leaves the rings alone. -/
theorem keeps_startWaiting_of_skipped {place : Fin n} {reason : Option String}
    (h : s.silences (.startWaiting place reason) = false) :
    Keeps s (s.startWaiting place reason) := by
  rcases startWaiting_of_skipped h with hsame | ⟨detail, hnote⟩
  · rw [hsame]
    exact .refl s
  · rw [hnote]
    exact keeps_note s place .skipRinging detail

/-- A request to ring that is not rendered leaves the rings alone. -/
theorem carries_declined {operation : Operation n} (hasks : operation.asksToRing = true)
    (h : s.rendered? operation = none) : Carries s (s.perform operation).1 :=
  .keeps (.of_step (touches_declined hasks h) (says_declined hasks h) (by decide) (by decide))

theorem carries_of_not_silences {operation : Operation n} (hrendered : s.rendered? operation = none)
    (h : s.silences operation = false) : Carries s (s.perform operation).1 := by
  cases operation with
  | startRinging place handsFree => exact carries_declined rfl hrendered
  | startCarrierRing place handsFree => exact carries_declined rfl hrendered
  | stopRinging => cases h
  | startWaiting place reason => exact .keeps (keeps_startWaiting_of_skipped h)
  | tellHaptics coupled => exact .keeps (keeps_signal s (.known coupled))
  | loseHaptics => exact .keeps (keeps_signal s .lost)
  | settle => exact carries_settle s
  | advance milliseconds => exact carries_advance s milliseconds
  | _ =>
    refine .keeps (.of_step (touches_perform s _) (says_perform s _) ?_ ?_)
    · simp [Operation.parts]
    · simp [Operation.topics]

/-- What an operation that does not silence may do to the rings. -/
theorem perform_rings {operation : Operation n} (h : s.silences operation = false) :
    (∃ request, s.rendered? operation = some request ∧
      Decides (s.Justifies request) s (s.perform operation).1) ∨
    Carries s (s.perform operation).1 := by
  cases hrendered : s.rendered? operation with
  | some request => exact .inl ⟨request, rfl, decides_of_rendered? hrendered⟩
  | none => exact .inr (carries_of_not_silences hrendered h)

end PhoneAudio.Alerter
