import PhoneAudio.Proofs.Alerter.Rung
import PhoneAudio.Proofs.Vibration.Sound

/-!
# The effects that the motor is told to play

Everything that vibrates is sound. A tap and a buzz are of one effect each, so what is to
be shown is about rings: their effects are the phone's own, by the current settings, or
what the surroundings read off a ringtone, and a plan may keep one of these for long after
the settings changed. `PlaysSound` therefore takes in the plan that waits along with what
was played, and `perform_rings` says how an operation changes the two.

What the settings are, and that the effect by them is up to date, does not depend on the
surroundings: the settings are those that were applied last (`settings_run`,
`UpToDate.run`).
-/

namespace PhoneAudio

/-- Whatever can be read off a ringtone is sound. -/
def Surroundings.Sound (surroundings : Surroundings) : Prop :=
  ∀ ringtone effect, surroundings.ringtoneEffect ringtone = .ok (some effect) → effect.Sound

namespace Alerter

variable {n : Nat}

/-- Surroundings that an operation brings with it read sound effects off ringtones. -/
def Operation.Sound : Operation n → Prop
  | .surroundings found => found.Sound
  | _ => True

/-! ## The effect by the settings -/

/-- The settings that an operation brings, if any. -/
def Operation.applied? : Operation n → Option Settings
  | .applySettings settings => some settings
  | _ => none

/-- The settings that were applied last in a run, or else those at its beginning. -/
def lastApplied (initial : Settings) (operations : List (Operation n)) : Settings :=
  (operations.filterMap Operation.applied?).getLastD initial

theorem settings_perform (s : Alerter n) (operation : Operation n) :
    (s.perform operation).1.settings = operation.applied?.getD s.settings := by
  cases operation with
  | applySettings settings => rfl
  | _ => exact (touches_perform s _).keeps .settings (by simp [Operation.parts])

theorem lastApplied_cons (initial : Settings) (operation : Operation n)
    (rest : List (Operation n)) :
    lastApplied initial (operation :: rest) =
      lastApplied (operation.applied?.getD initial) rest := by
  unfold lastApplied
  cases happlied : operation.applied? with
  | none => rw [List.filterMap_cons_none happlied, Option.getD_none]
  | some settings => rw [List.filterMap_cons_some happlied, List.getLastD_cons, Option.getD_some]

theorem settings_run (s : Alerter n) (operations : List (Operation n)) :
    (s.run operations).settings = lastApplied s.settings operations := by
  induction operations generalizing s with
  | nil => rfl
  | cons operation rest ih =>
    rw [lastApplied_cons, ← settings_perform]
    exact ih (s.perform operation).1

/-- The vibration of a ring is the one by the current settings. -/
def UpToDate (s : Alerter n) : Prop :=
  s.ringEffect = s.settings.ringEffect s.profile.simplePatterns

theorem UpToDate.perform {s : Alerter n} (hs : s.UpToDate) (operation : Operation n) :
    (s.perform operation).1.UpToDate := by
  have hkeeps : ∀ {t : Alerter n} {parts : List Part}, Touches parts s t →
      (∀ part ∈ [Part.profile, .settings, .ringEffect], part ∉ parts) → t.UpToDate := by
    intro t parts htouch hparts
    have hprofile : t.profile = s.profile := htouch.keeps .profile (hparts _ (by simp))
    have hsettings : t.settings = s.settings := htouch.keeps .settings (hparts _ (by simp))
    have heffect : t.ringEffect = s.ringEffect := htouch.keeps .ringEffect (hparts _ (by simp))
    rw [UpToDate, heffect, hsettings, hprofile]
    exact hs
  cases operation with
  | applySettings settings => exact rfl
  | _ => exact hkeeps (touches_perform s _) (by simp [Operation.parts])

theorem UpToDate.run {s : Alerter n} (hs : s.UpToDate) (operations : List (Operation n)) :
    (s.run operations).UpToDate := by
  induction operations generalizing s with
  | nil => exact hs
  | cons operation rest ih => exact ih (hs.perform operation)

theorem profile_run (s : Alerter n) (operations : List (Operation n)) :
    (s.run operations).profile = s.profile := by
  induction operations generalizing s with
  | nil => rfl
  | cons operation rest ih =>
    refine (ih (s.perform operation).1).trans ((touches_perform s operation).keeps .profile ?_)
    cases operation <;> simp [Operation.parts]

/-! ## Effects by what they are for -/

/-- The effect of a vibration of one kind. -/
def Command.effectFor? (usage : Vibration.Usage) : Command n → Option Vibration.Effect
  | .motor (.vibrate effect other) => if other = usage then some effect else none
  | _ => none

/-- The effects of one kind that the motor was told to play, oldest first. -/
def effectsFor (s : Alerter n) (usage : Vibration.Usage) : List Vibration.Effect :=
  s.sent.filterMap (Command.effectFor? usage)

theorem mem_effectsFor {s : Alerter n} {usage : Vibration.Usage} {effect : Vibration.Effect} :
    effect ∈ s.effectsFor usage ↔ .motor (.vibrate effect usage) ∈ s.sent := by
  rw [effectsFor, List.mem_filterMap]
  constructor
  · rintro ⟨command, hmem, hsome⟩
    cases command with
    | motor told =>
      cases told with
      | vibrate other kind =>
        obtain ⟨rfl, heffect⟩ := Option.ite_none_right_eq_some.mp hsome
        obtain rfl := Option.some.inj heffect
        exact hmem
      | stop => cases hsome
    | _ => cases hsome
  · exact fun hmem => ⟨_, hmem, if_pos rfl⟩

theorem effectsFor_ringtone (s : Alerter n) : s.effectsFor .ringtone = s.rung := by
  have hread : Command.effectFor? (n := n) .ringtone = Command.ringEffect? := by
    funext command
    cases command with
    | motor told =>
      cases told with
      | vibrate effect usage => cases usage <;> rfl
      | stop => rfl
    | _ => rfl
  rw [effectsFor, hread]
  rfl

theorem Says.effectsFor {topics : List Topic} {s t : Alerter n} (h : Says topics s t)
    {usage : Vibration.Usage} (htopics : .motor (.vibration usage) ∉ topics) :
    t.effectsFor usage = s.effectsFor usage := by
  refine h.filterMap fun command hmem => ?_
  cases command with
  | motor told =>
    cases told with
    | vibrate effect other =>
      refine if_neg ?_
      rintro rfl
      exact htopics hmem
    | stop => rfl
  | _ => rfl

/-! ### Taps and brief vibrations -/

theorem effectsFor_tap {s : Alerter n} {effect : Vibration.Effect}
    (h : effect ∈ s.tap.effectsFor .feedback) :
    effect ∈ s.effectsFor .feedback ∨ effect = .thud := by
  unfold tap at h
  split at h
  · rw [mem_effectsFor] at h ⊢
    rcases List.mem_append.mp h with hold | hnew
    · exact .inl hold
    · simp only [List.mem_singleton, Command.motor.injEq, Motor.Command.vibrate.injEq] at hnew
      exact .inr hnew.1
  · exact .inl h

/-- A tap is always the same. -/
theorem effectsFor_startWaiting {s : Alerter n} {place : Fin n} {reason : Option String}
    {effect : Vibration.Effect} (h : effect ∈ (s.startWaiting place reason).effectsFor .feedback) :
    effect ∈ s.effectsFor .feedback ∨ effect = .thud := by
  cases hsilences : s.silences (.startWaiting place reason) with
  | true =>
    rw [startWaiting_of_silences hsilences,
      (says_beginWaiting _ place reason).effectsFor (by simp)] at h
    rw [← (says_stopRinging s).effectsFor (by simp)]
    exact effectsFor_tap h
  | false =>
    rcases startWaiting_of_skipped hsilences with hsame | ⟨detail, hnote⟩
    · rw [hsame] at h
      exact .inl h
    · rw [hnote, (says_note s place .skipRinging detail).effectsFor (by simp)] at h
      exact .inl h

/-- A buzz plays what it was asked for. -/
theorem vibrate_of_buzz {motor : Motor (Fin n)} {asked effect : Vibration.Effect}
    {usage kind : Vibration.Usage} {length : Nat}
    (h : .vibrate effect kind ∈ (motor.buzz asked usage length).1.gate.sent) :
    .vibrate effect kind ∈ motor.gate.sent ∨ effect = asked := by
  rw [Motor.gate_buzz] at h
  rcases motor.gate.sent_start none asked usage with hsame | hnew
  · exact .inl (hsame ▸ h)
  · rw [hnew, List.mem_append, List.mem_singleton] at h
    exact h.imp_right fun htold => (Motor.Command.vibrate.inj htold).1

theorem effectsFor_buzzOnConnect {s : Alerter n} {usage : Vibration.Usage}
    {effect : Vibration.Effect} (h : effect ∈ s.buzzOnConnect.1.effectsFor usage) :
    effect ∈ s.effectsFor usage ∨ effect = Vibration.simpleEffect := by
  unfold buzzOnConnect at h
  split at h
  · rw [mem_effectsFor] at h ⊢
    rcases List.mem_append.mp h with hold | hnew
    · exact .inl hold
    · obtain ⟨told, htold, heq⟩ := List.mem_map.mp hnew
      obtain rfl := Command.motor.inj heq
      rcases vibrate_of_buzz htold with hnone | heffect
      · cases hnone
      · exact .inr heffect
  · exact .inl h

/-! ## What a ring may play -/

/-- Whatever the alerter played, and may still play, is sound. -/
structure PlaysSound (s : Alerter n) : Prop where
  answers : s.surroundings.Sound
  ringEffect : s.ringEffect.Sound
  pending : ∀ plan effect, s.pending = some plan → plan.Warrants effect → effect.Sound
  played : ∀ usage, ∀ effect ∈ s.effectsFor usage, effect.Sound

namespace PlaysSound

variable {s t : Alerter n}

theorem selectEffect (hs : s.PlaysSound) (place : Fin n) : (s.selectEffect place).Sound := by
  unfold Alerter.selectEffect
  split
  · exact hs.ringEffect
  · split
    · exact hs.ringEffect
    next ringtone _ =>
      split
      next effect hread => exact hs.answers ringtone effect hread
      · exact hs.ringEffect
      · exact hs.ringEffect

/-- What a request justifies is sound. -/
theorem of_justifies (hs : s.PlaysSound) {request : Request n} {effect : Vibration.Effect}
    (h : s.Justifies request effect) : effect.Sound := by
  have hasked : (s.effectOf request).Sound := by
    unfold effectOf
    split
    · exact hs.selectEffect request.call
    · exact hs.ringEffect
  have hcaptured := h.captured
  unfold captured at hcaptured
  split at hcaptured
  · rw [List.mem_singleton.mp hcaptured]
    exact hasked
  · rcases List.mem_cons.mp hcaptured with rfl | hring
    · exact hasked
    · rw [List.mem_singleton.mp hring]
      exact hs.ringEffect

theorem rung (hs : s.PlaysSound) : ∀ effect ∈ s.rung, effect.Sound := by
  rw [← effectsFor_ringtone]
  exact hs.played .ringtone

/-- One more vibration for a ring at most, and a sound one. -/
theorem rung_of_allowed (hs : s.PlaysSound) {allowed : Vibration.Effect → Prop}
    (hallowed : ∀ effect, allowed effect → effect.Sound)
    (h : t.rung = s.rung ∨ ∃ effect, allowed effect ∧ t.rung = s.rung ++ [effect]) :
    ∀ effect ∈ t.rung, effect.Sound := by
  rcases h with hsame | ⟨new, hnew, hrung⟩
  · rw [hsame]
    exact hs.rung
  · rw [hrung]
    intro effect hmem
    rcases List.mem_append.mp hmem with hold | hlast
    · exact hs.rung effect hold
    · rw [List.mem_singleton.mp hlast]
      exact hallowed new hnew

/-- What rings, and the plan that waits, after an operation. -/
theorem rung_perform (hs : s.PlaysSound) (operation : Operation n) :
    (∀ effect ∈ (s.perform operation).1.rung, effect.Sound) ∧
      ∀ plan effect, (s.perform operation).1.pending = some plan → plan.Warrants effect →
        effect.Sound := by
  generalize ht : (s.perform operation).1 = t
  have hsame : t.rung = s.rung → ∀ effect ∈ t.rung, effect.Sound := fun h => h ▸ hs.rung
  have hold : t.pending = s.pending →
      ∀ plan effect, t.pending = some plan → plan.Warrants effect → effect.Sound :=
    fun h => h ▸ hs.pending
  have hnone : t.pending = none →
      ∀ plan effect, t.pending = some plan → plan.Warrants effect → effect.Sound := by
    intro h plan effect hplan
    cases h.symm.trans hplan
  cases hsilences : s.silences operation with
  | true =>
    obtain ⟨hrung, hpending⟩ := perform_of_silences hsilences
    rw [ht] at hrung hpending
    exact ⟨hsame hrung, hnone hpending⟩
  | false =>
    have hrings := perform_rings hsilences
    rw [ht] at hrings
    rcases hrings with ⟨request, -, hdecides⟩ | hcarries
    · have hjustified : ∀ effect, s.Justifies request effect → effect.Sound :=
        fun _ => hs.of_justifies
      cases hdecides with
      | atOnce h => exact ⟨hs.rung_of_allowed hjustified h.rung, hold h.pending⟩
      | later plan hallowed hrung hpending =>
        refine ⟨hsame hrung, fun other effect hother hwarrants => ?_⟩
        obtain rfl := Option.some.inj (hpending.symm.trans hother)
        exact hjustified effect (hallowed effect hwarrants)
    · cases hcarries with
      | keeps h => exact ⟨hsame h.rung, hold h.pending⟩
      | plays plan hplan hrung hpending =>
        exact ⟨hs.rung_of_allowed (fun effect => hs.pending plan effect hplan) hrung,
          hnone hpending⟩

/-- What is played, be it for a ring or not. -/
theorem played_perform (hs : s.PlaysSound) (operation : Operation n) (usage : Vibration.Usage) :
    ∀ effect ∈ (s.perform operation).1.effectsFor usage, effect.Sound := by
  have hkeeps : .motor (.vibration usage) ∉ operation.topics →
      ∀ effect ∈ (s.perform operation).1.effectsFor usage, effect.Sound := by
    intro htopics
    rw [(says_perform s operation).effectsFor htopics]
    exact hs.played usage
  cases usage with
  | ringtone =>
    rw [effectsFor_ringtone]
    exact (hs.rung_perform operation).1
  | voiceCommunication =>
    cases operation with
    | buzzOnConnect =>
      intro effect hmem
      rcases effectsFor_buzzOnConnect hmem with hold | rfl
      · exact hs.played .voiceCommunication effect hold
      · exact Vibration.sound_simpleEffect
    | _ => exact hkeeps (by simp [Operation.topics])
  | feedback =>
    cases operation with
    | startWaiting place reason =>
      intro effect hmem
      rcases effectsFor_startWaiting hmem with hold | rfl
      · exact hs.played .feedback effect hold
      · exact trivial
    | _ => exact hkeeps (by simp [Operation.topics])

theorem perform (hs : s.PlaysSound) {operation : Operation n} (hoperation : operation.Sound) :
    (s.perform operation).1.PlaysSound := by
  have hanswers : ∀ {t : Alerter n}, t.answers = s.answers → t.surroundings.Sound := by
    intro t h
    have hread : t.surroundings.ringtoneEffect = s.surroundings.ringtoneEffect :=
      (congrArg Surroundings.ringtoneEffect h :)
    rw [Surroundings.Sound, hread]
    exact hs.answers
  have hring : ∀ {t : Alerter n}, t.ringEffect = s.ringEffect → t.ringEffect.Sound :=
    fun h => h ▸ hs.ringEffect
  refine ⟨?_, ?_, (hs.rung_perform operation).2, hs.played_perform operation⟩
  · cases operation with
    | surroundings found => exact hoperation
    | _ => exact hanswers ((touches_perform s _).keeps .answers (by simp [Operation.parts]))
  · cases operation with
    | applySettings settings => exact settings.sound_ringEffect s.profile.simplePatterns
    | _ => exact hring ((touches_perform s _).keeps .ringEffect (by simp [Operation.parts]))

theorem run (hs : s.PlaysSound) {operations : List (Operation n)}
    (hoperations : ∀ operation ∈ operations, operation.Sound) : (s.run operations).PlaysSound := by
  induction operations generalizing s with
  | nil => exact hs
  | cons operation rest ih =>
    obtain ⟨hfirst, hrest⟩ := List.forall_mem_cons.mp hoperations
    exact ih (hs.perform hfirst) hrest

end PlaysSound

theorem playsSound_idle (calls : CallTable n) (profile : DeviceProfile) (settings : Settings)
    {surroundings : Surroundings} (timed : Bool) (h : surroundings.Sound) :
    (idle calls profile settings surroundings timed).PlaysSound where
  answers := h
  ringEffect := settings.sound_ringEffect profile.simplePatterns
  pending := fun _ _ hplan => by cases hplan
  played := fun _ _ hmem => by cases hmem

/-- If only sound effects are read off ringtones, then whatever the motor is told to play is
a tap or a waveform that would be accepted, no matter how often the settings changed and
what they were. In any case the current settings are those that were applied last, and the
vibration of a ring is the one by them. -/
theorem run_plays_sound_effects (calls : CallTable n) (profile : DeviceProfile)
    (settings : Settings) (surroundings : Surroundings) (timed : Bool)
    (operations : List (Operation n)) :
    let s := (idle calls profile settings surroundings timed).run operations
    let current := lastApplied settings operations
    (surroundings.Sound → (∀ operation ∈ operations, operation.Sound) →
      ∀ effect usage, .motor (.vibrate effect usage) ∈ s.sent →
        effect = .thud ∨
          ∃ shape, effect = .waveform shape ∧ shape.effect? = .ok effect ∧ shape.Sound) ∧
    s.settings = current ∧
    s.ringEffect =
      Vibration.ringEffect current.pattern profile.simplePatterns current.customPattern := by
  intro s current
  have hsettings : s.settings = current := settings_run _ operations
  refine ⟨?_, hsettings, ?_⟩
  · intro hsurroundings hoperations effect usage htold
    have hs : s.PlaysSound :=
      (playsSound_idle calls profile settings timed hsurroundings).run hoperations
    exact (hs.played usage effect (mem_effectsFor.mpr htold)).accepted
  · have hup : s.UpToDate :=
      UpToDate.run (s := idle calls profile settings surroundings timed) rfl operations
    have hprofile : s.profile = profile := profile_run _ operations
    rw [← hsettings, ← hprofile]
    exact hup

/-- The effect that a ringtone carries is played, and where it carries none the user's own
pattern is, which here cannot be read. -/
theorem run_plays_ringtone_and_fallback :
    let ring : Call :=
      { state := .ringing, ringtone := some ⟨"content://ring"⟩, id := .ofNat 1, log := .empty 64 }
    let shape : Vibration.Waveform := ⟨[0, 300], [0, 255], none⟩
    let found : Surroundings :=
      { ringtoneEffect := fun _ => .ok (some (.waveform shape)), hapticsSignal := none }
    let operations : List (Operation 1) :=
      [.startRinging (some 0) false, .stopRinging,
        .applySettings { pattern := .custom, customPattern := some "300,x,300" },
        .surroundings { hapticsSignal := none }, .startRinging (some 0) false]
    let s := (idle ⟨#v[ring]⟩ { simplePatterns := true } {} found true).run operations
    found.Sound ∧ (∀ operation ∈ operations, operation.Sound) ∧
      s.rung = [.waveform shape, Vibration.simpleEffect] ∧ s.ringEffect = Vibration.simpleEffect ∧
      shape.effect? = .ok (.waveform shape) := by
  intro ring shape found operations s
  have hshape : shape.Sound := (Vibration.Waveform.flaw?_eq_none_iff shape).mp (by decide)
  have hfound : found.Sound := by
    intro ringtone effect hread
    cases hread
    exact hshape
  have hoperations : ∀ operation ∈ operations, operation.Sound := by
    simp [operations, Operation.Sound, Surroundings.Sound]
  have hrung : s.rung = [.waveform shape, Vibration.simpleEffect] := by decide +kernel
  obtain ⟨hplayed, -, hcurrent⟩ :=
    run_plays_sound_effects ⟨#v[ring]⟩ { simplePatterns := true } {} found true operations
  have htold : .motor (.vibrate (.waveform shape) .ringtone) ∈ s.sent :=
    mem_effectsFor.mp (by rw [effectsFor_ringtone, hrung]; exact List.mem_cons_self)
  refine ⟨hfound, hoperations, hrung, hcurrent.trans (by decide +kernel), ?_⟩
  rcases hplayed hfound hoperations _ _ htold with hthud | ⟨other, hother, haccepted, -⟩
  · cases hthud
  · obtain rfl := Vibration.Effect.waveform.inj hother
    exact haccepted

end Alerter

end PhoneAudio
