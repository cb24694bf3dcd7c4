import PhoneAudio.Proofs.Vibration.Custom
import PhoneAudio.Settings

/-!
# Sound effects

The effects that come with the phone are made without a look at their shape, and so are
not sound by construction. They are sound all the same, and with them every vibration for
a ring that the settings can pick.
-/

namespace PhoneAudio

namespace Vibration

/-- A sound effect is a tap, or what becomes of a waveform whose shape was looked at. -/
theorem Effect.Sound.accepted {effect : Effect} (h : effect.Sound) :
    effect = .thud ∨
      ∃ shape, effect = .waveform shape ∧ shape.effect? = .ok effect ∧ shape.Sound := by
  cases effect with
  | thud => exact .inl rfl
  | waveform shape =>
    refine .inr ⟨shape, rfl, ?_, h⟩
    rw [Waveform.effect?, (Waveform.flaw?_eq_none_iff shape).mpr h]

theorem sound_pulse : pulse.Sound := (Waveform.flaw?_eq_none_iff _).mp (by decide)

theorem sound_simpleEffect : simpleEffect.Sound := (Waveform.flaw?_eq_none_iff _).mp (by decide)

theorem sound_effect (pattern : Pattern) : pattern.effect.Sound := by
  cases pattern with
  | simple => exact sound_simpleEffect
  | custom => exact sound_simpleEffect
  | _ => exact (Waveform.flaw?_eq_none_iff _).mp (by decide)

/-- A pattern that is missing is read as a blank one. -/
theorem sound_customEffect? {custom : Option String} {effect : Effect}
    (h : customEffect? custom = .ok effect) : effect.Sound := by
  have hwritten : ∀ written, customEffect? (some written) = .ok effect → effect.Sound := by
    intro written h
    rcases customEffect?_eq_ok_iff.mp h with ⟨-, rfl⟩ | ⟨a, b, c, -, rfl⟩
    · exact sound_threePulses 0 800 800
    · exact sound_threePulses a b c
  cases custom with
  | none => exact hwritten "" h
  | some written => exact hwritten written h

theorem sound_ringEffect (pattern : Pattern) (simplePatterns : Bool) (custom : Option String) :
    (ringEffect pattern simplePatterns custom).Sound := by
  unfold ringEffect
  split
  · exact sound_pulse
  · split
    · split
      next effect h => exact sound_customEffect? h
      next => exact sound_simpleEffect
    · exact sound_effect _

end Vibration

theorem Settings.sound_ringEffect (settings : Settings) (simplePatterns : Bool) :
    (settings.ringEffect simplePatterns).Sound :=
  Vibration.sound_ringEffect settings.pattern simplePatterns settings.customPattern

end PhoneAudio
