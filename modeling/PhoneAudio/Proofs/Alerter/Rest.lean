import PhoneAudio.Proofs.Alerter.Effects
import PhoneAudio.Proofs.Alerter.Exclusion

/-!
# The alerter at rest

An alerter is *at rest* if it waits for nothing and nothing vibrates. There is then no
plan that word from the ringtone player or the passing of time could carry out, so the
motor is told to vibrate only by an operation that asks for it: a request to ring, the
waiting tone with its tap, or the buzz of an outgoing call. Whatever else happens, the
alerter stays at rest (`rests_perform`).
-/

namespace PhoneAudio.Alerter

variable {n : Nat}

/-- Nothing is waited for, and nothing vibrates. -/
structure AtRest (s : Alerter n) : Prop where
  wait : s.wait = none
  running : s.motor.gate.running = none

/-- From a rest the step begins no vibration, and it ends in a rest. -/
def Rests (s t : Alerter n) : Prop := s.AtRest → t.AtRest ∧ t.effectsFor = s.effectsFor

/-- Whether an operation may tell the motor to vibrate even at rest. -/
def Operation.asksToVibrate : Operation n → Bool
  | .startRinging _ _ => true
  | .startCarrierRing _ _ => true
  | .startWaiting _ _ => true
  | .buzzOnConnect => true
  | _ => false

theorem Rests.refl (s : Alerter n) : Rests s s := fun hs => ⟨hs, rfl⟩

/-- What starts no vibration leaves none running. -/
theorem Says.running_eq_none {topics : List Topic} {s t : Alerter n} (h : Says topics s t)
    (htopics : ∀ usage, .motor (.vibration usage) ∉ topics)
    (hs : s.motor.gate.running = none) : t.motor.gate.running = none := by
  rw [← Option.map_eq_none_iff (f := Gate.usageOf)] at hs ⊢
  refine Option.eq_none_iff_forall_ne_some.mpr fun usage hruns => ?_
  rcases h.usage?_of_some hruns with hran | htopic
  · cases hs.symm.trans hran
  · exact htopics usage htopic

/-- A step that waits for nothing new and says nothing of a vibration. -/
theorem rests_of_step {parts : List Part} {topics : List Topic} {s t : Alerter n}
    (htouch : Touches parts s t) (hsaid : Says topics s t) (hwait : Part.wait ∉ parts)
    (htopics : ∀ usage, .motor (.vibration usage) ∉ topics) : Rests s t := fun hs =>
  ⟨⟨Eq.trans (htouch.keeps .wait hwait) hs.wait, hsaid.running_eq_none htopics hs.running⟩,
    funext fun usage => hsaid.effectsFor (htopics usage)⟩

theorem rests_of_lapse {s t : Alerter n} (h : Lapses s t) : Rests s t :=
  rests_of_step h.touched h.said (by decide) (by simp)

/-- Nobody is waiting for the word. -/
theorem rests_signal (s : Alerter n) (word : HapticsSignal) : Rests s (s.signal word) := by
  intro hs
  rw [signal_of_wait hs.wait]
  exact Rests.refl s hs

/-- A stop comes to rest, whatever it finds. -/
theorem atRest_stopRinging (s : Alerter n) : s.stopRinging.AtRest :=
  ⟨(stopRinging_atRest s).2.1, (stopRinging_atRest s).2.2⟩

theorem effectsFor_stopRinging (s : Alerter n) : s.stopRinging.effectsFor = s.effectsFor :=
  funext fun _ => (says_stopRinging s).effectsFor (by simp)

theorem rests_stopRinging (s : Alerter n) : Rests s s.stopRinging :=
  fun _ => ⟨atRest_stopRinging s, effectsFor_stopRinging s⟩

theorem rests_stopWaiting (s : Alerter n) : Rests s s.stopWaiting :=
  rests_of_step (touches_stopWaiting s) (says_stopWaiting s) (by decide) (by simp)

theorem rests_startTone (s : Alerter n) (tone : Tone) : Rests s (s.startTone tone).1 :=
  rests_of_step (touches_startTone s tone) (says_startTone s tone) (by decide) (by simp)

theorem rests_stopTone (s : Alerter n) (tone : Tone) (player : Nat) :
    Rests s (s.stopTone tone player) :=
  rests_of_step (touches_stopTone s tone player) (says_stopTone s tone player) (by decide)
    (by simp)

theorem rests_perform (s : Alerter n) {operation : Operation n}
    (h : operation.asksToVibrate = false) : Rests s (s.perform operation).1 := by
  cases operation with
  | startRinging place handsFree => cases h
  | startCarrierRing place handsFree => cases h
  | startWaiting place reason => cases h
  | buzzOnConnect => cases h
  | stopRinging => exact rests_stopRinging s
  | tellHaptics coupled => exact rests_signal s (.known coupled)
  | loseHaptics => exact rests_signal s .lost
  | settle => exact fun hs => rests_of_lapse (lapses_settle hs.wait) hs
  | advance milliseconds => exact fun hs => rests_of_lapse (lapses_advance hs.wait milliseconds) hs
  | _ =>
    refine rests_of_step (touches_perform s _) (says_perform s _) ?_ ?_
    · simp [Operation.parts]
    · simp [Operation.topics]

end PhoneAudio.Alerter
