import PhoneAudio.Proofs.Alerter.Rung
import PhoneAudio.Proofs.Motor.Diary

/-!
# Steps within one generation

The gate begins a new generation whenever the alerter cancels, also if nothing vibrates, so
what was said to the motor does not tell one generation from the next. What does is which
steps were taken: all but a cancellation keep the generation, and all of these but the move
of the clock keep the time as well (`Steady`). An operation cancels only if it silences
(`generation_perform`).
-/

namespace PhoneAudio.Alerter

variable {n : Nat} {s t u : Alerter n} {parts : List Part}

/-- Nothing was cancelled, and it is the same time. -/
structure Steady (s t : Alerter n) : Prop where
  generation : t.motor.gate.generation = s.motor.gate.generation
  now : t.motor.now = s.motor.now

theorem Steady.refl (s : Alerter n) : Steady s s := ⟨rfl, rfl⟩

theorem Steady.trans (h₁ : Steady s t) (h₂ : Steady t u) : Steady s u :=
  ⟨h₂.generation.trans h₁.generation, h₂.now.trans h₁.now⟩

theorem Touches.steady (h : Touches parts s t) (hmotor : Part.motor ∉ parts) : Steady s t := by
  have hsame : t.motor = s.motor := h.keeps .motor hmotor
  exact ⟨by rw [hsame], by rw [hsame]⟩

/-- The motor may do anything but cancel and tick. -/
theorem steady_onMotor {β : Type} (s : Alerter n) {act : Motor (Fin n) → Motor (Fin n) × β}
    (h : ∀ motor, (act motor).1.gate.generation = motor.gate.generation ∧
      (act motor).1.now = motor.now) : Steady s (s.onMotor act).1 :=
  ⟨(h _).1, (h _).2⟩

theorem steady_passUntil (s : Alerter n) (deadline : Nat) : Steady s (s.passUntil deadline) :=
  steady_onMotor s fun motor => by
    dsimp only
    rw [Motor.passUntil_eq]
    exact ⟨Motor.generation_passAll _ _, rfl⟩

theorem steady_passFirst (s : Alerter n) (count : Nat) : Steady s (s.passFirst count) :=
  steady_onMotor s fun motor => by
    dsimp only
    rw [Motor.passFirst]
    refine ⟨Motor.generation_passAll _ _, ?_⟩
    rw [Motor.passAll_eq]

theorem steady_vibrateFor (s : Alerter n) (generation : Option UInt64) (place : Fin n)
    (contact : Bool) (effect : Vibration.Effect) (enabled : Bool) :
    Steady s (s.vibrateFor generation place contact effect enabled) := by
  unfold vibrateFor
  split
  next s' started h =>
  have hs : Steady s s' := by
    split at h
    · obtain rfl : _ = s' := congrArg Prod.fst h
      refine steady_onMotor s fun motor => ?_
      cases generation with
      | none => exact ⟨Gate.generation_start _ _ _ _, rfl⟩
      | some generation => exact ⟨Gate.generation_startIfCurrent _ _ _ _ _, rfl⟩
    · obtain rfl : s = s' := congrArg Prod.fst h
      exact .refl s
  split
  · exact hs
  · split
    · exact hs.trans ((touches_note s' _ _ _).steady (by decide))
    · exact hs

theorem steady_carryOut (s : Alerter n) (generation : Option UInt64) (plan : Plan n)
    (coupled : Bool) : Steady s (s.carryOut generation plan coupled) := by
  unfold carryOut
  split
  · exact steady_vibrateFor s _ _ _ _ _
  · exact (touches_note s _ _ _).steady (by decide)

theorem steady_fallBack (s : Alerter n) (generation : Option UInt64) (plan : Plan n) :
    Steady s (s.fallBack generation plan) :=
  steady_vibrateFor s _ _ _ _ _

theorem steady_schedule (s : Alerter n) (signal : HapticsSignal) (plan : Plan n) :
    Steady s (s.schedule signal plan) := by
  unfold schedule
  split
  · exact (touches_wait s _).steady (by decide)
  · cases signal with
    | known coupled => exact steady_carryOut s none plan coupled
    | lost => exact steady_fallBack s none plan
    | awaited => exact steady_fallBack s none plan

theorem steady_ringAloud (s : Alerter n) (place : Fin n) (ringtone : Ringtone)
    (contact enabled : Bool) : Steady s (s.ringAloud place ringtone contact enabled) := by
  have hplay := ((touches_beginRing s place).trans
    (touches_play _ ringtone (s.beginRing place).curve enabled)).steady (by decide)
  unfold ringAloud
  dsimp only
  split
  · exact hplay.trans (steady_schedule _ _ _)
  · exact hplay.trans (steady_vibrateFor _ _ _ _ _ _)

theorem steady_ringSilently (s : Alerter n) (place : Fin n) (inputs : RingInputs)
    (enabled : Bool) : Steady s (s.ringSilently place inputs enabled) := by
  unfold ringSilently
  exact ((touches_note s _ _ _).steady (by decide)).trans (steady_vibrateFor _ _ _ _ _ _)

theorem steady_render (s : Alerter n) (request : Request n) : Steady s (s.render request) := by
  have hnoted := ((touches_stopWaiting s).trans
    (touches_noteMotor s.stopWaiting request.call)).steady (by decide)
  unfold render
  split
  · unfold renderCarrierRing
    dsimp only
    split
    · refine (hnoted.trans ?_).trans (steady_vibrateFor _ _ _ _ _ _)
      exact ((touches_beginRing _ _).trans (touches_raiseVoice _)).steady (by decide)
    · refine (hnoted.trans ?_).trans (steady_vibrateFor _ _ _ _ _ _)
      exact (touches_note _ _ _ _).steady (by decide)
  · unfold renderRing
    refine Steady.trans ?_ ((touches_flashOn _).steady (by decide))
    cases s.surroundings.ringtoneOf (s.call request.call) with
    | none => exact hnoted.trans (steady_ringSilently _ _ _ _)
    | some ringtone =>
      dsimp only
      split
      · exact hnoted.trans (steady_ringAloud _ _ _ _ _)
      · exact hnoted.trans (steady_ringSilently _ _ _ _)

theorem steady_buzzOnConnect (s : Alerter n) : Steady s s.buzzOnConnect.1 := by
  unfold buzzOnConnect
  split
  · refine steady_onMotor s fun motor => ⟨?_, ?_⟩
    · rw [Motor.gate_buzz]
      exact Gate.generation_start _ _ _ _
    · unfold Motor.buzz
      dsimp only
      split <;> rfl
  · exact .refl s

theorem steady_attend (s : Alerter n) (wait : Wait n) : Steady s (s.attend wait) := by
  have hdropped := (touches_wait s none).steady (by decide)
  unfold attend
  split
  · exact hdropped.trans (steady_carryOut _ _ _ _)
  · exact hdropped.trans (steady_fallBack _ _ _)
  · split
    · exact hdropped.trans (steady_fallBack _ _ _)
    · exact (touches_wait s _).steady (by decide)

theorem steady_takeTurn (s : Alerter n) : Steady s s.takeTurn := by
  unfold takeTurn
  split
  · exact .refl s
  · split
    · exact .refl s
    · exact (steady_passFirst s _).trans (steady_attend _ _)

theorem steady_timeOut (s : Alerter n) (deadline : Nat) : Steady s (s.timeOut deadline) := by
  unfold timeOut
  split
  · exact .refl s
  · split
    · exact ((steady_passUntil s _).trans ((touches_wait _ none).steady (by decide))).trans
        (steady_fallBack _ _ _)
    · exact .refl s

theorem steady_settle (s : Alerter n) : Steady s s.settle := by
  unfold settle
  split
  · exact (steady_takeTurn s).trans (steady_passUntil _ _)
  · exact steady_passUntil s _

theorem generation_advance (s : Alerter n) (milliseconds : Nat) :
    (s.advance milliseconds).motor.gate.generation = s.motor.gate.generation := by
  unfold advance
  dsimp only
  split
  · exact ((steady_settle s).trans ((steady_timeOut _ _).trans (steady_passUntil _ _))).generation
  · exact ((steady_settle s).trans (steady_passUntil _ _)).generation

/-! ## Every operation -/

theorem silences_of_rendered? {operation : Operation n} {request : Request n}
    (h : s.rendered? operation = some request) : s.silences operation = false := by
  cases operation <;> first | rfl | cases h

/-- The parts that an operation touches where it neither renders a ring nor stops one. -/
def Operation.plainParts : Operation n → List Part
  | .startRinging _ _ => [.logs, .told .log]
  | .startCarrierRing _ _ => [.logs, .told .log]
  | .startWaiting _ _ => [.logs, .told .log]
  | .stopRinging => []
  | operation => operation.parts

theorem touches_plainly {operation : Operation n} (hrendered : s.rendered? operation = none)
    (h : s.silences operation = false) : Touches operation.plainParts s (s.perform operation).1 := by
  have hperform := touches_perform s operation
  cases operation with
  | startRinging place handsFree => exact touches_declined rfl hrendered
  | startCarrierRing place handsFree => exact touches_declined rfl hrendered
  | stopRinging => cases h
  | startWaiting place reason => exact touches_startWaiting_of_skipped h
  | _ => exact hperform

/-- Only what silences begins a new generation. -/
theorem generation_perform {operation : Operation n} (h : s.silences operation = false) :
    (s.perform operation).1.motor.gate.generation = s.motor.gate.generation := by
  cases hrendered : s.rendered? operation with
  | some request =>
    rw [perform_of_rendered? hrendered]
    exact (steady_render s request).generation
  | none =>
    have htouch := touches_plainly hrendered h
    cases operation with
    | buzzOnConnect => exact (steady_buzzOnConnect s).generation
    | settle => exact (steady_settle s).generation
    | advance milliseconds => exact generation_advance s milliseconds
    | _ => exact (htouch.steady (by simp [Operation.plainParts, Operation.parts])).generation

end PhoneAudio.Alerter
