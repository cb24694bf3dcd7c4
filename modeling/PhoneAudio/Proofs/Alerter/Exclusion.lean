import PhoneAudio.Proofs.Alerter.Teardown
import PhoneAudio.Proofs.Alerter.Tone

/-!
# A ring and the waiting tone exclude each other

The waiting tone and the ring are started and stopped by operations of their own, and
the vibration of a ring may start long after the request for it. They are kept apart
by two rules: a waiting tone that is started stops the ring and gives up its wait
first, and a request to ring that is rendered ends the waiting tone first.

While the waiting tone is on the alerter is *hushed*: no call rings, nothing is waited
for, and what vibrates is not for a ring. A hushed alerter stays so whatever the
ringtone player says and however long it takes, since without a wait nothing starts a
vibration (`lapses_settle`, `lapses_advance`); the only vibration that it may start is
the brief one of an outgoing call.
-/

namespace PhoneAudio.Alerter

variable {n : Nat}

/-- No call rings, no vibration for a ring is waited for, and none runs. -/
structure Hushed (s : Alerter n) : Prop where
  ringing : s.ringing = none
  wait : s.wait = none
  motor : s.motor.gate.usage? ≠ some .ringtone

/-- The waiting tone is on only in the hush. -/
def Exclusive (s : Alerter n) : Prop := s.waiting.isSome = true → s.Hushed

/-! ## In the hush -/

/-- What runs in the end ran before, or was started on the way. -/
theorem Says.usage?_of_some {topics : List Topic} {s t : Alerter n} (h : Says topics s t)
    {usage : Vibration.Usage} (hruns : t.motor.gate.usage? = some usage) :
    s.motor.gate.usage? = some usage ∨ .motor (.vibration usage) ∈ topics := by
  obtain ⟨news, -, hnews, hheard⟩ := h
  rw [← hheard] at hruns
  clear hheard
  generalize s.motor.gate.usage? = running at hruns ⊢
  induction news generalizing running with
  | nil => exact .inl hruns
  | cons command rest ih =>
    have hcommand : command.topic ∈ topics := hnews command List.mem_cons_self
    rcases ih (fun other hmem => hnews other (List.mem_cons_of_mem _ hmem)) _ hruns with
      hheard | htopic
    · cases command with
      | motor told =>
        cases told with
        | vibrate effect other =>
          cases other with
          | feedback => exact .inl hheard
          | _ => exact .inr (Option.some.inj hheard ▸ hcommand)
        | stop => cases hheard
      | _ => exact .inl hheard
    · exact .inr htopic

/-- What does not start a vibration for a ring leaves none running. -/
theorem Says.usage?_ne {topics : List Topic} {s t : Alerter n} (h : Says topics s t)
    (htopics : .motor (.vibration .ringtone) ∉ topics)
    (hs : s.motor.gate.usage? ≠ some .ringtone) : t.motor.gate.usage? ≠ some .ringtone :=
  fun hruns => (h.usage?_of_some hruns).elim hs htopics

/-- A step that rings no call, waits for nothing and starts no vibration for a ring. -/
theorem Hushed.of_step {parts : List Part} {topics : List Topic} {s t : Alerter n}
    (hs : s.Hushed) (htouch : Touches parts s t) (hsaid : Says topics s t)
    (hringing : Part.ringing ∉ parts) (hwait : Part.wait ∉ parts)
    (htopics : .motor (.vibration .ringtone) ∉ topics) : t.Hushed :=
  ⟨Eq.trans (htouch.keeps .ringing hringing) hs.ringing,
    Eq.trans (htouch.keeps .wait hwait) hs.wait, hsaid.usage?_ne htopics hs.motor⟩

/-- Nobody is in line. -/
theorem takeTurn_of_wait {s : Alerter n} (h : s.wait = none) : s.takeTurn = s := by
  rw [takeTurn, h]

theorem timeOut_of_wait {s : Alerter n} (h : s.wait = none) (deadline : Nat) :
    s.timeOut deadline = s := by
  rw [timeOut, h]

theorem signal_of_wait {s : Alerter n} (h : s.wait = none) (word : HapticsSignal) :
    s.signal word = s := by
  rw [signal, h]

/-- Only the motor works, and all that it is told is to stop. -/
structure Lapses (s t : Alerter n) : Prop where
  touched : Touches [.motor, .told .motor] s t
  said : Says [.motor .stop] s t

theorem Lapses.refl (s : Alerter n) : Lapses s s := ⟨.refl _ s, .refl _ s⟩

theorem Lapses.trans {s t u : Alerter n} (h₁ : Lapses s t) (h₂ : Lapses t u) : Lapses s u :=
  ⟨(h₁.touched.trans h₂.touched).mono (by decide), (h₁.said.trans h₂.said).mono (by decide)⟩

theorem lapses_passUntil (s : Alerter n) (deadline : Nat) : Lapses s (s.passUntil deadline) :=
  ⟨touches_passUntil s deadline, says_passUntil s deadline⟩

/-- Without a wait the passing of time is the motor's business alone. -/
theorem lapses_settle {s : Alerter n} (h : s.wait = none) : Lapses s s.settle := by
  rw [settle, takeTurn_of_wait h, ite_self]
  exact lapses_passUntil s _

theorem lapses_advance {s : Alerter n} (h : s.wait = none) (milliseconds : Nat) :
    Lapses s (s.advance milliseconds) := by
  have hsettle := lapses_settle h
  have hwait : s.settle.wait = none := Eq.trans (hsettle.touched.keeps .wait (by decide)) h
  rw [advance, timeOut_of_wait hwait, ite_self]
  exact hsettle.trans ⟨touches_moveClock _ _, says_moveClock _ _⟩

theorem Hushed.of_lapse {s t : Alerter n} (hs : s.Hushed) (h : Lapses s t) : t.Hushed :=
  hs.of_step h.touched h.said (by decide) (by decide) (by decide)

/-- A stop hushes the alerter, whatever rang. -/
theorem hushed_stopRinging (s : Alerter n) : s.stopRinging.Hushed := by
  obtain ⟨hringing, hwait, hmotor⟩ := stopRinging_atRest s
  refine ⟨hringing, hwait, ?_⟩
  rw [Gate.usage?, hmotor]
  exact fun h => nomatch h

/-! ## Every operation -/

/-- Without a waiting tone there is nothing to keep apart. -/
theorem exclusive_of_waiting {s : Alerter n} (h : s.waiting = none) : s.Exclusive := by
  intro hsome
  rw [h] at hsome
  exact absurd hsome (by simp)

theorem Exclusive.of_hush {s t : Alerter n} (hs : s.Exclusive) (hwaiting : t.waiting = s.waiting)
    (h : s.Hushed → t.Hushed) : t.Exclusive :=
  fun hsome => h (hs (hwaiting ▸ hsome))

/-- A request that is not rendered leaves the ring and the waiting tone as they are. -/
theorem Exclusive.askToRing {s : Alerter n} (hs : s.Exclusive) {operation : Operation n}
    (hasks : operation.asksToRing = true) : (s.perform operation).1.Exclusive := by
  cases h : s.rendered? operation with
  | none =>
    have htouch := touches_declined hasks h
    exact hs.of_hush (htouch.keeps .waiting (by decide)) fun hhush =>
      hhush.of_step htouch (says_declined hasks h) (by decide) (by decide) (by decide)
  | some request =>
    rw [perform_of_rendered? h]
    exact exclusive_of_waiting (waiting_render s request)

/-- A waiting tone that is started finds the ring stopped; the tap does not count as a
vibration for a ring. -/
theorem Exclusive.startWaiting {s : Alerter n} (hs : s.Exclusive) (place : Fin n)
    (reason : Option String) : (s.startWaiting place reason).Exclusive := by
  have hskip : ∀ detail, (s.note place .skipRinging detail).Exclusive := by
    intro detail
    have htouch := touches_note s place .skipRinging detail
    exact hs.of_hush (htouch.keeps .waiting (by decide)) fun hhush =>
      hhush.of_step htouch (says_note s _ _ _) (by decide) (by decide) (by decide)
  unfold Alerter.startWaiting
  split
  · exact hs
  · split
    · exact hskip _
    · split
      · exact hskip _
      · have htouch := (touches_tap s.stopRinging).trans (touches_beginWaiting _ place reason)
        have hsaid := (says_tap s.stopRinging).trans (says_beginWaiting _ place reason)
        exact fun _ => (hushed_stopRinging s).of_step htouch hsaid (by decide) (by decide)
          (by decide)

theorem Exclusive.perform {s : Alerter n} (hs : s.Exclusive) (operation : Operation n) :
    (s.perform operation).1.Exclusive := by
  have hwaiting : Part.waiting ∉ operation.parts →
      (s.perform operation).1.waiting = s.waiting :=
    fun hpart => (touches_perform s operation).keeps .waiting hpart
  cases operation with
  | startRinging place handsFree => exact hs.askToRing rfl
  | startCarrierRing place handsFree => exact hs.askToRing rfl
  | stopRinging => exact fun _ => hushed_stopRinging s
  | startWaiting place reason => exact hs.startWaiting place reason
  | stopWaiting => exact exclusive_of_waiting (waiting_stopWaiting s)
  | tellHaptics coupled =>
    refine hs.of_hush (hwaiting (by simp [Operation.parts])) fun hhush => ?_
    show (s.signal (.known coupled)).Hushed
    rwa [signal_of_wait hhush.wait]
  | loseHaptics =>
    refine hs.of_hush (hwaiting (by simp [Operation.parts])) fun hhush => ?_
    show (s.signal .lost).Hushed
    rwa [signal_of_wait hhush.wait]
  | settle =>
    exact hs.of_hush (hwaiting (by simp [Operation.parts])) fun hhush =>
      hhush.of_lapse (lapses_settle hhush.wait)
  | advance milliseconds =>
    exact hs.of_hush (hwaiting (by simp [Operation.parts])) fun hhush =>
      hhush.of_lapse (lapses_advance hhush.wait milliseconds)
  | _ =>
    refine hs.of_hush (hwaiting (by simp [Operation.parts])) fun hhush => ?_
    refine hhush.of_step (touches_perform s _) (says_perform s _) ?_ ?_ ?_
    · simp [Operation.parts]
    · simp [Operation.parts]
    · simp [Operation.topics]

theorem Exclusive.run {s : Alerter n} (hs : s.Exclusive) (operations : List (Operation n)) :
    (s.run operations).Exclusive := by
  induction operations generalizing s with
  | nil => exact hs
  | cons operation rest ih => exact ih (hs.perform operation)

/-- The motor is used for rings and for brief vibrations. -/
theorem usage?_eq (gate : Gate (Fin n)) :
    gate.usage? = none ∨ gate.usage? = some .ringtone ∨ gate.usage? = some .voiceCommunication := by
  rcases hrunning : gate.running with - | owner
  · exact .inl (by rw [Gate.usage?, hrunning]; rfl)
  · rcases owner with - | place
    · exact .inr (.inr (by rw [Gate.usage?, hrunning]; rfl))
    · exact .inr (.inl (by rw [Gate.usage?, hrunning]; rfl))

/-- In every state that an idle alerter reaches: while the waiting tone is on, no call
rings, nothing is waited for, and by all that the motor was told nothing vibrates but a
brief vibration. The gate knows whether something vibrates. The waiting tone is on for a
call exactly if a player of it was started and not stopped since; the player is that one,
and the call is the one for which a waiting tone was last noted to start. A request to
ring that is rendered leaves no waiting tone, and any other request leaves it alone. -/
theorem run_waiting_excludes_ring (calls : CallTable n) (profile : DeviceProfile)
    (settings : Settings) (surroundings : Surroundings) (timed : Bool)
    (operations : List (Operation n)) :
    let s := (idle calls profile settings surroundings timed).run operations
    (s.waiting.isSome = true → s.ringing = none ∧ s.wait = none ∧
      (s.felt = none ∨ s.felt = some .voiceCommunication)) ∧
    s.motor.gate.isRunning = s.felt.isSome ∧
    s.waiting.map WaitingTone.player = Signal.current? (s.toneRow .waiting) ∧
    s.waiting.map WaitingTone.call = Signal.current? s.waitingNotes ∧
    (∀ operation request, s.rendered? operation = some request →
      (s.perform operation).1.waiting = none) ∧
    ∀ operation, operation.asksToRing = true → s.rendered? operation = none →
      (s.perform operation).1.waiting = s.waiting := by
  intro s
  have hexclusive : s.Exclusive := (exclusive_of_waiting rfl).run operations
  have htold : s.WaitingTold :=
    (waitingTold_idle calls profile settings surroundings timed).run operations
  have hfelt : s.felt = s.motor.gate.usage? := felt_run rfl operations
  refine ⟨fun hwaiting => ?_, ?_, ?_, ?_, ?_, ?_⟩
  · obtain ⟨hringing, hwait, hmotor⟩ := hexclusive hwaiting
    refine ⟨hringing, hwait, ?_⟩
    rw [hfelt]
    rcases usage?_eq s.motor.gate with hnone | hring | hbrief
    · exact .inl hnone
    · exact absurd hring hmotor
    · exact .inr hbrief
  · rw [hfelt, Gate.usage?, Option.isSome_map]
    rfl
  · exact htold.players.current?_eq.symm
  · exact htold.calls.current?_eq.symm
  · intro operation request h
    rw [perform_of_rendered? h]
    exact waiting_render s request
  · intro operation hasks h
    exact (touches_declined hasks h).keeps .waiting (by decide)

end PhoneAudio.Alerter
