import PhoneAudio.Proofs.Alerter.Exclusion
import PhoneAudio.Proofs.Alerter.Supersession

/-!
# A decision that waits and one that does not

On a phone with a runtime the decision about vibrating waits for the ringtone player, and
the rest of the ring goes on in the meantime. On a phone without one the decision is made
on the spot, before the rest of the ring. What becomes of the two is the same once the
wait is over, but for the runtime: the decision looks at nothing that the rest of the ring
touches, and the rest looks at nothing that the decision touches. So the two change
places, and only the order in which the motor and the other devices are told shows it.

`Alike` says that nothing else shows it. Every step of a ring keeps alerters alike, and a
step that only lets time pass, with nothing due, is alike to none.
-/

namespace PhoneAudio.Alerter

variable {n : Nat} {s t u : Alerter n}

/-- The same alerter on a phone with a runtime, or on one without. -/
def withClock (s : Alerter n) (timed : Bool) : Alerter n :=
  { s with motor := { s.motor with timed } }

/-! ## Alerters alike -/

/-- The flash is wanted, there, and not on already. -/
def wantsFlash (s : Alerter n) : Bool :=
  !s.flashing && s.settings.flashOnRing && s.surroundings.hasFlash

theorem flashOn_of_wanted (h : s.wantsFlash = true) :
    s.flashOn = { s with flashing := true }.send (.flash true) :=
  if_pos h

theorem flashOn_of_unwanted (h : s.wantsFlash = false) : s.flashOn = s :=
  if_neg (ne_true_of_eq_false h)

/-- What the devices other than the motor were told, all in one order. -/
def devices (s : Alerter n) : List (Command n) :=
  s.sent.filter fun command => command.channel ≠ .motor ∧ command.channel ≠ .log

/-- Two alerters that differ at most in whether there is a runtime and in what time it is,
and in when the motor and the logs were told with respect to the other devices. -/
structure Alike (t u : Alerter n) : Prop where
  /-- The calls with their logs, what rings, what waits and what flashes are the same. -/
  rest : u = { t with motor := u.motor, sent := u.sent }
  running : u.motor.gate.running = t.motor.gate.running
  generation : u.motor.gate.generation = t.motor.gate.generation
  agenda : u.motor.agenda = t.motor.agenda
  told : ∀ channel, u.told channel = t.told channel
  devices : u.devices = t.devices

namespace Alike

theorem refl (s : Alerter n) : Alike s s := ⟨rfl, rfl, rfl, rfl, fun _ => rfl, rfl⟩

theorem symm (h : Alike t u) : Alike u t := by
  refine ⟨?_, h.running.symm, h.generation.symm, h.agenda.symm,
    fun channel => (h.told channel).symm, h.devices.symm⟩
  rw [h.rest]

theorem trans (h₁ : Alike s t) (h₂ : Alike t u) : Alike s u := by
  refine ⟨?_, h₂.running.trans h₁.running, h₂.generation.trans h₁.generation,
    h₂.agenda.trans h₁.agenda, fun channel => (h₂.told channel).trans (h₁.told channel),
    h₂.devices.trans h₁.devices⟩
  rw [h₂.rest, h₁.rest]

/-- Only the motor differs, and there neither what runs nor what is due. -/
theorem of_motor {motor : Motor (Fin n)} (hrunning : motor.gate.running = s.motor.gate.running)
    (hgeneration : motor.gate.generation = s.motor.gate.generation)
    (hagenda : motor.agenda = s.motor.agenda) : Alike s { s with motor := motor } :=
  ⟨rfl, hrunning, hgeneration, hagenda, fun _ => rfl, rfl⟩

theorem wait (h : Alike t u) : u.wait = t.wait := by
  rw [h.rest]

/-- Both are told the same. -/
theorem send (h : Alike t u) (command : Command n) : Alike (t.send command) (u.send command) := by
  refine ⟨?_, h.running, h.generation, h.agenda, fun channel => ?_, ?_⟩
  · rw [h.rest]
    rfl
  · have htold := h.told channel
    simp only [Alerter.told] at htold
    simp only [Alerter.told, Alerter.send, List.filter_append, htold]
  · have hdevices := h.devices
    simp only [Alerter.devices] at hdevices
    simp only [Alerter.devices, Alerter.send, List.filter_append, hdevices]

theorem note (h : Alike t u) (place : Fin n) (event : Call.Event) (detail : Option String) :
    Alike (t.note place event detail) (u.note place event detail) := by
  have hrecord : Alike { t with calls := t.calls.record place event detail }
      { u with calls := u.calls.record place event detail } := by
    refine ⟨?_, h.running, h.generation, h.agenda, h.told, h.devices⟩
    rw [h.rest]
  exact hrecord.send _

theorem flashOn (h : Alike t u) : Alike t.flashOn u.flashOn := by
  have hflash : Alike { t with flashing := true } { u with flashing := true } := by
    refine ⟨?_, h.running, h.generation, h.agenda, h.told, h.devices⟩
    rw [h.rest]
  have hsame : u.wantsFlash = t.wantsFlash := by
    unfold Alerter.wantsFlash
    rw [h.rest]
  cases hwanted : t.wantsFlash with
  | false =>
    rw [flashOn_of_unwanted hwanted, flashOn_of_unwanted (hsame.trans hwanted)]
    exact h
  | true =>
    rw [flashOn_of_wanted hwanted, flashOn_of_wanted (hsame.trans hwanted)]
    exact hflash.send _

end Alike

theorem alike_withClock (s : Alerter n) (timed : Bool) : Alike s (s.withClock timed) :=
  .of_motor rfl rfl rfl

/-! ## Time in which nothing is due -/

/-- The motor was listened to. -/
def drained (s : Alerter n) : Alerter n :=
  { s with motor := { s.motor with gate := { s.motor.gate with sent := [] } } }

theorem alike_drained (s : Alerter n) : Alike s s.drained := .of_motor rfl rfl rfl

theorem passUntil_of_agenda (h : s.motor.agenda = []) (deadline : Nat) :
    s.passUntil deadline = s.drained := by
  simp [passUntil, onMotor, Motor.passUntil, Motor.passAll, drained, h]

theorem passFirst_of_agenda (h : s.motor.agenda = []) (count : Nat) :
    s.passFirst count = s.drained := by
  simp [passFirst, onMotor, Motor.passFirst, Motor.passAll, drained, h]

theorem alike_moveClock (h : s.motor.agenda = []) (time : Nat) : Alike s (s.moveClock time) := by
  rw [moveClock, passUntil_of_agenda h]
  exact (alike_drained s).trans (.of_motor rfl rfl rfl)

theorem alike_settle (hwait : s.wait = none) (hagenda : s.motor.agenda = []) :
    Alike s s.settle := by
  rw [settle, takeTurn_of_wait hwait, ite_self, passUntil_of_agenda hagenda]
  exact alike_drained s

theorem alike_advance (hwait : s.wait = none) (hagenda : s.motor.agenda = [])
    (milliseconds : Nat) : Alike s (s.advance milliseconds) := by
  have hsettled := alike_settle hwait hagenda
  rw [advance, timeOut_of_wait (hsettled.wait.trans hwait), ite_self]
  exact hsettled.trans (alike_moveClock (hsettled.agenda.trans hagenda) _)

/-! ## Decisions at rest -/

/-- A vibration of a ring begins. -/
def beginVibration (s : Alerter n) (place : Fin n) (effect : Vibration.Effect) : Alerter n :=
  { s with motor := { s.motor with gate :=
      { s.motor.gate with running := some (some place), sent := [] } } }.send
    (.motor (.vibrate effect .ringtone))

/-- While nothing vibrates, and nothing was cancelled since the generation was read, a
vibration starts if it is wanted. -/
theorem vibrateFor_of_rest {generation : Option UInt64} (hrest : s.motor.gate.running = none)
    (hcurrent : generation = none ∨ generation = some s.motor.gate.generation) (place : Fin n)
    (contact : Bool) (effect : Vibration.Effect) (enabled : Bool) :
    s.vibrateFor generation place contact effect enabled =
      if enabled && contact then s.beginVibration place effect else s := by
  have hidle : s.motor.gate.isRunning = false := by rw [Gate.isRunning, hrest]; rfl
  unfold vibrateFor
  cases hwanted : enabled && contact with
  | false => simp [hidle]
  | true =>
    rcases hcurrent with rfl | rfl <;>
      simp [onMotor, Motor.start, Motor.startIfCurrent, Gate.startIfCurrent, Gate.start,
        Gate.isRunning, hrest, beginVibration, send]

/-- A vibration of a plan begins, if the plan is for one. -/
def ringBy (s : Alerter n) (plan : Plan n) (effect : Vibration.Effect) : Alerter n :=
  if plan.enabled && plan.contact then s.beginVibration plan.call effect else s

/-- What a plan comes to at rest, by what the player has told. -/
def conclude (s : Alerter n) (plan : Plan n) : HapticsSignal → Alerter n
  | .known coupled =>
    if vibratesAlongside coupled plan.playsHaptics plan.rampsByPattern then
      s.ringBy plan plan.effect
    else s.note plan.call .skipVibration (some "using audio-coupled haptics")
  | .lost => s.ringBy plan plan.fallback
  | .awaited => s.ringBy plan plan.fallback

/-- A decision puts nothing on the agenda, and nothing waits on its account. -/
theorem conclude_keeps (s : Alerter n) (plan : Plan n) (signal : HapticsSignal) :
    (s.conclude plan signal).motor.agenda = s.motor.agenda ∧
      (s.conclude plan signal).wait = s.wait := by
  have hring : ∀ effect, (s.ringBy plan effect).motor.agenda = s.motor.agenda ∧
      (s.ringBy plan effect).wait = s.wait := by
    intro effect
    unfold ringBy
    split <;> exact ⟨rfl, rfl⟩
  unfold conclude
  split
  · split
    · exact hring _
    · exact ⟨rfl, rfl⟩
  · exact hring _
  · exact hring _

section

variable {generation : Option UInt64} (hrest : s.motor.gate.running = none)
  (hcurrent : generation = none ∨ generation = some s.motor.gate.generation) (plan : Plan n)

include hrest hcurrent

theorem fallBack_of_rest : s.fallBack generation plan = s.ringBy plan plan.fallback :=
  vibrateFor_of_rest hrest hcurrent _ _ _ _

theorem carryOut_of_rest (coupled : Bool) :
    s.carryOut generation plan coupled = s.conclude plan (.known coupled) := by
  unfold carryOut
  rw [vibrateFor_of_rest hrest hcurrent]
  rfl

end

namespace Alike

theorem beginVibration (h : Alike t u) (place : Fin n) (effect : Vibration.Effect) :
    Alike (t.beginVibration place effect) (u.beginVibration place effect) := by
  have hruns : Alike
      { t with motor := { t.motor with gate :=
        { t.motor.gate with running := some (some place), sent := [] } } }
      { u with motor := { u.motor with gate :=
        { u.motor.gate with running := some (some place), sent := [] } } } := by
    refine ⟨?_, rfl, h.generation, h.agenda, h.told, h.devices⟩
    rw [h.rest]
  exact hruns.send _

theorem ringBy (h : Alike t u) (plan : Plan n) (effect : Vibration.Effect) :
    Alike (t.ringBy plan effect) (u.ringBy plan effect) := by
  unfold Alerter.ringBy
  split
  · exact h.beginVibration _ _
  · exact h

theorem conclude (h : Alike t u) (plan : Plan n) (signal : HapticsSignal) :
    Alike (t.conclude plan signal) (u.conclude plan signal) := by
  unfold Alerter.conclude
  split
  · split
    · exact h.ringBy _ _
    · exact h.note _ _ _
  · exact h.ringBy _ _
  · exact h.ringBy _ _

end Alike

/-! ## A decision and the flash change places -/

/-- Two neighbours change places for a listener who hears one of them at most. -/
theorem filter_append_pair {α : Type} (hears : α → Bool) (before : List α) {a b : α}
    (h : hears a = false ∨ hears b = false) :
    ((before ++ [a]) ++ [b]).filter hears = ((before ++ [b]) ++ [a]).filter hears := by
  rcases h with ha | hb
  · simp only [List.filter_append, List.filter_singleton, ha, cond_false, List.append_nil]
  · simp only [List.filter_append, List.filter_singleton, hb, cond_false, List.append_nil]

/-- What goes to the motor or to a log may go before or after what goes to a device. -/
theorem alike_send_send (s : Alerter n) {quiet loud : Command n}
    (hquiet : quiet.channel = .motor ∨ quiet.channel = .log)
    (hloud : loud.channel ≠ .motor ∧ loud.channel ≠ .log) :
    Alike ((s.send loud).send quiet) ((s.send quiet).send loud) := by
  refine ⟨rfl, rfl, rfl, rfl, fun channel => filter_append_pair _ _ ?_, filter_append_pair _ _ ?_⟩
  · by_cases hheard : quiet.channel = channel
    · right
      refine decide_eq_false fun hother => ?_
      rw [← hheard] at hother
      exact hquiet.elim (fun hm => hloud.1 (hother.trans hm)) fun hl => hloud.2 (hother.trans hl)
    · exact .inl (decide_eq_false hheard)
  · left
    refine decide_eq_false ?_
    rintro ⟨hmotor, hlog⟩
    exact hquiet.elim hmotor hlog

theorem alike_flashOn_note (s : Alerter n) (place : Fin n) (event : Call.Event)
    (detail : Option String) :
    Alike (s.flashOn.note place event detail) (s.note place event detail).flashOn := by
  have hsame : (s.note place event detail).wantsFlash = s.wantsFlash := rfl
  cases hwanted : s.wantsFlash with
  | false =>
    rw [flashOn_of_unwanted hwanted, flashOn_of_unwanted (hsame.trans hwanted)]
    exact Alike.refl _
  | true =>
    rw [flashOn_of_wanted hwanted, flashOn_of_wanted (hsame.trans hwanted)]
    exact alike_send_send { s with flashing := true, calls := s.calls.record place event detail }
      (.inr rfl) ⟨nofun, nofun⟩

theorem alike_flashOn_beginVibration (s : Alerter n) (place : Fin n) (effect : Vibration.Effect) :
    Alike (s.flashOn.beginVibration place effect) (s.beginVibration place effect).flashOn := by
  have hsame : (s.beginVibration place effect).wantsFlash = s.wantsFlash := rfl
  cases hwanted : s.wantsFlash with
  | false =>
    rw [flashOn_of_unwanted hwanted, flashOn_of_unwanted (hsame.trans hwanted)]
    exact Alike.refl _
  | true =>
    rw [flashOn_of_wanted hwanted, flashOn_of_wanted (hsame.trans hwanted)]
    exact alike_send_send
      { s with flashing := true, motor := { s.motor with gate :=
        { s.motor.gate with running := some (some place), sent := [] } } } (.inl rfl)
      ⟨nofun, nofun⟩

theorem alike_flashOn_ringBy (s : Alerter n) (plan : Plan n) (effect : Vibration.Effect) :
    Alike (s.flashOn.ringBy plan effect) (s.ringBy plan effect).flashOn := by
  unfold ringBy
  split
  · exact alike_flashOn_beginVibration s _ _
  · exact Alike.refl _

theorem alike_flashOn_conclude (s : Alerter n) (plan : Plan n) (signal : HapticsSignal) :
    Alike (s.flashOn.conclude plan signal) (s.conclude plan signal).flashOn := by
  unfold conclude
  split
  · split
    · exact alike_flashOn_ringBy s _ _
    · exact alike_flashOn_note s _ _ _
  · exact alike_flashOn_ringBy s _ _
  · exact alike_flashOn_ringBy s _ _

/-! ## A wait that is over -/

theorem schedule_of_timed (htimed : s.motor.timed = true) (signal : HapticsSignal)
    (plan : Plan n) : s.schedule signal plan = { s with wait := some (s.await signal plan) } := by
  unfold schedule
  rw [if_pos htimed]
  rfl

theorem schedule_of_untimed (htimed : s.motor.timed = false) (hrest : s.motor.gate.running = none)
    (signal : HapticsSignal) (plan : Plan n) :
    s.schedule signal plan = s.conclude plan signal := by
  unfold schedule
  rw [if_neg (ne_true_of_eq_false htimed)]
  cases signal with
  | known coupled => exact carryOut_of_rest hrest (.inl rfl) plan coupled
  | lost => exact fallBack_of_rest hrest (.inl rfl) plan
  | awaited => exact fallBack_of_rest hrest (.inl rfl) plan

/-- Nothing is waited for any more. -/
def dropWait (s : Alerter n) : Alerter n := { s with wait := none }

/-- A wait goes on, out of line. -/
def linger (s : Alerter n) (wait : Wait n) : Alerter n :=
  { s with wait := some { wait with ahead := none } }

theorem Alike.dropWait (h : Alike t u) : Alike t.dropWait u.dropWait := by
  refine ⟨?_, h.running, h.generation, h.agenda, h.told, h.devices⟩
  unfold Alerter.dropWait
  rw [h.rest]

section

variable {wait : Wait n} (hwait : s.wait = some wait) (htimed : s.motor.timed = true)
  (hrest : s.motor.gate.running = none) (hagenda : s.motor.agenda = [])
  (hgeneration : wait.generation = s.motor.gate.generation)

include hrest hgeneration in
/-- The plan of a wait of this generation is carried out when the player told, or when the
time is over. -/
theorem attend_of_over (hover : wait.signal ≠ .awaited ∨ wait.deadline ≤ s.motor.now) :
    s.attend wait = s.dropWait.conclude wait.plan wait.signal := by
  have hcurrent : some wait.generation = none ∨
      some wait.generation = some s.dropWait.motor.gate.generation :=
    .inr (congrArg some hgeneration)
  have hfall : s.dropWait.fallBack (some wait.generation) wait.plan =
      s.dropWait.ringBy wait.plan wait.plan.fallback :=
    fallBack_of_rest (s := s.dropWait) hrest hcurrent wait.plan
  unfold attend
  cases hsignal : wait.signal with
  | known coupled => exact carryOut_of_rest (s := s.dropWait) hrest hcurrent _ coupled
  | lost => exact hfall
  | awaited =>
    dsimp only
    rw [if_pos (hover.resolve_left (not_not_intro hsignal))]
    exact hfall

/-- Before that the wait goes on. -/
theorem attend_of_early (hsignal : wait.signal = .awaited) (hearly : s.motor.now < wait.deadline) :
    s.attend wait = s.linger wait := by
  unfold attend
  split
  next hknown => cases hsignal.symm.trans hknown
  next hlost => cases hsignal.symm.trans hlost
  next => exact if_neg (Nat.not_le_of_gt hearly)

include hwait in
theorem timeOut_of_over {deadline : Nat} (hover : wait.deadline ≤ deadline) :
    s.timeOut deadline =
      (s.passUntil wait.deadline).dropWait.fallBack (some wait.generation) wait.plan := by
  unfold timeOut
  rw [hwait]
  exact if_pos hover

include hwait htimed hagenda in
/-- A wait in line takes its turn at once if nothing else is due. -/
theorem settle_of_wait (hahead : wait.ahead.isSome = true) :
    s.settle = (s.drained.attend wait).passUntil s.motor.now := by
  obtain ⟨ahead, hsome⟩ := Option.isSome_iff_exists.mp hahead
  rw [settle, if_pos htimed, takeTurn, hwait]
  dsimp only
  rw [hsome]
  dsimp only
  rw [passFirst_of_agenda hagenda]

include hwait htimed hagenda in
/-- A wait whose turn comes too early lingers, and nothing else happens. -/
theorem settle_of_early (hahead : wait.ahead.isSome = true) (hsignal : wait.signal = .awaited)
    (hearly : s.motor.now < wait.deadline) : s.settle = (s.drained.linger wait).drained := by
  rw [settle_of_wait hwait htimed hagenda hahead,
    attend_of_early (s := s.drained) hsignal hearly]
  exact passUntil_of_agenda (s := s.drained.linger wait) hagenda _

include hwait htimed hrest hagenda hgeneration

/-- A wait that is over when its turn comes leaves what its plan comes to. -/
theorem alike_settle_of_wait (hahead : wait.ahead.isSome = true)
    (hover : wait.signal ≠ .awaited ∨ wait.deadline ≤ s.motor.now) :
    Alike (s.dropWait.conclude wait.plan wait.signal) s.settle := by
  have hconclude := (alike_drained s).dropWait.conclude wait.plan wait.signal
  have hdue : (s.drained.dropWait.conclude wait.plan wait.signal).motor.agenda = [] :=
    (conclude_keeps _ _ _).1.trans hagenda
  rw [settle_of_wait hwait htimed hagenda hahead,
    attend_of_over (s := s.drained) hrest hgeneration hover, passUntil_of_agenda hdue]
  exact hconclude.trans (alike_drained _)

/-- So does a wait for a player who does not tell until the time is over. -/
theorem alike_advance_of_wait (hahead : wait.ahead.isSome = true)
    (hsignal : wait.signal = .awaited) {milliseconds : Nat}
    (hover : wait.deadline ≤ s.motor.now + milliseconds) :
    Alike (s.dropWait.conclude wait.plan .awaited) (s.advance milliseconds) := by
  obtain ⟨hagenda', hwait'⟩ := conclude_keeps s.dropWait wait.plan .awaited
  -- the wait is over when its turn comes, or else when the clock has moved
  have htimedOut : Alike (s.dropWait.conclude wait.plan .awaited)
      (s.settle.timeOut (s.settle.motor.now + milliseconds)) := by
    rcases Nat.lt_or_ge s.motor.now wait.deadline with hearly | hnow
    · have hlingers : (s.drained.linger wait).drained.wait = some { wait with ahead := none } := rfl
      have hreached :
          wait.deadline ≤ (s.drained.linger wait).drained.motor.now + milliseconds := hover
      have hpast : Alike s.dropWait
          ((s.drained.linger wait).drained.passUntil wait.deadline).dropWait := by
        rw [passUntil_of_agenda (s := (s.drained.linger wait).drained) hagenda]
        exact .of_motor rfl rfl rfl
      rw [settle_of_early hwait htimed hagenda hahead hsignal hearly,
        timeOut_of_over hlingers hreached, fallBack_of_rest (hpast.running.trans hrest)
          (.inr (congrArg some (hgeneration.trans hpast.generation.symm)))]
      exact hpast.ringBy _ _
    · have hsettle := alike_settle_of_wait hwait htimed hrest hagenda hgeneration hahead (.inr hnow)
      rw [hsignal] at hsettle
      rwa [timeOut_of_wait (hsettle.wait.trans hwait')]
  rw [advance, if_pos htimed]
  exact htimedOut.trans (alike_moveClock (htimedOut.agenda.trans (hagenda'.trans hagenda)) _)

end

/-! ## A ring that is heard -/

/-- A ring that is heard, up to its decision about vibrating. -/
def announce (s : Alerter n) (place : Fin n) (ringtone : Ringtone) : Alerter n :=
  let enabled := s.stopWaiting.isMotorEnabled
  let s := (s.stopWaiting.noteMotor place).beginRing place
  { s with playing := true }.send (.play ringtone s.curve enabled)

/-- The plan of a ring that is heard, by the facts of the moment at which it was asked for. -/
def heardPlan (s : Alerter n) (place : Fin n) (inputs : RingInputs) : Plan n :=
  s.plan place inputs.contact s.isMotorEnabled (s.selectEffect place)

theorem touches_announce (s : Alerter n) (place : Fin n) (ringtone : Ringtone) :
    Touches [.waiting, .logs, .told .log, .told .tone, .ringing, .playing, .told .ringtone] s
      (s.announce place ringtone) :=
  ((((touches_stopWaiting s).trans (touches_noteMotor _ place)).trans
    (touches_beginRing _ place)).trans (touches_play _ ringtone _ _)).mono (by decide)

/-- A ring that is heard is announced, then it decides about vibrating, and the flash goes
on last. -/
theorem renderRing_eq_of_audible (s : Alerter n) (place : Fin n) (ringtone : Ringtone)
    {inputs : RingInputs} (haudible : inputs.isAudible = true) :
    s.renderRing place (some ringtone) inputs =
      (match s.surroundings.hapticsSignal with
      | some signal => (s.announce place ringtone).schedule signal (s.heardPlan place inputs)
      | none => (s.announce place ringtone).vibrateFor none place inputs.contact
          (s.selectEffect place) s.isMotorEnabled).flashOn := by
  have hannounced := touches_announce s place ringtone
  have henabled : s.stopWaiting.isMotorEnabled = s.isMotorEnabled :=
    (touches_stopWaiting s).isMotorEnabled (by decide)
  have hplan := hannounced.plan (by decide) place inputs.contact s.isMotorEnabled
    (s.selectEffect place)
  have haloud : (s.stopWaiting.noteMotor place).ringAloud place ringtone inputs.contact
      s.stopWaiting.isMotorEnabled =
      match (s.announce place ringtone).surroundings.hapticsSignal with
      | some signal => (s.announce place ringtone).schedule signal
          ((s.announce place ringtone).plan place inputs.contact s.stopWaiting.isMotorEnabled
            ((s.announce place ringtone).selectEffect place))
      | none => (s.announce place ringtone).vibrateFor none place inputs.contact
          ((s.announce place ringtone).selectEffect place) s.stopWaiting.isMotorEnabled := rfl
  unfold renderRing
  dsimp only
  rw [if_pos haudible, haloud, henabled, hannounced.selectEffect (by decide), hplan,
    hannounced.hapticsSignal (by decide)]
  rfl

/-! ## With a runtime and without -/

theorem withClock_stopWaiting (s : Alerter n) (timed : Bool) :
    (s.withClock timed).stopWaiting = s.stopWaiting.withClock timed := by
  unfold stopWaiting withClock
  dsimp only
  split <;> rfl

theorem withClock_announce (s : Alerter n) (place : Fin n) (ringtone : Ringtone) (timed : Bool) :
    (s.withClock timed).announce place ringtone = (s.announce place ringtone).withClock timed := by
  unfold announce
  rw [withClock_stopWaiting]
  rfl

theorem withClock_flashOn (s : Alerter n) (timed : Bool) :
    (s.withClock timed).flashOn = s.flashOn.withClock timed := by
  unfold flashOn withClock
  dsimp only
  split <;> rfl

theorem withClock_noteEarlyEnd (s : Alerter n) (place : Fin n) (inputs : RingInputs)
    (timed : Bool) :
    (s.withClock timed).noteEarlyEnd place inputs =
      (s.noteEarlyEnd place inputs).withClock timed := by
  unfold noteEarlyEnd
  split <;> split <;> rfl

/-- What has to pass until the word of the ringtone player, or the end of the wait for it,
has taken effect. -/
def outwait (s : Alerter n) : Operation n :=
  match s.surroundings.hapticsSignal with
  | some .awaited => .advance s.profile.hapticsTimeout
  | _ => .settle

theorem alike_outwait (s : Alerter n) (hwait : t.wait = none) (hagenda : t.motor.agenda = []) :
    Alike t (t.perform s.outwait).1 := by
  unfold outwait
  split
  · exact alike_advance hwait hagenda _
  · exact alike_settle hwait hagenda

/-- A plan that waits comes to what it would have come to, by the word that it waited for. -/
theorem alike_outwait_of_wait (s : Alerter n) {wait : Wait n} (hwait : t.wait = some wait)
    (htimed : t.motor.timed = true) (hrest : t.motor.gate.running = none)
    (hagenda : t.motor.agenda = []) (hgeneration : wait.generation = t.motor.gate.generation)
    (hahead : wait.ahead.isSome = true) (hsignal : s.surroundings.hapticsSignal = some wait.signal)
    (hdeadline : wait.deadline ≤ t.motor.now + s.profile.hapticsTimeout) :
    Alike (t.dropWait.conclude wait.plan wait.signal) (t.perform s.outwait).1 := by
  have hsettled : ∀ word, wait.signal = word → word ≠ .awaited →
      Alike (t.dropWait.conclude wait.plan word) t.settle := by
    rintro word rfl htold
    exact alike_settle_of_wait hwait htimed hrest hagenda hgeneration hahead (.inl htold)
  rw [outwait, hsignal]
  cases hword : wait.signal with
  | known coupled => exact hsettled _ hword nofun
  | lost => exact hsettled _ hword nofun
  | awaited =>
    exact alike_advance_of_wait hwait htimed hrest hagenda hgeneration hahead hword hdeadline

theorem dropWait_of_wait (h : s.wait = none) : s.dropWait = s := by
  rw [dropWait, ← h]

/-- The flash does not look at what waits. -/
theorem dropWait_flashOn (s : Alerter n) (wait : Option (Wait n)) :
    { s with wait := wait }.flashOn.dropWait = s.dropWait.flashOn := by
  unfold flashOn dropWait
  dsimp only
  split <;> rfl

/-- Where nothing is put off the runtime makes no difference. -/
theorem alike_clocks (s : Alerter n) (hwait : t.wait = none) (hagenda : t.motor.agenda = []) :
    Alike ((t.withClock true).perform s.outwait).1 (t.withClock false) :=
  ((alike_outwait s (t := t.withClock true) hwait hagenda).symm.trans
    (alike_withClock t true).symm).trans (alike_withClock t false)

/-- Nothing vibrates, nothing is waited for, and no brief vibration is due to end. -/
structure Clear (s : Alerter n) : Prop where
  running : s.motor.gate.running = none
  wait : s.wait = none
  agenda : s.motor.agenda = []

theorem Touches.clear {parts : List Part} (h : Touches parts s t) (hmotor : Part.motor ∉ parts)
    (hwait : Part.wait ∉ parts) (hs : s.Clear) : t.Clear := by
  have hsame : t.motor = s.motor := h.motor hmotor
  exact ⟨hsame ▸ hs.running, Eq.trans (h.keeps .wait hwait) hs.wait, hsame ▸ hs.agenda⟩

section

variable (ht : t.Clear)

include ht

/-- A decision made at once needs no runtime. -/
theorem alike_clocks_vibrateFor (s : Alerter n) (place : Fin n) (contact : Bool)
    (effect : Vibration.Effect) (enabled : Bool) :
    Alike
      ((((t.withClock true).vibrateFor none place contact effect enabled).flashOn).perform
        s.outwait).1
      ((t.withClock false).vibrateFor none place contact effect enabled).flashOn := by
  have hclock : ∀ timed, (t.withClock timed).vibrateFor none place contact effect enabled =
      (if enabled && contact then t.beginVibration place effect else t).withClock timed := by
    intro timed
    rw [vibrateFor_of_rest (s := t.withClock timed) ht.running (.inl rfl)]
    split <;> rfl
  have hmotor : ∀ u : Alerter n, u.flashOn.motor = u.motor :=
    fun u => (touches_flashOn u).keeps .motor (by decide)
  have hkept : ∀ u : Alerter n, u.flashOn.wait = u.wait :=
    fun u => (touches_flashOn u).keeps .wait (by decide)
  rw [hclock, hclock, withClock_flashOn, withClock_flashOn]
  refine alike_clocks s ?_ ?_
  · rw [hkept]
    split <;> exact ht.wait
  · rw [hmotor]
    split <;> exact ht.agenda

/-- A decision that is put off is made in the end as it would have been made at once. -/
theorem alike_clocks_schedule (s : Alerter n) {signal : HapticsSignal} (plan : Plan n)
    (hsignal : s.surroundings.hapticsSignal = some signal) (hprofile : t.profile = s.profile) :
    Alike ((((t.withClock true).schedule signal plan).flashOn).perform s.outwait).1
      ((t.withClock false).schedule signal plan).flashOn := by
  have hnow : ((t.withClock false).schedule signal plan).flashOn =
      ((t.withClock false).conclude plan signal).flashOn := by
    rw [schedule_of_untimed (s := t.withClock false) rfl ht.running]
  have hchanged : Alike ((t.withClock true).flashOn.conclude plan signal)
      ((t.withClock false).conclude plan signal).flashOn :=
    (alike_flashOn_conclude _ plan signal).trans
      (((alike_withClock t true).symm.trans (alike_withClock t false)).conclude plan signal).flashOn
  rw [hnow, schedule_of_timed (s := t.withClock true) rfl]
  -- the plan waits with the flash on already, and nothing else is on its way
  set wait := (t.withClock true).await signal plan
  set later := { t.withClock true with wait := some wait }.flashOn
  have hmotor : later.motor = (t.withClock true).motor :=
    (touches_flashOn _).keeps .motor (by decide)
  have hwaits : later.wait = some wait := (touches_flashOn _).keeps .wait (by decide)
  have hdropped : later.dropWait = (t.withClock true).flashOn := by
    rw [dropWait_flashOn, dropWait_of_wait (s := t.withClock true) ht.wait]
  have hover : Alike (later.dropWait.conclude wait.plan wait.signal)
      (later.perform s.outwait).1 := by
    refine alike_outwait_of_wait s hwaits ?_ ?_ ?_ ?_ rfl hsignal ?_
    · rw [hmotor]
      rfl
    · rw [hmotor]
      exact ht.running
    · rw [hmotor]
      exact ht.agenda
    · rw [hmotor]
      rfl
    · rw [hmotor, ← hprofile]
      exact Nat.le_refl (t.motor.now + t.profile.hapticsTimeout)
  rw [hdropped] at hover
  exact hover.symm.trans hchanged

end

/-! ## The result -/

/-- A ring whose call is not heard decides about vibrating at once. -/
theorem renderRing_eq_of_inaudible (s : Alerter n) (place : Fin n) (ringtone : Option Ringtone)
    {inputs : RingInputs} (haudible : inputs.isAudible = false) :
    s.renderRing place ringtone inputs =
      ((s.stopWaiting.noteMotor place).ringSilently place inputs
        s.stopWaiting.isMotorEnabled).flashOn := by
  unfold renderRing
  dsimp only
  cases ringtone with
  | none => rfl
  | some ringtone =>
    dsimp only
    rw [if_neg (ne_true_of_eq_false haudible)]

theorem alike_clocks_renderRing (hs : s.Clear) (place : Fin n) {ringtone : Option Ringtone}
    {inputs : RingInputs} (hsource : inputs.source = ringtone.isSome) :
    Alike (((s.withClock true).renderRing place ringtone inputs).perform s.outwait).1
      ((s.withClock false).renderRing place ringtone inputs) := by
  cases haudible : inputs.isAudible with
  | false =>
    have hnoted : (s.stopWaiting.noteMotor place).Clear :=
      ((touches_stopWaiting s).trans (touches_noteMotor _ place)).clear (by decide) (by decide) hs
    rw [renderRing_eq_of_inaudible _ _ _ haudible, renderRing_eq_of_inaudible _ _ _ haudible,
      withClock_stopWaiting, withClock_stopWaiting]
    exact alike_clocks_vibrateFor (t := (s.stopWaiting.noteMotor place).note place .skipRinging _)
      ((touches_note _ _ _ _).clear (by decide) (by decide) hnoted) s place inputs.contact _ _
  | true =>
    cases ringtone with
    | none =>
      rw [RingInputs.isAudible, hsource] at haudible
      simp at haudible
    | some ringtone =>
      have hannounced := touches_announce s place ringtone
      have hclear := hannounced.clear (by decide) (by decide) hs
      rw [renderRing_eq_of_audible _ _ _ haudible, renderRing_eq_of_audible _ _ _ haudible,
        withClock_announce, withClock_announce]
      cases hsignal : s.surroundings.hapticsSignal with
      | none =>
        have hclock : ∀ timed, (s.withClock timed).surroundings.hapticsSignal = none :=
          fun _ => hsignal
        rw [hclock, hclock]
        exact alike_clocks_vibrateFor hclear s place inputs.contact _ _
      | some signal =>
        have hclock : ∀ timed, (s.withClock timed).surroundings.hapticsSignal = some signal :=
          fun _ => hsignal
        rw [hclock, hclock]
        exact alike_clocks_schedule hclear s _ hsignal (hannounced.keeps .profile (by decide))

/-- From every state in which nothing vibrates, nothing is waited for and no brief
vibration is due to end: a request to ring has the same answer on a phone with a runtime and
on one without. Once its wait is over, if it waits, the two are alike. -/
theorem startRinging_agrees_without_clock (s : Alerter n) (hs : s.Clear)
    (place : Option (Fin n)) (handsFree : Bool) :
    let deferred := (s.withClock true).startRinging place handsFree
    let immediate := (s.withClock false).startRinging place handsFree
    deferred.2 = immediate.2 ∧ Alike (deferred.1.perform s.outwait).1 immediate.1 := by
  intro deferred immediate
  rcases place with - | place
  · exact ⟨rfl, alike_clocks s hs.wait hs.agenda⟩
  · cases hringing : (s.call place).state.isRinging with
    | false =>
      have hrefused : ∀ timed, (s.withClock timed).startRinging (some place) handsFree =
          (s.withClock timed, false) :=
        fun _ => if_neg (ne_true_of_eq_false hringing)
      simp only [deferred, immediate, hrefused]
      exact ⟨trivial, alike_clocks s hs.wait hs.agenda⟩
    | true =>
      have hanswer : ∀ timed, ((s.withClock timed).startRinging (some place) handsFree).2 =
          (s.toneInputs place).wantsFocus handsFree :=
        fun timed => startRinging_answer (s := s.withClock timed) handsFree hringing
      refine ⟨(hanswer true).trans (hanswer false).symm, ?_⟩
      have hstart : ∀ timed, ((s.withClock timed).startRinging (some place) handsFree).1 =
          if (s.toneInputs place).endsEarly then
            (s.withClock timed).noteEarlyEnd place (s.toneInputs place)
          else (s.withClock timed).renderRing place (s.surroundings.ringtoneOf (s.call place))
            (s.toneInputs place) :=
        fun timed => startRinging_eq (s := s.withClock timed) handsFree hringing
      simp only [deferred, immediate, hstart]
      split
      · have hclear := (touches_noteEarlyEnd s place (s.toneInputs place)).clear (by decide)
          (by decide) hs
        rw [withClock_noteEarlyEnd, withClock_noteEarlyEnd]
        exact alike_clocks s hclear.wait hclear.agenda
      · exact alike_clocks_renderRing hs place rfl

/-- The player does not tell. The flash goes on while the wait lasts, and without a runtime
only after the vibration began. -/
theorem startRinging_waits_and_agrees :
    let ring : Call :=
      { state := .ringing, ringtone := some ⟨"content://ring"⟩, id := .ofNat 1, log := .empty 64 }
    let start := idle (n := 1) ⟨#v[ring]⟩ {} { vibrateWhenRinging := true, flashOnRing := true }
      { hapticsSignal := some .awaited } true
    let deferred := (start.withClock true).startRinging (some 0) false
    let immediate := (start.withClock false).startRinging (some 0) false
    deferred.1.pending.isSome = true ∧ deferred.1.flashing = true ∧ deferred.1.rung = [] ∧
      immediate.1.rung = [start.ringEffect] ∧
      Alike (deferred.1.perform start.outwait).1 immediate.1 := by
  intro ring start deferred immediate
  refine ⟨rfl, rfl, rfl, by decide, ?_⟩
  exact (startRinging_agrees_without_clock start ⟨rfl, rfl, rfl⟩ (some 0) false).2

end PhoneAudio.Alerter
