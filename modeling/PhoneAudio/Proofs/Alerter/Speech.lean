import PhoneAudio.Alerter.Operation
import PhoneAudio.Proofs.Motor.Speech
import PhoneAudio.Proofs.Signal

/-!
# What the steps of an alerter say

An alerter only ever appends to what it sent. `Says topics s t` says that what was
appended from `s` to `t` is on the listed topics, and that it accounts for what the
motor lets run. Every step has one such statement, and what a run of steps says
follows by `Says.trans`. The topics are finer than the channels of the devices: a
tone player that starts is another topic than one that stops, and so are two kinds
of notes on a call.

A reading of what was sent that takes in nothing on the listed topics is the same
after the step as before it (`Says.filterMap`).
-/

namespace PhoneAudio.Alerter

variable {n : Nat}

/-! ## Topics -/

/-- What a command of the alerter is about. -/
inductive Topic where
  | ringtone
  | motor (topic : Motor.Topic)
  | volume
  | flash
  | toneStart (tone : Tone)
  | toneStop (tone : Tone)
  | note (event : Call.Event)
deriving DecidableEq

def Command.topic : Command n → Topic
  | .play _ _ _ => .ringtone
  | .stopRingtone => .ringtone
  | .motor command => .motor command.topic
  | .setVolume _ _ => .volume
  | .watchVolume _ => .volume
  | .unwatchVolume _ => .volume
  | .flash _ => .flash
  | .startTone tone _ => .toneStart tone
  | .stopTone tone _ => .toneStop tone
  | .note _ event _ => .note event

/-- What runs after one more command. -/
def Command.heard (running : Option Vibration.Usage) : Command n → Option Vibration.Usage
  | .motor command => command.heard running
  | _ => running

/-- From `s` to `t` only commands on the listed topics were sent, and they account for
what the motor lets run. -/
def Says (topics : List Topic) (s t : Alerter n) : Prop :=
  Adds Command.topic Command.heard topics s.sent s.motor.gate.usage? t.sent t.motor.gate.usage?

namespace Says

variable {topics more : List Topic} {s t u : Alerter n}

/-- A step that neither sends anything nor starts or ends a vibration. -/
theorem silently (topics : List Topic) (hsent : t.sent = s.sent)
    (hrunning : t.motor.gate.running = s.motor.gate.running) : Says topics s t :=
  Adds.silently topics hsent (congrArg (Option.map Gate.usageOf) hrunning)

theorem refl (topics : List Topic) (s : Alerter n) : Says topics s s := silently topics rfl rfl

theorem mono (h : Says topics s t) (sub : topics ⊆ more) : Says more s t := Adds.mono h sub

theorem trans (h₁ : Says topics s t) (h₂ : Says more t u) : Says (topics ++ more) s u :=
  Adds.trans h₁ h₂

/-- A reading that takes in nothing on the listed topics is the same as before. -/
theorem filterMap {α : Type} (h : Says topics s t) {reading : Command n → Option α}
    (hreading : ∀ command, command.topic ∈ topics → reading command = none) :
    t.sent.filterMap reading = s.sent.filterMap reading :=
  Adds.filterMap h hreading

end Says

/-! ## The small steps -/

/-- A command that is not about the motor, or that does not change what vibrates. -/
theorem says_send (s : Alerter n) (command : Command n)
    (h : s.motor.gate.usage? = command.heard s.motor.gate.usage?) :
    Says [command.topic] s (s.send command) :=
  Adds.single rfl h

theorem says_note (s : Alerter n) (place : Fin n) (event : Call.Event)
    (detail : Option String) : Says [.note event] s (s.note place event detail) :=
  says_send { s with calls := s.calls.record place event detail } (.note place event detail) rfl

/-- The motor says what its gate says, by way of the alerter. -/
theorem says_onMotor {β : Type} (topics : List Motor.Topic) (s : Alerter n)
    {act : Motor (Fin n) → Motor (Fin n) × β}
    (hact : ∀ motor, Gate.Says topics motor.gate (act motor).1.gate) :
    Says (topics.map .motor) s (s.onMotor act).1 := by
  obtain ⟨news, hsent, htopics, hheard⟩ :=
    hact { s.motor with gate := { s.motor.gate with sent := [] } }
  have hfold : ∀ running, (news.map Command.motor).foldl (Command.heard (n := n)) running =
      news.foldl Motor.Command.heard running := by
    intro running
    rw [List.foldl_map]
    rfl
  refine ⟨news.map .motor, ?_, ?_, ?_⟩
  · show s.sent ++ List.map Command.motor _ = _
    rw [hsent, List.nil_append]
  · intro command hmem
    obtain ⟨told, htold, rfl⟩ := List.mem_map.mp hmem
    exact List.mem_map_of_mem (htopics told htold)
  · rw [hfold]
    exact hheard

theorem says_changeVolume (s : Alerter n) (stream : Stream) (level : Nat) :
    Says [] s (s.changeVolume stream level) := by
  unfold changeVolume hearVolume
  split
  · split <;> exact .silently _ rfl rfl
  · exact .silently _ rfl rfl

theorem says_setVolume (s : Alerter n) (stream : Stream) (level : Nat) :
    Says [.volume] s (s.setVolume stream level) := by
  have hsend : Says [.volume] s (s.send (.setVolume stream level)) := says_send s _ rfl
  exact hsend.trans (says_changeVolume _ stream level)

/-! ## Vibrations -/

/-- What the decision about vibrating for a ring may say. -/
abbrev ringVibrationTopics : List Topic := [.motor (.vibration .ringtone), .note .skipVibration]

theorem says_vibrateFor (s : Alerter n) (generation : Option UInt64) (place : Fin n)
    (contact : Bool) (effect : Vibration.Effect) (enabled : Bool) :
    Says ringVibrationTopics s (s.vibrateFor generation place contact effect enabled) := by
  unfold vibrateFor
  split
  next s' started h =>
  have hs : Says [.motor (.vibration .ringtone)] s s' := by
    split at h
    · obtain rfl : _ = s' := congrArg Prod.fst h
      refine says_onMotor [.vibration .ringtone] s fun motor => ?_
      cases generation with
      | none => exact motor.gate.says_start (some place) effect
      | some generation => exact motor.gate.says_startIfCurrent generation (some place) effect
    · obtain rfl : s = s' := congrArg Prod.fst h
      exact Says.refl _ s
  split
  · exact hs.mono (by decide)
  · split
    · exact hs.trans (says_note s' _ _ _)
    · exact hs.mono (by decide)

theorem says_carryOut (s : Alerter n) (generation : Option UInt64) (plan : Plan n)
    (coupled : Bool) : Says ringVibrationTopics s (s.carryOut generation plan coupled) := by
  unfold carryOut
  split
  · exact says_vibrateFor s _ _ _ _ _
  · exact (says_note s _ _ _).mono (by decide)

theorem says_fallBack (s : Alerter n) (generation : Option UInt64) (plan : Plan n) :
    Says ringVibrationTopics s (s.fallBack generation plan) :=
  says_vibrateFor s _ _ _ _ _

theorem says_schedule (s : Alerter n) (signal : HapticsSignal) (plan : Plan n) :
    Says ringVibrationTopics s (s.schedule signal plan) := by
  unfold schedule
  split
  · exact .silently _ rfl rfl
  · cases signal with
    | known coupled => exact says_carryOut s none plan coupled
    | lost => exact says_fallBack s none plan
    | awaited => exact says_fallBack s none plan

theorem says_cancelVibration (s : Alerter n) :
    Says [.motor .stop, .note .stopVibrator] s s.cancelVibration := by
  have hcancel : Says [.motor .stop] s ({ s with wait := none }.onMotor Motor.cancel).1 :=
    says_onMotor [.stop] { s with wait := none } fun motor => motor.gate.says_cancel
  unfold cancelVibration
  dsimp only
  split
  · exact hcancel.trans (says_note _ _ _ _)
  · exact hcancel.mono (by decide)

/-! ## Tones -/

theorem says_startTone (s : Alerter n) (tone : Tone) :
    Says [.toneStart tone] s (s.startTone tone).1 :=
  says_send { s with players := s.players + 1 } (.startTone tone (s.players + 1)) rfl

theorem says_stopTone (s : Alerter n) (tone : Tone) (player : Nat) :
    Says [.toneStop tone] s (s.stopTone tone player) :=
  says_send s (.stopTone tone player) rfl

theorem says_stopWaiting (s : Alerter n) :
    Says [.note .stopWaitingTone, .toneStop .waiting] s s.stopWaiting := by
  unfold stopWaiting
  split
  · exact Says.refl _ s
  next waiting _ =>
    have hnote : Says [.note .stopWaitingTone] s
        ({ s with waiting := none }.note waiting.call .stopWaitingTone none) :=
      says_note { s with waiting := none } _ _ _
    exact hnote.trans (says_stopTone _ _ _)

theorem says_beginWaiting (s : Alerter n) (place : Fin n) (reason : Option String) :
    Says [.note .startWaitingTone, .toneStart .waiting] s (s.beginWaiting place reason) := by
  unfold beginWaiting
  split
  · exact Says.refl _ s
  · exact (says_note s place .startWaitingTone reason).trans (says_startTone _ .waiting)

/-! ## Rings -/

theorem says_noteEarlyEnd (s : Alerter n) (place : Fin n) (inputs : RingInputs) :
    Says [.note .skipRinging] s (s.noteEarlyEnd place inputs) := by
  unfold noteEarlyEnd
  split <;> split
  · exact ((says_note s _ _ _).trans (says_note _ _ _ _)).mono (by decide)
  · exact says_note s _ _ _
  · exact says_note s _ _ _
  · exact Says.refl _ s

theorem says_noteMotor (s : Alerter n) (place : Fin n) :
    Says [.note .startVibrator, .note .skipVibration] s (s.noteMotor place) := by
  unfold noteMotor
  split
  · exact (says_note s _ _ _).mono (by decide)
  · exact (says_note s _ _ _).mono (by decide)

theorem says_beginRing (s : Alerter n) (place : Fin n) :
    Says [.note .startRinger] s (s.beginRing place) :=
  says_note { s with ringing := some place } place .startRinger none

theorem says_endRing (s : Alerter n) : Says [.note .stopRinger] s s.endRing := by
  unfold endRing
  split
  · exact Says.refl _ s
  next place _ => exact says_note { s with ringing := none } place .stopRinger none

theorem says_play (s : Alerter n) (ringtone : Ringtone) (curve : Option VolumeCurve)
    (vibrates : Bool) :
    Says [.ringtone] s ({ s with playing := true }.send (.play ringtone curve vibrates)) :=
  says_send { s with playing := true } (.play ringtone curve vibrates) rfl

theorem says_stopRingtone (s : Alerter n) : Says [.ringtone] s s.stopRingtone :=
  says_send { s with playing := false } .stopRingtone rfl

theorem says_flashOn (s : Alerter n) : Says [.flash] s s.flashOn := by
  unfold flashOn
  split
  · exact says_send { s with flashing := true } (.flash true) rfl
  · exact Says.refl _ s

theorem says_flashOff (s : Alerter n) : Says [.flash] s s.flashOff := by
  unfold flashOff
  split
  · split
    · exact says_send { s with flashing := false } (.flash false) rfl
    · exact .silently _ rfl rfl
  · exact Says.refl _ s

/-- What the decision about a ring may say, from the note on the motor on. -/
abbrev decisionTopics : List Topic :=
  [.note .startVibrator, .note .startRinger, .note .skipRinging] ++ ringVibrationTopics

theorem says_ringAloud (s : Alerter n) (place : Fin n) (ringtone : Ringtone)
    (contact enabled : Bool) :
    Says (.ringtone :: decisionTopics) s (s.ringAloud place ringtone contact enabled) := by
  have hplay := (says_beginRing s place).trans
    (says_play _ ringtone (s.beginRing place).curve enabled)
  unfold ringAloud
  dsimp only
  split
  · exact (hplay.trans (says_schedule _ _ _)).mono (by decide)
  · exact (hplay.trans (says_vibrateFor _ _ _ _ _ _)).mono (by decide)

theorem says_ringSilently (s : Alerter n) (place : Fin n) (inputs : RingInputs)
    (enabled : Bool) : Says decisionTopics s (s.ringSilently place inputs enabled) :=
  ((says_note s _ _ _).trans (says_vibrateFor _ _ _ _ _ _)).mono (by decide)

/-- What a ring says once the waiting tone has ended. -/
theorem says_renderRing (s : Alerter n) (place : Fin n) (ringtone : Option Ringtone)
    (inputs : RingInputs) :
    Says ([.ringtone, .flash] ++ decisionTopics) s.stopWaiting
      (s.renderRing place ringtone inputs) := by
  have hnoted := says_noteMotor s.stopWaiting place
  unfold renderRing
  dsimp only
  cases ringtone with
  | none =>
    exact ((hnoted.trans (says_ringSilently _ _ _ _)).trans (says_flashOn _)).mono (by decide)
  | some ringtone =>
    dsimp only
    split
    · exact ((hnoted.trans (says_ringAloud _ _ _ _ _)).trans (says_flashOn _)).mono (by decide)
    · exact ((hnoted.trans (says_ringSilently _ _ _ _)).trans (says_flashOn _)).mono (by decide)

/-! ## Carrier rings -/

theorem says_raiseVoice (s : Alerter n) : Says [.volume] s s.raiseVoice := by
  have hwatch : ∀ t : Alerter n, Says [.volume] t t.watchVolume.1 :=
    fun t => says_send { t with
      watches := t.watches + 1, watching := t.watching ++ [t.watches + 1] } (.watchVolume _) rfl
  unfold raiseVoice
  dsimp only
  split
  · have hset := (says_setVolume s .voiceCall (carrierVolume s.surroundings.ringVolume)).trans
      (hwatch _)
    exact (hset.trans (.silently [] rfl rfl)).mono (by decide)
  · exact ((says_setVolume s .voiceCall (carrierVolume s.surroundings.ringVolume)).trans
      (.silently [] rfl rfl)).mono (by decide)

theorem says_restoreVoice (s : Alerter n) : Says [.volume] s s.restoreVoice := by
  unfold restoreVoice
  split
  · exact Says.refl _ s
  next override _ =>
    have hunwatch : Says [.volume] s ({ s with override := none }.unwatchVolume override.token) :=
      says_send { s with
        override := none, watching := s.watching.filter (· ≠ override.token) }
        (.unwatchVolume override.token) rfl
    exact (hunwatch.trans (says_setVolume _ _ _)).mono (by decide)

/-- What a carrier ring says once the waiting tone has ended. -/
theorem says_renderCarrierRing (s : Alerter n) (place : Fin n) (inputs : RingInputs) :
    Says (.volume :: decisionTopics) s.stopWaiting (s.renderCarrierRing place inputs) := by
  have hnoted := says_noteMotor s.stopWaiting place
  unfold renderCarrierRing
  dsimp only
  split
  · exact (((hnoted.trans (says_beginRing _ _)).trans (says_raiseVoice _)).trans
      (says_vibrateFor _ _ _ _ _ _)).mono (by decide)
  · exact ((hnoted.trans (says_note _ _ _ _)).trans (says_vibrateFor _ _ _ _ _ _)).mono
      (by decide)

/-! ## Falling quiet -/

/-- What the end of a ring may say, be it the carrier's or not. -/
abbrev quietTopics : List Topic :=
  [.ringtone, .flash, .volume, .motor .stop, .note .stopRinger, .note .stopVibrator]

theorem says_stopRinging (s : Alerter n) : Says quietTopics s s.stopRinging := by
  unfold stopRinging
  split
  · exact (((says_endRing s).trans (says_restoreVoice _)).trans
      (says_cancelVibration _)).mono (by decide)
  · exact ((((says_endRing s).trans (says_stopRingtone _)).trans
      (says_cancelVibration _)).trans (says_flashOff _)).mono (by decide)

theorem says_tap (s : Alerter n) : Says [.motor (.vibration .feedback)] s s.tap := by
  unfold tap
  split
  · exact says_send s (.motor (.vibrate .thud .feedback)) rfl
  · exact Says.refl _ s

theorem says_buzzOnConnect (s : Alerter n) :
    Says [.motor (.vibration .voiceCommunication)] s s.buzzOnConnect.1 := by
  unfold buzzOnConnect
  split
  · exact says_onMotor [.vibration .voiceCommunication] s fun motor => motor.says_buzz _ _
  · exact Says.refl _ s

/-! ## Time -/

theorem says_signal (s : Alerter n) (signal : HapticsSignal) : Says [] s (s.signal signal) := by
  unfold Alerter.signal
  split
  · exact Says.refl _ s
  · split
    · exact .silently _ rfl rfl
    · exact Says.refl _ s

theorem says_attend (s : Alerter n) (wait : Wait n) :
    Says ringVibrationTopics s (s.attend wait) := by
  unfold attend
  split
  · exact says_carryOut { s with wait := none } _ _ _
  · exact says_fallBack { s with wait := none } _ _
  · split
    · exact says_fallBack { s with wait := none } _ _
    · exact .silently _ rfl rfl

theorem says_passUntil (s : Alerter n) (deadline : Nat) :
    Says [.motor .stop] s (s.passUntil deadline) :=
  says_onMotor [.stop] s fun motor =>
    Motor.says_passAll { motor with agenda := motor.agenda.filter (deadline < ·.deadline) } _

theorem says_passFirst (s : Alerter n) (count : Nat) :
    Says [.motor .stop] s (s.passFirst count) :=
  says_onMotor [.stop] s fun motor =>
    Motor.says_passAll { motor with agenda := motor.agenda.drop count } _

/-- What the passing of time may say. -/
abbrev timeTopics : List Topic := .motor .stop :: ringVibrationTopics

theorem says_takeTurn (s : Alerter n) : Says timeTopics s s.takeTurn := by
  unfold takeTurn
  split
  · exact Says.refl _ s
  · split
    · exact Says.refl _ s
    · exact (says_passFirst s _).trans (says_attend _ _)

theorem says_timeOut (s : Alerter n) (deadline : Nat) : Says timeTopics s (s.timeOut deadline) := by
  unfold timeOut
  split
  · exact Says.refl _ s
  next wait _ =>
    split
    · exact (says_passUntil s wait.deadline).trans
        (says_fallBack { s.passUntil wait.deadline with wait := none } _ _)
    · exact Says.refl _ s

theorem says_moveClock (s : Alerter n) (time : Nat) :
    Says [.motor .stop] s (s.moveClock time) :=
  ((says_passUntil s time).trans (.silently [] rfl rfl)).mono (by decide)

theorem says_settle (s : Alerter n) : Says timeTopics s s.settle := by
  unfold settle
  split
  · exact ((says_takeTurn s).trans (says_passUntil _ _)).mono (by decide)
  · exact (says_passUntil s _).mono (by decide)

theorem says_advance (s : Alerter n) (milliseconds : Nat) :
    Says timeTopics s (s.advance milliseconds) := by
  unfold advance
  dsimp only
  split
  · exact (((says_settle s).trans (says_timeOut _ _)).trans (says_moveClock _ _)).mono (by decide)
  · exact ((says_settle s).trans (says_moveClock _ _)).mono (by decide)

/-! ## Operations -/

/-- What an operation may say. -/
def Operation.topics : Operation n → List Topic
  | .startRinging _ _ =>
    [.note .stopWaitingTone, .toneStop .waiting, .ringtone, .flash] ++ decisionTopics
  | .startCarrierRing _ _ =>
    [.note .stopWaitingTone, .toneStop .waiting, .volume] ++ decisionTopics
  | .stopRinging => quietTopics
  | .startWaiting _ _ =>
    [.motor (.vibration .feedback), .note .startWaitingTone, .toneStart .waiting,
      .note .skipRinging] ++ quietTopics
  | .stopWaiting => [.note .stopWaitingTone, .toneStop .waiting]
  | .buzzOnConnect => [.motor (.vibration .voiceCommunication)]
  | .applySettings _ => []
  | .surroundings _ => []
  | .volume _ _ => []
  | .revise _ _ => []
  | .note _ _ _ => []
  | .tellHaptics _ => []
  | .loseHaptics => []
  | .settle => timeTopics
  | .advance _ => timeTopics

theorem says_startRinging (s : Alerter n) (place : Option (Fin n)) (handsFree : Bool) :
    Says (Operation.startRinging place handsFree).topics s (s.startRinging place handsFree).1 := by
  show Says ([.note .stopWaitingTone, .toneStop .waiting, .ringtone, .flash] ++ decisionTopics) _ _
  unfold startRinging
  split
  · exact Says.refl _ s
  · split
    · dsimp only
      split
      · exact (says_noteEarlyEnd s _ _).mono (by decide)
      · exact ((says_stopWaiting s).trans (says_renderRing s _ _ _)).mono (by decide)
    · exact Says.refl _ s

theorem says_startCarrierRing (s : Alerter n) (place : Option (Fin n)) (handsFree : Bool) :
    Says (Operation.startCarrierRing place handsFree).topics s
      (s.startCarrierRing place handsFree).1 := by
  show Says ([.note .stopWaitingTone, .toneStop .waiting, .volume] ++ decisionTopics) _ _
  unfold startCarrierRing
  split
  · exact Says.refl _ s
  · split
    · dsimp only
      split
      · exact (says_noteEarlyEnd s _ _).mono (by decide)
      · exact ((says_stopWaiting s).trans (says_renderCarrierRing s _ _)).mono (by decide)
    · exact Says.refl _ s

theorem says_startWaiting (s : Alerter n) (place : Fin n) (reason : Option String) :
    Says (Operation.startWaiting place reason).topics s (s.startWaiting place reason) := by
  show Says ([.motor (.vibration .feedback), .note .startWaitingTone, .toneStart .waiting,
    .note .skipRinging] ++ quietTopics) _ _
  unfold startWaiting
  split
  · exact Says.refl _ s
  · split
    · exact (says_note s _ _ _).mono (by decide)
    · split
      · exact (says_note s _ _ _).mono (by decide)
      · exact (((says_stopRinging s).trans (says_tap _)).trans (says_beginWaiting _ _ _)).mono
          (by decide)

theorem says_perform (s : Alerter n) (operation : Operation n) :
    Says operation.topics s (s.perform operation).1 := by
  cases operation with
  | startRinging place handsFree => exact says_startRinging s place handsFree
  | startCarrierRing place handsFree => exact says_startCarrierRing s place handsFree
  | stopRinging => exact says_stopRinging s
  | startWaiting place reason => exact says_startWaiting s place reason
  | stopWaiting => exact says_stopWaiting s
  | buzzOnConnect => exact says_buzzOnConnect s
  | volume stream level => exact says_changeVolume s stream level
  | tellHaptics coupled => exact says_signal s (.known coupled)
  | loseHaptics => exact says_signal s .lost
  | settle => exact says_settle s
  | advance milliseconds => exact says_advance s milliseconds
  | _ => exact .silently _ rfl rfl

/-! ## What is felt -/

/-- What runs, and what for, by everything that the motor was told. -/
def felt (s : Alerter n) : Option Vibration.Usage := s.sent.foldl Command.heard none

/-- The gate knows what the motor was told, and a step keeps it so. -/
theorem Says.felt {topics : List Topic} {s t : Alerter n} (h : Says topics s t)
    (hs : s.felt = s.motor.gate.usage?) : t.felt = t.motor.gate.usage? := by
  obtain ⟨news, hsent, -, hheard⟩ := h
  rw [Alerter.felt, hsent, List.foldl_append, ← Alerter.felt, hs, hheard]

theorem felt_run {s : Alerter n} (hs : s.felt = s.motor.gate.usage?)
    (operations : List (Operation n)) :
    (s.run operations).felt = (s.run operations).motor.gate.usage? := by
  induction operations generalizing s with
  | nil => exact hs
  | cons operation rest ih => exact ih ((says_perform s operation).felt hs)

end PhoneAudio.Alerter
