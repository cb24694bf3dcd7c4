import PhoneAudio.Alerter.Operation

/-!
# What the steps of an alerter leave alone

An alerter is taken apart into parts, and `Touches parts s t` says that `t`
differs from `s` at most in the listed ones. Every step has one such statement;
what a run of steps leaves alone follows by `Touches.trans`. The lists are closed,
so whether a part is listed is decided where it is asked. What was told to the
outside is one part for each channel, so that a step which only notes something
is seen to leave the ringtone player, the flash and the motor alone.

The nature of the calls is a part that no step touches.
-/

namespace PhoneAudio

/-! ## The nature of a call -/

/-- What is settled about a call when it is made. -/
structure Call.Nature where
  id : CallId
  contact : Option String
  ringtone : Option Ringtone
  traits : Call.Traits
  carrierRing : Bool
  ringMedia : Video
  emergency : Bool

def Call.nature (call : Call) : Call.Nature :=
  ⟨call.id, call.contact, call.ringtone, call.traits, call.carrierRing, call.ringMedia,
    call.emergency⟩

theorem Call.nature_revise (call : Call) (revision : Call.Revision) :
    (call.revise revision).nature = call.nature := by
  cases revision <;> rfl

/-! ## Parts -/

/-- Who a command of the alerter goes to. -/
inductive Alerter.Channel where
  | ringtone
  | motor
  | volume
  | flash
  | tone
  /-- The logs of the calls. -/
  | log
deriving DecidableEq

namespace Alerter

variable {n : Nat}

def Command.channel : Command n → Channel
  | .play _ _ _ => .ringtone
  | .stopRingtone => .ringtone
  | .motor _ => .motor
  | .setVolume _ _ => .volume
  | .watchVolume _ => .volume
  | .unwatchVolume _ => .volume
  | .flash _ => .flash
  | .startTone _ _ => .tone
  | .stopTone _ _ => .tone
  | .note _ _ _ => .log

/-- What a channel was told, oldest first. -/
def told (s : Alerter n) (channel : Channel) : List (Command n) :=
  s.sent.filter fun command => command.channel = channel

def natures (s : Alerter n) (place : Fin n) : Call.Nature := (s.call place).nature

def attributes (s : Alerter n) (place : Fin n) : Call.Attributes := (s.call place).toAttributes

def logs (s : Alerter n) (place : Fin n) : Call.EventLog := (s.call place).log

/-- The surroundings with both volumes turned down. -/
def answers (s : Alerter n) : Surroundings :=
  (s.surroundings.setVolume 0 .ring).setVolume 0 .voiceCall

/-- The parts of an alerter. -/
inductive Part where
  | natures
  | attributes
  | logs
  | profile
  | settings
  | ringEffect
  | answers
  | hasFlash
  | volumes
  | motor
  | ringing
  | waiting
  | wait
  | override
  | flashing
  | playing
  | players
  | watches
  | watching
  | told (channel : Channel)
deriving DecidableEq

/-- Two alerters agree in a part. -/
def Part.Agrees (s t : Alerter n) : Part → Prop
  | .natures => t.natures = s.natures
  | .attributes => t.attributes = s.attributes
  | .logs => t.logs = s.logs
  | .profile => t.profile = s.profile
  | .settings => t.settings = s.settings
  | .ringEffect => t.ringEffect = s.ringEffect
  | .answers => t.answers = s.answers
  | .hasFlash => t.surroundings.hasFlash = s.surroundings.hasFlash
  | .volumes => t.surroundings.volume = s.surroundings.volume
  | .motor => t.motor = s.motor
  | .ringing => t.ringing = s.ringing
  | .waiting => t.waiting = s.waiting
  | .wait => t.wait = s.wait
  | .override => t.override = s.override
  | .flashing => t.flashing = s.flashing
  | .playing => t.playing = s.playing
  | .players => t.players = s.players
  | .watches => t.watches = s.watches
  | .watching => t.watching = s.watching
  | .told channel => t.told channel = s.told channel

/-- `t` differs from `s` at most in the listed parts. -/
def Touches (parts : List Part) (s t : Alerter n) : Prop :=
  ∀ part, part ∉ parts → part.Agrees s t

theorem Part.Agrees.refl (s : Alerter n) (part : Part) : part.Agrees s s := by
  cases part <;> rfl

theorem Part.Agrees.trans {s t u : Alerter n} {part : Part} (h₁ : part.Agrees s t)
    (h₂ : part.Agrees t u) : part.Agrees s u := by
  cases part <;> exact Eq.trans h₂ h₁

namespace Touches

variable {parts more : List Part} {s t u : Alerter n}

theorem refl (parts : List Part) (s : Alerter n) : Touches parts s s :=
  fun part _ => Part.Agrees.refl s part

theorem mono (h : Touches parts s t) (sub : parts ⊆ more) : Touches more s t :=
  fun part hpart => h part fun hmem => hpart (sub hmem)

/-- Two steps, one after the other. -/
theorem trans (h₁ : Touches parts s t) (h₂ : Touches more t u) : Touches (parts ++ more) s u :=
  fun part hpart =>
    (h₁ part fun hmem => hpart (List.mem_append_left _ hmem)).trans
      (h₂ part fun hmem => hpart (List.mem_append_right _ hmem))

/-- What is not listed is the same. -/
theorem keeps (h : Touches parts s t) (part : Part) (hpart : part ∉ parts) : part.Agrees s t :=
  h part hpart

end Touches

/-! ## The small steps -/

theorem touches_send (s : Alerter n) (command : Command n) :
    Touches [.told command.channel] s (s.send command) := by
  intro part hpart
  cases part with
  | told channel =>
    have hne : command.channel ≠ channel := fun h => hpart (by simp [h])
    simp [Part.Agrees, told, send, hne]
  | _ => rfl

/-- A note goes into the log of its call and nowhere else. -/
theorem touches_note (s : Alerter n) (place : Fin n) (event : Call.Event)
    (detail : Option String) : Touches [.logs, .told .log] s (s.note place event detail) := by
  intro part hpart
  cases part with
  | natures =>
    funext other
    exact CallTable.get_modify_of_eq Call.nature s.calls place other fun _ => rfl
  | attributes =>
    funext other
    exact attributes_note s place other event detail
  | logs => exact absurd (by simp) hpart
  | told channel =>
    have hne : Channel.log ≠ channel := fun h => hpart (by simp [h])
    simp [Part.Agrees, told, note, send, Command.channel, hne]
  | _ => rfl

/-- Only the motor is touched when the motor works. -/
theorem touches_onMotor {β : Type} (s : Alerter n)
    (act : Motor (Fin n) → Motor (Fin n) × β) :
    Touches [.motor, .told .motor] s (s.onMotor act).1 := by
  intro part hpart
  cases part with
  | motor => exact absurd (by simp) hpart
  | told channel =>
    have hne : Channel.motor ≠ channel := fun h => hpart (by simp [h])
    simp [Part.Agrees, told, onMotor, List.filter_map, Function.comp_def, Command.channel, hne]
  | _ => rfl

theorem touches_motor (s : Alerter n) (motor : Motor (Fin n)) :
    Touches [.motor] s { s with motor := motor } := by
  intro part hpart
  cases part with
  | motor => exact absurd (by simp) hpart
  | _ => rfl

theorem touches_wait (s : Alerter n) (wait : Option (Wait n)) :
    Touches [.wait] s { s with wait := wait } := by
  intro part hpart
  cases part with
  | wait => exact absurd (by simp) hpart
  | _ => rfl

/-! ## Volumes and tones -/

theorem touches_changeVolume (s : Alerter n) (stream : Stream) (level : Nat) :
    Touches [.volumes, .override] s (s.changeVolume stream level) := by
  intro part hpart
  unfold changeVolume hearVolume
  cases part with
  | volumes => exact absurd (by simp) hpart
  | override => exact absurd (by simp) hpart
  | answers =>
    cases stream
    · rfl
    · split
      · split <;> rfl
      · rfl
  | hasFlash =>
    cases stream
    · rfl
    · split
      · split <;> rfl
      · rfl
  | _ =>
    split
    · split <;> rfl
    · rfl

theorem touches_setVolume (s : Alerter n) (stream : Stream) (level : Nat) :
    Touches [.told .volume, .volumes, .override] s (s.setVolume stream level) :=
  (touches_send s (.setVolume stream level)).trans (touches_changeVolume _ stream level)

/-! ## Vibrations -/

/-- The parts that the start or the end of a vibration may touch. -/
abbrev feltParts : List Part := [.motor, .told .motor, .logs, .told .log]

theorem touches_vibrateFor (s : Alerter n) (generation : Option UInt64) (place : Fin n)
    (contact : Bool) (effect : Vibration.Effect) (enabled : Bool) :
    Touches feltParts s (s.vibrateFor generation place contact effect enabled) := by
  unfold vibrateFor
  split
  next s' started h =>
  have hs : Touches [.motor, .told .motor] s s' := by
    split at h
    · obtain rfl : _ = s' := congrArg Prod.fst h
      exact touches_onMotor s _
    · obtain rfl : s = s' := congrArg Prod.fst h
      exact Touches.refl _ s
  split
  · exact hs.mono (by decide)
  · split
    · exact hs.trans (touches_note s' _ _ _)
    · exact hs.mono (by decide)

theorem touches_carryOut (s : Alerter n) (generation : Option UInt64) (plan : Plan n)
    (coupled : Bool) : Touches feltParts s (s.carryOut generation plan coupled) := by
  unfold carryOut
  split
  · exact touches_vibrateFor s _ _ _ _ _
  · exact (touches_note s _ _ _).mono (by decide)

theorem touches_fallBack (s : Alerter n) (generation : Option UInt64) (plan : Plan n) :
    Touches feltParts s (s.fallBack generation plan) :=
  touches_vibrateFor s _ _ _ _ _

theorem touches_schedule (s : Alerter n) (signal : HapticsSignal) (plan : Plan n) :
    Touches (.wait :: feltParts) s (s.schedule signal plan) := by
  unfold schedule
  split
  · exact (touches_wait s _).mono (by decide)
  · cases signal with
    | known coupled => exact (touches_carryOut s none plan coupled).mono (by decide)
    | lost => exact (touches_fallBack s none plan).mono (by decide)
    | awaited => exact (touches_fallBack s none plan).mono (by decide)

theorem touches_cancelVibration (s : Alerter n) :
    Touches (.wait :: feltParts) s s.cancelVibration := by
  unfold cancelVibration
  have hs := (touches_wait s none).trans (touches_onMotor { s with wait := none } Motor.cancel)
  dsimp only
  split
  · exact (hs.trans (touches_note _ _ _ _)).mono (by decide)
  · exact hs.mono (by decide)

/-! ## The waiting tone -/

theorem touches_startTone (s : Alerter n) (tone : Tone) :
    Touches [.players, .told .tone] s (s.startTone tone).1 := by
  have hplayers : Touches [.players] s { s with players := s.players + 1 } := by
    intro part hpart
    cases part with
    | players => exact absurd (by simp) hpart
    | _ => rfl
  exact hplayers.trans (touches_send _ (.startTone tone (s.players + 1)))

theorem touches_stopTone (s : Alerter n) (tone : Tone) (player : Nat) :
    Touches [.told .tone] s (s.stopTone tone player) :=
  touches_send s (.stopTone tone player)

theorem touches_waiting (s : Alerter n) (waiting : Option (WaitingTone n)) :
    Touches [.waiting] s { s with waiting := waiting } := by
  intro part hpart
  cases part with
  | waiting => exact absurd (by simp) hpart
  | _ => rfl

theorem touches_stopWaiting (s : Alerter n) :
    Touches [.waiting, .logs, .told .log, .told .tone] s s.stopWaiting := by
  unfold stopWaiting
  split
  · exact Touches.refl _ s
  · exact ((touches_waiting s none).trans (touches_note _ _ _ _)).trans (touches_stopTone _ _ _)

theorem touches_beginWaiting (s : Alerter n) (place : Fin n) (reason : Option String) :
    Touches [.waiting, .players, .logs, .told .log, .told .tone] s
      (s.beginWaiting place reason) := by
  unfold beginWaiting
  split
  · exact Touches.refl _ s
  · exact (((touches_note s _ _ _).trans (touches_startTone _ _)).trans
      (touches_waiting _ _)).mono (by decide)

/-! ## Rings -/

theorem touches_noteEarlyEnd (s : Alerter n) (place : Fin n) (inputs : RingInputs) :
    Touches [.logs, .told .log] s (s.noteEarlyEnd place inputs) := by
  unfold noteEarlyEnd
  split <;> split
  · exact ((touches_note s _ _ _).trans (touches_note _ _ _ _)).mono (by decide)
  · exact touches_note s _ _ _
  · exact touches_note s _ _ _
  · exact Touches.refl _ s

theorem touches_noteMotor (s : Alerter n) (place : Fin n) :
    Touches [.logs, .told .log] s (s.noteMotor place) :=
  touches_note s _ _ _

theorem touches_ringing (s : Alerter n) (ringing : Option (Fin n)) :
    Touches [.ringing] s { s with ringing := ringing } := by
  intro part hpart
  cases part with
  | ringing => exact absurd (by simp) hpart
  | _ => rfl

theorem touches_beginRing (s : Alerter n) (place : Fin n) :
    Touches [.ringing, .logs, .told .log] s (s.beginRing place) :=
  (touches_ringing s (some place)).trans (touches_note _ _ _ _)

theorem touches_endRing (s : Alerter n) : Touches [.ringing, .logs, .told .log] s s.endRing := by
  unfold endRing
  split
  · exact Touches.refl _ s
  · exact (touches_ringing s none).trans (touches_note _ _ _ _)

theorem touches_playing (s : Alerter n) (playing : Bool) :
    Touches [.playing] s { s with playing := playing } := by
  intro part hpart
  cases part with
  | playing => exact absurd (by simp) hpart
  | _ => rfl

theorem touches_play (s : Alerter n) (ringtone : Ringtone) (curve : Option VolumeCurve)
    (vibrates : Bool) :
    Touches [.playing, .told .ringtone] s
      ({ s with playing := true }.send (.play ringtone curve vibrates)) :=
  (touches_playing s true).trans (touches_send _ (.play ringtone curve vibrates))

theorem touches_stopRingtone (s : Alerter n) :
    Touches [.playing, .told .ringtone] s s.stopRingtone :=
  (touches_playing s false).trans (touches_send _ .stopRingtone)

theorem touches_flashing (s : Alerter n) (flashing : Bool) :
    Touches [.flashing] s { s with flashing := flashing } := by
  intro part hpart
  cases part with
  | flashing => exact absurd (by simp) hpart
  | _ => rfl

theorem touches_flashOn (s : Alerter n) : Touches [.flashing, .told .flash] s s.flashOn := by
  unfold flashOn
  split
  · exact (touches_flashing s true).trans (touches_send _ (.flash true))
  · exact Touches.refl _ s

theorem touches_flashOff (s : Alerter n) : Touches [.flashing, .told .flash] s s.flashOff := by
  unfold flashOff
  split
  · split
    · exact (touches_flashing s false).trans (touches_send _ (.flash false))
    · exact (touches_flashing s false).mono (by decide)
  · exact Touches.refl _ s

/-- The parts that a ringtone may touch, the flash apart. -/
abbrev ringParts : List Part :=
  [.ringing, .playing, .told .ringtone, .wait] ++ feltParts

theorem touches_ringAloud (s : Alerter n) (place : Fin n) (ringtone : Ringtone)
    (contact enabled : Bool) :
    Touches ringParts s (s.ringAloud place ringtone contact enabled) := by
  unfold ringAloud
  have hplay := (touches_beginRing s place).trans
    (touches_play _ ringtone (s.beginRing place).curve enabled)
  dsimp only
  split
  · exact (hplay.trans (touches_schedule _ _ _)).mono (by decide)
  · exact (hplay.trans (touches_vibrateFor _ _ _ _ _ _)).mono (by decide)

theorem touches_ringSilently (s : Alerter n) (place : Fin n) (inputs : RingInputs)
    (enabled : Bool) : Touches feltParts s (s.ringSilently place inputs enabled) :=
  ((touches_note s _ _ _).trans (touches_vibrateFor _ _ _ _ _ _)).mono (by decide)

/-- What a ring touches once the waiting tone has ended. -/
theorem touches_renderRing_stopWaiting (s : Alerter n) (place : Fin n)
    (ringtone : Option Ringtone) (inputs : RingInputs) :
    Touches ([.flashing, .told .flash] ++ ringParts) s.stopWaiting
      (s.renderRing place ringtone inputs) := by
  have hnoted := touches_noteMotor s.stopWaiting place
  unfold renderRing
  dsimp only
  cases ringtone with
  | none =>
    exact ((hnoted.trans (touches_ringSilently _ _ _ _)).trans (touches_flashOn _)).mono
      (by decide)
  | some ringtone =>
    dsimp only
    split
    · exact ((hnoted.trans (touches_ringAloud _ _ _ _ _)).trans (touches_flashOn _)).mono
        (by decide)
    · exact ((hnoted.trans (touches_ringSilently _ _ _ _)).trans (touches_flashOn _)).mono
        (by decide)

theorem touches_renderRing (s : Alerter n) (place : Fin n) (ringtone : Option Ringtone)
    (inputs : RingInputs) :
    Touches ([.waiting, .told .tone, .flashing, .told .flash] ++ ringParts) s
      (s.renderRing place ringtone inputs) :=
  ((touches_stopWaiting s).trans (touches_renderRing_stopWaiting s _ _ _)).mono (by decide)

theorem touches_startRinging (s : Alerter n) (place : Option (Fin n)) (handsFree : Bool) :
    Touches ([.waiting, .told .tone, .flashing, .told .flash] ++ ringParts) s
      (s.startRinging place handsFree).1 := by
  unfold startRinging
  split
  · exact Touches.refl _ s
  · split
    · dsimp only
      split
      · exact (touches_noteEarlyEnd s _ _).mono (by decide)
      · exact touches_renderRing s _ _ _
    · exact Touches.refl _ s

/-! ## Carrier rings -/

theorem touches_override (s : Alerter n) (override : Option VolumeOverride) :
    Touches [.override] s { s with override := override } := by
  intro part hpart
  cases part with
  | override => exact absurd (by simp) hpart
  | _ => rfl

theorem touches_watchVolume (s : Alerter n) :
    Touches [.watches, .watching, .told .volume] s s.watchVolume.1 := by
  have hwatch : Touches [.watches, .watching] s
      { s with watches := s.watches + 1, watching := s.watching ++ [s.watches + 1] } := by
    intro part hpart
    cases part with
    | watches => exact absurd (by simp) hpart
    | watching => exact absurd (by simp) hpart
    | _ => rfl
  exact hwatch.trans (touches_send _ (.watchVolume (s.watches + 1)))

theorem touches_unwatchVolume (s : Alerter n) (token : Nat) :
    Touches [.watching, .told .volume] s (s.unwatchVolume token) := by
  have hwatch : Touches [.watching] s
      { s with watching := s.watching.filter (· ≠ token) } := by
    intro part hpart
    cases part with
    | watching => exact absurd (by simp) hpart
    | _ => rfl
  exact hwatch.trans (touches_send _ (.unwatchVolume token))

/-- The parts that an override of the voice volume may touch. -/
abbrev voiceParts : List Part := [.volumes, .override, .watches, .watching, .told .volume]

theorem touches_raiseVoice (s : Alerter n) : Touches voiceParts s s.raiseVoice := by
  unfold raiseVoice
  dsimp only
  split
  · exact (((touches_setVolume s _ _).trans (touches_watchVolume _)).trans
      (touches_override _ _)).mono (by decide)
  · exact ((touches_setVolume s _ _).trans (touches_override _ _)).mono (by decide)

theorem touches_restoreVoice (s : Alerter n) : Touches voiceParts s s.restoreVoice := by
  unfold restoreVoice
  split
  · exact Touches.refl _ s
  · exact (((touches_override s none).trans (touches_unwatchVolume _ _)).trans
      (touches_setVolume _ _ _)).mono (by decide)

/-- What a carrier ring touches once the waiting tone has ended. -/
theorem touches_renderCarrierRing_stopWaiting (s : Alerter n) (place : Fin n)
    (inputs : RingInputs) :
    Touches (.ringing :: voiceParts ++ feltParts) s.stopWaiting
      (s.renderCarrierRing place inputs) := by
  have hnoted := touches_noteMotor s.stopWaiting place
  unfold renderCarrierRing
  dsimp only
  split
  · exact (((hnoted.trans (touches_beginRing _ _)).trans (touches_raiseVoice _)).trans
      (touches_vibrateFor _ _ _ _ _ _)).mono (by decide)
  · exact ((hnoted.trans (touches_note _ _ _ _)).trans (touches_vibrateFor _ _ _ _ _ _)).mono
      (by decide)

theorem touches_renderCarrierRing (s : Alerter n) (place : Fin n) (inputs : RingInputs) :
    Touches ([.waiting, .told .tone, .ringing] ++ voiceParts ++ feltParts) s
      (s.renderCarrierRing place inputs) :=
  ((touches_stopWaiting s).trans (touches_renderCarrierRing_stopWaiting s _ _)).mono (by decide)

theorem touches_startCarrierRing (s : Alerter n) (place : Option (Fin n)) (handsFree : Bool) :
    Touches ([.waiting, .told .tone, .ringing] ++ voiceParts ++ feltParts) s
      (s.startCarrierRing place handsFree).1 := by
  unfold startCarrierRing
  split
  · exact Touches.refl _ s
  · split
    · dsimp only
      split
      · exact (touches_noteEarlyEnd s _ _).mono (by decide)
      · exact touches_renderCarrierRing s _ _
    · exact Touches.refl _ s

/-! ## Falling quiet -/

theorem touches_stopCarrierRing (s : Alerter n) :
    Touches ([.ringing, .wait] ++ voiceParts ++ feltParts) s s.stopCarrierRing :=
  (((touches_endRing s).trans (touches_restoreVoice _)).trans
    (touches_cancelVibration _)).mono (by decide)

/-- The end of a ring that is not the carrier's leaves the voice volume alone. -/
theorem touches_stopOwnRing (s : Alerter n) :
    Touches ([.flashing, .told .flash] ++ ringParts) s
      s.endRing.stopRingtone.cancelVibration.flashOff :=
  ((((touches_endRing s).trans (touches_stopRingtone _)).trans
    (touches_cancelVibration _)).trans (touches_flashOff _)).mono (by decide)

/-- The parts that the end of a ring may touch, be it the carrier's or not. -/
abbrev quietParts : List Part := [.flashing, .told .flash] ++ ringParts ++ voiceParts

theorem touches_stopRinging (s : Alerter n) : Touches quietParts s s.stopRinging := by
  unfold stopRinging
  split
  · exact (touches_stopCarrierRing s).mono (by decide)
  · exact (touches_stopOwnRing s).mono (by decide)

theorem touches_tap (s : Alerter n) : Touches [.told .motor] s s.tap := by
  unfold tap
  split
  · exact touches_send s (.motor (.vibrate .thud .feedback))
  · exact Touches.refl _ s

theorem touches_startWaiting (s : Alerter n) (place : Fin n) (reason : Option String) :
    Touches ([.waiting, .players, .told .tone] ++ quietParts) s (s.startWaiting place reason) := by
  unfold startWaiting
  split
  · exact Touches.refl _ s
  · split
    · exact (touches_note s _ _ _).mono (by decide)
    · split
      · exact (touches_note s _ _ _).mono (by decide)
      · exact (((touches_stopRinging s).trans (touches_tap _)).trans
          (touches_beginWaiting _ _ _)).mono (by decide)

theorem touches_buzzOnConnect (s : Alerter n) :
    Touches [.motor, .told .motor] s s.buzzOnConnect.1 := by
  unfold buzzOnConnect
  split
  · exact touches_onMotor s _
  · exact Touches.refl _ s

/-! ## Time -/

theorem touches_signal (s : Alerter n) (signal : HapticsSignal) :
    Touches [.wait] s (s.signal signal) := by
  unfold Alerter.signal
  split
  · exact Touches.refl _ s
  · split
    · exact touches_wait s _
    · exact Touches.refl _ s

theorem touches_attend (s : Alerter n) (wait : Wait n) :
    Touches (.wait :: feltParts) s (s.attend wait) := by
  unfold attend
  split
  · exact (touches_wait s none).trans (touches_carryOut _ _ _ _)
  · exact (touches_wait s none).trans (touches_fallBack _ _ _)
  · split
    · exact (touches_wait s none).trans (touches_fallBack _ _ _)
    · exact (touches_wait s _).mono (by decide)

theorem touches_passUntil (s : Alerter n) (deadline : Nat) :
    Touches [.motor, .told .motor] s (s.passUntil deadline) :=
  touches_onMotor s _

theorem touches_moveClock (s : Alerter n) (time : Nat) :
    Touches [.motor, .told .motor] s (s.moveClock time) :=
  ((touches_passUntil s time).trans (touches_motor _ _)).mono (by decide)

theorem touches_takeTurn (s : Alerter n) : Touches (.wait :: feltParts) s s.takeTurn := by
  unfold takeTurn
  split
  · exact Touches.refl _ s
  · split
    · exact Touches.refl _ s
    · exact ((touches_onMotor s _).trans (touches_attend _ _)).mono (by decide)

theorem touches_timeOut (s : Alerter n) (deadline : Nat) :
    Touches (.wait :: feltParts) s (s.timeOut deadline) := by
  unfold timeOut
  split
  · exact Touches.refl _ s
  · split
    · exact (((touches_passUntil s _).trans (touches_wait _ none)).trans
        (touches_fallBack _ _ _)).mono (by decide)
    · exact Touches.refl _ s

theorem touches_settle (s : Alerter n) : Touches (.wait :: feltParts) s s.settle := by
  unfold settle
  split
  · exact ((touches_takeTurn s).trans (touches_passUntil _ _)).mono (by decide)
  · exact (touches_passUntil s _).mono (by decide)

theorem touches_advance (s : Alerter n) (milliseconds : Nat) :
    Touches (.wait :: feltParts) s (s.advance milliseconds) := by
  unfold advance
  dsimp only
  split
  · exact (((touches_settle s).trans (touches_timeOut _ _)).trans
      (touches_moveClock _ _)).mono (by decide)
  · exact ((touches_settle s).trans (touches_moveClock _ _)).mono (by decide)

/-! ## Operations -/

/-- The parts that an operation may touch. -/
def Operation.parts : Operation n → List Part
  | .startRinging _ _ => [.waiting, .told .tone, .flashing, .told .flash] ++ ringParts
  | .startCarrierRing _ _ => [.waiting, .told .tone, .ringing] ++ voiceParts ++ feltParts
  | .stopRinging => quietParts
  | .startWaiting _ _ => [.waiting, .players, .told .tone] ++ quietParts
  | .stopWaiting => [.waiting, .logs, .told .log, .told .tone]
  | .buzzOnConnect => [.motor, .told .motor]
  | .applySettings _ => [.settings, .ringEffect]
  | .surroundings _ => [.answers, .volumes]
  | .volume _ _ => [.volumes, .override]
  | .revise _ _ => [.attributes]
  | .note _ _ _ => [.logs]
  | .tellHaptics _ => [.wait]
  | .loseHaptics => [.wait]
  | .settle => .wait :: feltParts
  | .advance _ => .wait :: feltParts

/-- No operation touches the nature of a call. -/
theorem Operation.natures_notMem_parts (operation : Operation n) :
    Part.natures ∉ operation.parts := by
  cases operation <;> simp [Operation.parts]

theorem touches_perform (s : Alerter n) (operation : Operation n) :
    Touches operation.parts s (s.perform operation).1 := by
  cases operation with
  | startRinging place handsFree => exact touches_startRinging s place handsFree
  | startCarrierRing place handsFree => exact touches_startCarrierRing s place handsFree
  | stopRinging => exact touches_stopRinging s
  | startWaiting place reason => exact touches_startWaiting s place reason
  | stopWaiting => exact touches_stopWaiting s
  | buzzOnConnect => exact touches_buzzOnConnect s
  | applySettings settings =>
    intro part hpart
    cases part with
    | settings => exact absurd (by simp [Operation.parts]) hpart
    | ringEffect => exact absurd (by simp [Operation.parts]) hpart
    | _ => rfl
  | surroundings surroundings =>
    intro part hpart
    cases part with
    | answers => exact absurd (by simp [Operation.parts]) hpart
    | volumes => exact absurd (by simp [Operation.parts]) hpart
    | _ => rfl
  | volume stream level => exact touches_changeVolume s stream level
  | revise place revision =>
    intro part hpart
    cases part with
    | attributes => exact absurd (by simp [Operation.parts]) hpart
    | natures =>
      funext other
      exact CallTable.get_modify_of_eq Call.nature s.calls place other
        fun call => call.nature_revise revision
    | logs =>
      funext other
      exact CallTable.get_modify_of_eq Call.log s.calls place other
        fun call => call.log_revise revision
    | _ => rfl
  | note place event detail =>
    intro part hpart
    cases part with
    | natures =>
      funext other
      exact CallTable.get_modify_of_eq Call.nature s.calls place other fun _ => rfl
    | attributes =>
      funext other
      exact CallTable.attributes_record s.calls place other event detail
    | logs => exact absurd (by simp [Operation.parts]) hpart
    | _ => rfl
  | tellHaptics coupled => exact touches_signal s (.known coupled)
  | loseHaptics => exact touches_signal s .lost
  | settle => exact touches_settle s
  | advance milliseconds => exact touches_advance s milliseconds

end Alerter

end PhoneAudio
