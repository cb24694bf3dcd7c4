import PhoneAudio.Proofs.Alerter.Frame

/-!
# What is left when a ring stops

Two devices go on by themselves once they were told to: the ringtone player and
the flash. What each of them was told last can be read off everything that was
sent, and the alerter's own flags agree with it in every state that it reaches
(`run_truthful`).

A stop takes down the ringing call, the wait for the ringtone player and the
vibration, whatever rang. The ringtone and the flash it takes down only if the
call that rings is not a carrier ring; a carrier ring leaves both as they are.
The main statement, `stopRinging_complete_iff`, gives the exact states in which
a stop leaves nothing behind.
-/

namespace PhoneAudio.Alerter

variable {n : Nat}

/-! ## What the devices were told last -/

def Command.isPlay : Command n → Bool
  | .play _ _ _ => true
  | _ => false

/-- The ringtone player was told to play, and not to stop since. -/
def isSounding (s : Alerter n) : Bool := (s.told .ringtone).getLast?.any Command.isPlay

/-- The flash was turned on, and not off since. -/
def isLit (s : Alerter n) : Bool := (s.told .flash).getLast? = some (.flash true)

/-- The alerter remembers what it told the two devices last. -/
structure Truthful (s : Alerter n) : Prop where
  playing : s.playing = s.isSounding
  flashing : s.flashing = s.isLit
  hasFlash : s.flashing = true → s.surroundings.hasFlash = true

/-- A device that was not spoken to is as it was. -/
theorem Truthful.of_touches {parts : List Part} {s t : Alerter n} (hs : s.Truthful)
    (h : Touches parts s t)
    (hparts : ∀ part ∈ parts, part ∉
      [Part.playing, .flashing, .hasFlash, .told .ringtone, .told .flash]) : t.Truthful := by
  have hkeeps : ∀ part ∈ [Part.playing, .flashing, .hasFlash, .told .ringtone, .told .flash],
      part.Agrees s t :=
    fun part hmem => h part fun hpart => hparts part hpart hmem
  have hplaying : t.playing = s.playing := hkeeps .playing (by simp)
  have hflashing : t.flashing = s.flashing := hkeeps .flashing (by simp)
  have hhas : t.surroundings.hasFlash = s.surroundings.hasFlash := hkeeps .hasFlash (by simp)
  have hringtone : t.told .ringtone = s.told .ringtone := hkeeps (.told .ringtone) (by simp)
  have hflash : t.told .flash = s.told .flash := hkeeps (.told .flash) (by simp)
  constructor
  · rw [hplaying, isSounding, hringtone]
    exact hs.playing
  · rw [hflashing, isLit, hflash]
    exact hs.flashing
  · rw [hflashing, hhas]
    exact hs.hasFlash

theorem truthful_idle (calls : CallTable n) (profile : DeviceProfile) (settings : Settings)
    (surroundings : Surroundings) (timed : Bool) :
    (idle calls profile settings surroundings timed).Truthful := by
  constructor
  · rfl
  · rfl
  · intro h
    simp [idle] at h

/-! ## The four steps that speak to the ringtone player or the flash -/

theorem Truthful.play {s : Alerter n} (hs : s.Truthful) (ringtone : Ringtone)
    (curve : Option VolumeCurve) (vibrates : Bool) :
    ({ s with playing := true }.send (.play ringtone curve vibrates)).Truthful := by
  constructor
  · simp [isSounding, told, send, Command.channel, Command.isPlay]
  · simpa [isLit, told, send, Command.channel] using hs.flashing
  · exact hs.hasFlash

theorem isSounding_stopRingtone (s : Alerter n) : s.stopRingtone.isSounding = false := by
  simp [isSounding, told, stopRingtone, send, Command.channel, Command.isPlay]

theorem Truthful.stopRingtone {s : Alerter n} (hs : s.Truthful) : s.stopRingtone.Truthful := by
  constructor
  · rw [isSounding_stopRingtone]
    rfl
  · simpa [isLit, told, Alerter.stopRingtone, send, Command.channel] using hs.flashing
  · exact hs.hasFlash

theorem Truthful.flashOn {s : Alerter n} (hs : s.Truthful) : s.flashOn.Truthful := by
  unfold Alerter.flashOn
  split
  next h =>
    simp only [Bool.and_eq_true] at h
    constructor
    · simpa [isSounding, told, send, Command.channel] using hs.playing
    · simp [isLit, told, send, Command.channel]
    · exact fun _ => h.2
  · exact hs

/-- Off means off: a flash that is on has been turned on through a flash that is there. -/
theorem Truthful.isLit_flashOff {s : Alerter n} (hs : s.Truthful) : s.flashOff.isLit = false := by
  unfold Alerter.flashOff
  split
  next hon =>
    rw [if_pos (hs.hasFlash hon)]
    simp [isLit, told, send, Command.channel]
  next hoff =>
    rw [← hs.flashing]
    exact Bool.eq_false_iff.mpr hoff

theorem flashing_flashOff (s : Alerter n) : s.flashOff.flashing = false := by
  unfold Alerter.flashOff
  split
  · split <;> rfl
  next hoff => exact Bool.eq_false_iff.mpr hoff

theorem Truthful.flashOff {s : Alerter n} (hs : s.Truthful) : s.flashOff.Truthful := by
  have h := touches_flashOff s
  have hplaying : s.flashOff.playing = s.playing := h.keeps .playing (by decide)
  have hringtone : s.flashOff.told .ringtone = s.told .ringtone :=
    h.keeps (.told .ringtone) (by decide)
  constructor
  · rw [hplaying, isSounding, hringtone]
    exact hs.playing
  · rw [flashing_flashOff, hs.isLit_flashOff]
  · simp [flashing_flashOff]

/-! ## Every run -/

theorem Truthful.ringAloud {s : Alerter n} (hs : s.Truthful) (place : Fin n)
    (ringtone : Ringtone) (contact enabled : Bool) :
    (s.ringAloud place ringtone contact enabled).Truthful := by
  have hbegin : (s.beginRing place).Truthful :=
    hs.of_touches (touches_beginRing s place) (by decide)
  have hplay := hbegin.play ringtone (s.beginRing place).curve enabled
  unfold Alerter.ringAloud
  dsimp only
  split
  · exact hplay.of_touches (touches_schedule _ _ _) (by decide)
  · exact hplay.of_touches (touches_vibrateFor _ _ _ _ _ _) (by decide)

theorem Truthful.renderRing {s : Alerter n} (hs : s.Truthful) (place : Fin n)
    (ringtone : Option Ringtone) (inputs : RingInputs) :
    (s.renderRing place ringtone inputs).Truthful := by
  have hwaiting : s.stopWaiting.Truthful := hs.of_touches (touches_stopWaiting s) (by decide)
  have hnoted : (s.stopWaiting.noteMotor place).Truthful :=
    hwaiting.of_touches (touches_noteMotor _ _) (by decide)
  unfold Alerter.renderRing
  dsimp only
  apply Truthful.flashOn
  cases ringtone with
  | none => exact hnoted.of_touches (touches_ringSilently _ _ _ _) (by decide)
  | some ringtone =>
    dsimp only
    split
    · exact hnoted.ringAloud _ _ _ _
    · exact hnoted.of_touches (touches_ringSilently _ _ _ _) (by decide)

theorem Truthful.startRinging {s : Alerter n} (hs : s.Truthful) (place : Option (Fin n))
    (handsFree : Bool) : (s.startRinging place handsFree).1.Truthful := by
  unfold Alerter.startRinging
  split
  · exact hs
  · split
    · dsimp only
      split
      · exact hs.of_touches (touches_noteEarlyEnd s _ _) (by decide)
      · exact hs.renderRing _ _ _
    · exact hs

/-- Before the flash goes off, the ringtone player was told to stop. -/
theorem Truthful.beforeFlashOff {s : Alerter n} (hs : s.Truthful) :
    s.endRing.stopRingtone.cancelVibration.Truthful := by
  have hend : s.endRing.Truthful := hs.of_touches (touches_endRing s) (by decide)
  exact hend.stopRingtone.of_touches (touches_cancelVibration _) (by decide)

theorem Truthful.stopRinging {s : Alerter n} (hs : s.Truthful) : s.stopRinging.Truthful := by
  unfold Alerter.stopRinging
  split
  · exact hs.of_touches (touches_stopCarrierRing s) (by decide)
  · exact hs.beforeFlashOff.flashOff

theorem Truthful.startWaiting {s : Alerter n} (hs : s.Truthful) (place : Fin n)
    (reason : Option String) : (s.startWaiting place reason).Truthful := by
  unfold Alerter.startWaiting
  split
  · exact hs
  · split
    · exact hs.of_touches (touches_note s _ _ _) (by decide)
    · split
      · exact hs.of_touches (touches_note s _ _ _) (by decide)
      · have htap := (touches_tap s.stopRinging).trans (touches_beginWaiting _ place reason)
        exact hs.stopRinging.of_touches htap (by decide)

theorem Truthful.perform {s : Alerter n} (hs : s.Truthful) (operation : Operation n) :
    (s.perform operation).1.Truthful := by
  cases operation with
  | startRinging place handsFree => exact hs.startRinging place handsFree
  | stopRinging => exact hs.stopRinging
  | startWaiting place reason => exact hs.startWaiting place reason
  | _ => exact hs.of_touches (touches_perform s _) (by simp [Operation.parts])

theorem run_truthful {s : Alerter n} (hs : s.Truthful) (operations : List (Operation n)) :
    (s.run operations).Truthful := by
  induction operations generalizing s with
  | nil => exact hs
  | cons operation rest ih => exact ih (hs.perform operation)

/-! ## One stop -/

theorem ringing_endRing (s : Alerter n) : s.endRing.ringing = none := by
  unfold endRing
  split
  · assumption
  · rfl

theorem wait_cancelVibration (s : Alerter n) : s.cancelVibration.wait = none := by
  unfold cancelVibration
  dsimp only
  split <;> rfl

theorem running_cancel {α : Type} (gate : Gate α) : gate.cancel.1.running = none := by
  unfold Gate.cancel
  split
  · assumption
  · rfl

theorem running_cancelVibration (s : Alerter n) :
    s.cancelVibration.motor.gate.running = none := by
  have hcancel := running_cancel { s.motor.gate with sent := [] }
  unfold cancelVibration
  dsimp only
  split <;> exact hcancel

/-- A stop ends the ringing call, gives up the wait and stops the vibration, whatever
rings. -/
theorem stopRinging_atRest (s : Alerter n) :
    s.stopRinging.ringing = none ∧ s.stopRinging.wait = none ∧
      s.stopRinging.motor.gate.running = none := by
  unfold stopRinging
  split
  · have hvoice : s.endRing.restoreVoice.ringing = s.endRing.ringing :=
      (touches_restoreVoice s.endRing).keeps .ringing (by decide)
    have hring : s.stopCarrierRing.ringing = s.endRing.restoreVoice.ringing :=
      (touches_cancelVibration s.endRing.restoreVoice).keeps .ringing (by decide)
    refine ⟨?_, wait_cancelVibration _, running_cancelVibration _⟩
    rw [hring, hvoice, ringing_endRing]
  · have hflash := touches_flashOff s.endRing.stopRingtone.cancelVibration
    have hcancel : s.endRing.stopRingtone.cancelVibration.ringing = s.endRing.ringing :=
      (touches_cancelVibration s.endRing.stopRingtone).keeps .ringing (by decide)
    have hring : s.endRing.stopRingtone.cancelVibration.flashOff.ringing =
        s.endRing.stopRingtone.cancelVibration.ringing := hflash.keeps .ringing (by decide)
    have hwait : s.endRing.stopRingtone.cancelVibration.flashOff.wait =
        s.endRing.stopRingtone.cancelVibration.wait := hflash.keeps .wait (by decide)
    have hmotor : s.endRing.stopRingtone.cancelVibration.flashOff.motor =
        s.endRing.stopRingtone.cancelVibration.motor := hflash.keeps .motor (by decide)
    refine ⟨?_, ?_, ?_⟩
    · rw [hring, hcancel, ringing_endRing]
    · rw [hwait, wait_cancelVibration]
    · rw [hmotor, running_cancelVibration]

/-- A carrier ring is taken down without a word to the ringtone player or the flash. -/
theorem stopRinging_of_carrier {s : Alerter n} (h : s.ringsByCarrier = true) :
    s.stopRinging.isSounding = s.isSounding ∧ s.stopRinging.isLit = s.isLit := by
  have htouch := touches_stopCarrierRing s
  have hringtone : s.stopCarrierRing.told .ringtone = s.told .ringtone :=
    htouch.keeps (.told .ringtone) (by decide)
  have hflash : s.stopCarrierRing.told .flash = s.told .flash :=
    htouch.keeps (.told .flash) (by decide)
  rw [stopRinging, if_pos h]
  constructor
  · rw [isSounding, hringtone, isSounding]
  · rw [isLit, hflash, isLit]

/-- Any other ring is taken down with the ringtone and the flash. -/
theorem Truthful.stopRinging_of_own {s : Alerter n} (hs : s.Truthful)
    (h : s.ringsByCarrier = false) :
    s.stopRinging.isSounding = false ∧ s.stopRinging.isLit = false := by
  have hflash := touches_flashOff s.endRing.stopRingtone.cancelVibration
  have hcancel := touches_cancelVibration s.endRing.stopRingtone
  have hafter : s.endRing.stopRingtone.cancelVibration.flashOff.told .ringtone =
      s.endRing.stopRingtone.cancelVibration.told .ringtone :=
    hflash.keeps (.told .ringtone) (by decide)
  have hbefore : s.endRing.stopRingtone.cancelVibration.told .ringtone =
      s.endRing.stopRingtone.told .ringtone :=
    hcancel.keeps (.told .ringtone) (by decide)
  rw [Alerter.stopRinging, if_neg (by simp [h])]
  constructor
  · rw [isSounding, hafter, hbefore]
    exact isSounding_stopRingtone s.endRing
  · exact hs.beforeFlashOff.isLit_flashOff

/-! ## What a stop leaves -/

/-- Nothing is left of a ring. -/
structure Quiet (s : Alerter n) : Prop where
  ringing : s.ringing = none
  wait : s.wait = none
  motor : s.motor.gate.running = none
  flash : s.flashing = false ∧ s.isLit = false
  ringtone : s.playing = false ∧ s.isSounding = false

theorem Truthful.quiet_iff {s : Alerter n} (hs : s.Truthful)
    (hrest : s.ringing = none ∧ s.wait = none ∧ s.motor.gate.running = none) :
    s.Quiet ↔ s.isSounding = false ∧ s.isLit = false := by
  constructor
  · intro h
    exact ⟨h.ringtone.2, h.flash.2⟩
  · rintro ⟨hsounding, hlit⟩
    obtain ⟨hring, hwait, hmotor⟩ := hrest
    exact ⟨hring, hwait, hmotor, ⟨hs.flashing.trans hlit, hlit⟩,
      ⟨hs.playing.trans hsounding, hsounding⟩⟩

/-- In the quiet a stop tells the ringtone player to stop, and nothing else. -/
theorem Quiet.stopRinging {s : Alerter n} (hs : s.Quiet) :
    s.stopRinging.calls = s.calls ∧ s.stopRinging.sent = s.sent ++ [.stopRingtone] := by
  have hcarrier : s.ringsByCarrier = false := by
    rw [ringsByCarrier, hs.ringing]
  have hend : s.endRing = s := by
    rw [endRing, hs.ringing]
  have hcancel : s.stopRingtone.cancelVibration.calls = s.calls ∧
      s.stopRingtone.cancelVibration.sent = s.sent ++ [.stopRingtone] ∧
      s.stopRingtone.cancelVibration.flashing = false := by
    simp [cancelVibration, stopRingtone, onMotor, Motor.cancel, Gate.cancel, send, hs.motor,
      hs.flash.1]
  obtain ⟨hcalls, hsent, hflash⟩ := hcancel
  have hoff : s.stopRingtone.cancelVibration.flashOff = s.stopRingtone.cancelVibration := by
    rw [flashOff, if_neg (by simp [hflash])]
  rw [Alerter.stopRinging, if_neg (by simp [hcarrier]), hend, hoff]
  exact ⟨hcalls, hsent⟩

/-- After a stop no call rings, nothing is waited for and nothing vibrates. The flash
and the ringtone are off as well, and a second stop is without effect but for another
word to the ringtone player, unless a carrier ring was stopped while the ringtone
played or the flash was on. -/
theorem stopRinging_complete_iff (calls : CallTable n) (profile : DeviceProfile)
    (settings : Settings) (surroundings : Surroundings) (timed : Bool)
    (operations : List (Operation n)) :
    let s := (idle calls profile settings surroundings timed).run operations
    (s.stopRinging.ringing = none ∧ s.stopRinging.wait = none ∧
      s.stopRinging.motor.gate.running = none) ∧
    (s.stopRinging.Quiet ∧ s.stopRinging.stopRinging.calls = s.stopRinging.calls ∧
        s.stopRinging.stopRinging.sent = s.stopRinging.sent ++ [.stopRingtone] ↔
      ¬(s.ringsByCarrier = true ∧ (s.isSounding = true ∨ s.isLit = true))) := by
  intro s
  have hs : s.Truthful :=
    run_truthful (truthful_idle calls profile settings surroundings timed) operations
  have hrest := stopRinging_atRest s
  have hquiet := hs.stopRinging.quiet_iff hrest
  refine ⟨hrest, ?_⟩
  cases hcarrier : s.ringsByCarrier with
  | true =>
    obtain ⟨hsounding, hlit⟩ := stopRinging_of_carrier hcarrier
    rw [hsounding, hlit] at hquiet
    constructor
    · rintro ⟨h, -⟩ ⟨-, hleft⟩
      obtain ⟨hsilent, hdark⟩ := hquiet.mp h
      simp [hsilent, hdark] at hleft
    · intro h
      have hdone : s.stopRinging.Quiet := hquiet.mpr (by simpa using h)
      exact ⟨hdone, hdone.stopRinging⟩
  | false =>
    have hdone : s.stopRinging.Quiet := hquiet.mpr (hs.stopRinging_of_own hcarrier)
    constructor
    · simp
    · intro _
      exact ⟨hdone, hdone.stopRinging⟩

/-- A call with a carrier ring that is rung like any other: the stop leaves the
ringtone playing and the flash on, and only a second stop turns them off. -/
theorem stopRinging_leaves_carrier_ring :
    let call : Call :=
      { state := .ringing, carrierRing := true, ringtone := some ⟨"content://ring"⟩
        id := .ofNat 1, log := .empty 64 }
    let s := (idle (n := 1) ⟨#v[call]⟩ {} { flashOnRing := true } {} false).run
      [.startRinging (some 0) false]
    ¬s.stopRinging.Quiet ∧ s.stopRinging.isSounding = true ∧ s.stopRinging.isLit = true ∧
      s.stopRinging.stopRinging.sent =
        s.stopRinging.sent ++ [.stopRingtone, .flash false] := by
  intro call s
  have hsounding : s.stopRinging.isSounding = true := by decide
  have hlit : s.stopRinging.isLit = true := by decide
  refine ⟨fun h => ?_, hsounding, hlit, by decide⟩
  exact absurd h.ringtone.2 (by simp [hsounding])

end PhoneAudio.Alerter
