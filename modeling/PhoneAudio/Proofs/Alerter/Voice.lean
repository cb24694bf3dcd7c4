import PhoneAudio.Proofs.Alerter.Frame
import PhoneAudio.Proofs.Signal

/-!
# The voice volume under a carrier ring

A carrier ring borrows the voice volume. From the first raise on, the level to go back
to is remembered and the volume is watched, so that what the user chooses meanwhile is
what comes back. The level that the user would find without any ring is read off the
run with no look at the override but for whether there is one (`homeAfter`), and the
alerter knows it in every state that it reaches (`Borrowed.run`). It also knows its
watch: watches begin and end in turn, and at most one is on.

Only the end of a carrier ring gives the volume back. Whether a stop is one is decided
by the call that rings last, while the volume may have been borrowed for an earlier one.
The main statement, `stopRinging_returns_voice_iff`, gives the exact states in which a
stop leaves the volume where it was.
-/

namespace PhoneAudio.Alerter

variable {n : Nat}

/-! ## The volume at home -/

/-- The level that the voice volume has, or goes back to after a carrier ring. -/
def homeVolume (s : Alerter n) : Nat :=
  match s.override with
  | none => s.surroundings.voiceVolume
  | some override => override.saved

/-- The voice volume that the user would find without carrier rings, after an operation.
A volume that changes without a word is not noticed while another one is borrowed. -/
def homeAfter (s : Alerter n) (home : Nat) : Operation n → Nat
  | .volume .voiceCall level => level
  | .surroundings surroundings => if s.override.isSome then home else surroundings.voiceVolume
  | _ => home

/-- The same, after a run. -/
def homeFrom (s : Alerter n) (home : Nat) : List (Operation n) → Nat
  | [] => home
  | operation :: rest => (s.perform operation).1.homeFrom (s.homeAfter home operation) rest

/-- A watch on the volume that begins or ends. -/
def Command.watchSignal? : Command n → Option (Signal Nat)
  | .watchVolume token => some (.start token)
  | .unwatchVolume token => some (.stop token)
  | _ => none

/-- The watches that began and ended. -/
def watchRow (s : Alerter n) : List (Signal Nat) :=
  (s.told .volume).filterMap Command.watchSignal?

/-- The voice volume is borrowed from a level, or stands at it; and the only watch that
is on is the one of the override. -/
structure Borrowed (s : Alerter n) (home : Nat) : Prop where
  level : s.homeVolume = home
  watching : s.watching = s.override.toList.map VolumeOverride.token
  row : Signal.Paired s.watchRow (s.override.map VolumeOverride.token)

/-- The voice volume is back at its level, and nobody watches it. -/
structure Returned (s : Alerter n) (home : Nat) : Prop where
  override : s.override = none
  level : s.surroundings.voiceVolume = home
  watching : s.watching = []
  row : Signal.Paired s.watchRow none

/-- Nothing is borrowed exactly if all is returned. -/
theorem Borrowed.returned_iff {s : Alerter n} {home : Nat} (hs : s.Borrowed home) :
    s.Returned home ↔ s.override = none := by
  constructor
  · exact Returned.override
  · intro hnone
    obtain ⟨hlevel, hwatching, hrow⟩ := hs
    rw [homeVolume, hnone] at hlevel
    rw [hnone] at hwatching hrow
    exact ⟨hnone, hlevel, hwatching, hrow⟩

/-- The parts that show what is borrowed. -/
abbrev borrowedParts : List Part := [.volumes, .override, .watching, .told .volume]

theorem Borrowed.of_touches {parts : List Part} {s t : Alerter n} {home : Nat}
    (hs : s.Borrowed home) (h : Touches parts s t)
    (hparts : ∀ part ∈ borrowedParts, part ∉ parts) : t.Borrowed home := by
  have hvolumes : t.surroundings.volume = s.surroundings.volume :=
    h.keeps .volumes (hparts _ (by simp))
  have hvoice : t.surroundings.voiceVolume = s.surroundings.voiceVolume :=
    congrFun hvolumes .voiceCall
  have hoverride : t.override = s.override := h.keeps .override (hparts _ (by simp))
  have hwatching : t.watching = s.watching := h.keeps .watching (hparts _ (by simp))
  have htold : t.told .volume = s.told .volume := h.keeps (.told .volume) (hparts _ (by simp))
  constructor
  · rw [homeVolume, hoverride, hvoice]
    exact hs.level
  · rw [hwatching, hoverride]
    exact hs.watching
  · rw [watchRow, htold, hoverride]
    exact hs.row

theorem borrowed_idle (calls : CallTable n) (profile : DeviceProfile) (settings : Settings)
    (surroundings : Surroundings) (timed : Bool) :
    (idle calls profile settings surroundings timed).Borrowed surroundings.voiceVolume :=
  ⟨rfl, rfl, Signal.paired_nil⟩

/-! ## The steps that change the volume -/

/-- The voice volume changes; the override hears of it if there is one. -/
theorem Borrowed.changeVoice {s : Alerter n} {home : Nat} (hs : s.Borrowed home) (level : Nat) :
    (s.changeVolume .voiceCall level).Borrowed level := by
  obtain ⟨-, hwatching, hrow⟩ := hs
  cases hoverride : s.override with
  | none =>
    have hchange : s.changeVolume .voiceCall level =
        { s with surroundings := s.surroundings.setVolume level .voiceCall } := by
      simp [changeVolume, hearVolume, hoverride]
    rw [hchange]
    refine ⟨?_, hwatching, hrow⟩
    simp [homeVolume, hoverride, Surroundings.setVolume]
  | some override =>
    have hheard : override.token ∈ s.watching := by
      rw [hwatching, hoverride]
      simp
    have hchange : s.changeVolume .voiceCall level =
        { s with
          surroundings := s.surroundings.setVolume level .voiceCall
          override := some { override with saved := level } } := by
      simp [changeVolume, hearVolume, hoverride, hheard]
    rw [hoverride] at hwatching hrow
    rw [hchange]
    exact ⟨rfl, hwatching, hrow⟩

/-- The ring volume is no matter of the voice volume. -/
theorem Borrowed.changeRing {s : Alerter n} {home : Nat} (hs : s.Borrowed home) (level : Nat) :
    (s.changeVolume .ring level).Borrowed home :=
  ⟨hs.level, hs.watching, hs.row⟩

theorem Borrowed.surroundings {s : Alerter n} {home : Nat} (hs : s.Borrowed home)
    (surroundings : Surroundings) :
    (s.perform (.surroundings surroundings)).1.Borrowed
      (s.homeAfter home (.surroundings surroundings)) := by
  refine ⟨?_, hs.watching, hs.row⟩
  have hlevel := hs.level
  rw [homeVolume] at hlevel
  rw [homeVolume, homeAfter]
  cases hoverride : s.override with
  | none => simp [Alerter.perform, hoverride]
  | some override =>
    rw [hoverride] at hlevel
    simpa [Alerter.perform, hoverride] using hlevel

/-- The first raise borrows the level that is there, and a later one keeps it. -/
theorem Borrowed.raiseVoice {s : Alerter n} {home : Nat} (hs : s.Borrowed home) :
    s.raiseVoice.Borrowed home := by
  obtain ⟨hlevel, hwatching, hrow⟩ := hs
  rw [homeVolume] at hlevel
  rw [watchRow] at hrow
  unfold Alerter.raiseVoice
  dsimp only
  cases hoverride : s.override with
  | none =>
    rw [hoverride] at hlevel hwatching hrow
    refine ⟨hlevel, ?_, ?_⟩
    · simp [watchVolume, setVolume, changeVolume, hearVolume, send, hoverride, hwatching]
    · have hstart := hrow.concat_start (s.watches + 1)
      simpa [watchRow, told, watchVolume, setVolume, changeVolume, hearVolume, send, hoverride,
        Command.channel, Command.watchSignal?, List.filterMap_cons] using hstart
  | some override =>
    have hheard : override.token ∈ s.watching := by
      rw [hwatching, hoverride]
      simp
    rw [hoverride] at hlevel hwatching hrow
    refine ⟨hlevel, ?_, ?_⟩
    · simpa [setVolume, changeVolume, hearVolume, send, hoverride, hheard] using hwatching
    · simpa [watchRow, told, setVolume, changeVolume, hearVolume, send, hoverride, hheard,
        Command.channel, Command.watchSignal?, List.filterMap_cons] using hrow

/-- The volume goes back, and the watch ends. -/
theorem Borrowed.restoreVoice {s : Alerter n} {home : Nat} (hs : s.Borrowed home) :
    s.restoreVoice.Returned home := by
  obtain ⟨hlevel, hwatching, hrow⟩ := hs
  rw [homeVolume] at hlevel
  rw [watchRow] at hrow
  unfold Alerter.restoreVoice
  cases hoverride : s.override with
  | none =>
    rw [hoverride] at hlevel hwatching hrow
    exact ⟨hoverride, hlevel, hwatching, hrow⟩
  | some override =>
    rw [hoverride] at hlevel hwatching hrow
    refine ⟨rfl, hlevel, ?_, ?_⟩
    · simp [setVolume, changeVolume, hearVolume, send, unwatchVolume, hwatching]
    · have hstop := hrow.concat_stop
      simpa [watchRow, told, setVolume, changeVolume, hearVolume, send, unwatchVolume,
        Command.channel, Command.watchSignal?, List.filterMap_cons] using hstop

theorem Returned.borrowed {s : Alerter n} {home : Nat} (hs : s.Returned home) :
    s.Borrowed home := by
  obtain ⟨hoverride, hlevel, hwatching, hrow⟩ := hs
  refine ⟨?_, ?_, ?_⟩
  · rw [homeVolume, hoverride]
    exact hlevel
  · rw [hoverride]
    exact hwatching
  · rw [hoverride]
    exact hrow

theorem Returned.of_touches {parts : List Part} {s t : Alerter n} {home : Nat}
    (hs : s.Returned home) (h : Touches parts s t)
    (hparts : ∀ part ∈ borrowedParts, part ∉ parts) : t.Returned home := by
  have hoverride : t.override = s.override := h.keeps .override (hparts _ (by simp))
  rw [(hs.borrowed.of_touches h hparts).returned_iff, hoverride]
  exact hs.override

/-! ## Every run -/

theorem Borrowed.renderCarrierRing {s : Alerter n} {home : Nat} (hs : s.Borrowed home)
    (place : Fin n) (inputs : RingInputs) : (s.renderCarrierRing place inputs).Borrowed home := by
  have hnoted : (s.stopWaiting.noteMotor place).Borrowed home :=
    hs.of_touches ((touches_stopWaiting s).trans (touches_noteMotor _ place)) (by decide)
  unfold Alerter.renderCarrierRing
  dsimp only
  split
  · have hbegun := hnoted.of_touches (touches_beginRing _ place) (by decide)
    exact hbegun.raiseVoice.of_touches (touches_vibrateFor _ _ _ _ _ _) (by decide)
  · exact hnoted.of_touches ((touches_note _ _ _ _).trans (touches_vibrateFor _ _ _ _ _ _))
      (by decide)

theorem Borrowed.startCarrierRing {s : Alerter n} {home : Nat} (hs : s.Borrowed home)
    (place : Option (Fin n)) (handsFree : Bool) :
    (s.startCarrierRing place handsFree).1.Borrowed home := by
  unfold Alerter.startCarrierRing
  split
  · exact hs
  · split
    · dsimp only
      split
      · exact hs.of_touches (touches_noteEarlyEnd s _ _) (by decide)
      · exact hs.renderCarrierRing _ _
    · exact hs

/-- The end of a carrier ring gives the voice volume back. -/
theorem Borrowed.stopCarrierRing {s : Alerter n} {home : Nat} (hs : s.Borrowed home) :
    s.stopCarrierRing.Returned home := by
  have hend : s.endRing.Borrowed home := hs.of_touches (touches_endRing s) (by decide)
  exact hend.restoreVoice.of_touches (touches_cancelVibration _) (by decide)

theorem Borrowed.stopRinging {s : Alerter n} {home : Nat} (hs : s.Borrowed home) :
    s.stopRinging.Borrowed home := by
  unfold Alerter.stopRinging
  split
  · exact hs.stopCarrierRing.borrowed
  · exact hs.of_touches (touches_stopOwnRing s) (by decide)

theorem Borrowed.startWaiting {s : Alerter n} {home : Nat} (hs : s.Borrowed home) (place : Fin n)
    (reason : Option String) : (s.startWaiting place reason).Borrowed home := by
  unfold Alerter.startWaiting
  split
  · exact hs
  · split
    · exact hs.of_touches (touches_note s _ _ _) (by decide)
    · split
      · exact hs.of_touches (touches_note s _ _ _) (by decide)
      · have htap := (touches_tap s.stopRinging).trans (touches_beginWaiting _ place reason)
        exact hs.stopRinging.of_touches htap (by decide)

theorem Borrowed.perform {s : Alerter n} {home : Nat} (hs : s.Borrowed home)
    (operation : Operation n) :
    (s.perform operation).1.Borrowed (s.homeAfter home operation) := by
  cases operation with
  | startCarrierRing place handsFree => exact hs.startCarrierRing place handsFree
  | stopRinging => exact hs.stopRinging
  | startWaiting place reason => exact hs.startWaiting place reason
  | surroundings surroundings => exact hs.surroundings surroundings
  | volume stream level =>
    cases stream with
    | ring => exact hs.changeRing level
    | voiceCall => exact hs.changeVoice level
  | _ => exact hs.of_touches (touches_perform s _) (by simp [Operation.parts])

theorem Borrowed.run {s : Alerter n} {home : Nat} (hs : s.Borrowed home)
    (operations : List (Operation n)) :
    (s.run operations).Borrowed (s.homeFrom home operations) := by
  induction operations generalizing s home with
  | nil => exact hs
  | cons operation rest ih => exact ih (hs.perform operation)

/-! ## What a stop gives back -/

/-- What a stop tells the volume: the end of the watch and the level to go back to, if a
carrier ring is stopped that borrowed it. -/
def voiceFarewell (s : Alerter n) : List (Command n) :=
  match s.override with
  | none => []
  | some override => [.unwatchVolume override.token, .setVolume .voiceCall override.saved]

theorem told_restoreVoice (s : Alerter n) :
    s.restoreVoice.told .volume = s.told .volume ++ s.voiceFarewell := by
  unfold restoreVoice voiceFarewell
  cases s.override with
  | none => exact (List.append_nil _).symm
  | some override =>
    simp [told, setVolume, changeVolume, hearVolume, send, unwatchVolume, Command.channel]

theorem told_stopCarrierRing (s : Alerter n) :
    s.stopCarrierRing.told .volume = s.told .volume ++ s.voiceFarewell := by
  have hend := touches_endRing s
  have htold : s.endRing.told .volume = s.told .volume := hend.keeps (.told .volume) (by decide)
  have hoverride : s.endRing.override = s.override := hend.keeps .override (by decide)
  have hcancel : s.stopCarrierRing.told .volume = s.endRing.restoreVoice.told .volume :=
    (touches_cancelVibration s.endRing.restoreVoice).keeps (.told .volume) (by decide)
  rw [hcancel, told_restoreVoice, htold, voiceFarewell, hoverride, voiceFarewell]

/-- In every run: the level that the alerter goes back to is the one that the user would
find without carrier rings. After a stop the voice volume is there, and every watch has
ended, exactly if nothing was borrowed or the call that rings has a carrier ring. In the
second case the stop ends the watch and sets the volume back, and in any other it says
nothing about the volume. -/
theorem stopRinging_returns_voice_iff (calls : CallTable n) (profile : DeviceProfile)
    (settings : Settings) (surroundings : Surroundings) (timed : Bool)
    (operations : List (Operation n)) :
    let start := idle calls profile settings surroundings timed
    let s := start.run operations
    let home := start.homeFrom surroundings.voiceVolume operations
    s.homeVolume = home ∧
      (s.stopRinging.Returned home ↔ s.override = none ∨ s.ringsByCarrier = true) ∧
      s.stopRinging.told .volume =
        s.told .volume ++ if s.ringsByCarrier then s.voiceFarewell else [] := by
  intro start s home
  have hs : s.Borrowed home :=
    (borrowed_idle calls profile settings surroundings timed).run operations
  refine ⟨hs.level, ?_, ?_⟩
  · rw [hs.stopRinging.returned_iff]
    cases hcarrier : s.ringsByCarrier with
    | true =>
      have hreturned := hs.stopCarrierRing.override
      rw [Alerter.stopRinging, if_pos hcarrier]
      simp [hreturned]
    | false =>
      have hkept : s.endRing.stopRingtone.cancelVibration.flashOff.override = s.override :=
        (touches_stopOwnRing s).keeps .override (by decide)
      rw [Alerter.stopRinging, if_neg (by simp [hcarrier]), hkept]
      simp
  · cases hcarrier : s.ringsByCarrier with
    | true =>
      rw [Alerter.stopRinging, if_pos hcarrier, if_pos rfl]
      exact told_stopCarrierRing s
    | false =>
      rw [Alerter.stopRinging, if_neg (by simp [hcarrier]), if_neg (by simp), List.append_nil]
      exact (touches_stopOwnRing s).keeps (.told .volume) (by decide)

/-- A carrier ring raises the voice volume, and an ordinary call rings after it: the stop
ends the ring of the second call and leaves the volume of the first one raised. -/
theorem stopRinging_leaves_voice_raised :
    let carried : Call :=
      { state := .ringing, carrierRing := true, id := .ofNat 1, log := .empty 64 }
    let ordinary : Call :=
      { state := .ringing, ringtone := some ⟨"content://ring"⟩
        id := .ofNat 2, log := .empty 64 }
    let s := (idle (n := 2) ⟨#v[carried, ordinary]⟩ {} {} {} false).run
      [.startCarrierRing (some 0) false, .startRinging (some 1) false]
    s.stopRinging.ringing = none ∧ s.stopRinging.watching = [1] ∧
      s.stopRinging.homeVolume = 3 ∧ s.stopRinging.surroundings.voiceVolume = 4 ∧
      ¬s.stopRinging.Returned s.stopRinging.homeVolume := by
  intro carried ordinary s
  have hlevel : s.stopRinging.homeVolume = 3 := by decide
  have hraised : s.stopRinging.surroundings.voiceVolume = 4 := by decide
  refine ⟨by decide, by decide, hlevel, hraised, fun hreturned => ?_⟩
  rw [hlevel] at hreturned
  exact absurd (hreturned.level.symm.trans hraised) (by decide)

end PhoneAudio.Alerter
