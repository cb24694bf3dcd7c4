import PhoneAudio.Proofs.Alerter.OwnRing

/-!
# Requests that come to nothing, and their answer

A request to ring may come to nothing in two ways. It is refused without a call that
rings, and by the carrier without a ring of its own; nothing at all happens then, and the
answer is no. Or it ends early, because nothing is to be rendered here; then it leaves at
most notes on the call.

A request that is not refused is answered in the same way whether it ends early or not.
The answer tells whether the calls need the audio focus. It is a matter of the ring
volume, the caller and the ringtone alone, so that two alerters give the same answer
whatever else they do, and neither the settings nor whoever else handles the ring has a
say in it (`ask_answers_focus`).
-/

namespace PhoneAudio.Alerter

variable {n : Nat}

/-- A request to ring, by the carrier or by a ringtone. -/
def Operation.ask (byCarrier : Bool) (place : Option (Fin n)) (handsFree : Bool) : Operation n :=
  if byCarrier then .startCarrierRing place handsFree else .startRinging place handsFree

/-- A request is refused without a call, for a call that does not ring, and by the carrier
for a call without a carrier ring. -/
def refuses (s : Alerter n) (byCarrier : Bool) : Option (Fin n) → Bool
  | none => true
  | some place =>
    !(s.call place).state.isRinging || (byCarrier && !(s.call place).carrierRing)

/-- Nothing is rendered here for a call. -/
def endsEarly (s : Alerter n) (place : Fin n) : Bool :=
  s.settings.theaterMode || s.surroundings.dialerRings || (s.call place).traits.selfManaged ||
    (s.call place).traits.externalRinger || (s.call place).traits.silentRinging

/-- What a request that ends early notes on its call. -/
def earlyNotes (s : Alerter n) (place : Fin n) : List (Command n) :=
  (if s.surroundings.dialerRings then [.note place .skipRinging (some "Dialer handles")]
    else []) ++
  if (s.call place).traits.silentRinging then
    [.note place .skipRinging (some "Silent ringing requested")]
  else []

/-- Whether a call needs the audio focus: for a ring that is heard, to ring on a hands-free
device, or for an app that rings by itself. -/
def needsFocus (s : Alerter n) (byCarrier : Bool) (place : Fin n) (handsFree : Bool) : Bool :=
  let admitted := s.surroundings.admits (s.call place).contact
  (0 < s.surroundings.ringVolume && admitted &&
      (byCarrier || (s.surroundings.ringtoneOf (s.call place)).isSome)) ||
    (handsFree && admitted) || (s.call place).traits.selfManaged

/-- Two alerters agree about a call in what the focus is decided by. -/
structure SameFocus (s t : Alerter n) (place : Fin n) : Prop where
  volume : 0 < t.surroundings.ringVolume ↔ 0 < s.surroundings.ringVolume
  admitted : t.surroundings.admits (t.call place).contact =
    s.surroundings.admits (s.call place).contact
  ringtone : (t.surroundings.ringtoneOf (t.call place)).isSome =
    (s.surroundings.ringtoneOf (s.call place)).isSome
  selfManaged : (t.call place).traits.selfManaged = (s.call place).traits.selfManaged

variable {s t : Alerter n} {byCarrier : Bool} {place : Fin n}

theorem SameFocus.needsFocus (h : SameFocus s t place) (handsFree : Bool) :
    t.needsFocus byCarrier place handsFree = s.needsFocus byCarrier place handsFree := by
  obtain ⟨hvolume, hadmitted, hringtone, hself⟩ := h
  unfold Alerter.needsFocus
  simp only [hvolume, hadmitted, hringtone, hself]

/-- What a request that ends early says. -/
theorem sent_noteEarlyEnd (s : Alerter n) (place : Fin n) (source : Bool) :
    (s.noteEarlyEnd place (s.inputs place source)).sent = s.sent ++ s.earlyNotes place := by
  have hdialer : (s.inputs place source).dialerRings = s.surroundings.dialerRings := rfl
  have hsilent : (s.inputs place source).silentRinging = (s.call place).traits.silentRinging := rfl
  unfold noteEarlyEnd earlyNotes
  rw [hdialer, hsilent]
  split <;> split <;> simp [note, send]

/-- A request that is refused does nothing. -/
theorem perform_ask_of_refused {place : Option (Fin n)} (handsFree : Bool)
    (h : s.refuses byCarrier place = true) :
    s.perform (.ask byCarrier place handsFree) = (s, some false) := by
  rcases place with - | place
  · cases byCarrier <;> rfl
  · cases byCarrier with
    | false =>
      have hquiet : (s.call place).state.isRinging = false := by simpa [refuses] using h
      simp [Operation.ask, Alerter.perform, startRinging, hquiet]
    | true =>
      have hneither : ((s.call place).carrierRing && (s.call place).state.isRinging) = false := by
        rw [Bool.and_comm, ← Bool.not_eq_true', Bool.not_and]
        simpa [refuses] using h
      simp [Operation.ask, Alerter.perform, startCarrierRing, hneither]

/-- A request that is not refused is answered by whether the call needs the focus, and one
that ends early leaves its notes. -/
theorem perform_ask_of_accepted (handsFree : Bool)
    (h : s.refuses byCarrier (some place) = false) :
    (s.perform (.ask byCarrier (some place) handsFree)).2 =
        some (s.needsFocus byCarrier place handsFree) ∧
      (s.endsEarly place = true →
        (s.perform (.ask byCarrier (some place) handsFree)).1 =
          s.noteEarlyEnd place (s.inputs place
            (byCarrier || (s.surroundings.ringtoneOf (s.call place)).isSome))) := by
  cases byCarrier with
  | false =>
    have hringing : (s.call place).state.isRinging = true := by simpa [refuses] using h
    have hanswer : (s.startRinging (some place) handsFree).2 =
        s.needsFocus false place handsFree := startRinging_answer handsFree hringing
    refine ⟨congrArg some hanswer, fun hearly => ?_⟩
    show (s.startRinging (some place) handsFree).1 = _
    rw [startRinging_eq handsFree hringing]
    exact if_pos hearly
  | true =>
    have hboth : (s.call place).state.isRinging = true ∧ (s.call place).carrierRing = true := by
      simpa [refuses] using h
    obtain ⟨hringing, hcarrier⟩ := hboth
    have hanswer : (s.startCarrierRing (some place) handsFree).2 =
        s.needsFocus true place handsFree := by
      rw [startCarrierRing, if_pos (by rw [hringing, hcarrier]; rfl)]
      rfl
    refine ⟨congrArg some hanswer, fun hearly => ?_⟩
    show (s.startCarrierRing (some place) handsFree).1 = _
    rw [startCarrierRing_eq handsFree hringing hcarrier, ownInputs, hcarrier]
    exact if_pos hearly

/-- A request that is refused changes nothing, says nothing and answers no. Any other one
answers whether the call needs the focus. If it ends early it touches nothing but the log
of its call, so that no device is told anything. The answer is the same by any other
alerter that agrees about the call in what the focus is decided by. -/
theorem ask_answers_focus (s : Alerter n) (byCarrier : Bool) (place : Option (Fin n))
    (handsFree : Bool) :
    (s.refuses byCarrier place = true →
      s.perform (.ask byCarrier place handsFree) = (s, some false)) ∧
    ∀ call, place = some call → s.refuses byCarrier place = false →
      (s.perform (.ask byCarrier place handsFree)).2 =
        some (s.needsFocus byCarrier call handsFree) ∧
      (s.endsEarly call = true →
        Touches [.logs, .told .log] s (s.perform (.ask byCarrier place handsFree)).1 ∧
        (s.perform (.ask byCarrier place handsFree)).1.sent = s.sent ++ s.earlyNotes call) ∧
      ∀ t : Alerter n, SameFocus s t call → t.refuses byCarrier place = false →
        (t.perform (.ask byCarrier place handsFree)).2 =
          (s.perform (.ask byCarrier place handsFree)).2 := by
  refine ⟨perform_ask_of_refused handsFree, ?_⟩
  rintro call rfl haccepted
  obtain ⟨hanswer, hearly⟩ := perform_ask_of_accepted handsFree haccepted
  refine ⟨hanswer, fun hends => ?_, fun t hsame hother => ?_⟩
  · rw [hearly hends]
    exact ⟨touches_noteEarlyEnd s call _, sent_noteEarlyEnd s call _⟩
  · rw [(perform_ask_of_accepted handsFree hother).1, hanswer, hsame.needsFocus]

end PhoneAudio.Alerter
