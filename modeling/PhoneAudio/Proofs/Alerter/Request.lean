import PhoneAudio.Proofs.Alerter.Frame
import PhoneAudio.Proofs.Alerter.Speech

/-!
# Requests to ring

A request to ring is refused without a call that rings, and a request for the
carrier's ring also with a call that has none. Of the others some end early, because
nothing is to be rendered here, and the rest are *rendered*. A request that is not
rendered does no more than leave a note (`perform_of_declined`). One that is rendered
ends the waiting tone first of all, and nothing that follows touches it
(`touches_render`).
-/

namespace PhoneAudio.Alerter

variable {n : Nat}

/-- A request that is not refused: for which call, whose ring, and on which facts. -/
structure Request (n : Nat) where
  call : Fin n
  byCarrier : Bool
  inputs : RingInputs

/-- The request that an operation makes, unless it is refused. -/
def request? (s : Alerter n) : Operation n → Option (Request n)
  | .startRinging (some place) _ =>
    if (s.call place).state.isRinging then
      some ⟨place, false, s.inputs place (s.surroundings.ringtoneOf (s.call place)).isSome⟩
    else none
  | .startCarrierRing (some place) _ =>
    if (s.call place).carrierRing && (s.call place).state.isRinging then
      some ⟨place, true, s.inputs place true⟩
    else none
  | _ => none

/-- The request that an operation makes, if it is neither refused nor ended early. -/
def rendered? (s : Alerter n) (operation : Operation n) : Option (Request n) :=
  (s.request? operation).filter fun request => !request.inputs.endsEarly

/-- Renders a request. -/
def render (s : Alerter n) (request : Request n) : Alerter n :=
  if request.byCarrier then s.renderCarrierRing request.call request.inputs
  else
    s.renderRing request.call (s.surroundings.ringtoneOf (s.call request.call)) request.inputs

def Operation.asksToRing : Operation n → Bool
  | .startRinging _ _ => true
  | .startCarrierRing _ _ => true
  | _ => false

/-- What becomes of a request. -/
theorem perform_of_request? {s : Alerter n} {operation : Operation n} {request : Request n}
    (h : s.request? operation = some request) :
    (s.perform operation).1 =
      if request.inputs.endsEarly then s.noteEarlyEnd request.call request.inputs
      else s.render request := by
  cases operation with
  | startRinging place handsFree =>
    rcases place with - | place
    · cases h
    · obtain ⟨hringing, hsome⟩ := Option.ite_none_right_eq_some.mp h
      obtain rfl := Option.some.inj hsome
      show (s.startRinging (some place) handsFree).1 = _
      simp only [startRinging, hringing, if_true]
      rfl
  | startCarrierRing place handsFree =>
    rcases place with - | place
    · cases h
    · obtain ⟨hringing, hsome⟩ := Option.ite_none_right_eq_some.mp h
      obtain rfl := Option.some.inj hsome
      show (s.startCarrierRing (some place) handsFree).1 = _
      simp only [startCarrierRing, hringing, if_true]
      rfl
  | _ => cases h

/-- A request that is refused does nothing. -/
theorem perform_of_refused {s : Alerter n} {operation : Operation n}
    (hasks : operation.asksToRing = true) (h : s.request? operation = none) :
    (s.perform operation).1 = s := by
  cases operation with
  | startRinging place handsFree =>
    rcases place with - | place
    · rfl
    · have hringing : (s.call place).state.isRinging = false := by simpa [request?] using h
      show (s.startRinging (some place) handsFree).1 = s
      rw [startRinging, if_neg (by simp [hringing])]
  | startCarrierRing place handsFree =>
    rcases place with - | place
    · rfl
    · have hringing : ((s.call place).carrierRing && (s.call place).state.isRinging) = false := by
        simpa [request?] using h
      show (s.startCarrierRing (some place) handsFree).1 = s
      rw [startCarrierRing, if_neg (by simp [hringing])]
  | _ => cases hasks

theorem perform_of_rendered? {s : Alerter n} {operation : Operation n} {request : Request n}
    (h : s.rendered? operation = some request) : (s.perform operation).1 = s.render request := by
  obtain ⟨hrequest, hearly⟩ := Option.filter_eq_some_iff.mp h
  rw [perform_of_request? hrequest, if_neg (by simpa using hearly)]

/-- A request that is not rendered leaves a note at most. -/
theorem perform_of_declined {s : Alerter n} {operation : Operation n}
    (hasks : operation.asksToRing = true) (h : s.rendered? operation = none) :
    (s.perform operation).1 = s ∨
      ∃ place inputs, (s.perform operation).1 = s.noteEarlyEnd place inputs := by
  cases hrequest : s.request? operation with
  | none => exact .inl (perform_of_refused hasks hrequest)
  | some request =>
    have hearly : request.inputs.endsEarly = true := by simpa [rendered?, hrequest] using h
    right
    refine ⟨request.call, request.inputs, ?_⟩
    rw [perform_of_request? hrequest, if_pos hearly]

/-- Without a rendered request an operation that asks to ring touches the logs alone. -/
theorem touches_declined {s : Alerter n} {operation : Operation n}
    (hasks : operation.asksToRing = true) (h : s.rendered? operation = none) :
    Touches [.logs, .told .log] s (s.perform operation).1 := by
  rcases perform_of_declined hasks h with hsame | ⟨place, inputs, hnote⟩
  · rw [hsame]
    exact Touches.refl _ s
  · rw [hnote]
    exact touches_noteEarlyEnd s place inputs

theorem says_declined {s : Alerter n} {operation : Operation n}
    (hasks : operation.asksToRing = true) (h : s.rendered? operation = none) :
    Says [.note .skipRinging] s (s.perform operation).1 := by
  rcases perform_of_declined hasks h with hsame | ⟨place, inputs, hnote⟩
  · rw [hsame]
    exact Says.refl _ s
  · rw [hnote]
    exact says_noteEarlyEnd s place inputs

/-! ## Rendering -/

theorem touches_render (s : Alerter n) (request : Request n) :
    Touches ([.flashing, .told .flash] ++ ringParts ++ voiceParts) s.stopWaiting
      (s.render request) := by
  unfold render
  split
  · exact (touches_renderCarrierRing_stopWaiting s _ _).mono (by decide)
  · exact (touches_renderRing_stopWaiting s _ _ _).mono (by decide)

theorem says_render (s : Alerter n) (request : Request n) :
    Says ([.ringtone, .flash, .volume] ++ decisionTopics) s.stopWaiting (s.render request) := by
  unfold render
  split
  · exact (says_renderCarrierRing s _ _).mono (by decide)
  · exact (says_renderRing s _ _ _).mono (by decide)

theorem waiting_stopWaiting (s : Alerter n) : s.stopWaiting.waiting = none := by
  unfold stopWaiting
  split
  · assumption
  · rfl

/-- A request that is rendered leaves no waiting tone. -/
theorem waiting_render (s : Alerter n) (request : Request n) :
    (s.render request).waiting = none :=
  Eq.trans ((touches_render s request).keeps .waiting (by decide)) (waiting_stopWaiting s)

end PhoneAudio.Alerter
