import PhoneAudio.Proofs.Alerter.Attribution
import PhoneAudio.Proofs.Alerter.OwnRing

/-!
# Which decision a late vibration belongs to

A request to ring that is rendered decides about vibrating. It may decide at once, or
leave a plan to wait for word from the ringtone player, and a plan that is left to wait
takes the place of the one before. So what waits is always the plan of the newest request
that left one (`exists_awaits`), and a vibration that starts late belongs to that
request.

It need not belong to the newest request of all. A request that decides at once, because
the call is not audible, because its ring is the carrier's or because its player says
nothing about haptics, leaves the wait of an older request as it was. If its own decision
was not to vibrate, the older one still may.
-/

namespace PhoneAudio.Alerter

variable {n : Nat} {s t : Alerter n} {parts : List Part}

/-! ## What a request leaves to wait -/

/-- The plan that an operation leaves to wait: the plan of a request that is rendered and
audible, by a ringtone whose player is to tell about haptics, on a phone with a runtime. -/
def deferral? (s : Alerter n) (operation : Operation n) : Option (Plan n) :=
  match s.rendered? operation with
  | none => none
  | some request =>
    if !request.byCarrier && request.inputs.isAudible && s.surroundings.hapticsSignal.isSome &&
        s.motor.timed then
      some (s.plan request.call request.inputs.contact s.isMotorEnabled
        (s.selectEffect request.call))
    else none

/-- A request by a ringtone has something to ring with if its call has a ringtone. -/
theorem source_of_request? {operation : Operation n} {request : Request n}
    (h : s.request? operation = some request) (hcarrier : request.byCarrier = false) :
    request.inputs.source = (s.surroundings.ringtoneOf (s.call request.call)).isSome := by
  cases operation with
  | startRinging place handsFree =>
    rcases place with - | place
    · cases h
    · obtain ⟨-, hsome⟩ := Option.ite_none_right_eq_some.mp h
      obtain rfl := Option.some.inj hsome
      rfl
  | startCarrierRing place handsFree =>
    rcases place with - | place
    · cases h
    · obtain ⟨-, hsome⟩ := Option.ite_none_right_eq_some.mp h
      obtain rfl := Option.some.inj hsome
      cases hcarrier
  | _ => cases h

theorem Touches.hapticsSignal (h : Touches parts s t) (hparts : Part.answers ∉ parts) :
    t.surroundings.hapticsSignal = s.surroundings.hapticsSignal :=
  (congrArg Surroundings.hapticsSignal (h.keeps .answers hparts) :)

theorem Touches.motor (h : Touches parts s t) (hparts : Part.motor ∉ parts) : t.motor = s.motor :=
  h.keeps .motor hparts

theorem Touches.plan (h : Touches parts s t) (hparts : ∀ part ∈ factParts, part ∉ parts)
    (place : Fin n) (contact enabled : Bool) (effect : Vibration.Effect) :
    t.plan place contact enabled effect = s.plan place contact enabled effect := by
  have hsettings : t.settings = s.settings := h.keeps .settings (hparts _ (by simp))
  have heffect : t.ringEffect = s.ringEffect := h.keeps .ringEffect (hparts _ (by simp))
  have hanswers : t.answers = s.answers := h.keeps .answers (hparts _ (by simp))
  have hplays : t.surroundings.playsHaptics = s.surroundings.playsHaptics :=
    (congrArg Surroundings.playsHaptics hanswers :)
  rw [Alerter.plan, Alerter.plan, heffect, hplays, hsettings]

/-- What a plan of this moment waits by. -/
def await (s : Alerter n) (signal : HapticsSignal) (plan : Plan n) : Wait n where
  plan
  generation := s.motor.gate.generation
  deadline := s.motor.now + s.profile.hapticsTimeout
  signal
  ahead := some s.motor.dueCount

/-- The wait of a plan, on a phone with a runtime whose ringtone player is to tell about
haptics. -/
def await? (s : Alerter n) (plan : Plan n) : Option (Wait n) :=
  if s.motor.timed then s.surroundings.hapticsSignal.map fun signal => s.await signal plan
  else none

/-- The wait that an operation begins. -/
def begun? (s : Alerter n) (operation : Operation n) : Option (Wait n) :=
  (s.deferral? operation).bind s.await?

theorem Touches.await? (h : Touches parts s t) (hmotor : Part.motor ∉ parts)
    (hanswers : Part.answers ∉ parts) (hprofile : Part.profile ∉ parts) :
    t.await? = s.await? := by
  have hprofile : t.profile = s.profile := h.keeps .profile hprofile
  funext plan
  simp only [Alerter.await?, Alerter.await, h.motor hmotor, h.hapticsSignal hanswers, hprofile]

theorem wait_schedule (s : Alerter n) (signal : HapticsSignal) (plan : Plan n) :
    (s.schedule signal plan).wait =
      if s.motor.timed then some (s.await signal plan) else s.wait := by
  unfold schedule
  split
  · rfl
  · cases signal with
    | known coupled => exact (touches_carryOut s none plan coupled).keeps .wait (by decide)
    | lost => exact (touches_fallBack s none plan).keeps .wait (by decide)
    | awaited => exact (touches_fallBack s none plan).keeps .wait (by decide)

/-- A ringtone whose player is to tell about haptics leaves its plan to wait, and any
other one leaves what waits as it was. -/
theorem wait_ringAloud (s : Alerter n) (place : Fin n) (ringtone : Ringtone)
    (contact enabled : Bool) :
    (s.ringAloud place ringtone contact enabled).wait =
      (s.await? (s.plan place contact enabled (s.selectEffect place))).or s.wait := by
  have hplay := (touches_beginRing s place).trans
    (touches_play _ ringtone (s.beginRing place).curve enabled)
  have hwait : _ = s.wait := hplay.keeps .wait (by decide)
  rw [← hplay.selectEffect (by decide), ← hplay.plan (by decide),
    ← hplay.await? (by decide) (by decide) (by decide), ← hwait]
  unfold ringAloud await?
  dsimp only
  split
  next signal hsome =>
    rw [wait_schedule, hsome]
    split <;> rfl
  next hnone =>
    rw [hnone, Option.map_none, ite_self, Option.none_or]
    exact (touches_vibrateFor _ _ _ _ _ _).keeps .wait (by decide)

theorem wait_renderRing (s : Alerter n) (place : Fin n) {ringtone : Option Ringtone}
    {inputs : RingInputs} (hsource : inputs.source = ringtone.isSome) :
    (s.renderRing place ringtone inputs).wait =
      (if inputs.isAudible then
        s.await? (s.plan place inputs.contact s.isMotorEnabled (s.selectEffect place))
      else none).or s.wait := by
  cases haudible : inputs.isAudible with
  | false =>
    exact (touches_renderRing_of_inaudible s place ringtone haudible).keeps .wait (by decide)
  | true =>
    cases ringtone with
    | none =>
      rw [RingInputs.isAudible, hsource] at haudible
      simp at haudible
    | some ringtone =>
      have hwaited := touches_stopWaiting s
      have hnoted := hwaited.trans (touches_noteMotor _ place)
      have hflash : ∀ t : Alerter n, t.flashOn.wait = t.wait := fun t =>
        (touches_flashOn t).keeps .wait (by decide)
      have hwait : (s.stopWaiting.noteMotor place).wait = s.wait :=
        hnoted.keeps .wait (by decide)
      unfold renderRing
      dsimp only
      rw [if_pos haudible, hflash, wait_ringAloud, hwaited.isMotorEnabled (by decide),
        hnoted.plan (by decide), hnoted.selectEffect (by decide),
        hnoted.await? (by decide) (by decide) (by decide), hwait, if_pos rfl]

/-- The wait after a request that is rendered is the one that it begins, or else the one
before. -/
theorem wait_of_rendered? {operation : Operation n} {request : Request n}
    (h : s.rendered? operation = some request) :
    (s.perform operation).1.wait = (s.begun? operation).or s.wait := by
  rw [perform_of_rendered? h, render, begun?, deferral?, h]
  dsimp only
  cases hcarrier : request.byCarrier with
  | true => exact (touches_renderCarrierRing s _ _).keeps .wait (by decide)
  | false =>
    have hsource := source_of_request? (Option.filter_eq_some_iff.mp h).1 hcarrier
    rw [if_neg Bool.false_ne_true, wait_renderRing s request.call hsource]
    congr 1
    cases hsignal : s.surroundings.hapticsSignal <;> cases htimed : s.motor.timed <;>
      cases request.inputs.isAudible <;> simp [await?, hsignal, htimed]

/-- A plan is left to wait by a request that is rendered and audible, and only where it can
wait. -/
theorem request_of_deferral? {operation : Operation n} {plan : Plan n}
    (h : s.deferral? operation = some plan) :
    (∃ request, s.rendered? operation = some request ∧ request.inputs.isAudible = true) ∧
      s.surroundings.hapticsSignal.isSome = true ∧ s.motor.timed = true := by
  unfold deferral? at h
  split at h
  · cases h
  next request hrendered =>
    obtain ⟨hdefers, -⟩ := Option.ite_none_right_eq_some.mp h
    simp only [Bool.and_eq_true] at hdefers
    obtain ⟨⟨⟨-, haudible⟩, hsignal⟩, htimed⟩ := hdefers
    exact ⟨⟨request, hrendered, haudible⟩, hsignal, htimed⟩

/-- What an operation leaves to wait is the plan of the wait that it begins. -/
theorem plan_begun? (s : Alerter n) (operation : Operation n) :
    (s.begun? operation).map Wait.plan = s.deferral? operation := by
  rw [begun?]
  cases hdeferral : s.deferral? operation with
  | none => rfl
  | some plan =>
    obtain ⟨-, hsignal, htimed⟩ := request_of_deferral? hdeferral
    obtain ⟨signal, hsome⟩ := Option.isSome_iff_exists.mp hsignal
    rw [Option.bind_some, await?, if_pos htimed, hsome]
    rfl

/-- What waits after a request that is rendered is what it leaves to wait, or else what
waited before. -/
theorem pending_of_rendered? {operation : Operation n} {request : Request n}
    (h : s.rendered? operation = some request) :
    (s.perform operation).1.pending = (s.deferral? operation).or s.pending := by
  rw [pending, wait_of_rendered? h, Option.map_or, plan_begun?, pending]

/-- What waits is replaced by a request that leaves its plan to wait, and by nothing
else. -/
theorem pending_of_not_deferral {operation : Operation n} (h : s.deferral? operation = none) :
    (s.perform operation).1.pending = s.pending ∨ (s.perform operation).1.pending = none := by
  cases hrendered : s.rendered? operation with
  | some request =>
    left
    rw [pending_of_rendered? hrendered, h, Option.none_or]
  | none =>
    cases hsilences : s.silences operation with
    | true => exact .inr (perform_of_silences hsilences).2
    | false =>
      cases carries_of_not_silences hrendered hsilences with
      | keeps hkeeps => exact .inl hkeeps.pending
      | plays _ _ _ hpending => exact .inr hpending

theorem pending_of_deferral {operation : Operation n} {plan : Plan n}
    (h : s.deferral? operation = some plan) : (s.perform operation).1.pending = some plan := by
  cases hrendered : s.rendered? operation with
  | some request => rw [pending_of_rendered? hrendered, h, Option.some_or]
  | none =>
    rw [deferral?, hrendered] at h
    cases h

/-- Without a request that is rendered a vibration starts only if it is warranted by the
plan that waits. -/
theorem pending_of_rung {operation : Operation n} {effect : Vibration.Effect}
    (hrendered : s.rendered? operation = none)
    (hrung : (s.perform operation).1.rung = s.rung ++ [effect]) :
    ∃ plan, s.pending = some plan ∧ plan.Warrants effect := by
  have hgrows : (s.perform operation).1.rung ≠ s.rung := by simp [hrung]
  cases hsilences : s.silences operation with
  | true => exact absurd (perform_of_silences hsilences).1 hgrows
  | false =>
    cases carries_of_not_silences hrendered hsilences with
    | keeps hkeeps => exact absurd hkeeps.rung hgrows
    | plays plan hplan hplayed _ =>
      rcases hplayed with hsame | ⟨other, hwarrants, hother⟩
      · exact absurd hsame hgrows
      · obtain rfl : other = effect := by
          simpa using hother.symm.trans hrung
        exact ⟨plan, hplan, hwarrants⟩

/-! ## Positions of a run -/

variable {start : Alerter n} {operations : List (Operation n)} {i j k : Nat}

/-- The operation at a position asks to ring, and its request is rendered. -/
def RendersAt (start : Alerter n) (operations : List (Operation n)) (i : Nat) : Prop :=
  ∃ operation request, operations[i]? = some operation ∧
    (found start operations i).rendered? operation = some request

/-- The operation at a position leaves a plan to wait. -/
def DefersAt (start : Alerter n) (operations : List (Operation n)) (i : Nat) (plan : Plan n) :
    Prop :=
  ∃ operation, operations[i]? = some operation ∧
    (found start operations i).deferral? operation = some plan

/-- Of the requests that are rendered before a position, the one at `i` is the newest. -/
structure Latest (start : Alerter n) (operations : List (Operation n)) (i k : Nat) : Prop where
  earlier : i < k
  renders : RendersAt start operations i
  newest : ∀ j, i < j → j < k → ¬ RendersAt start operations j

/-- What waits at position `k` is the plan of the operation at position `i`: of those that
left a plan to wait it is the newest. -/
structure Awaits (start : Alerter n) (operations : List (Operation n)) (i k : Nat)
    (plan : Plan n) : Prop where
  earlier : i < k
  defers : DefersAt start operations i plan
  newest : ∀ j other, i < j → j < k → ¬ DefersAt start operations j other
  pending : (found start operations k).pending = some plan

/-- The operation at a position makes no request that is rendered and starts the
vibration of a ring all the same. -/
def Continues (start : Alerter n) (operations : List (Operation n)) (k : Nat)
    (effect : Vibration.Effect) : Prop :=
  ∃ operation, operations[k]? = some operation ∧
    (found start operations k).rendered? operation = none ∧
    (found start operations (k + 1)).rung = (found start operations k).rung ++ [effect]

theorem DefersAt.renders {plan : Plan n} (h : DefersAt start operations i plan) :
    RendersAt start operations i := by
  obtain ⟨operation, hoperation, hdeferral⟩ := h
  cases hrendered : (found start operations i).rendered? operation with
  | some request => exact ⟨operation, request, hoperation, hrendered⟩
  | none =>
    rw [deferral?, hrendered] at hdeferral
    cases hdeferral

/-- There is one newest request. -/
theorem Latest.unique (hi : Latest start operations i k) (hj : Latest start operations j k) :
    i = j := by
  rcases Nat.lt_trichotomy i j with hlt | heq | hgt
  · exact absurd hj.renders (hi.newest j hlt hj.earlier)
  · exact heq
  · exact absurd hi.renders (hj.newest i hgt hi.earlier)

theorem found_succ {operation : Operation n} (h : operations[k]? = some operation) :
    found start operations (k + 1) = ((found start operations k).perform operation).1 := by
  rw [found, List.take_add_one, h, Option.toList_some, run_concat, found]

theorem found_of_end (h : operations[k]? = none) :
    found start operations (k + 1) = found start operations k := by
  rw [found, List.take_add_one, h, Option.toList_none, List.append_nil, found]

/-- Whatever waits in a run is the plan of the newest request that left one to wait. -/
theorem exists_awaits (hstart : start.pending = none) (operations : List (Operation n)) (k : Nat)
    {plan : Plan n} (hpending : (found start operations k).pending = some plan) :
    ∃ i, Awaits start operations i k plan := by
  induction k with
  | zero => exact absurd (hstart.symm.trans hpending) (by simp)
  | succ k ih =>
    -- the plan that waited before goes on to wait
    have hgoes : (∀ other, ¬ DefersAt start operations k other) →
        (found start operations k).pending = some plan →
        ∃ i, Awaits start operations i (k + 1) plan := by
      intro hnone hbefore
      obtain ⟨i, hearlier, hdefers, hnewest, -⟩ := ih hbefore
      refine ⟨i, Nat.lt_succ_of_lt hearlier, hdefers, fun j other hij hjk => ?_, hpending⟩
      rcases Nat.lt_succ_iff_lt_or_eq.mp hjk with hlt | rfl
      · exact hnewest j other hij hlt
      · exact hnone other
    cases hoperation : operations[k]? with
    | none =>
      refine hgoes ?_ (found_of_end hoperation ▸ hpending)
      rintro other ⟨operation, hsome, -⟩
      rw [hoperation] at hsome
      cases hsome
    | some operation =>
      rw [found_succ hoperation] at hpending
      cases hdeferral : (found start operations k).deferral? operation with
      | some other =>
        obtain rfl := Option.some.inj ((pending_of_deferral hdeferral).symm.trans hpending)
        refine ⟨k, Nat.lt_succ_self k, ⟨operation, hoperation, hdeferral⟩, ?_, ?_⟩
        · intro j _ hkj hjk
          omega
        · rw [found_succ hoperation, hpending]
      | none =>
        refine hgoes ?_ ?_
        · rintro other ⟨_, hsome, hdefers⟩
          obtain rfl := Option.some.inj (hoperation.symm.trans hsome)
          exact absurd (hdeferral.symm.trans hdefers) (by simp)
        · rcases pending_of_not_deferral hdeferral with hsame | hnone
          · rw [← hsame, hpending]
          · exact absurd (hnone.symm.trans hpending) (by simp)

/-! ## The result -/

/-- The plan that waits at a position is that of the newest request before it. -/
def LatestWaits (start : Alerter n) (operations : List (Operation n)) (k : Nat) : Prop :=
  ∃ i plan, Awaits start operations i k plan ∧ Latest start operations i k

/-- In every run of an idle alerter, a vibration of a ring that is started by anything but
a request is warranted by the plan that waits, which is the plan of the newest request
that left one to wait. This is the newest request of all that were rendered exactly if
that one left its plan to wait, and did not decide at once. -/
theorem run_latest_decision_wins_iff (calls : CallTable n) (profile : DeviceProfile)
    (settings : Settings) (surroundings : Surroundings) (timed : Bool)
    (operations : List (Operation n)) :
    let start := idle calls profile settings surroundings timed
    ∀ k effect, Continues start operations k effect →
      (∃ i plan, Awaits start operations i k plan ∧ plan.Warrants effect) ∧
        (LatestWaits start operations k ↔
          ∃ j plan, Latest start operations j k ∧ DefersAt start operations j plan) := by
  rintro start k effect ⟨operation, hoperation, hrendered, hrung⟩
  rw [found_succ hoperation] at hrung
  obtain ⟨plan, hpending, hwarrants⟩ := pending_of_rung hrendered hrung
  obtain ⟨i, hawaits⟩ := exists_awaits rfl operations k hpending
  refine ⟨⟨i, plan, hawaits, hwarrants⟩, ?_, ?_⟩
  · rintro ⟨j, other, hother, hlatest⟩
    exact ⟨j, other, hlatest, hother.defers⟩
  · rintro ⟨j, other, hlatest, hdefers⟩
    obtain rfl : i = j := by
      rcases Nat.lt_trichotomy i j with hlt | heq | hgt
      · exact absurd hdefers (hawaits.newest j other hlt hlatest.earlier)
      · exact heq
      · exact absurd hawaits.defers.renders (hlatest.newest i hgt hawaits.earlier)
    exact ⟨i, plan, hawaits, hlatest⟩

/-- Two calls ring one after the other, and the player of each is waited for. When the wait
is over the phone vibrates by the decision for the second one. -/
theorem startRinging_supersedes_older_wait :
    let ring (number : Nat) : Call :=
      { state := .ringing, ringtone := some ⟨"content://ring"⟩, id := .ofNat number
        log := .empty 64 }
    let loud : Surroundings := { hapticsSignal := some .awaited }
    let start := idle (n := 2) ⟨#v[ring 1, ring 2]⟩ {} { vibrateWhenRinging := true } loud true
    let operations : List (Operation 2) :=
      [.startRinging (some 0) false, .startRinging (some 1) false, .advance 1000]
    Continues start operations 2 start.ringEffect ∧ LatestWaits start operations 2 := by
  intro ring loud start operations
  have hcontinues : Continues start operations 2 start.ringEffect := ⟨_, rfl, rfl, by decide⟩
  have hlatest : Latest start operations 1 2 := by
    refine ⟨by decide, ⟨_, _, rfl, rfl⟩, ?_⟩
    intro j hj hk
    omega
  have hwins := (run_latest_decision_wins_iff _ _ _ _ _ operations 2 _ hcontinues).2
  exact ⟨hcontinues, hwins.mpr ⟨1, _, hlatest, _, rfl, rfl⟩⟩

/-- A call rings and its player is waited for. Then the phone is silenced and another
call rings, for which nothing is heard or felt. When the wait is over the phone vibrates
for the first call, though the second one was the last to be decided about. -/
theorem startRinging_leaves_older_wait :
    let ring (number : Nat) : Call :=
      { state := .ringing, ringtone := some ⟨"content://ring"⟩, id := .ofNat number
        log := .empty 64 }
    let loud : Surroundings := { hapticsSignal := some .awaited }
    let silent : Surroundings := { loud.setVolume 0 .ring with ringerMode := .silent }
    let start := idle (n := 2) ⟨#v[ring 1, ring 2]⟩ {} { vibrateWhenRinging := true } loud true
    let operations : List (Operation 2) :=
      [.startRinging (some 0) false, .surroundings silent, .startRinging (some 1) false,
        .advance 1000]
    Continues start operations 3 start.ringEffect ∧ Latest start operations 2 3 ∧
      ¬ LatestWaits start operations 3 := by
  intro ring loud silent start operations
  have hlatest : Latest start operations 2 3 := by
    refine ⟨by decide, ⟨_, _, rfl, rfl⟩, ?_⟩
    intro j hj hk
    omega
  refine ⟨⟨_, rfl, rfl, by decide⟩, hlatest, ?_⟩
  rintro ⟨i, plan, hawaits, hnewest⟩
  obtain rfl := hnewest.unique hlatest
  obtain ⟨operation, hoperation, hdefers⟩ := hawaits.defers
  obtain rfl := Option.some.inj hoperation
  have hdecides : (found start operations 2).deferral? (.startRinging (some 1) false) = none := rfl
  exact absurd (hdecides.symm.trans hdefers) (by simp)

end PhoneAudio.Alerter
