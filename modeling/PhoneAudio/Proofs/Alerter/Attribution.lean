import Mathlib.Data.List.Induction
import Mathlib.Data.List.Nodup
import PhoneAudio.Proofs.Alerter.Rung

/-!
# Every vibration of a ring goes back to a request

The vibration of a ring may start long after the request for it, and the settings, the
surroundings and the calls may have changed in the meantime. Still each vibration goes
back to one request of the past that was rendered and justified it, no two go back to
the same request, and nothing silenced between the request and the vibration.

The argument follows a run operation by operation (`Traced.perform`). A request whose
plan waits is *open*: it accounts for a vibration still to come, and for no other. It
stays open until its plan is carried out or something silences, and of all the requests
of a run at most one is open at a time, since a plan that waits takes the place of the
one before. A vibration that a request starts at once goes back to that request, and the
one that is open may stay so.
-/

namespace PhoneAudio.Alerter

variable {n : Nat}

/-- The alerter as the operation at a position of a run finds it. -/
def found (start : Alerter n) (operations : List (Operation n)) (i : Nat) : Alerter n :=
  start.run (operations.take i)

/-- In a run, the vibration at position `v` among all for rings goes back to the
operation at position `i`. -/
structure Attributed (start : Alerter n) (operations : List (Operation n)) (i v : Nat)
    (effect : Vibration.Effect) : Prop where
  /-- The operation asks to ring, with effect, and justifies the vibration. -/
  justified : ∃ operation request, operations[i]? = some operation ∧
    (found start operations i).rendered? operation = some request ∧
    (found start operations i).Justifies request effect
  /-- The vibration does not start before it. -/
  earlier : (found start operations i).rung.length ≤ v
  /-- Whatever silences after it finds the vibration started. -/
  undisturbed : ∀ k operation, i < k → operations[k]? = some operation →
    (found start operations k).silences operation = true →
    v < (found start operations k).rung.length

/-- The operation at position `i` of a run asks to ring and justifies all that is
allowed, and nothing silences after it. -/
structure Open (start : Alerter n) (operations : List (Operation n)) (i : Nat)
    (allowed : Vibration.Effect → Prop) : Prop where
  justified : ∃ operation request, operations[i]? = some operation ∧
    (found start operations i).rendered? operation = some request ∧
    ∀ effect, allowed effect → (found start operations i).Justifies request effect
  undisturbed : ∀ k operation, i < k → operations[k]? = some operation →
    (found start operations k).silences operation = false

variable {start : Alerter n} {operations : List (Operation n)} {operation : Operation n}

/-! ## Longer runs -/

theorem run_concat (start : Alerter n) (operations : List (Operation n))
    (operation : Operation n) :
    start.run (operations ++ [operation]) = ((start.run operations).perform operation).1 := by
  rw [run, List.foldl_append]
  rfl

theorem found_concat {i : Nat} (h : i ≤ operations.length) :
    found start (operations ++ [operation]) i = found start operations i := by
  rw [found, List.take_append_of_le_length h, found]

theorem found_length (start : Alerter n) (operations : List (Operation n)) :
    found start operations operations.length = start.run operations := by
  rw [found, List.take_length]

theorem getElem?_concat_length (operations : List (Operation n)) (operation : Operation n) :
    (operations ++ [operation])[operations.length]? = some operation := by simp

/-- The positions of a longer run. -/
theorem getElem?_concat {k : Nat} {other : Operation n}
    (h : (operations ++ [operation])[k]? = some other) :
    (k < operations.length ∧ operations[k]? = some other) ∨
      (k = operations.length ∧ operation = other) := by
  rcases Nat.lt_trichotomy k operations.length with hlt | rfl | hgt
  · exact .inl ⟨hlt, by rwa [List.getElem?_append_left hlt] at h⟩
  · exact .inr ⟨rfl, by simpa using h⟩
  · have hnone : (operations ++ [operation])[k]? = none :=
      List.getElem?_eq_none (by simp only [List.length_append, List.length_singleton]; omega)
    rw [hnone] at h
    cases h

/-- What has rung is not taken back. -/
theorem rung_perform (s : Alerter n) (operation : Operation n) :
    s.rung <+: (s.perform operation).1.rung := by
  obtain ⟨news, hsent, -, -⟩ := says_perform s operation
  rw [rung, rung, hsent, List.filterMap_append]
  exact List.prefix_append _ _

theorem rung_run (s : Alerter n) (operations : List (Operation n)) :
    s.rung <+: (s.run operations).rung := by
  induction operations generalizing s with
  | nil => exact List.prefix_rfl
  | cons operation rest ih => exact (rung_perform s operation).trans (ih _)

theorem rung_found_le (start : Alerter n) (operations : List (Operation n)) (i : Nat) :
    (found start operations i).rung.length ≤ (start.run operations).rung.length := by
  have hrun : start.run operations = (found start operations i).run (operations.drop i) := by
    rw [found, run, run, run, ← List.foldl_append, List.take_append_drop]
  rw [hrun]
  exact (rung_run _ _).length_le

/-- A vibration that goes back to a request still does so later on. -/
theorem Attributed.concat {i v : Nat} {effect : Vibration.Effect}
    (h : Attributed start operations i v effect) (hv : v < (start.run operations).rung.length)
    (operation : Operation n) : Attributed start (operations ++ [operation]) i v effect := by
  obtain ⟨⟨asked, request, hasked, hrendered, hjustifies⟩, hearlier, hundisturbed⟩ := h
  have hi : i < operations.length := (List.getElem?_eq_some_iff.mp hasked).1
  have hfound : found start (operations ++ [operation]) i = found start operations i :=
    found_concat (Nat.le_of_lt hi)
  refine ⟨⟨asked, request, ?_, ?_, ?_⟩, ?_, ?_⟩
  · rwa [List.getElem?_append_left hi]
  · rwa [hfound]
  · rwa [hfound]
  · rwa [hfound]
  · intro k other hik hother hsilences
    rcases getElem?_concat hother with ⟨hk, hold⟩ | ⟨rfl, rfl⟩
    · rw [found_concat (Nat.le_of_lt hk)] at hsilences ⊢
      exact hundisturbed k other hik hold hsilences
    · rwa [found_concat (Nat.le_refl _), found_length]

namespace Open

variable {i : Nat} {allowed : Vibration.Effect → Prop}

theorem lt_length (h : Open start operations i allowed) : i < operations.length := by
  obtain ⟨asked, request, hasked, -, -⟩ := h.justified
  exact (List.getElem?_eq_some_iff.mp hasked).1

/-- A request stays open while nothing silences. -/
theorem concat (h : Open start operations i allowed)
    (hsilences : (start.run operations).silences operation = false) :
    Open start (operations ++ [operation]) i allowed := by
  have hi := h.lt_length
  obtain ⟨⟨asked, request, hasked, hrendered, hjustifies⟩, hundisturbed⟩ := h
  have hfound : found start (operations ++ [operation]) i = found start operations i :=
    found_concat (Nat.le_of_lt hi)
  refine ⟨⟨asked, request, ?_, ?_, ?_⟩, ?_⟩
  · rwa [List.getElem?_append_left hi]
  · rwa [hfound]
  · rwa [hfound]
  · intro k other hik hother
    rcases getElem?_concat hother with ⟨hk, hold⟩ | ⟨rfl, rfl⟩
    · rw [found_concat (Nat.le_of_lt hk)]
      exact hundisturbed k other hik hold
    · rwa [found_concat (Nat.le_refl _), found_length]

/-- The request that is made last. -/
theorem last {request : Request n}
    (hrendered : (start.run operations).rendered? operation = some request)
    (hallowed : ∀ effect, allowed effect → (start.run operations).Justifies request effect) :
    Open start (operations ++ [operation]) operations.length allowed := by
  have hfound : found start (operations ++ [operation]) operations.length =
      start.run operations := by
    rw [found_concat (Nat.le_refl _), found_length]
  refine ⟨⟨operation, request, getElem?_concat_length operations operation, ?_, ?_⟩, ?_⟩
  · rwa [hfound]
  · rwa [hfound]
  · intro k other hk hother
    rcases getElem?_concat hother with ⟨hlt, -⟩ | ⟨heq, -⟩ <;> omega

/-- A vibration that starts goes back to a request that is open. -/
theorem attributed {v : Nat} {effect : Vibration.Effect} (h : Open start operations i allowed)
    (hallowed : allowed effect) (hearlier : (found start operations i).rung.length ≤ v) :
    Attributed start operations i v effect := by
  obtain ⟨⟨asked, request, hasked, hrendered, hjustifies⟩, hundisturbed⟩ := h
  refine ⟨⟨asked, request, hasked, hrendered, hjustifies effect hallowed⟩, hearlier, ?_⟩
  intro k other hik hother hsilences
  rw [hundisturbed k other hik hother] at hsilences
  cases hsilences

end Open

/-! ## Following a run -/

/-- The vibrations of a run go back to requests at the given positions, each to its own,
and a plan that waits is the plan of yet another request, which is open. -/
structure Traced (start : Alerter n) (operations : List (Operation n)) (requests : List Nat) :
    Prop where
  nodup : requests.Nodup
  made : ∀ i ∈ requests, i < operations.length
  length : requests.length = (start.run operations).rung.length
  attributed : ∀ v i effect, requests[v]? = some i →
    (start.run operations).rung[v]? = some effect → Attributed start operations i v effect
  waits : ∀ plan, (start.run operations).pending = some plan →
    ∃ i, i ∉ requests ∧ Open start operations i plan.Warrants

namespace Traced

variable {requests : List Nat}

theorem nil (hrung : start.rung = []) (hpending : start.pending = none) :
    Traced start [] [] := by
  refine ⟨List.nodup_nil, ?_, ?_, ?_, ?_⟩
  · simp
  · simp [run, hrung]
  · simp
  · intro plan hplan
    exact absurd (hpending.symm.trans hplan) (by simp)

/-- An operation that starts no vibration. -/
theorem quiet (h : Traced start operations requests)
    (hrung : (start.run (operations ++ [operation])).rung = (start.run operations).rung)
    (hwaits : ∀ plan, (start.run (operations ++ [operation])).pending = some plan →
      ∃ i, i ∉ requests ∧ Open start (operations ++ [operation]) i plan.Warrants) :
    Traced start (operations ++ [operation]) requests := by
  refine ⟨h.nodup, ?_, ?_, ?_, hwaits⟩
  · intro i hi
    have hlt := h.made i hi
    simp only [List.length_append, List.length_singleton]
    omega
  · rw [hrung, h.length]
  · intro v i effect hi heffect
    rw [hrung] at heffect
    exact (h.attributed v i effect hi heffect).concat (List.getElem?_eq_some_iff.mp heffect).1 _

/-- An operation that starts a vibration, which goes back to a request that is open. -/
theorem loud (h : Traced start operations requests) {i : Nat} {effect : Vibration.Effect}
    {allowed : Vibration.Effect → Prop} (hi : i ∉ requests) (hile : i ≤ operations.length)
    (hopen : Open start (operations ++ [operation]) i allowed) (hallowed : allowed effect)
    (hrung : (start.run (operations ++ [operation])).rung =
      (start.run operations).rung ++ [effect])
    (hwaits : ∀ plan, (start.run (operations ++ [operation])).pending = some plan →
      ∃ j, j ∉ requests ++ [i] ∧ Open start (operations ++ [operation]) j plan.Warrants) :
    Traced start (operations ++ [operation]) (requests ++ [i]) := by
  refine ⟨?_, ?_, ?_, ?_, hwaits⟩
  · rw [← List.concat_eq_append]
    exact h.nodup.concat hi
  · intro j hj
    rw [List.length_append, List.length_singleton]
    rcases List.mem_append.mp hj with hj | hj
    · exact Nat.lt_succ_of_lt (h.made j hj)
    · rw [List.mem_singleton.mp hj]
      exact Nat.lt_succ_of_le hile
  · rw [hrung, List.length_append, List.length_append, h.length]
    rfl
  · intro v j other hj hother
    rw [hrung] at hother
    rcases Nat.lt_or_ge v requests.length with hv | hv
    · rw [List.getElem?_append_left hv] at hj
      rw [h.length] at hv
      rw [List.getElem?_append_left hv] at hother
      exact (h.attributed v j other hj hother).concat hv _
    · -- the new vibration
      have hlast : v = requests.length := by
        have hlt := (List.getElem?_eq_some_iff.mp hj).1
        rw [List.length_append, List.length_singleton] at hlt
        omega
      subst hlast
      obtain rfl : i = j := by simpa using hj
      obtain rfl : effect = other := by simpa [h.length] using hother
      refine hopen.attributed hallowed ?_
      rw [found_concat hile, h.length]
      exact rung_found_le start operations i

/-- What waits before an operation that does not silence waits after it, if its plan does. -/
theorem stillWaits (h : Traced start operations requests)
    (hsilences : (start.run operations).silences operation = false)
    (hpending : (start.run (operations ++ [operation])).pending = (start.run operations).pending)
    (plan : Plan n) (hplan : (start.run (operations ++ [operation])).pending = some plan) :
    ∃ i, i ∉ requests ∧ i < operations.length ∧
      Open start (operations ++ [operation]) i plan.Warrants := by
  obtain ⟨i, hi, hopen⟩ := h.waits plan (hpending ▸ hplan)
  exact ⟨i, hi, hopen.lt_length, hopen.concat hsilences⟩

theorem perform (h : Traced start operations requests) (operation : Operation n) :
    ∃ more, Traced start (operations ++ [operation]) more := by
  have hrun := run_concat start operations operation
  have hfresh : operations.length ∉ requests := fun hmem =>
    Nat.lt_irrefl _ (h.made _ hmem)
  cases hsilences : (start.run operations).silences operation with
  | true =>
    obtain ⟨hrung, hpending⟩ := perform_of_silences hsilences
    rw [← hrun] at hrung hpending
    refine ⟨requests, h.quiet hrung fun plan hplan => ?_⟩
    exact absurd (hpending.symm.trans hplan) (by simp)
  | false =>
    rcases perform_rings hsilences with ⟨request, hrendered, hdecides⟩ | hcarries
    · rw [← hrun] at hdecides
      cases hdecides with
      | atOnce hrings =>
        have hwaits := h.stillWaits hsilences hrings.pending
        rcases hrings.rung with hsame | ⟨effect, hjustifies, hrung⟩
        · refine ⟨requests, h.quiet hsame fun plan hplan => ?_⟩
          obtain ⟨i, hi, -, hopen⟩ := hwaits plan hplan
          exact ⟨i, hi, hopen⟩
        · refine ⟨requests ++ [operations.length], h.loud hfresh (Nat.le_refl _)
            (Open.last hrendered fun _ h => h) hjustifies hrung fun plan hplan => ?_⟩
          obtain ⟨i, hi, hlt, hopen⟩ := hwaits plan hplan
          refine ⟨i, ?_, hopen⟩
          rw [List.mem_append, List.mem_singleton]
          rintro (hmem | rfl)
          · exact hi hmem
          · exact Nat.lt_irrefl _ hlt
      | later plan hallowed hrung hpending =>
        refine ⟨requests, h.quiet hrung fun other hother => ?_⟩
        obtain rfl : plan = other := Option.some.inj (hpending.symm.trans hother)
        exact ⟨operations.length, hfresh, Open.last hrendered hallowed⟩
    · rw [← hrun] at hcarries
      cases hcarries with
      | keeps hkeeps =>
        refine ⟨requests, h.quiet hkeeps.rung fun plan hplan => ?_⟩
        obtain ⟨i, hi, -, hopen⟩ := h.stillWaits hsilences hkeeps.pending plan hplan
        exact ⟨i, hi, hopen⟩
      | plays plan hplan hrung hpending =>
        have hnone : ∀ other, (start.run (operations ++ [operation])).pending ≠ some other :=
          fun other hother => absurd (hpending.symm.trans hother) (by simp)
        rcases hrung with hsame | ⟨effect, hwarrants, hrung⟩
        · exact ⟨requests, h.quiet hsame fun other hother => absurd hother (hnone other)⟩
        · obtain ⟨i, hi, hopen⟩ := h.waits plan hplan
          refine ⟨requests ++ [i], h.loud hi (Nat.le_of_lt hopen.lt_length)
            (hopen.concat hsilences) hwarrants hrung fun other hother => ?_⟩
          exact absurd hother (hnone other)

theorem run (hrung : start.rung = []) (hpending : start.pending = none)
    (operations : List (Operation n)) : ∃ requests, Traced start operations requests := by
  induction operations using List.reverseRecOn with
  | nil => exact ⟨[], nil hrung hpending⟩
  | append_singleton operations operation ih =>
    obtain ⟨requests, htraced⟩ := ih
    exact htraced.perform operation

end Traced

/-- In every run of an idle alerter, each vibration for a ring goes back to a request of
its own: one that was rendered, when the motor was enabled and the contact might ring,
and that took the effect from the settings of its time. The vibration started no earlier
than the request, and before anything silenced. -/
theorem run_attributes_rings (calls : CallTable n) (profile : DeviceProfile)
    (settings : Settings) (surroundings : Surroundings) (timed : Bool)
    (operations : List (Operation n)) :
    let start := idle calls profile settings surroundings timed
    ∃ requests : List Nat, requests.Nodup ∧
      requests.length = (start.run operations).rung.length ∧
      ∀ v i effect, requests[v]? = some i → (start.run operations).rung[v]? = some effect →
        Attributed start operations i v effect := by
  intro start
  obtain ⟨requests, htraced⟩ : ∃ requests, Traced start operations requests :=
    Traced.run rfl rfl operations
  exact ⟨requests, htraced.nodup, htraced.length, htraced.attributed⟩

/-- Word that comes after the user picked another pattern starts the one picked before. -/
example :
    let call : Call :=
      { state := .ringing, ringtone := some ⟨"content://ring"⟩, id := .ofNat 1, log := .empty 64 }
    let start := idle (n := 1) ⟨#v[call]⟩ {} { vibrateWhenRinging := true, pattern := .dzzzDa }
      { hapticsSignal := some .awaited } true
    (start.run [.startRinging (some 0) false, .applySettings { pattern := .mmMmMm },
      .tellHaptics false, .settle]).rung = [start.ringEffect] := by decide

/-- Without a runtime, too, a buzz is over when its time has passed, and the next ring vibrates. -/
example :
    let call : Call :=
      { state := .ringing, ringtone := some ⟨"content://ring"⟩, id := .ofNat 1, log := .empty 64 }
    let start := idle (n := 1) ⟨#v[call]⟩ { connectBuzz := 100 }
      { vibrateWhenRinging := true, vibrateOnConnect := true } {} false
    (start.run [.buzzOnConnect, .advance 100, .startRinging (some 0) false]).rung =
      [start.ringEffect] := by decide

end PhoneAudio.Alerter
