import PhoneAudio.Proofs.Alerter.OwnRing
import PhoneAudio.Proofs.Alerter.Voice

/-!
# The voice volume as a loan

Where only the carrier rings, the voice volume is on loan from the first ring that is
heard until the ring is silenced. A loan is written down by what is seen from outside:
the level that stood before the first ring, and the levels that the user chose since
(`Loan`, `loanFrom`). The alerter keeps no such list. It remembers one level, and its own
writes go past the same watch as the choices of the user.

A run of carrier rings is *lent* at every moment: the remembered level is the one that
the loan gives back, one watch is on, and the call that rings has a carrier ring, so that
the stop is the one that gives the volume back (`Lent.perform`).
-/

namespace PhoneAudio.Alerter

variable {n : Nat} {s : Alerter n} {operation : Operation n}

/-! ## What begins a ring -/

/-- An operation begins a ring of the carrier's that is heard. -/
def raises (s : Alerter n) (operation : Operation n) : Bool :=
  (s.rendered? operation).any fun request => request.byCarrier && request.inputs.isAudible

/-- An operation begins a ring by a ringtone that is heard. -/
def ringsByTone (s : Alerter n) (operation : Operation n) : Bool :=
  (s.rendered? operation).any fun request => !request.byCarrier && request.inputs.isAudible

/-- A run in which only the carrier rings. A request for a ringtone may be made as long as
nothing is heard of it. -/
def CarrierOnly (s : Alerter n) : List (Operation n) → Prop
  | [] => True
  | operation :: rest =>
    s.ringsByTone operation = false ∧ (s.perform operation).1.CarrierOnly rest

/-- The call of a request for the carrier's ring has one. -/
theorem carrierRing_of_request? {request : Request n} (h : s.request? operation = some request)
    (hcarrier : request.byCarrier = true) : (s.call request.call).carrierRing = true := by
  cases operation with
  | startRinging place handsFree =>
    rcases place with - | place
    · cases h
    · obtain ⟨-, hsome⟩ := Option.ite_none_right_eq_some.mp h
      obtain rfl := Option.some.inj hsome
      cases hcarrier
  | startCarrierRing place handsFree =>
    rcases place with - | place
    · cases h
    · obtain ⟨hboth, hsome⟩ := Option.ite_none_right_eq_some.mp h
      obtain rfl := Option.some.inj hsome
      exact (Bool.and_eq_true_iff.mp hboth).1
  | _ => cases h

/-- Only a request to ring begins one. -/
theorem asksToRing_of_raises (h : s.raises operation = true) : operation.asksToRing = true := by
  cases operation with
  | startRinging place handsFree => rfl
  | startCarrierRing place handsFree => rfl
  | _ => cases h

/-- Whose ring it is can be read off the call that rings and its nature. -/
theorem Touches.ringsByCarrier {parts : List Part} {t : Alerter n} (h : Touches parts s t)
    (hnatures : Part.natures ∉ parts) (hringing : Part.ringing ∉ parts) :
    t.ringsByCarrier = s.ringsByCarrier := by
  have hsame : t.ringing = s.ringing := h.keeps .ringing hringing
  have hkinds : t.natures = s.natures := h.keeps .natures hnatures
  rw [Alerter.ringsByCarrier, Alerter.ringsByCarrier, hsame]
  cases s.ringing with
  | none => rfl
  | some place => exact congrArg Call.Nature.carrierRing (congrFun hkinds place)

/-- A ring of the carrier's raises the voice volume, and its call is the one that rings. -/
theorem perform_of_raises (h : s.raises operation = true) :
    (s.perform operation).1.ringsByCarrier = true ∧
      (s.perform operation).1.override.isSome = true ∧
      (s.perform operation).1.told .volume = s.told .volume ++ s.voiceRaise := by
  obtain ⟨request, hrendered, hboth⟩ := (Option.any_eq_true _ _).mp h
  obtain ⟨hcarrier, haudible⟩ := Bool.and_eq_true_iff.mp hboth
  have hring : (s.perform operation).1 = s.renderCarrierRing request.call request.inputs := by
    rw [perform_of_rendered? hrendered, render, if_pos hcarrier]
  obtain ⟨hringing, hoverride, htold⟩ := s.renderCarrierRing_of_audible request.call haudible
  have hnatures : (s.renderCarrierRing request.call request.inputs).natures = s.natures :=
    (touches_renderCarrierRing s request.call request.inputs).keeps .natures (by decide)
  have hkind : ((s.renderCarrierRing request.call request.inputs).call request.call).carrierRing =
      (s.call request.call).carrierRing :=
    congrArg Call.Nature.carrierRing (congrFun hnatures request.call)
  rw [hring]
  refine ⟨?_, hoverride, htold⟩
  rw [ringsByCarrier, hringing]
  exact hkind.trans (carrierRing_of_request? (Option.filter_eq_some_iff.mp hrendered).1 hcarrier)

/-- A ring by a ringtone says nothing about the volumes. -/
theorem told_of_ringsByTone (h : s.ringsByTone operation = true) :
    (s.perform operation).1.told .volume = s.told .volume := by
  obtain ⟨request, hrendered, hboth⟩ := (Option.any_eq_true _ _).mp h
  have hcarrier : request.byCarrier = false := by simpa using (Bool.and_eq_true_iff.mp hboth).1
  rw [perform_of_rendered? hrendered, render, if_neg (by simp [hcarrier])]
  exact (touches_renderRing s _ _ _).keeps (.told .volume) (by decide)

/-- A request of which nothing is heard. -/
theorem touches_of_unheard (hasks : operation.asksToRing = true)
    (hraises : s.raises operation = false) (htone : s.ringsByTone operation = false) :
    Touches silentParts s (s.perform operation).1 := by
  cases hrendered : s.rendered? operation with
  | none => exact (touches_declined hasks hrendered).mono (by decide)
  | some request =>
    rw [raises, hrendered, Option.any_some] at hraises
    rw [ringsByTone, hrendered, Option.any_some] at htone
    have hsilent : request.inputs.isAudible = false := by
      cases hcarrier : request.byCarrier <;> simp_all
    rw [perform_of_rendered? hrendered, render]
    split
    · exact touches_renderCarrierRing_of_inaudible s _ hsilent
    · exact touches_renderRing_of_inaudible s _ _ hsilent

theorem override_changeVolume (s : Alerter n) (stream : Stream) (level : Nat) :
    (s.changeVolume stream level).override.isSome = s.override.isSome := by
  unfold changeVolume hearVolume
  split
  next override hoverride =>
    split
    · exact (congrArg Option.isSome hoverride).symm
    · rfl
  · rfl

/-- What neither silences nor begins a ring leaves the ring as it is, borrows nothing and
gives nothing back, and says nothing about the volumes. -/
theorem perform_of_uneventful (hsilences : s.silences operation = false)
    (hraises : s.raises operation = false) (htone : s.ringsByTone operation = false) :
    (s.perform operation).1.ringsByCarrier = s.ringsByCarrier ∧
      (s.perform operation).1.override.isSome = s.override.isSome ∧
      (s.perform operation).1.told .volume = s.told .volume := by
  have hkeeps : ∀ {parts : List Part} {t : Alerter n}, Touches parts s t →
      (∀ part ∈ [Part.natures, .ringing, .override, .told .volume], part ∉ parts) →
      t.ringsByCarrier = s.ringsByCarrier ∧ t.override.isSome = s.override.isSome ∧
        t.told .volume = s.told .volume :=
    fun h hparts => ⟨h.ringsByCarrier (hparts _ (by simp)) (hparts _ (by simp)),
      congrArg Option.isSome (h.keeps .override (hparts _ (by simp))),
      h.keeps (.told .volume) (hparts _ (by simp))⟩
  cases operation with
  | startRinging place handsFree => exact hkeeps (touches_of_unheard rfl hraises htone) (by decide)
  | startCarrierRing place handsFree =>
    exact hkeeps (touches_of_unheard rfl hraises htone) (by decide)
  | stopRinging => cases hsilences
  | startWaiting place reason =>
    exact hkeeps (touches_startWaiting_of_skipped hsilences) (by decide)
  | volume stream level =>
    have htouch := touches_changeVolume s stream level
    exact ⟨htouch.ringsByCarrier (by decide) (by decide), override_changeVolume s stream level,
      htouch.keeps (.told .volume) (by decide)⟩
  | _ => exact hkeeps (touches_perform s _) (by simp [Operation.parts])

/-! ## Loans -/

/-- The voice volume on loan: the level that stood before, and the levels that the user
chose since, in their order. -/
structure Loan where
  before : Nat
  chosen : List Nat := []
deriving DecidableEq

/-- The level to give back: the last choice of the user, or the level before. -/
def Loan.level (loan : Loan) : Nat := loan.chosen.getLast?.getD loan.before

/-- One more choice, if there is one. -/
def Loan.choose (loan : Loan) (choice? : Option Nat) : Loan :=
  { loan with chosen := loan.chosen ++ choice?.toList }

/-- The last choice counts. -/
theorem Loan.level_choose (loan : Loan) (choice? : Option Nat) :
    (loan.choose choice?).level = choice?.getD loan.level := by
  cases choice? <;> simp [choose, level]

/-- The level that the user chooses for the voice volume. -/
def Operation.choice? : Operation n → Option Nat
  | .volume .voiceCall level => some level
  | _ => none

/-- The loan after an operation. It begins with the first ring that is heard, at the level
that the voice volume has then, and lasts until the ring is silenced. -/
def loanAfter (s : Alerter n) (loan : Option Loan) (operation : Operation n) : Option Loan :=
  if s.silences operation then none
  else if s.raises operation then some (loan.getD { before := s.surroundings.voiceVolume })
  else loan.map fun loan => loan.choose operation.choice?

/-- The loan after a run. -/
def loanFrom (s : Alerter n) (loan : Option Loan) : List (Operation n) → Option Loan
  | [] => loan
  | operation :: rest => (s.perform operation).1.loanFrom (s.loanAfter loan operation) rest

/-- The voice volume is lent as a loan says: the alerter remembers the level to give back,
watches the volume as long as the loan lasts, and can tell by the call that rings that
there is something to give back. -/
structure Lent (s : Alerter n) (loan : Option Loan) : Prop where
  saved : s.override.map VolumeOverride.saved = loan.map Loan.level
  borrowed : s.Borrowed s.homeVolume
  carrier : loan.isSome = true → s.ringsByCarrier = true

variable {loan : Option Loan}

/-- What is remembered is the level at home. -/
theorem saved_of_override (h : s.override.isSome = true) :
    s.override.map VolumeOverride.saved = some s.homeVolume := by
  obtain ⟨override, hoverride⟩ := Option.isSome_iff_exists.mp h
  rw [homeVolume, hoverride, Option.map_some]

/-- Whoever asks for a ring chooses no volume. -/
theorem homeAfter_of_asksToRing (h : operation.asksToRing = true) (home : Nat) :
    s.homeAfter home operation = home := by
  cases operation with
  | startRinging place handsFree => rfl
  | startCarrierRing place handsFree => rfl
  | _ => cases h

/-- As long as the volume is held, nothing but a choice of the user counts. -/
theorem homeAfter_of_held (h : s.override.isSome = true) (home : Nat) :
    s.homeAfter home operation = operation.choice?.getD home := by
  cases operation with
  | volume stream level => cases stream <;> rfl
  | surroundings surroundings => exact if_pos h
  | _ => rfl

theorem Borrowed.homeVolume {home : Nat} (hs : s.Borrowed home) : s.Borrowed s.homeVolume :=
  hs.level.symm ▸ hs

namespace Lent

theorem held (hs : s.Lent loan) : s.override.isSome = loan.isSome := by
  rw [← Option.isSome_map (f := VolumeOverride.saved), hs.saved, Option.isSome_map]

/-- The level at home is the one to give back, or the one that is there. -/
theorem homeVolume_eq (hs : s.Lent loan) :
    s.homeVolume = (loan.map Loan.level).getD s.surroundings.voiceVolume := by
  rw [← hs.saved]
  cases hoverride : s.override with
  | none => rw [homeVolume, hoverride, Option.map_none, Option.getD_none]
  | some override => rw [homeVolume, hoverride, Option.map_some, Option.getD_some]

/-- Exactly one watch is on as long as the loan lasts. -/
theorem watching_length (hs : s.Lent loan) : s.watching.length = loan.toList.length := by
  rw [hs.borrowed.watching, List.length_map, Option.length_toList, Option.length_toList, hs.held]

/-- A stop is the end of a ring of the carrier's, or there is nothing to give back. -/
theorem stopRinging (hs : s.Lent loan) :
    s.stopRinging.Returned s.homeVolume ∧
      s.stopRinging.told .volume = s.told .volume ++ s.voiceFarewell := by
  cases hcarrier : s.ringsByCarrier with
  | true =>
    rw [Alerter.stopRinging, if_pos hcarrier]
    exact ⟨hs.borrowed.stopCarrierRing, told_stopCarrierRing s⟩
  | false =>
    have hnone : s.override = none := by
      rw [← Option.not_isSome_iff_eq_none, hs.held]
      intro hsome
      exact absurd (hs.carrier hsome) (by simp [hcarrier])
    have htouch := touches_stopOwnRing s
    rw [Alerter.stopRinging, if_neg (by simp [hcarrier])]
    constructor
    · rw [(hs.borrowed.of_touches htouch (by decide)).returned_iff]
      exact Eq.trans (htouch.keeps .override (by decide)) hnone
    · rw [voiceFarewell, hnone, List.append_nil]
      exact htouch.keeps (.told .volume) (by decide)

/-- What silences the ring gives the volume back, and says so. -/
theorem silence (hs : s.Lent loan) (h : s.silences operation = true) :
    (s.perform operation).1.Returned s.homeVolume ∧
      (s.perform operation).1.told .volume = s.told .volume ++ s.voiceFarewell := by
  obtain ⟨hreturned, htold⟩ := hs.stopRinging
  cases operation with
  | stopRinging => exact ⟨hreturned, htold⟩
  | startWaiting place reason =>
    have htap := (touches_tap s.stopRinging).trans (touches_beginWaiting _ place reason)
    show (s.startWaiting place reason).Returned _ ∧ (s.startWaiting place reason).told .volume = _
    rw [startWaiting_of_silences h]
    exact ⟨hreturned.of_touches htap (by decide),
      Eq.trans (htap.keeps (.told .volume) (by decide)) htold⟩
  | _ => cases h

theorem perform (hs : s.Lent loan) (htone : s.ringsByTone operation = false) :
    (s.perform operation).1.Lent (s.loanAfter loan operation) := by
  have hborrowed := hs.borrowed.perform operation
  cases hsilences : s.silences operation with
  | true =>
    have hnone := (hs.silence hsilences).1.override
    rw [loanAfter, if_pos hsilences]
    exact ⟨by rw [hnone]; rfl, hborrowed.homeVolume, by simp⟩
  | false =>
    cases hraises : s.raises operation with
    | true =>
      obtain ⟨hcarrier, hoverride, -⟩ := perform_of_raises hraises
      have hhome : (s.perform operation).1.homeVolume = s.homeVolume := by
        rw [hborrowed.level, homeAfter_of_asksToRing (asksToRing_of_raises hraises)]
      rw [loanAfter, if_neg (by simp [hsilences]), if_pos hraises]
      refine ⟨?_, hborrowed.homeVolume, fun _ => hcarrier⟩
      rw [saved_of_override hoverride, hhome, hs.homeVolume_eq]
      cases loan <;> rfl
    | false =>
      obtain ⟨hcarrier, hoverride, -⟩ := perform_of_uneventful hsilences hraises htone
      rw [loanAfter, if_neg (by simp [hsilences]), if_neg (by simp [hraises])]
      refine ⟨?_, hborrowed.homeVolume, ?_⟩
      · cases loan with
        | none =>
          have hnone : (s.perform operation).1.override.isSome = false := hoverride.trans hs.held
          rw [Option.isSome_eq_false_iff, Option.isNone_iff_eq_none] at hnone
          rw [hnone]
          rfl
        | some lent =>
          have hsome : s.override.isSome = true := hs.held
          rw [saved_of_override (hoverride.trans hsome), hborrowed.level, homeAfter_of_held hsome,
            hs.homeVolume_eq, Option.map_some, Option.map_some, Option.map_some, Option.getD_some,
            Loan.level_choose]
      · rw [Option.isSome_map, hcarrier]
        exact hs.carrier

theorem run {operations : List (Operation n)} (hs : s.Lent loan) (h : s.CarrierOnly operations) :
    (s.run operations).Lent (s.loanFrom loan operations) := by
  induction operations generalizing s loan with
  | nil => exact hs
  | cons operation rest ih => exact ih (hs.perform h.1) h.2

end Lent

theorem lent_idle (calls : CallTable n) (profile : DeviceProfile) (settings : Settings)
    (surroundings : Surroundings) (timed : Bool) :
    (idle calls profile settings surroundings timed).Lent none :=
  ⟨rfl, borrowed_idle calls profile settings surroundings timed, by simp⟩

/-- In every run in which only the carrier rings, the loan of the voice volume is known at
every moment: the level that is remembered is the last one that the user chose since the
loan began, or the level before it if the user chose none, and exactly one watch is on as
long as it lasts. What silences the ring ends the watch and sets the volume to that level,
and then the volume stands there. Until then the volume is set by rings of the carrier's
alone, each time to the level that goes with the ring volume of that moment. -/
theorem run_returns_chosen_voice (calls : CallTable n) (profile : DeviceProfile)
    (settings : Settings) (surroundings : Surroundings) (timed : Bool)
    (operations : List (Operation n))
    (h : (idle calls profile settings surroundings timed).CarrierOnly operations) :
    let start := idle calls profile settings surroundings timed
    let s := start.run operations
    let loan := start.loanFrom none operations
    (s.override.map VolumeOverride.saved = loan.map Loan.level ∧
      s.watching.length = loan.toList.length) ∧
    (∀ operation, s.silences operation = true →
      (s.perform operation).1.Returned
        ((loan.map Loan.level).getD s.surroundings.voiceVolume) ∧
      (s.perform operation).1.told .volume = s.told .volume ++ s.voiceFarewell) ∧
    ∀ operation, s.silences operation = false →
      (s.perform operation).1.told .volume =
        s.told .volume ++ if s.raises operation then s.voiceRaise else [] := by
  intro start s loan
  have hs : s.Lent loan := (lent_idle calls profile settings surroundings timed).run h
  refine ⟨⟨hs.saved, hs.watching_length⟩, ?_, ?_⟩
  · intro operation hsilences
    rw [← hs.homeVolume_eq]
    exact hs.silence hsilences
  · intro operation hsilences
    cases hraises : s.raises operation with
    | true => exact (perform_of_raises hraises).2.2
    | false =>
      rw [if_neg Bool.false_ne_true, List.append_nil]
      cases htone : s.ringsByTone operation with
      | true => exact told_of_ringsByTone htone
      | false => exact (perform_of_uneventful hsilences hraises htone).2.2

/-- Two calls with a carrier ring, and a user who turns the voice down to one, rings louder,
turns it up to two and silences the ring volume. A request that is not heard changes
nothing. The waiting tone of a third call ends it all, and the voice is back at two. -/
theorem startWaiting_returns_last_choice :
    let carried (number : Nat) : Call :=
      { state := .ringing, carrierRing := true, id := .ofNat number, log := .empty 64 }
    let start := idle (n := 3) ⟨#v[carried 1, carried 2, carried 3]⟩ {} {} {} true
    let operations : List (Operation 3) :=
      [.startCarrierRing (some 0) false, .volume .voiceCall 1, .volume .ring 7,
        .startCarrierRing (some 1) true, .volume .voiceCall 2, .volume .ring 0,
        .startCarrierRing (some 0) false]
    start.CarrierOnly operations ∧
      ((start.run operations).perform (.startWaiting 2 none)).1.Returned 2 ∧
      (start.run operations).told .volume =
        [.setVolume .voiceCall 4, .watchVolume 1, .setVolume .voiceCall 5] := by
  intro carried start operations
  have honly : start.CarrierOnly operations := by
    refine ⟨?_, ?_, ?_, ?_, ?_, ?_, ?_, trivial⟩ <;> decide +kernel
  have hloan : (start.loanFrom none operations).map Loan.level = some 2 := by decide +kernel
  obtain ⟨-, hends, -⟩ := run_returns_chosen_voice _ _ _ _ _ operations honly
  have hreturned := (hends (.startWaiting 2 none) (by decide +kernel)).1
  rw [hloan, Option.getD_some] at hreturned
  exact ⟨honly, hreturned, by decide +kernel⟩

end PhoneAudio.Alerter
