import PhoneAudio.Proofs.Alerter.OwnRing
import PhoneAudio.Proofs.Switchboard.CarrierMode

/-!
# Ringing for the call in front

Which ring is asked for is decided by the carrier mode, and the mode is what the last
ruling made of it, be it about the call in front or about another one. So the call in
front is rung by the ring of its own kind exactly if the mode agrees with what the call
is, or if the call is not heard anyway (`run_startRinging_ringsOwn_iff`). An ordinary
call that is in front while the mode is on is not rung at all.
-/

namespace PhoneAudio.Switchboard

variable {n : Nat} {s : Switchboard n}

/-- The alerter as it begins to work, with nothing said yet. -/
def listening (s : Switchboard n) : Alerter n := { s.alerter with sent := [] }

/-- From `s` to `t` the alerter rings a call by the ring of its own kind, and what it says
is passed on. -/
def RingsOwn (s t : Switchboard n) (place : Fin n) : Prop :=
  ∃ after : Alerter n, s.listening.RingsOwn after place ∧
    t.alerter = { after with sent := [] } ∧ t.sent = s.sent ++ after.sent.map .alerter

/-- What the alerter did can be read off the switchboard. -/
theorem onAlerter_inj {β : Type} {act : Alerter n → Alerter n × β} {after : Alerter n}
    (halerter : (s.onAlerter act).1.alerter = { after with sent := [] })
    (hsent : (s.onAlerter act).1.sent = s.sent ++ after.sent.map .alerter) :
    after = (act s.listening).1 := by
  have hsame : (act s.listening).1.sent = after.sent := by
    refine List.map_injective_iff.mpr ?_ (List.append_cancel_left hsent)
    intro first second h
    cases h
    rfl
  have hrest : ({ (act s.listening).1 with sent := [] } : Alerter n) = { after with sent := [] } :=
    halerter
  calc after = { ({ after with sent := [] } : Alerter n) with sent := after.sent } := rfl
    _ = { ({ (act s.listening).1 with sent := [] } : Alerter n) with
          sent := (act s.listening).1.sent } := by rw [hrest, hsame]
    _ = (act s.listening).1 := rfl

theorem ringsOwn_onAlerter {β : Type} (s : Switchboard n) (act : Alerter n → Alerter n × β)
    (place : Fin n) :
    s.RingsOwn (s.onAlerter act).1 place ↔ s.listening.RingsOwn (act s.listening).1 place := by
  constructor
  · rintro ⟨after, hrings, halerter, hsent⟩
    rw [onAlerter_inj halerter hsent] at hrings
    exact hrings
  · intro hrings
    exact ⟨(act s.listening).1, hrings, rfl, rfl⟩

/-- The call in front is rung by its own kind if and only if the mode is right for it or it
is not heard. -/
theorem startRinging_ringsOwn_iff {place : Fin n} (hfront : s.front = some place)
    (hring : (s.call place).state.isRinging = true) :
    s.RingsOwn s.startRinging.1 place ↔
      s.carrierMode = (s.call place).carrierRing ∨ s.alerter.isHeard place = false := by
  rw [startRinging, hfront]
  cases hmode : s.carrierMode with
  | true =>
    rw [if_pos rfl, ringsOwn_onAlerter]
    refine (Alerter.ringsOwn_startCarrierRing_iff (s := s.listening) s.handsFree hring).trans ?_
    exact or_congr_left eq_comm
  | false =>
    rw [if_neg (by simp), ringsOwn_onAlerter]
    refine (Alerter.ringsOwn_startRinging_iff (s := s.listening) s.handsFree hring).trans ?_
    exact or_congr_left eq_comm

/-- An ordinary call in front is not rung while the mode is on. -/
theorem startRinging_of_ordinary {place : Fin n} (hfront : s.front = some place)
    (hmode : s.carrierMode = true) (hordinary : (s.call place).carrierRing = false) :
    s.startRinging.2 = false ∧ s.startRinging.1.sent = s.sent ∧
      s.startRinging.1.alerter = s.listening := by
  have hrefused := Alerter.startCarrierRing_of_ordinary (s := s.listening) s.handsFree hordinary
  have hanswer : (s.onAlerter (·.startCarrierRing (some place) s.handsFree)).2 =
      (s.listening.startCarrierRing (some place) s.handsFree).2 := rfl
  have hsent : (s.onAlerter (·.startCarrierRing (some place) s.handsFree)).1.sent =
      s.sent ++ (s.listening.startCarrierRing (some place) s.handsFree).1.sent.map .alerter := rfl
  have halerter : (s.onAlerter (·.startCarrierRing (some place) s.handsFree)).1.alerter =
      { (s.listening.startCarrierRing (some place) s.handsFree).1 with sent := [] } := rfl
  rw [startRinging, hfront, if_pos hmode, hanswer, hsent, halerter, hrefused]
  exact ⟨rfl, List.append_nil _, rfl⟩

/-- In every run of an idle switchboard the carrier mode is what the last ruling made of it,
off if there was none. A request to ring for a call in front that rings goes by the ring of
its own kind exactly if that ruling agrees with what the call is, or if the call is not
heard anyway. If the mode is on and the call has no carrier ring, the request is refused and
nothing is said. -/
theorem run_startRinging_ringsOwn_iff (calls : CallTable n) (profile : DeviceProfile)
    (settings : Settings) (surroundings : Surroundings) (timed : Bool) (registry : Registry)
    (desks : Option Desks) (operations : List (Operation n)) :
    let start := idle calls profile settings surroundings timed registry desks
    let s := start.run operations
    s.carrierMode = (start.rulings operations).getLast?.getD false ∧
      ∀ place, s.front = some place → (s.call place).state.isRinging = true →
        (s.RingsOwn s.startRinging.1 place ↔
          s.carrierMode = (s.call place).carrierRing ∨ s.alerter.isHeard place = false) ∧
        (s.carrierMode = true → (s.call place).carrierRing = false →
          s.startRinging.2 = false ∧ s.startRinging.1.sent = s.sent ∧
            s.startRinging.1.alerter.ringing = s.alerter.ringing) := by
  intro start s
  refine ⟨carrierMode_run start operations, fun place hfront hring => ?_⟩
  refine ⟨startRinging_ringsOwn_iff hfront hring, fun hmode hordinary => ?_⟩
  obtain ⟨hanswer, hsent, halerter⟩ := startRinging_of_ordinary hfront hmode hordinary
  refine ⟨hanswer, hsent, ?_⟩
  rw [halerter]
  rfl

/-- A call with a carrier ring is added first and an ordinary one after it ended: the second
one is rung by its ringtone. -/
theorem startRinging_after_carrier_ring :
    let carried : Call :=
      { state := .ringing, carrierRing := true, id := .ofNat 1, log := .empty 64 }
    let ordinary : Call :=
      { state := .ringing, ringtone := some ⟨"content://ring"⟩, id := .ofNat 2, log := .empty 64 }
    let start := idle (n := 2) ⟨#v[carried, ordinary]⟩ {} {} {} false {} none
    let operations : List (Operation 2) :=
      [.added 0, .moved 0 .disconnected, .removed 0, .added 1]
    let s := start.run operations
    s.front = some 1 ∧ s.alerter.isHeard 1 = true ∧ s.RingsOwn s.startRinging.1 1 := by
  intro carried ordinary start operations s
  have hfront : s.front = some 1 := by decide
  have hrings := (run_startRinging_ringsOwn_iff ⟨#v[carried, ordinary]⟩ {} {} {} false {} none
    operations).2 1 hfront (by decide)
  exact ⟨hfront, by decide, hrings.1.mpr (.inl (by decide))⟩

/-- An ordinary call rings in front, and then a call with a carrier ring is added: the first
one would be heard, and a request to ring for it is refused. -/
theorem startRinging_refuses_front :
    let ordinary : Call :=
      { state := .ringing, ringtone := some ⟨"content://ring"⟩, id := .ofNat 1, log := .empty 64 }
    let carried : Call :=
      { state := .ringing, carrierRing := true, id := .ofNat 2, log := .empty 64 }
    let start := idle (n := 2) ⟨#v[ordinary, carried]⟩ {} {} {} false {} none
    let operations : List (Operation 2) := [.added 0, .added 1]
    let s := start.run operations
    start.Prompt operations ∧ start.Honest operations ∧
      s.front = some 0 ∧ (s.call 0).state.isRinging = true ∧ s.alerter.isHeard 0 = true ∧
      s.startRinging.2 = false ∧ s.startRinging.1.alerter.ringing = none ∧
      ¬s.RingsOwn s.startRinging.1 0 := by
  intro ordinary carried start operations s
  have hsilent : s.startRinging.1.alerter.ringing = none := by decide
  refine ⟨by decide, by decide, by decide, by decide, by decide, by decide, hsilent, ?_⟩
  rintro ⟨after, hrings, halerter, -⟩
  have hring : s.startRinging.1.alerter.ringing = some 0 := by
    rw [halerter]
    exact hrings.ringing.trans (if_pos (by decide))
  rw [hsilent] at hring
  cases hring

end PhoneAudio.Switchboard
