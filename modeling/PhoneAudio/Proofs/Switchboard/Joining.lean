import PhoneAudio.Proofs.Roster.Standing
import PhoneAudio.Proofs.Switchboard.CarrierMode
import PhoneAudio.Proofs.Switchboard.HoldTone
import PhoneAudio.Proofs.Switchboard.Mirror
import PhoneAudio.Proofs.Switchboard.Presence

/-!
# Calls that join

A call that joins is followed through many steps: the call in front is chosen again and the
hold tone turned with it, the presence is told, a ring begins, crossings are told, and the
hold tone is looked at once more. What is left behind by all this does not depend on the way:
the roster has one more seat, the call in front is the one that the new roster and the states
choose, the hold tone is as it is due, and so on (`Joined`).

Two laws follow. A call that joins and leaves at once leaves no trace: the roster and the
tracked calls are what they were, so a call in front and a hold tone that were up to date are
chosen as before (`run_restored_by_leaving`). And two calls that go to different groups may
join in either order (`added_comm`), though on the way there a tone may start and stop in one
order only.
-/

namespace PhoneAudio

namespace Switchboard

variable {n : Nat} {s t u : Switchboard n} {place : Fin n}

/-- The group that a call belongs to by its state. -/
def group? (s : Switchboard n) (place : Fin n) : Option Group :=
  Group.ofState? (s.call place).state (s.call place).traits.speedUpAnswer

/-- The roster with a call at the end of its group, if it has one. -/
def seated (s : Switchboard n) (place : Fin n) : Roster (Fin n) :=
  match s.group? place with
  | some group => s.roster.insert s.ident group place
  | none => s.roster

theorem roster_seat (s : Switchboard n) (place : Fin n) :
    (s.seat place (s.call place).state).roster = s.seated place := by
  rw [seat, seated, group?]
  cases Group.ofState? (s.call place).state (s.call place).traits.speedUpAnswer <;> rfl

theorem Touches.group? {parts : List Part} (h : Touches parts s t)
    (hnatures : Part.natures ∉ parts) (hattributes : Part.attributes ∉ parts) :
    t.group? = s.group? := by
  have hsame : t.alerter.attributes = s.alerter.attributes := h.keeps .attributes hattributes
  funext place
  have hstate : (t.call place).state = (s.call place).state :=
    congrArg Call.Attributes.state (congrFun hsame place)
  have htraits : (t.call place).traits = (s.call place).traits :=
    congrArg Call.Nature.traits (h.natures hnatures place)
  rw [Switchboard.group?, Switchboard.group?, hstate, htraits]

/-! ## What a call that joins leaves behind -/

/-- What a ring begins: the carrier mode and the medium that is remembered beside it. -/
def carrier (s : Switchboard n) : Bool × Option Video := (s.carrierMode, s.carrierMedia)

theorem Touches.carrier {parts : List Part} (h : Touches parts s t)
    (hmode : Part.carrierMode ∉ parts) (hmedia : Part.carrierMedia ∉ parts) :
    t.carrier = s.carrier :=
  Prod.ext (h.keeps .carrierMode hmode) (h.keeps .carrierMedia hmedia)

/-- A ring as a call begins it. -/
def ring (s : Switchboard n) (place : Fin n) : Bool × Option Video :=
  ((s.call place).carrierRing, some (s.call place).ringMedia)

theorem Touches.ring {parts : List Part} (h : Touches parts s t)
    (hnatures : Part.natures ∉ parts) : t.ring = s.ring := by
  funext place
  have hmedia : (t.call place).ringMedia = (s.call place).ringMedia :=
    congrArg Call.Nature.ringMedia (h.natures hnatures place)
  rw [Switchboard.ring, Switchboard.ring, h.carrierRing hnatures, hmedia]

theorem carrier_enter (s : Switchboard n) (place : Fin n) (state : Call.State) :
    (s.enter place state).carrier = if state.isRinging then s.ring place else s.carrier := by
  have hring : (s.enterRinging place).carrier = s.ring place := by
    unfold enterRinging
    dsimp only
    split
    · exact (touches_setRoute _ .speaker none).carrier (by decide) (by decide)
    · rfl
  cases state with
  | ringing => exact hring
  | simulatedRinging => exact hring
  | dialing =>
    unfold enter
    dsimp only
    split <;> rfl
  | _ => rfl

theorem carrier_track (h : s.isTracked (s.ident place) = false) :
    (s.track place).carrier =
      if (s.call place).state.isRinging then s.ring place else s.carrier := by
  have hbefore := (touches_seat s place (s.call place).state).trans (touches_updateFront _)
  rw [track, if_neg (by simp [h])]
  dsimp only
  rw [(touches_close _ _).carrier (by decide) (by decide), carrier_enter,
    ← hbefore.carrier (by decide) (by decide), ← hbefore.ring (by decide)]
  rfl

/-- The switchboard after a call has joined, by what was before. -/
structure Joined (s : Switchboard n) (place : Fin n) (t : Switchboard n) : Prop where
  touches : Touches lifeParts s t
  roster : t.roster = s.seated place
  tracked : t.tracked = s.tracked ++ [place]
  current : t.Current
  settled : t.Settled
  publishes : Publishes s t
  carrier : t.carrier = if (s.call place).state.isRinging then s.ring place else s.carrier

theorem joined_added (hheard : (s.call place).isIgnored = false)
    (hnew : s.isTracked (s.ident place) = false) :
    Joined s place (s.perform (.added place)).1 := by
  show Joined s place (s.added place)
  rw [added_of_heard hheard]
  exact ⟨(heeds_track s place).touches, (roster_track hnew).trans (roster_seat s place),
    tracked_track hnew, (takes_track hnew).current, (takes_track hnew).settled,
    publishes_track hnew, carrier_track hnew⟩

/-- The call that joined is tracked, and no other but those that were. -/
theorem Joined.isTracked (h : Joined s place t) (id : CallId) :
    t.isTracked id = (s.isTracked id || s.ident place == id) := by
  rw [Switchboard.isTracked, h.tracked, h.touches.ident (by decide), List.any_append,
    List.any_cons, List.any_nil, Bool.or_false]
  rfl

theorem Joined.isTracked_self (h : Joined s place t) : t.isTracked (t.ident place) = true := by
  rw [h.isTracked, h.touches.ident (by decide), beq_self_eq_true, Bool.or_true]

theorem Joined.attributes (h : Joined s place t) (other : Fin n) :
    (t.call other).toAttributes = (s.call other).toAttributes :=
  have hsame : t.alerter.attributes = s.alerter.attributes :=
    h.touches.keeps .attributes (by decide)
  congrFun hsame other

theorem Joined.isIgnored (h : Joined s place t) (other : Fin n) :
    (t.call other).isIgnored = (s.call other).isIgnored := by
  rw [Call.isIgnored, Call.isIgnored, h.attributes]

/-! ## Joining and leaving -/

/-- A joining fills the group that it goes to or no group, and empties none. -/
theorem Joined.headcount_le (h : Joined s place t) (group : Group) :
    s.roster.headcount.get group ≤ t.roster.headcount.get group := by
  rw [Roster.get_headcount, Roster.get_headcount, h.roster, seated]
  split
  · rw [Roster.get_insert]
    split <;> simp
  · exact Nat.le_refl _

/-- The crossings of a group there and back: none, or it fills and empties again. -/
theorem signals_there_and_back {before after : Headcount} {group : Group}
    (h : before.get group ≤ after.get group) :
    (Crossing.signals group (Crossing.between before after) = [] ∧
        Crossing.signals group (Crossing.between after before) = []) ∨
      (Crossing.signals group (Crossing.between before after) = [true] ∧
        Crossing.signals group (Crossing.between after before) = [false]) := by
  rw [Crossing.signals_between, Crossing.signals_between]
  by_cases hsame : decide (0 < before.get group) = decide (0 < after.get group)
  · simp [hsame]
  · right
    rw [if_neg hsame, if_neg (Ne.symm hsame)]
    simp only [decide_eq_decide] at hsame
    simp only [List.cons.injEq, decide_eq_true_eq, decide_eq_false_iff_not, and_true]
    omega

/-- A change of the call in front that is taken back is told twice, once each way. -/
theorem Passes.there_and_back (hst : Passes s t) (htu : Passes t u)
    (hback : u.front.map u.ident = s.front.map s.ident) :
    u.frontChanges = s.frontChanges ∨
      ∃ other, other ≠ s.front.map s.ident ∧ u.frontChanges =
        s.frontChanges ++ [(s.front.map s.ident, other), (other, s.front.map s.ident)] := by
  cases hst with
  | stays hfront hchanges _ =>
    cases htu with
    | stays _ hchanges' _ => exact .inl (hchanges'.trans hchanges)
    | passes hne _ _ => exact absurd (hfront.trans hback.symm) hne
  | passes hne hchanges _ =>
    cases htu with
    | stays hfront' _ _ => exact absurd (hback.symm.trans hfront') hne
    | passes hne' hchanges' _ =>
      refine .inr ⟨t.front.map t.ident, hne.symm, ?_⟩
      rw [hchanges', hchanges, hback, List.append_assoc]
      rfl

/-- The tracked calls and the roster after a call has joined and left. -/
theorem Joined.leave {ledger : Ledger} (h : Joined s place t) (hrefines : s.Refines ledger)
    (hnew : s.isTracked (s.ident place) = false) :
    (t.untrack place).tracked = s.tracked ∧ (t.untrack place).roster = s.roster := by
  have hident : t.ident = s.ident := h.touches.ident (by decide)
  have htracked := h.isTracked_self
  constructor
  · rw [tracked_untrack htracked, h.tracked, hident, List.filter_append,
      Roster.filter_others hnew]
    simp
  · have hfree := has_eq_false_of_untracked hrefines hnew
    rw [roster_untrack htracked, h.roster, hident, seated]
    split
    next group _ => exact Roster.erase_insert hfree group
    next =>
      ext1 seat
      rw [Roster.get_erase]
      exact Roster.filter_others (hfree seat)

/-- In every reachable state in which the call in front and the hold tone are up to date with
the calls as they are: a call that is heard and not tracked joins and leaves at once. Then the
tracked calls, the roster, the call in front and whether the hold tone plays are what they
were. Each group has no crossing, or it fills with the joining and empties with the leaving;
and the call in front did not change, or it changed to another one and back. -/
theorem run_restored_by_leaving (calls : CallTable n) (profile : DeviceProfile)
    (settings : Settings) (surroundings : Surroundings) (timed : Bool) (registry : Registry)
    (desks : Option Desks) (operations : List (Operation n)) (place : Fin n) :
    let s := (idle calls profile settings surroundings timed registry desks).run operations
    s.Current → s.Settled → (s.call place).isIgnored = false →
    s.isTracked (s.ident place) = false →
    let t := (s.perform (.added place)).1
    let u := (t.perform (.removed place)).1
    u.tracked = s.tracked ∧ u.roster = s.roster ∧ u.front = s.front ∧
      u.holdTone.isSome = s.holdTone.isSome ∧
      (∃ coming going, t.letters = s.letters ++ coming ∧ u.letters = t.letters ++ going ∧
        ∀ group,
          (Crossing.signals group (crossings coming) = [] ∧
            Crossing.signals group (crossings going) = []) ∨
          (Crossing.signals group (crossings coming) = [true] ∧
            Crossing.signals group (crossings going) = [false])) ∧
      (u.frontChanges = s.frontChanges ∨
        ∃ other, other ≠ s.front.map s.ident ∧ u.frontChanges = s.frontChanges ++
          [(s.front.map s.ident, other), (other, s.front.map s.ident)]) := by
  intro s hcurrent hsettled hheard hnew t u
  have hrefines : s.Refines (Ledger.empty.follow _ operations) :=
    (refines_idle calls profile settings surroundings timed registry desks).run operations
  have hjoined : Joined s place t := joined_added hheard hnew
  have hu : u = t.untrack place := removed_of_heard ((hjoined.isIgnored place).trans hheard)
  obtain ⟨htracked, hroster⟩ := hjoined.leave hrefines hnew
  rw [← hu] at htracked hroster
  have htakes : Takes t u := hu ▸ takes_untrack hjoined.isTracked_self
  have htouch : Touches (lifeParts ++ lifeParts) s u :=
    hjoined.touches.trans (hu ▸ (heeds_untrack t place).touches)
  -- what the call in front and the hold tone are chosen by is what it was
  have hattributes : u.alerter.attributes = s.alerter.attributes :=
    htouch.keeps .attributes (by decide)
  have hfront : u.front = s.front := by
    rw [htakes.current, chosen_congr hroster hattributes, hcurrent]
  have hident : u.ident = s.ident := htouch.ident (by decide)
  refine ⟨htracked, hroster, hfront, ?_, ?_, ?_⟩
  · rw [htakes.settled, hsettled]
    exact holdToneDue_congr hfront hroster (htouch.keeps .registry (by decide)) hattributes
  · obtain ⟨coming, hcoming, -, hfills⟩ := reports_perform s (.added place)
    obtain ⟨going, hgoing, -, hempties⟩ := reports_perform t (.removed place)
    refine ⟨coming, going, hcoming, hgoing, fun group => ?_⟩
    rw [hfills, hempties, show (t.perform (.removed place)).1.roster = s.roster from hroster]
    exact signals_there_and_back (hjoined.headcount_le group)
  · have hcoming : Passes s t := by
      rcases passes_perform s (.added place) with ⟨-, hpasses⟩ | ⟨hconnection, -⟩
      · exact hpasses
      · cases hconnection
    exact hcoming.there_and_back htakes.passes (by rw [hfront, hident])

/-- A call that the remote party holds joins beside one on hold and leaves at once: it comes
to the front and the hold tone starts, and both are taken back. -/
theorem restored_beside_held_call :
    let call (id : Nat) (state : Call.State) : Call :=
      { state, remotelyHeld := true, id := .ofNat id, log := .empty 64 }
    let s := (idle (n := 2) ⟨#v[call 1 .onHold, call 2 .active]⟩ {} {} {} false {} none).run
      [.added 0]
    let t := (s.perform (.added 1)).1
    let u := (t.perform (.removed 1)).1
    s.Current ∧ s.Settled ∧ (s.call 1).isIgnored = false ∧ s.isTracked (s.ident 1) = false ∧
      t.front = some 1 ∧ t.holdTone.isSome = true ∧
      u.tracked = s.tracked ∧ u.roster = s.roster ∧ u.front = s.front ∧
      u.holdTone.isSome = s.holdTone.isSome := by
  intro call s t u
  have hcurrent : s.Current := by
    show s.front = s.chosen
    decide
  have hsettled : s.Settled := by
    show s.holdTone.isSome = s.holdToneDue
    decide
  have hheard : (s.call 1).isIgnored = false := by decide
  have hnew : s.isTracked (s.ident 1) = false := by decide
  obtain ⟨htracked, hroster, hfront, htone, -⟩ :=
    run_restored_by_leaving ⟨#v[call 1 .onHold, call 2 .active]⟩ {} {} {} false {} none
      [.added 0] 1 hcurrent hsettled hheard hnew
  exact ⟨hcurrent, hsettled, hheard, hnew, by decide, by decide, htracked, hroster, hfront, htone⟩

/-! ## Two calls that join -/

theorem group?_of_isRinging (h : (s.call place).state.isRinging = true) :
    s.group? place = some .ringing := by
  unfold group?
  cases hstate : (s.call place).state with
  | ringing => rfl
  | simulatedRinging => rfl
  | _ => exact absurd (hstate ▸ h) (by decide)

variable {a b : Fin n}

/-- Another call can still join after the first one. -/
theorem Joined.next (ha : Joined s a t) (hheard : (s.call b).isIgnored = false)
    (hnew : s.isTracked (s.ident b) = false) (hother : s.ident a ≠ s.ident b) :
    Joined t b (t.perform (.added b)).1 := by
  refine joined_added ((ha.isIgnored b).trans hheard) ?_
  rw [ha.isTracked, ha.touches.ident (by decide), hnew, Bool.false_or]
  exact beq_eq_false_iff_ne.mpr hother

/-- Two calls that go to different groups are seated in either order. -/
theorem seated_comm (ha : Joined s a t) (hb : Joined s b u)
    (h : ∀ group, s.group? a = some group → s.group? b ≠ some group) :
    t.seated b = u.seated a := by
  have hida : t.ident = s.ident := ha.touches.ident (by decide)
  have hidb : u.ident = s.ident := hb.touches.ident (by decide)
  rw [seated, seated, ha.touches.group? (by decide) (by decide),
    hb.touches.group? (by decide) (by decide), ha.roster, hb.roster, hida, hidb, seated, seated]
  cases hseata : s.group? a with
  | none => cases s.group? b <;> rfl
  | some group =>
    cases hseatb : s.group? b with
    | none => rfl
    | some other =>
      refine Roster.insert_comm s.roster ?_ a b
      rintro rfl
      exact h group hseata hseatb

/-- Of two calls that go to different groups at most one begins to ring. -/
theorem carrier_comm {t' u' : Switchboard n} (ha : Joined s a t) (hb : Joined s b u)
    (hab : Joined t b t') (hba : Joined u a u')
    (h : ∀ group, s.group? a = some group → s.group? b ≠ some group) :
    t'.carrier = u'.carrier := by
  rw [hab.carrier, hba.carrier, ha.carrier, hb.carrier, ha.attributes, hb.attributes,
    ha.touches.ring (by decide), hb.touches.ring (by decide)]
  by_cases hringa : (s.call a).state.isRinging = true
  · have hringb : (s.call b).state.isRinging ≠ true := fun hringb =>
      h .ringing (group?_of_isRinging hringa) (group?_of_isRinging hringb)
    rw [if_neg hringb, if_pos hringa, if_pos hringa]
  · rw [if_neg hringa, if_neg hringa]

/-- In whatever state, two calls that are heard and not tracked, that are not the same and
that do not belong to one group, may join in either order. The rosters are the same in every
group, and so are the call in front, whether the hold tone plays, the carrier mode and the
medium remembered with it, and the value that the presence was told last; the same calls are
tracked. -/
theorem added_comm (s : Switchboard n) (a b : Fin n)
    (hheard : ∀ place ∈ [a, b], (s.call place).isIgnored = false)
    (hnew : ∀ place ∈ [a, b], s.isTracked (s.ident place) = false)
    (hother : s.ident a ≠ s.ident b)
    (hgroups : ∀ group, s.group? a = some group → s.group? b ≠ some group) :
    let t := ((s.perform (.added a)).1.perform (.added b)).1
    let u := ((s.perform (.added b)).1.perform (.added a)).1
    t.roster = u.roster ∧ t.front = u.front ∧ t.holdTone.isSome = u.holdTone.isSome ∧
      t.carrierMode = u.carrierMode ∧ t.carrierMedia = u.carrierMedia ∧
      t.presences.getLast? = u.presences.getLast? ∧ t.tracked.Perm u.tracked := by
  intro t u
  have ha := joined_added (hheard a (by simp)) (hnew a (by simp))
  have hb := joined_added (hheard b (by simp)) (hnew b (by simp))
  have hab : Joined _ b t := ha.next (hheard b (by simp)) (hnew b (by simp)) hother
  have hba : Joined _ a u := hb.next (hheard a (by simp)) (hnew a (by simp)) hother.symm
  have ht := ha.touches.trans hab.touches
  have hu := hb.touches.trans hba.touches
  have hroster : t.roster = u.roster := by
    rw [hab.roster, hba.roster]
    exact seated_comm ha hb hgroups
  have hattributes : t.alerter.attributes = u.alerter.attributes :=
    Eq.trans (ht.keeps .attributes (by decide)) (Eq.symm (hu.keeps .attributes (by decide)))
  have hregistry : t.registry = u.registry :=
    Eq.trans (ht.keeps .registry (by decide)) (Eq.symm (hu.keeps .registry (by decide)))
  have hfront : t.front = u.front := by
    rw [hab.current, hba.current, chosen_congr hroster hattributes]
  have htracked : t.tracked.Perm u.tracked := by
    rw [hab.tracked, ha.tracked, hba.tracked, hb.tracked, List.append_assoc, List.append_assoc]
    exact (List.Perm.swap b a []).append_left s.tracked
  have hcarrier : t.carrier = u.carrier := carrier_comm ha hb hab hba hgroups
  refine ⟨hroster, hfront, ?_, congrArg Prod.fst hcarrier, congrArg Prod.snd hcarrier, ?_,
    htracked⟩
  · rw [hab.settled, hba.settled]
    exact holdToneDue_congr hfront hroster hregistry hattributes
  · have hident : t.ident = u.ident := (ht.ident (by decide)).trans (hu.ident (by decide)).symm
    rw [hab.publishes, hba.publishes, List.getLast?_concat, List.getLast?_concat, isInCall,
      isInCall, hroster, hident, htracked.all_eq]

/-- A call that the remote party holds and one that rings by the carrier join in either order.
If the ringing one comes second, the hold tone starts and stops again; if it comes first, it
never plays. -/
theorem added_comm_of_held_and_ringing :
    let held : Call :=
      { state := .active, remotelyHeld := true, id := .ofNat 1, log := .empty 64 }
    let ringing : Call :=
      { state := .ringing, carrierRing := true, id := .ofNat 2, log := .empty 64 }
    let s := idle (n := 2) ⟨#v[held, ringing]⟩ {} {} {} false {} none
    let t := ((s.perform (.added 0)).1.perform (.added 1)).1
    let u := ((s.perform (.added 1)).1.perform (.added 0)).1
    (∀ place ∈ [0, 1], (s.call place).isIgnored = false) ∧
      (∀ place ∈ [0, 1], s.isTracked (s.ident place) = false) ∧ s.ident 0 ≠ s.ident 1 ∧
      (∀ group, s.group? 0 = some group → s.group? 1 ≠ some group) ∧
      t.toneRow .hold = [.start 1, .stop 1] ∧ u.toneRow .hold = [] ∧
      t.roster = u.roster ∧ t.front = u.front ∧ t.holdTone.isSome = u.holdTone.isSome ∧
      t.carrierMode = u.carrierMode ∧ t.carrierMedia = u.carrierMedia ∧
      t.presences.getLast? = u.presences.getLast? ∧ t.tracked.Perm u.tracked := by
  intro held ringing s t u
  have hheard : ∀ place ∈ [0, 1], (s.call place).isIgnored = false := by decide
  have hnew : ∀ place ∈ [0, 1], s.isTracked (s.ident place) = false := by decide
  have hother : s.ident 0 ≠ s.ident 1 := by decide
  have hgroups : ∀ group, s.group? 0 = some group → s.group? 1 ≠ some group := by
    intro group
    cases group <;> decide
  exact ⟨hheard, hnew, hother, hgroups, by decide, by decide,
    added_comm s 0 1 hheard hnew hother hgroups⟩

end Switchboard

end PhoneAudio
