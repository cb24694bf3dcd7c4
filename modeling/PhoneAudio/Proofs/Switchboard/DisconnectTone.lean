import PhoneAudio.Proofs.Switchboard.Front
import PhoneAudio.Proofs.Switchboard.Words

/-!
# The disconnect tone

A call that was established, or on its way, and ends may have a tone that tells the user
why. By the rule the tone is for the call in front and for the only one that is tracked.

The rule is asked when the call in front was chosen again. By then the call that ended has
no seat in the roster, so whoever is in front is somebody else, and is tracked besides: the
question whether the call is in front is always answered with no. What decides is whether any
other call stands where a call to be in front is chosen from (`disconnectTone?_ended`). A call
in front that ends while another one is active, rings or is on hold has no tone, though the
rule gives it one, and that is the only way in which the two differ
(`run_disconnect_tone_iff`).
-/

namespace PhoneAudio.Switchboard

variable {n : Nat} {s t u : Switchboard n} {parts : List Part} {place : Fin n}
  {operation : Operation n}

/-! ## The rule -/

/-- The change of state that an operation tells: of which call, from which state and to
which. -/
def toldChange? (s : Switchboard n) : Operation n → Option (Fin n × Call.State × Call.State)
  | .moved place new => some (place, (s.call place).state, new)
  | .stateChanged place old new => some (place, old, new)
  | _ => none

/-- The tone for the cause of a call's end; a call that is handed over has none. -/
def causeTone? (s : Switchboard n) (place : Fin n) : Option Tone :=
  if (s.call place).handover then none
  else (s.call place).disconnectCause.bind NetworkCause.tone?

/-- The tone that a call has by the rule: it is the one in front, or the only one. -/
def ruledTone? (s : Switchboard n) (place : Fin n) : Option Tone :=
  if s.isFront place || s.tracked.all (fun other => s.ident other == s.ident place) then
    s.causeTone? place
  else none

/-- Another call stands where a call to be in front is chosen from. -/
def hasCompany (s : Switchboard n) (place : Fin n) : Bool :=
  [Group.active, .ringing, .holding].any fun group =>
    (s.roster.get group).any fun other => s.ident other != s.ident place

/-- The tone that a call has if it is heard of and has no company. -/
def soloTone? (s : Switchboard n) (place : Fin n) : Option Tone :=
  if (s.call place).isIgnored || s.hasCompany place then none else s.causeTone? place

theorem hasCompany_eq_false_iff :
    s.hasCompany place = false ↔ ∀ group, group ≠ .processing →
      ∀ other ∈ s.roster.get group, s.ident other = s.ident place := by
  simp only [hasCompany, List.any_eq_false, Bool.not_eq_true, bne_eq_false_iff_eq]
  constructor
  · intro h group hgroup
    refine h group ?_
    cases group <;> simp_all
  · intro h group hmem
    refine h group ?_
    rintro rfl
    simp at hmem

/-- When a call has lost its seat, somebody may be in front exactly if the call has company. -/
theorem front?_erase_eq_none_iff {state : Fin n → Call.State} :
    (s.roster.erase s.ident (s.ident place)).front? state = none ↔ s.hasCompany place = false := by
  rw [front?_eq_none_iff, hasCompany_eq_false_iff]
  refine forall₂_congr fun group _ => ?_
  rw [Roster.get_erase, List.filter_eq_nil_iff]
  refine forall₂_congr fun other _ => ?_
  rw [Bool.not_eq_true, bne_eq_false_iff_eq]

theorem Touches.hasCompany (h : Touches parts s t) (hnatures : Part.natures ∉ parts)
    (hroster : Part.roster ∉ parts) : t.hasCompany place = s.hasCompany place := by
  have hsame : t.roster = s.roster := h.keeps .roster hroster
  rw [Switchboard.hasCompany, Switchboard.hasCompany, hsame, h.ident hnatures]

theorem Touches.causeTone? (h : Touches parts s t) (hparts : Part.attributes ∉ parts) :
    t.causeTone? place = s.causeTone? place := by
  have hsame : (t.call place).toAttributes = (s.call place).toAttributes :=
    congrFun (h.keeps .attributes hparts) place
  rw [Switchboard.causeTone?, Switchboard.causeTone?, hsame]

/-! ## The rule as it is asked -/

/-- Two tracked calls are more than one. -/
theorem one_lt_length_tracked {first second : CallId} (hfirst : s.isTracked first = true)
    (hsecond : s.isTracked second = true) (hne : first ≠ second) : 1 < s.tracked.length := by
  rw [isTracked, List.any_eq_true] at hfirst hsecond
  obtain ⟨one, hone, hid⟩ := hfirst
  obtain ⟨other, hother, hid'⟩ := hsecond
  rcases htracked : s.tracked with - | ⟨head, - | ⟨next, rest⟩⟩
  · rw [htracked] at hone
    cases hone
  · rw [htracked, List.mem_singleton] at hone hother
    subst hone hother
    exact absurd ((eq_of_beq hid).symm.trans (eq_of_beq hid')) hne
  · simp

/-- When the rule is asked, the call that ended has lost its seat and the call in front was
chosen without it. -/
theorem disconnectTone?_ended {ledger : Ledger} (hrefines : s.Refines ledger)
    (h : s.isTracked (s.ident place) = true) :
    (updateFront (updatePresence
        { s with roster := s.roster.erase s.ident (s.ident place) })).disconnectTone? place =
      if s.hasCompany place then none else s.causeTone? place := by
  have herased := (touches_roster s (s.roster.erase s.ident (s.ident place))).trans
    (touches_updatePresence _)
  have hfront := front_updateFront
    (updatePresence { s with roster := s.roster.erase s.ident (s.ident place) })
  have htouch := herased.trans (touches_updateFront _)
  generalize updateFront (updatePresence
    { s with roster := s.roster.erase s.ident (s.ident place) }) = t at hfront htouch ⊢
  have hident : t.ident = s.ident := htouch.ident (by decide)
  have htracked : t.tracked = s.tracked := htouch.keeps .tracked (by decide)
  have hcause : t.causeTone? place = s.causeTone? place := htouch.causeTone? (by decide)
  rw [← hcause, disconnectTone?, causeTone?, hident, htracked]
  cases (t.call place).handover with
  | true => simp
  | false =>
    cases hcompany : s.hasCompany place with
    | false =>
      have hnone : t.front = none := hfront.trans (front?_erase_eq_none_iff.mpr hcompany)
      simp [hnone]
    | true =>
      rcases hchosen : t.front with - | front
      · rw [front?_erase_eq_none_iff.mp (hfront.symm.trans hchosen)] at hcompany
        cases hcompany
      · -- the call in front has a seat, so it is another one, and it is tracked
        obtain ⟨group, -, hmem⟩ := mem_of_front? (hfront.symm.trans hchosen)
        have hseated := List.mem_filter.mp ((Roster.get_erase _ _ _ group) ▸ hmem)
        have hother : s.ident front ≠ s.ident place := bne_iff_ne.mp hseated.2
        have hlength := one_lt_length_tracked (hrefines.isTracked_of_mem group hseated.1) h hother
        simp [hother, hlength]

/-! ## What is played and told -/

/-- What the registry is told of the disconnect tone. -/
def Effect.tonePlaying? : Effect n → Option Bool
  | .disconnectTone playing => some playing
  | _ => none

/-- What the registry was told of the disconnect tone, oldest first. -/
def tonesTold (s : Switchboard n) : List Bool :=
  (s.told .disconnectTone).filterMap Effect.tonePlaying?

theorem Touches.tonesTold (h : Touches parts s t) (hparts : Part.told .disconnectTone ∉ parts) :
    t.tonesTold = s.tonesTold :=
  congrArg (List.filterMap Effect.tonePlaying?) (h.keeps (.told .disconnectTone) hparts)

/-- A step that plays no tone but the hold tone, and tells of none. -/
structure Toneless (s t : Switchboard n) : Prop where
  row : ∀ tone, tone ≠ .hold → t.toneRow tone = s.toneRow tone
  told : t.tonesTold = s.tonesTold
  starts : t.alerter.surroundings.tonesStart = s.alerter.surroundings.tonesStart

theorem Toneless.trans (h₁ : Toneless s t) (h₂ : Toneless t u) : Toneless s u where
  row tone htone := (h₂.row tone htone).trans (h₁.row tone htone)
  told := h₂.told.trans h₁.told
  starts := h₂.starts.trans h₁.starts

/-- A step that does not let the alerter work. -/
theorem Touches.toneless (h : Touches parts s t)
    (hparts : ∀ part ∈ [Part.alerter, .told .alerter, .told .disconnectTone], part ∉ parts) :
    Toneless s t where
  row tone _ := h.toneRow (hparts _ (by simp)) tone
  told := h.tonesTold (hparts _ (by simp))
  starts := congrArg (fun alerter => alerter.surroundings.tonesStart)
    (h.keeps .alerter (hparts _ (by simp)))

theorem toneRow_playTone (s : Switchboard n) (played tone : Tone) :
    (s.playTone played).toneRow tone =
      s.toneRow tone ++ if played = tone then [.start (s.alerter.players + 1)] else [] := by
  have hrow := toneRow_onAlerter s (fun alerter => ((alerter.startTone played).1, ())) tone
  refine Eq.trans hrow (congrArg (s.toneRow tone ++ ·) ?_)
  simp only [Alerter.toneRow, Alerter.startTone, Alerter.send, List.nil_append]
  split
  next h => simp [Alerter.Command.toneSignal?, h]
  next h => simp [Alerter.Command.toneSignal?, h]

theorem toneless_adjustHoldTone (s : Switchboard n) : Toneless s s.adjustHoldTone := by
  have hsilent : ∀ tone, tone ≠ .hold → Tone.hold ≠ tone := fun tone htone => Ne.symm htone
  have htold : s.adjustHoldTone.tonesTold = s.tonesTold :=
    (touches_adjustHoldTone s).tonesTold (by decide)
  refine ⟨fun tone htone => ?_, htold, ?_⟩
  · unfold adjustHoldTone
    split
    · have hrow := toneRow_playTone s .hold tone
      rw [if_neg (hsilent tone htone), List.append_nil] at hrow
      exact hrow
    next player _ _ =>
      refine (toneRow_onAlerter { s with holdTone := none }
        (fun alerter => (alerter.stopTone .hold player, ())) tone).trans ?_
      simp [Alerter.toneRow, Alerter.stopTone, Alerter.send, Alerter.Command.toneSignal?,
        hsilent tone htone, toneRow, told]
    · rfl
  · unfold adjustHoldTone
    split <;> rfl

theorem toneless_updateFront (s : Switchboard n) : Toneless s s.updateFront := by
  have hsent : ∀ front old new, Toneless s (({ s with front := front }.sendRoute .update).send
      (.frontChanged old new)) :=
    fun front old new => (((touches_front s front).trans (touches_sendRoute _ .update)).trans
      (touches_frontChanged _ old new)).toneless (by decide)
  unfold updateFront
  dsimp only
  split
  · exact (touches_front s _).toneless (by decide)
  · exact (hsent _ _ _).trans (toneless_adjustHoldTone _)

/-- What the owner of a call says about it starts no tone. -/
theorem toneless_unheard (s : Switchboard n) (operation : Operation n) :
    Toneless s (s.unheard operation) := by
  refine ⟨fun tone _ => ?_, (touches_unheard s operation).tonesTold (by decide), ?_⟩
  · cases operation with
    | moved place state =>
      refine (toneRow_onAlerter s (·.perform (.revise place (.state state))) tone).trans ?_
      exact List.append_nil _
    | _ => rfl
  · cases operation <;> rfl

/-- From `s` to `t` a disconnect tone was started on one player, or none was, and the registry
was told if it began to play. -/
structure Plays (played : Option Tone) (s t : Switchboard n) : Prop where
  row : ∀ tone, tone ≠ .hold → ∃ players : List Nat,
    t.toneRow tone = s.toneRow tone ++ players.map .start ∧
      players.length = if played = some tone then 1 else 0
  told : t.tonesTold = s.tonesTold ++
    if played.isSome && s.alerter.surroundings.tonesStart then [true] else []

variable {played : Option Tone}

theorem Toneless.plays (h : Toneless s t) : Plays none s t where
  row tone htone := ⟨[], by rw [h.row tone htone, List.map_nil, List.append_nil], rfl⟩
  told := by rw [h.told, Option.isSome_none, Bool.false_and, if_neg (by decide), List.append_nil]

theorem Plays.before (h : Plays played t u) (hs : Toneless s t) : Plays played s u where
  row tone htone := by
    rw [← hs.row tone htone]
    exact h.row tone htone
  told := by
    rw [h.told, hs.told, hs.starts]

theorem Plays.after (h : Plays played s t) (ht : Toneless t u) : Plays played s u where
  row tone htone := by
    rw [ht.row tone htone]
    exact h.row tone htone
  told := ht.told.trans h.told

theorem plays_playDisconnectTone (s : Switchboard n) (tone : Tone) :
    Plays (some tone) s (s.playDisconnectTone tone) := by
  have hplayed : (s.playTone tone).tonesTold = s.tonesTold :=
    (touches_playTone s tone).tonesTold (by decide)
  have hstarts : (s.playTone tone).alerter.surroundings.tonesStart =
      s.alerter.surroundings.tonesStart := rfl
  have hrow : ∀ other, (s.playDisconnectTone tone).toneRow other =
      (s.playTone tone).toneRow other := by
    intro other
    unfold playDisconnectTone
    dsimp only
    split
    · exact ((touches_disconnectTonePlaying _ true).trans
        (touches_disconnectTone _ true)).toneRow (by decide) other
    · rfl
  refine ⟨fun other _ => ?_, ?_⟩
  · rw [hrow, toneRow_playTone]
    by_cases h : tone = other
    · exact ⟨[s.alerter.players + 1], by rw [if_pos h]; rfl, by rw [h, if_pos rfl]; rfl⟩
    · refine ⟨[], by rw [if_neg h]; rfl, ?_⟩
      rw [if_neg fun hsame => h (Option.some.inj hsame)]
      rfl
  · rw [← hplayed, ← hstarts]
    unfold playDisconnectTone
    change (if (s.playTone tone).alerter.surroundings.tonesStart = true then
      send { s.playTone tone with disconnectTonePlaying := true } (.disconnectTone true)
      else s.playTone tone).tonesTold = _
    cases hstart : (s.playTone tone).alerter.surroundings.tonesStart with
    | true => simp [tonesTold, told, send, Effect.channel, Effect.tonePlaying?]
    | false => simp

/-- An established call, or one on its way. -/
def Established (state : Call.State) : Prop :=
  state = .active ∨ state = .dialing ∨ state = .onHold

theorem plays_playChangeTones (s : Switchboard n) (place : Fin n) {old : Call.State}
    (h : Established old) :
    Plays (s.disconnectTone? place) s (s.playChangeTones place old .disconnected) := by
  have hended : isDisconnect old .disconnected = true := by
    rcases h with rfl | rfl | rfl <;> rfl
  unfold playChangeTones
  rw [if_pos hended, if_neg (by simp)]
  cases s.disconnectTone? place with
  | none => exact ⟨fun tone _ => ⟨[], (List.append_nil _).symm, rfl⟩, (List.append_nil _).symm⟩
  | some tone => exact plays_playDisconnectTone s tone

/-! ## The end of a call -/

theorem plays_stateChanged {ledger : Ledger} (hrefines : s.Refines ledger) {old : Call.State}
    (h : Established old) (hold : s.isTracked (s.ident place) = true) :
    Plays (s.soloTone? place) s (s.stateChanged place old .disconnected) := by
  cases hignored : (s.call place).isIgnored with
  | true =>
    rw [soloTone?, hignored, Bool.true_or, if_pos rfl,
      stateChanged_of_ignored old .disconnected (.inl hignored)]
    exact ((Touches.refl [] s).toneless (by decide)).plays
  | false =>
    have hbefore : Toneless s (updateFront (updatePresence
        { s with roster := s.roster.erase s.ident (s.ident place) })) :=
      (((touches_roster s _).trans (touches_updatePresence _)).toneless (by decide)).trans
        (toneless_updateFront _)
    have hseat : seat { s with roster := s.roster.erase s.ident (s.ident place) } place
        .disconnected = { s with roster := s.roster.erase s.ident (s.ident place) } := rfl
    rw [soloTone?, hignored, Bool.false_or, ← disconnectTone?_ended hrefines hold, stateChanged,
      if_neg (by simp [hignored, hold])]
    dsimp only
    rw [hseat]
    generalize updateFront (updatePresence
      { s with roster := s.roster.erase s.ident (s.ident place) }) = t at hbefore ⊢
    have hplays := (plays_playChangeTones t place h).before hbefore
    refine hplays.after (Toneless.trans ?_ (toneless_adjustHoldTone _))
    exact ((((touches_afterCarrierMode _ .disconnected).trans (touches_leave _ place old)).trans
      (touches_enter _ place .disconnected)).trans (touches_tellCrossings _ _)).toneless (by decide)

/-- An operation that tells a change of state is heard as one, after a bare change or not. -/
theorem perform_of_toldChange? {old new : Call.State}
    (h : s.toldChange? operation = some (place, old, new)) :
    (s.perform operation).1 = (s.unheard operation).stateChanged place old new := by
  cases operation with
  | moved other state =>
    cases h
    rfl
  | stateChanged other first second =>
    cases h
    rfl
  | _ => cases h

/-- The state of a call does not decide which tone it has. -/
theorem soloTone?_unheard (s : Switchboard n) (operation : Operation n) (place : Fin n) :
    (s.unheard operation).soloTone? place = s.soloTone? place := by
  have hcompany : (s.unheard operation).hasCompany place = s.hasCompany place :=
    (touches_unheard s operation).hasCompany (by decide) (by decide)
  have hcause : (s.unheard operation).causeTone? place = s.causeTone? place := by
    cases operation with
    | moved other state =>
      exact CallTable.get_modify_of_eq (fun call : Call => if call.handover then none else
        call.disconnectCause.bind NetworkCause.tone?) s.alerter.calls other place fun _ => rfl
    | _ => rfl
  rw [soloTone?, soloTone?, isIgnored_unheard, hcompany, hcause]

theorem plays_perform {ledger : Ledger} (hrefines : s.Refines ledger) {old : Call.State}
    (htold : s.toldChange? operation = some (place, old, .disconnected)) (h : Established old)
    (hold : s.isTracked (s.ident place) = true) :
    Plays (s.soloTone? place) s (s.perform operation).1 := by
  have hunheard := touches_unheard s operation
  rw [perform_of_toldChange? htold, ← s.soloTone?_unheard operation]
  refine (plays_stateChanged (hrefines.of_touches hunheard (by decide)) h ?_).before
    (s.toneless_unheard operation)
  rw [hunheard.isTracked (by decide) (by decide), hunheard.ident (by decide)]
  exact hold

/-! ## Where the two differ -/

/-- The call in front was chosen from the roster, whatever the states of the calls were. -/
def Picked (s : Switchboard n) : Prop := ∃ state, s.front = s.roster.front? state

theorem Picked.run (h : s.Picked) (operations : List (Operation n)) :
    (s.run operations).Picked := by
  induction operations generalizing s with
  | nil => exact h
  | cons operation rest ih =>
    refine ih ?_
    cases haccepts : s.accepts operation with
    | true => exact ⟨_, (takes_perform haccepts).current⟩
    | false =>
      obtain ⟨state, hfront⟩ := h
      obtain ⟨hsame, hroster⟩ := perform_of_refused haccepts
      exact ⟨state, by rw [hsame, hroster, hfront]⟩

/-- A call that has a seat and no company is in front. -/
theorem isFront_of_alone (hpicked : s.Picked) {group : Group} (hgroup : group ≠ .processing)
    (hseat : s.ident place ∈ (s.roster.get group).map s.ident)
    (halone : s.hasCompany place = false) : s.isFront place = true := by
  obtain ⟨state, hfront⟩ := hpicked
  rw [hasCompany_eq_false_iff] at halone
  rcases hchosen : s.front with - | front
  · have hempty := front?_eq_none_iff.mp (hfront.symm.trans hchosen) group hgroup
    rw [hempty] at hseat
    cases hseat
  · obtain ⟨other, hother, hmem⟩ := mem_of_front? (hfront.symm.trans hchosen)
    rw [isFront, hchosen]
    exact beq_iff_eq.mpr (halone other hother front hmem)

theorem group?_of_established {entry : Ledger.Entry} (h : Established entry.state) :
    ∃ group, group ≠ .processing ∧ entry.group? = some group := by
  rcases h with h | h | h
  · exact ⟨.active, by decide, by rw [Ledger.Entry.group?, h]; rfl⟩
  · exact ⟨.active, by decide, by rw [Ledger.Entry.group?, h]; rfl⟩
  · exact ⟨.holding, by decide, by rw [Ledger.Entry.group?, h]; rfl⟩

/-- A call that was told to be established, or on its way, has its tone by the rule unless it
is not heard of or has company. -/
theorem soloTone?_eq_ruledTone?_iff {ledger : Ledger} (hrefines : s.Refines ledger)
    (hpicked : s.Picked) {entry : Ledger.Entry} (hentry : entry ∈ ledger.entries)
    (hid : entry.id = s.ident place) (h : Established entry.state) :
    s.soloTone? place = s.ruledTone? place ↔
      s.ruledTone? place = none ∨
        (s.call place).isIgnored = false ∧ s.hasCompany place = false := by
  rw [soloTone?]
  by_cases halone : (s.call place).isIgnored = false ∧ s.hasCompany place = false
  · obtain ⟨group, hgroup, hseated⟩ := group?_of_established h
    have hseat : s.ident place ∈ (s.roster.get group).map s.ident := by
      rw [hrefines.roster group, ← hid]
      exact List.mem_map_of_mem (List.mem_filter.mpr ⟨hentry, decide_eq_true hseated⟩)
    have hfront := isFront_of_alone hpicked hgroup hseat halone.2
    rw [halone.1, halone.2, if_neg (by decide), ruledTone?, hfront, Bool.true_or, if_pos rfl]
    simp
  · have hsilent : ((s.call place).isIgnored || s.hasCompany place) = true := by
      rw [Bool.or_eq_true_iff]
      by_contra hneither
      simp only [not_or, Bool.not_eq_true] at hneither
      exact halone hneither
    rw [if_pos hsilent, eq_comm]
    exact (or_iff_left halone).symm

/-- In every run of an idle switchboard, when an operation tells that a tracked call ended
that was active, dialing or on hold: exactly one player is started for the tone of its cause,
and no other tone but the hold tone, if the call is heard of, is not handed over and has no
company, and none is started otherwise. The registry is told that a tone plays exactly if one
was started and its player began to play. If the call was last told to be in the state that it
comes from, then this is what the rule says, unless the rule gives the call a tone and it is
not heard of or another call is active, rings or is on hold. -/
theorem run_disconnect_tone_iff (calls : CallTable n) (profile : DeviceProfile)
    (settings : Settings) (surroundings : Surroundings) (timed : Bool) (registry : Registry)
    (desks : Option Desks) (operations : List (Operation n)) (operation : Operation n)
    (place : Fin n) (old : Call.State) :
    let start := idle calls profile settings surroundings timed registry desks
    let s := start.run operations
    let t := (s.perform operation).1
    s.toldChange? operation = some (place, old, .disconnected) →
    old = .active ∨ old = .dialing ∨ old = .onHold →
    s.isTracked (s.ident place) = true →
    (∀ tone, tone ≠ .hold → ∃ players : List Nat,
      t.toneRow tone = s.toneRow tone ++ players.map .start ∧
        players.length = if s.soloTone? place = some tone then 1 else 0) ∧
    (t.tonesTold = s.tonesTold ++
      if (s.soloTone? place).isSome && s.alerter.surroundings.tonesStart then [true] else []) ∧
    ((∃ entry ∈ (Ledger.empty.follow start operations).entries,
        entry.id = s.ident place ∧ entry.state = old) →
      (s.soloTone? place = s.ruledTone? place ↔
        s.ruledTone? place = none ∨
          (s.call place).isIgnored = false ∧ s.hasCompany place = false)) := by
  intro start s t htold hold htracked
  have hrefines : s.Refines (Ledger.empty.follow start operations) :=
    (refines_idle calls profile settings surroundings timed registry desks).run operations
  have hpicked : s.Picked := Picked.run (s := start) ⟨fun _ => .created, rfl⟩ operations
  have hplays : Plays (s.soloTone? place) s t := plays_perform hrefines htold hold htracked
  refine ⟨hplays.row, hplays.told, ?_⟩
  rintro ⟨entry, hentry, hid, hstate⟩
  exact soloTone?_eq_ruledTone?_iff hrefines hpicked hentry hid (hstate ▸ hold)

/-- A dialing call that the network turns away while another call is only processed has the
busy tone. -/
theorem disconnect_tone_beside_processing :
    let call (id : Nat) (state : Call.State) : Call :=
      { state := state, disconnectCause := some .busy, id := .ofNat id, log := .empty 64 }
    let start := idle (n := 2) ⟨#v[call 1 .dialing, call 2 .audioProcessing]⟩ {} {} {} false {} none
    let s := start.run [.added 0, .added 1]
    let t := (s.perform (.moved 0 .disconnected)).1
    s.soloTone? 0 = some .busy ∧ s.soloTone? 0 = s.ruledTone? 0 ∧ t.tonesTold = [true] ∧
      ∃ players : List Nat, t.toneRow .busy = players.map .start ∧ players.length = 1 := by
  intro call start s t
  obtain ⟨hrow, -, hrule⟩ := run_disconnect_tone_iff
    ⟨#v[call 1 .dialing, call 2 .audioProcessing]⟩ {} {} {} false {} none [.added 0, .added 1]
    (.moved 0 .disconnected) 0 .dialing (by decide) (.inr (.inl rfl)) (by decide)
  have hentered : Ledger.Entry.of (call 1 .dialing) .dialing ∈
      (Ledger.empty.follow start [.added 0, .added 1]).entries := by decide
  have hid : (Ledger.Entry.of (call 1 .dialing) .dialing).id = s.ident 0 := by decide
  have halone : (s.call 0).isIgnored = false ∧ s.hasCompany 0 = false := by decide
  have hsame := (hrule ⟨_, hentered, hid, rfl⟩).mpr (.inr halone)
  have hsolo : s.soloTone? 0 = some .busy := by decide
  have hquiet : s.toneRow .busy = [] := by decide
  have hbusy : ∃ players : List Nat,
      t.toneRow .busy = s.toneRow .busy ++ players.map .start ∧
        players.length = if s.soloTone? 0 = some .busy then 1 else 0 := hrow .busy (by decide)
  rw [hquiet, hsolo] at hbusy
  exact ⟨hsolo, hsame, by decide, hbusy⟩

/-- The call in front ends while another one is on hold. By the rule it has the busy tone, and
none is started. -/
theorem disconnect_tone_missing_beside_held_call :
    let call (id : Nat) (state : Call.State) : Call :=
      { state := state, disconnectCause := some .busy, id := .ofNat id, log := .empty 64 }
    let start := idle (n := 2) ⟨#v[call 1 .active, call 2 .onHold]⟩ {} {} {} false {} none
    let s := start.run [.added 0, .added 1]
    let t := (s.perform (.moved 0 .disconnected)).1
    start.Prompt [.added 0, .added 1, .moved 0 .disconnected] ∧ s.isFront 0 = true ∧
      s.ruledTone? 0 = some .busy ∧ t.toneRow .busy = [] ∧ t.tonesTold = [] := by
  decide

end PhoneAudio.Switchboard
