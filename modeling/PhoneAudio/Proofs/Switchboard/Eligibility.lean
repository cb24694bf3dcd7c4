import PhoneAudio.Proofs.Switchboard.Front
import PhoneAudio.Proofs.Switchboard.Words

/-!
# Which calls are tracked

Conference children and external calls are ignored: they are not to be tracked, and a word
that one of them is removed is not heard. A tracked call becomes such a call by a change of
its own, and a run in which that is announced at once is *announced*. The announcement
takes the call out, so in an announced run every tracked call that is ignored is *due* to be
dismissed by the very next operation (`Due.perform`), and where nothing is due all tracked
calls are eligible.

There is one way around this. A call that comes back from another device is tracked without
a look at whether it is ignored, and a child of a conference can come back. The tracked calls
stay eligible in all announced runs in which that does not happen, and in no others
(`run_tracks_eligible_iff`).
-/

namespace PhoneAudio.Switchboard

variable {n : Nat} {s t : Switchboard n} {operation : Operation n}

/-- No tracked call is a conference child or an external call. -/
def Eligible (s : Switchboard n) : Prop :=
  ∀ place ∈ s.tracked, (s.call place).isIgnored = false

/-! ## Announcements -/

/-- Whether an operation tells that a call went to another device or came back. -/
def Operation.tellsExternal (place : Fin n) (external : Bool) : Operation n → Bool
  | .externalChanged other told => other = place && told = external
  | _ => false

/-- Whether an operation tells that a call joined a conference or left one. -/
def Operation.tellsParent (place : Fin n) : Operation n → Bool
  | .conferenceChanged other => other = place
  | _ => false

/-- What has changed about a call from `s` to `t` is told by the next operation. -/
structure Announces (s t : Switchboard n) (next : Option (Operation n)) (place : Fin n) :
    Prop where
  external : (t.call place).external ≠ (s.call place).external →
    next.any (Operation.tellsExternal place (t.call place).external) = true
  parent : (t.call place).parent ≠ (s.call place).parent →
    next.any (Operation.tellsParent place) = true

instance decidableAnnounces (s t : Switchboard n) (next : Option (Operation n)) (place : Fin n) :
    Decidable (Announces s t next place) :=
  decidable_of_iff (_ ∧ _) ⟨fun h => ⟨h.1, h.2⟩, fun h => ⟨h.1, h.2⟩⟩

/-- A run in which every change of a call's device or conference is told at once. -/
def Announced (s : Switchboard n) : List (Operation n) → Prop
  | [] => True
  | operation :: rest =>
    (∀ place, Announces s (s.perform operation).1 rest.head? place) ∧
      (s.perform operation).1.Announced rest

instance decidableAnnounced (s : Switchboard n) (operations : List (Operation n)) :
    Decidable (s.Announced operations) :=
  match operations with
  | [] => isTrue trivial
  | operation :: rest =>
    have := decidableAnnounced (s.perform operation).1 rest
    inferInstanceAs (Decidable (_ ∧ _))

/-- Whether an operation takes a call out because it is ignored. -/
def dismisses (s : Switchboard n) (place : Fin n) : Operation n → Bool
  | .externalChanged other external => other = place && external
  | .conferenceChanged other => other = place && (s.call place).parent.isSome
  | _ => false

/-- Whether an operation begins to track a call that is ignored. -/
def pullsIgnored (s : Switchboard n) : Operation n → Bool
  | .externalChanged place false => (s.call place).isIgnored && !s.isTracked (s.ident place)
  | _ => false

/-- Every tracked call that is ignored is dismissed by the next operation. -/
def Due (s : Switchboard n) (next : Option (Operation n)) : Prop :=
  ∀ place ∈ s.tracked, (s.call place).isIgnored = true → next.any (s.dismisses place) = true

theorem dismisses_of_tellsParent {place : Fin n} (htold : operation.tellsParent place = true)
    (hparent : (s.call place).parent.isSome = true) : s.dismisses place operation = true := by
  cases operation with
  | conferenceChanged other => exact Bool.and_eq_true_iff.mpr ⟨htold, hparent⟩
  | _ => cases htold

theorem dismisses_of_tellsExternal {place : Fin n}
    (htold : operation.tellsExternal place true = true) : s.dismisses place operation = true := by
  cases operation with
  | externalChanged other external =>
    obtain ⟨hplace, hexternal⟩ := Bool.and_eq_true_iff.mp htold
    exact Bool.and_eq_true_iff.mpr ⟨hplace, of_decide_eq_true hexternal⟩
  | _ => cases htold

/-- A call that has become one of the ignored is dismissed next. -/
theorem Announces.dismisses {next : Option (Operation n)} {place : Fin n}
    (h : Announces s t next place) (hheard : (s.call place).isIgnored = false)
    (hignored : (t.call place).isIgnored = true) : next.any (t.dismisses place) = true := by
  rw [Call.isIgnored, Bool.or_eq_false_iff] at hheard
  rw [Call.isIgnored, Bool.or_eq_true] at hignored
  rcases hignored with hparent | hexternal
  · have hchanged : (t.call place).parent ≠ (s.call place).parent := by
      intro hsame
      rw [hsame, hheard.1] at hparent
      cases hparent
    have htold := h.parent hchanged
    cases next with
    | none => cases htold
    | some operation => exact dismisses_of_tellsParent htold hparent
  · have hchanged : (t.call place).external ≠ (s.call place).external := by
      rw [hexternal, hheard.2]
      simp
    have htold := h.external hchanged
    rw [hexternal] at htold
    cases next with
    | none => cases htold
    | some operation => exact dismisses_of_tellsExternal htold

/-! ## One operation -/

theorem Touches.isIgnored {parts : List Part} (h : Touches parts s t)
    (hparts : Part.attributes ∉ parts) (place : Fin n) :
    (t.call place).isIgnored = (s.call place).isIgnored := by
  have hsame : (t.call place).toAttributes = (s.call place).toAttributes :=
    congrFun (h.keeps .attributes hparts) place
  rw [Call.isIgnored, Call.isIgnored, hsame]

/-- A dismissal is the word that the call leaves. -/
theorem word?_of_dismisses {place : Fin n} (h : s.dismisses place operation = true) :
    operation.word? s.alerter.calls = some (.left (s.ident place)) := by
  cases operation with
  | externalChanged other external =>
    obtain ⟨hplace, hexternal⟩ := Bool.and_eq_true_iff.mp h
    obtain rfl := of_decide_eq_true hplace
    exact congrArg some (if_pos hexternal)
  | conferenceChanged other =>
    obtain ⟨hplace, hparent⟩ := Bool.and_eq_true_iff.mp h
    obtain rfl := of_decide_eq_true hplace
    refine if_neg ?_
    rw [Option.isNone_iff_eq_none]
    exact Option.isSome_iff_ne_none.mp hparent
  | _ => cases h

theorem isTracked_of_mem {place : Fin n} (h : place ∈ s.tracked) :
    s.isTracked (s.ident place) = true :=
  List.any_eq_true.mpr ⟨place, h, beq_self_eq_true _⟩

/-- Only a call that comes back from another device joins with no look at whether it is
ignored. -/
theorem isIgnored_of_joined {place : Fin n} {entry : Ledger.Entry}
    (hsubject : operation.subject? = some place)
    (hword : operation.word? s.alerter.calls = some (.joined entry))
    (hnew : s.isTracked (s.ident place) = false) (hpull : s.pullsIgnored operation = false) :
    (s.call place).isIgnored = false := by
  cases operation with
  | added other =>
    obtain rfl := Option.some.inj hsubject
    exact (wordUnlessIgnored_eq_some hword).1
  | externalChanged other external =>
    obtain rfl := Option.some.inj hsubject
    cases external with
    | true => cases hword
    | false => simpa [pullsIgnored, hnew] using hpull
  | conferenceChanged other =>
    obtain rfl := Option.some.inj hsubject
    by_cases hparent : (s.call other).parent.isNone = true
    · exact (wordUnlessIgnored_eq_some ((if_pos hparent).symm.trans hword)).1
    · cases (if_neg hparent).symm.trans hword
  | removed other => cases (wordUnlessIgnored_eq_some hword).2
  | moved other state => cases (wordUnlessIgnored_eq_some hword).2
  | stateChanged other old new => cases (wordUnlessIgnored_eq_some hword).2
  | _ => cases hword

/-- One operation dismisses what was due, and makes due what it makes ignored. -/
theorem Due.perform {next : Option (Operation n)} (hdue : s.Due (some operation))
    (hpull : s.pullsIgnored operation = false)
    (htold : ∀ place, Announces s (s.perform operation).1 next place) :
    (s.perform operation).1.Due next := by
  have hleaves : ∀ place ∈ s.tracked, (s.call place).isIgnored = true →
      operation.word? s.alerter.calls = some (.left (s.ident place)) :=
    fun place hmem hignored => word?_of_dismisses (hdue place hmem hignored)
  intro place hmem hignored
  cases deed_perform s operation with
  | nothing hrefused =>
    have hold : place ∈ s.tracked := by
      have htracked : (s.perform operation).1.tracked = s.tracked :=
        (touches_of_refused hrefused).keeps .tracked (by decide)
      rwa [htracked] at hmem
    refine (htold place).dismisses ?_ hignored
    -- a call that was due would have been dismissed
    by_contra hwas
    have hword := hleaves place hold ((Bool.not_eq_false _).mp hwas)
    rw [accepts_of_word? _ hword] at hrefused
    exact absurd (isTracked_of_mem hold) (by simpa [takesIn] using hrefused)
  | joins newcomer hsubject hword hnew h =>
    exfalso
    have htracked : (s.perform operation).1.tracked = s.tracked ++ [newcomer] := by
      rw [← tracked_track hnew]
      exact h.keeps .tracked (by decide)
    have hsame : (s.call place).isIgnored = true := by
      rw [← hignored]
      exact (((heeds_track s newcomer).touches.trans h).isIgnored (by decide) place).symm
    rw [htracked, List.mem_append, List.mem_singleton] at hmem
    rcases hmem with hold | rfl
    · cases hword.symm.trans (hleaves place hold hsame)
    · rw [isIgnored_of_joined hsubject hword hnew hpull] at hsame
      cases hsame
  | leaves leaver hsubject hword hold h =>
    exfalso
    have hsame : (s.call place).isIgnored = true := by
      rw [← hignored, h]
      exact ((heeds_untrack s leaver).touches.isIgnored (by decide) place).symm
    rw [h, tracked_untrack hold, List.mem_filter, bne_iff_ne] at hmem
    have hleft := Option.some.inj (hword.symm.trans (hleaves place hmem.1 hsame))
    exact hmem.2 (Ledger.Word.left.inj hleft).symm
  | moves mover old new hsubject hword hheard hold h hoperation =>
    exfalso
    have hunheard := touches_unheard s operation
    have htracked : (s.perform operation).1.tracked = s.tracked := by
      rw [h, tracked_stateChanged]
      exact hunheard.keeps .tracked (by decide)
    have hsame : (s.call place).isIgnored = true := by
      rw [← isIgnored_unheard s operation, ← hignored, h]
      exact ((heeds_stateChanged _ mover old new).touches.isIgnored (by decide) place).symm
    rw [htracked] at hmem
    cases hword.symm.trans (hleaves place hmem hsame)

/-! ## Runs -/

/-- Nothing is due after the last operation, so all tracked calls are eligible then. -/
theorem eligible_run {operations : List (Operation n)} (hdue : s.Due operations.head?)
    (hannounced : s.Announced operations)
    (hpull : ∀ before operation after, operations = before ++ operation :: after →
      (s.run before).pullsIgnored operation = false) : (s.run operations).Eligible := by
  induction operations generalizing s with
  | nil =>
    intro place hmem
    by_contra hignored
    cases hdue place hmem ((Bool.not_eq_false _).mp hignored)
  | cons operation rest ih =>
    refine ih (Due.perform hdue (hpull [] operation rest rfl) hannounced.1) hannounced.2 ?_
    intro before later after hsplit
    exact hpull (operation :: before) later after (congrArg (operation :: ·) hsplit)

/-- A beginning of an announced run is announced if its last operation changes nothing that
would have to be. -/
theorem Announced.beginning {before after : List (Operation n)}
    (h : s.Announced (before ++ operation :: after))
    (hquiet : ∀ place, Announces (s.run before) ((s.run before).perform operation).1 none place) :
    s.Announced (before ++ [operation]) := by
  induction before generalizing s with
  | nil => exact ⟨hquiet, trivial⟩
  | cons first rest ih =>
    obtain ⟨hfirst, hrest⟩ := h
    refine ⟨?_, ih hrest hquiet⟩
    cases rest <;> exact hfirst

theorem Touches.announces {parts : List Part} (h : Touches parts s t)
    (hparts : Part.attributes ∉ parts) (next : Option (Operation n)) (place : Fin n) :
    Announces s t next place := by
  have hsame : (t.call place).toAttributes = (s.call place).toAttributes :=
    congrFun (h.keeps .attributes hparts) place
  exact ⟨fun hne => absurd (congrArg Call.Attributes.external hsame) hne,
    fun hne => absurd (congrArg Call.Attributes.parent hsame) hne⟩

/-- A pull that does not look whether the call is ignored leaves a tracked call that is. -/
theorem not_eligible_of_pullsIgnored (h : s.pullsIgnored operation = true) :
    ¬(s.perform operation).1.Eligible := by
  cases operation with
  | externalChanged place external =>
    cases external with
    | true => cases h
    | false =>
      obtain ⟨hignored, hnew⟩ := Bool.and_eq_true_iff.mp h
      rw [Bool.not_eq_true'] at hnew
      have hword : (Operation.externalChanged place false).word? s.alerter.calls =
          some (.joined (.of (s.call place) (s.call place).state)) := rfl
      obtain ⟨joined, hsubject, -, hperform⟩ := perform_of_joined hword
      obtain rfl := Option.some.inj hsubject
      have htouch : Touches lifeParts s (s.perform (.externalChanged place false)).1 :=
        touches_externalChanged s place false
      have htracked : (s.perform (.externalChanged place false)).1.tracked =
          s.tracked ++ [place] := by
        rw [← tracked_track hnew]
        exact (touches_joined hperform).keeps .tracked (by decide)
      intro heligible
      have hheard := heligible place (by rw [htracked]; simp)
      rw [htouch.isIgnored (by decide) place, hignored] at hheard
      cases hheard
  | _ => cases h

/-- A pull changes nothing that would have to be announced. -/
theorem announces_of_pullsIgnored (h : s.pullsIgnored operation = true) (place : Fin n) :
    Announces s (s.perform operation).1 none place := by
  cases operation with
  | externalChanged other external =>
    exact (touches_externalChanged s other external).announces (by decide) none place
  | _ => cases h

/-! ## Removal -/

/-- There is no trace of an identity among the tracked calls, in the groups or in front. -/
structure Forgets (s : Switchboard n) (id : CallId) : Prop where
  tracked : s.isTracked id = false
  groups : ∀ group, s.roster.has s.ident group id = false
  front : s.front.map s.ident ≠ some id

/-- A call that is no longer tracked leaves no trace. -/
theorem forgets_untrack {place : Fin n} (h : s.isTracked (s.ident place) = true) :
    (s.untrack place).Forgets (s.ident place) := by
  have hident : (s.untrack place).ident = s.ident :=
    (heeds_untrack s place).touches.ident (by decide)
  have hgroups : ∀ group, ∀ member ∈ (s.untrack place).roster.get group,
      s.ident member ≠ s.ident place := by
    intro group member hmem
    rw [roster_untrack h, Roster.get_erase, List.mem_filter, bne_iff_ne] at hmem
    exact hmem.2
  refine ⟨?_, ?_, ?_⟩
  · rw [isTracked, hident, tracked_untrack h, List.any_filter, List.any_eq_false]
    simp
  · intro group
    rw [hident, Roster.has, List.any_eq_false]
    intro member hmem hsame
    exact hgroups group member hmem (eq_of_beq hsame)
  · have hcurrent : (s.untrack place).front = (s.untrack place).chosen :=
      (takes_untrack h).current
    rw [hident, hcurrent]
    intro hfront
    obtain ⟨front, hchosen, hsame⟩ := Option.map_eq_some_iff.mp hfront
    obtain ⟨group, -, hmem⟩ := mem_of_front? hchosen
    exact hgroups group front hmem hsame

/-- A removal is heard exactly of a call that is not ignored. -/
theorem removed_forgets_iff {place : Fin n} (h : place ∈ s.tracked) :
    (s.removed place).Forgets (s.ident place) ↔ (s.call place).isIgnored = false := by
  constructor
  · intro hforgets
    by_contra hignored
    have hkept := hforgets.tracked
    rw [removed, if_pos ((Bool.not_eq_false _).mp hignored), isTracked_of_mem h] at hkept
    cases hkept
  · intro hheard
    rw [removed_of_heard hheard]
    exact forgets_untrack (isTracked_of_mem h)

/-- In a run of an idle switchboard in which every change of a call's device or conference
is told at once, all tracked calls are eligible, after every operation but such a change,
exactly if no call is pulled back from another device that is ignored all the same. In every
run the removal of a tracked call takes it out of the tracked calls, of its group and from
the front exactly if it is eligible. -/
theorem run_tracks_eligible_iff (calls : CallTable n) (profile : DeviceProfile)
    (settings : Settings) (surroundings : Surroundings) (timed : Bool) (registry : Registry)
    (desks : Option Desks) (operations : List (Operation n)) :
    let start := idle calls profile settings surroundings timed registry desks
    let s := start.run operations
    (start.Announced operations →
      ((∀ before after, operations = before ++ after → start.Announced before →
          (start.run before).Eligible) ↔
        ∀ before operation after, operations = before ++ operation :: after →
          (start.run before).pullsIgnored operation = false)) ∧
      ∀ place ∈ s.tracked,
        (s.removed place).Forgets (s.ident place) ↔ (s.call place).isIgnored = false := by
  intro start s
  refine ⟨fun hannounced => ⟨fun heligible before operation after hsplit => ?_, ?_⟩,
    fun place hmem => removed_forgets_iff hmem⟩
  · by_contra hpull
    rw [Bool.not_eq_false] at hpull
    rw [hsplit] at hannounced
    have hbeginning := hannounced.beginning (announces_of_pullsIgnored hpull)
    have hafter := heligible (before ++ [operation]) after (by rw [hsplit]; simp) hbeginning
    rw [run_concat] at hafter
    exact not_eligible_of_pullsIgnored hpull hafter
  · intro hpull before after hsplit hbefore
    have hdue : start.Due before.head? := by
      intro place hmem
      cases hmem
    refine eligible_run hdue hbefore fun earlier operation later hearlier => ?_
    refine hpull earlier operation (later ++ after) ?_
    rw [hsplit, hearlier, List.append_assoc]
    rfl

/-- A call goes to another device and is pulled back: what is tracked then is eligible. -/
theorem tracks_eligible_after_pull :
    let call : Call := { state := .active, id := .ofNat 1, log := .empty 64 }
    let start := idle (n := 1) ⟨#v[call]⟩ {} {} {} false {} none
    let operations : List (Operation 1) :=
      [.added 0, .alerter (.revise 0 (.external true)), .externalChanged 0 true,
        .alerter (.revise 0 (.external false)), .externalChanged 0 false]
    start.Announced operations ∧ (start.run operations).tracked = [0] ∧
      (start.run operations).Eligible ∧
      ((start.run operations).removed 0).Forgets ((start.run operations).ident 0) := by
  intro call start operations
  have hannounced : start.Announced operations := by decide
  have hpull : ∀ before operation after, operations = before ++ operation :: after →
      (start.run before).pullsIgnored operation = false := by
    intro before operation after hsplit
    simp only [operations, List.cons_eq_append_iff, List.nil_eq_append_iff] at hsplit
    rcases hsplit with ⟨rfl, h⟩ | ⟨_, rfl, ⟨rfl, h⟩ | ⟨_, rfl, ⟨rfl, h⟩ | ⟨_, rfl, ⟨rfl, h⟩ |
      ⟨_, rfl, ⟨rfl, h⟩ | ⟨_, rfl, -, h⟩⟩⟩⟩⟩ <;> cases h <;> decide
  have hboth := run_tracks_eligible_iff ⟨#v[call]⟩ {} {} {} false {} none operations
  have heligible := (hboth.1 hannounced).mpr hpull operations [] (List.append_nil _).symm hannounced
  have hforgets := (hboth.2 0 (by decide)).mpr (heligible 0 (by decide))
  exact ⟨hannounced, by decide, heligible, hforgets⟩

/-- A call goes to another device, joins a conference there and is pulled back: it is tracked
though it is a conference child, and its removal is not heard. -/
theorem tracks_pulled_conference_child :
    let call : Call := { state := .active, id := .ofNat 1, log := .empty 64 }
    let start := idle (n := 1) ⟨#v[call]⟩ {} {} {} false {} none
    let operations : List (Operation 1) :=
      [.added 0, .alerter (.revise 0 (.external true)), .externalChanged 0 true,
        .alerter (.revise 0 (.parent (some (.ofNat 9)))), .conferenceChanged 0,
        .alerter (.revise 0 (.external false)), .externalChanged 0 false]
    let s := start.run operations
    start.Announced operations ∧ s.tracked = [0] ∧ (s.call 0).isIgnored = true ∧
      (s.removed 0).tracked = [0] ∧ (s.removed 0).front = some 0 := by
  decide

end PhoneAudio.Switchboard
