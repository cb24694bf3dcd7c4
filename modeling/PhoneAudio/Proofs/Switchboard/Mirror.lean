import PhoneAudio.Proofs.Roster.Crossing
import PhoneAudio.Proofs.Switchboard.Frame

/-!
# The mode layer mirrors the roster

The letters to the mode layer are read off everything that was sent. One operation
sends the crossings between the headcount that it found and the one that it leaves,
each of them once, and every letter of it carries the snapshot that it leaves
(`Reports`). From this, by induction over the run, a mode layer that follows the
crossings knows at every moment which groups are occupied (`run_mirrors_roster`).
-/

namespace PhoneAudio

/-- The crossing that a message tells of. -/
def Mode.Message.crossing? : Mode.Message → Option Crossing
  | .crossing told => some told
  | _ => none

namespace Switchboard

variable {n : Nat}

def Effect.letter? : Effect n → Option Mode.Letter
  | .mode message snapshot => some (message, snapshot)
  | _ => none

/-- The letters to the mode layer, oldest first. -/
def letters (s : Switchboard n) : List Mode.Letter := (s.told .mode).filterMap Effect.letter?

/-- The crossings among some letters. -/
def crossings (letters : List Mode.Letter) : List Crossing :=
  letters.filterMap fun letter => letter.1.crossing?

/-- The letters that tell of crossings, all with one snapshot. -/
def crossingLetters (snapshot : Mode.Snapshot) (told : List Crossing) : List Mode.Letter :=
  told.map fun crossing => (.crossing crossing, snapshot)

theorem crossings_crossingLetters (snapshot : Mode.Snapshot) (told : List Crossing) :
    crossings (crossingLetters snapshot told) = told := by
  induction told with
  | nil => rfl
  | cons crossing rest ih => exact congrArg (crossing :: ·) ih

/-! ## What the letters and the snapshot depend on -/

theorem Touches.letters {parts : List Part} {s t : Switchboard n} (h : Touches parts s t)
    (hparts : Part.told .mode ∉ parts) : t.letters = s.letters :=
  congrArg (List.filterMap Effect.letter?) (h.keeps (.told .mode) hparts)

/-- The parts that make up the situation as the mode layer sees it. -/
abbrev situationParts : List Part := [.roster, .tonePlaying, .front, .attributes, .carrierMode]

theorem Touches.snapshot {parts : List Part} {s t : Switchboard n} (h : Touches parts s t)
    (hparts : ∀ part ∈ parts, part ∉ situationParts) : t.snapshot = s.snapshot := by
  have hkeeps : ∀ part ∈ situationParts, part.Agrees s t :=
    fun part hmem => h part fun hpart => hparts part hpart hmem
  have hroster : t.roster = s.roster := hkeeps .roster (by simp)
  have htone : t.tonePlaying = s.tonePlaying := hkeeps .tonePlaying (by simp)
  have hfront : t.front = s.front := hkeeps .front (by simp)
  have hmode : t.carrierMode = s.carrierMode := hkeeps .carrierMode (by simp)
  have hattributes : t.alerter.attributes = s.alerter.attributes := hkeeps .attributes (by simp)
  have hvoip : ∀ place, (t.call place).voip = (s.call place).voip :=
    fun place => congrArg Call.Attributes.voip (congrFun hattributes place)
  simp only [Switchboard.snapshot, hroster, htone, hfront, hmode, hvoip]

/-- What a letter says of the switchboard that sends it. -/
theorem snapshot_flags (s : Switchboard n) :
    (s.snapshot.active = true ↔ s.roster.active ≠ []) ∧
      (s.snapshot.ringing = true ↔ s.roster.ringing ≠ []) ∧
      (s.snapshot.holding = true ↔ s.roster.holding ≠ []) ∧
      (s.snapshot.processing = true ↔ s.roster.processing ≠ []) ∧
      s.snapshot.tonePlaying = s.tonePlaying ∧
      (s.snapshot.voip = true ↔ ∃ place, s.front = some place ∧ (s.call place).voip = true) ∧
      s.snapshot.carrierRing = s.carrierMode :=
  ⟨s.roster.isOccupied_iff .active, s.roster.isOccupied_iff .ringing,
    s.roster.isOccupied_iff .holding, s.roster.isOccupied_iff .processing, rfl,
    Option.any_eq_true _ _, rfl⟩

theorem letters_sendMode (s : Switchboard n) (message : Mode.Message) :
    (s.sendMode message).letters = s.letters ++ [(message, s.snapshot)] := by
  simp [letters, told, sendMode, send, Effect.channel, Effect.letter?]

/-- A letter does not change the situation that it tells of. -/
theorem snapshot_sendMode (s : Switchboard n) (message : Mode.Message) :
    (s.sendMode message).snapshot = s.snapshot := rfl

theorem letters_foldl_sendMode (s : Switchboard n) (told : List Crossing) :
    (told.foldl (fun s crossing => s.sendMode (.crossing crossing)) s).letters =
      s.letters ++ crossingLetters s.snapshot told := by
  induction told generalizing s with
  | nil => exact (List.append_nil _).symm
  | cons crossing rest ih =>
    rw [List.foldl_cons, ih, letters_sendMode, snapshot_sendMode, List.append_assoc]
    rfl

theorem letters_tellCrossings (s : Switchboard n) (before : Headcount) :
    (s.tellCrossings before).letters =
      s.letters ++ crossingLetters s.snapshot (Crossing.between before s.roster.headcount) :=
  letters_foldl_sendMode s _

/-! ## What one operation reports -/

/-- From `s` to `t` the crossings between the two headcounts were sent, and every letter
that was sent has the snapshot of `t`. -/
def Reports (s t : Switchboard n) : Prop :=
  ∃ news, t.letters = s.letters ++ news ∧ (∀ letter ∈ news, letter.2 = t.snapshot) ∧
    crossings news = Crossing.between s.roster.headcount t.roster.headcount

/-- Where nothing is sent and the roster stays, there is nothing to report. -/
theorem Touches.reports {parts : List Part} {s t : Switchboard n} (h : Touches parts s t)
    (hmode : Part.told .mode ∉ parts) (hroster : Part.roster ∉ parts) : Reports s t := by
  have hsame : t.roster = s.roster := h.keeps .roster hroster
  refine ⟨[], ?_, ?_, ?_⟩
  · rw [List.append_nil, h.letters hmode]
  · simp
  · rw [hsame, Crossing.between_self]
    rfl

theorem reports_refl (s : Switchboard n) : Reports s s :=
  (Touches.refl [] s).reports (by decide) (by decide)

/-- What comes before a report, unsent, is reported with it. -/
theorem Reports.after {parts : List Part} {s t u : Switchboard n} (h : Reports t u)
    (hst : Touches parts s t) (hmode : Part.told .mode ∉ parts) (hroster : Part.roster ∉ parts) :
    Reports s u := by
  have hsame : t.roster = s.roster := hst.keeps .roster hroster
  obtain ⟨news, hletters, hsnapshot, hcrossings⟩ := h
  refine ⟨news, ?_, hsnapshot, ?_⟩
  · rw [hletters, hst.letters hmode]
  · rw [hcrossings, hsame]

/-- What comes after a report must not change the situation that was reported. -/
theorem Reports.before {parts : List Part} {s t u : Switchboard n} (h : Reports s t)
    (htu : Touches parts t u) (hparts : ∀ part ∈ parts, part ∉ .told .mode :: situationParts) :
    Reports s u := by
  have hmode : Part.told .mode ∉ parts := fun hpart => hparts _ hpart (by simp)
  have hsame : u.roster = t.roster :=
    htu.keeps .roster fun hpart => hparts _ hpart (by simp)
  have hsituation : u.snapshot = t.snapshot :=
    htu.snapshot fun part hpart hmem => hparts part hpart (List.mem_cons_of_mem _ hmem)
  obtain ⟨news, hletters, hsnapshot, hcrossings⟩ := h
  refine ⟨news, ?_, ?_, ?_⟩
  · rw [htu.letters hmode, hletters]
  · rw [hsituation]
    exact hsnapshot
  · rw [hcrossings, hsame]

/-- A single message that tells of no crossing. -/
theorem reports_sendMode (s : Switchboard n) {message : Mode.Message}
    (h : message.crossing? = none) : Reports s (s.sendMode message) := by
  refine ⟨[(message, s.snapshot)], letters_sendMode s message, ?_, ?_⟩
  · intro letter hmem
    rw [List.mem_singleton.mp hmem]
    rfl
  · rw [show (s.sendMode message).roster = s.roster from rfl, Crossing.between_self]
    simp [crossings, h]

/-- The crossings are told against the headcount before the change, in the situation
after it; the hold tone is no part of the situation. -/
theorem reports_close {parts : List Part} {s t : Switchboard n} (h : Touches parts s t)
    (hmode : Part.told .mode ∉ parts) :
    Reports s (t.tellCrossings s.roster.headcount).adjustHoldTone := by
  have htell := touches_tellCrossings t s.roster.headcount
  have hroster : (t.tellCrossings s.roster.headcount).roster = t.roster :=
    htell.keeps .roster (by decide)
  have hsnapshot : (t.tellCrossings s.roster.headcount).snapshot = t.snapshot :=
    htell.snapshot (by decide)
  have htold : Reports s (t.tellCrossings s.roster.headcount) := by
    refine ⟨crossingLetters t.snapshot
      (Crossing.between s.roster.headcount t.roster.headcount), ?_, ?_, ?_⟩
    · rw [letters_tellCrossings, h.letters hmode]
    · intro letter hmem
      obtain ⟨crossing, -, rfl⟩ := List.mem_map.mp hmem
      exact hsnapshot.symm
    · rw [crossings_crossingLetters, hroster]
  exact htold.before (touches_adjustHoldTone _) (by decide)

theorem Heeds.reports {s u : Switchboard n} (h : Heeds s u) : Reports s u := by
  rcases h with rfl | ⟨t, ht, rfl⟩
  · exact reports_refl u
  · exact reports_close ht (by decide)

theorem reports_externalChanged (s : Switchboard n) (place : Fin n) (external : Bool) :
    Reports s (s.externalChanged place external) := by
  unfold externalChanged
  split
  · exact (heeds_untrack s place).reports
  · have htrack := (heeds_track s place).reports
    dsimp only
    split
    · exact htrack.before (touches_autoSpeaker _) (by decide)
    · exact htrack

theorem reports_voipChanged (s : Switchboard n) (place : Fin n) :
    Reports s (s.voipChanged place) := by
  unfold voipChanged
  split
  · exact reports_sendMode s rfl
  · exact reports_refl s

theorem reports_setTonePlaying (s : Switchboard n) (on : Bool) :
    Reports s (s.setTonePlaying on) := by
  have htone : Reports s ({ s with tonePlaying := on }.sendMode
      (if on then .toneStarted else .toneStopped)) := by
    refine Reports.after ?_ (touches_tonePlaying s on) (by decide) (by decide)
    cases on <;> exact reports_sendMode _ rfl
  unfold setTonePlaying
  dsimp only
  generalize ({ s with tonePlaying := on } : Switchboard n).sendMode
    (if on then .toneStarted else .toneStopped) = t at htone ⊢
  split
  · exact htone.before
      ((touches_disconnectTonePlaying t false).trans (touches_disconnectTone _ false)) (by decide)
  · exact htone

theorem reports_silenceRingers (s : Switchboard n) : Reports s s.silenceRingers := by
  have hsilence := touches_silence s s.roster.ringing
  unfold silenceRingers
  dsimp only
  split
  · exact ((reports_sendMode _ rfl).after hsilence (by decide) (by decide)).before
      (touches_fallQuiet _) (by decide)
  · exact (hsilence.reports (by decide) (by decide)).before (touches_fallQuiet _) (by decide)

/-- Every operation reports what it changed. -/
theorem reports_perform (s : Switchboard n) (operation : Operation n) :
    Reports s (s.perform operation).1 := by
  cases operation with
  | added place => exact (heeds_added s place).reports
  | removed place => exact (heeds_removed s place).reports
  | moved place state =>
    exact (heeds_stateChanged _ place _ state).reports.after (touches_revise s place (.state state))
      (by decide) (by decide)
  | stateChanged place old new => exact (heeds_stateChanged s place old new).reports
  | externalChanged place external => exact reports_externalChanged s place external
  | conferenceChanged place => exact (heeds_conferenceChanged s place).reports
  | voipChanged place => exact reports_voipChanged s place
  | ringerModeChanged => exact reports_sendMode s rfl
  | operationsComplete => exact reports_sendMode s rfl
  | setTonePlaying on => exact reports_setTonePlaying s on
  | silenceRingers => exact reports_silenceRingers s
  | _ => exact (touches_perform s _).reports (by simp [Operation.parts]) (by simp [Operation.parts])

/-! ## Every run -/

/-- The mode layer knows which groups are occupied. -/
def Mirrored (s : Switchboard n) : Prop :=
  Crossing.Mirrors (crossings s.letters) fun group => s.roster.isOccupied group

theorem Mirrored.of_reports {s t : Switchboard n} (hs : s.Mirrored) (h : Reports s t) :
    t.Mirrored := by
  obtain ⟨news, hletters, -, hcrossings⟩ := h
  have hbefore : Crossing.Mirrors (crossings s.letters)
      fun group => 0 < s.roster.headcount.get group := by
    simpa only [Mirrored, Roster.isOccupied_eq] using hs
  have hafter := hbefore.append_between t.roster.headcount
  rw [← hcrossings] at hafter
  simp only [Mirrored, Roster.isOccupied_eq, hletters, crossings, List.filterMap_append]
  exact hafter

theorem Mirrored.run {s : Switchboard n} (hs : s.Mirrored) (operations : List (Operation n)) :
    (s.run operations).Mirrored := by
  induction operations generalizing s with
  | nil => exact hs
  | cons operation rest ih => exact ih (hs.of_reports (reports_perform s operation))

theorem mirrored_idle (calls : CallTable n) (profile : DeviceProfile) (settings : Settings)
    (surroundings : Surroundings) (timed : Bool) (registry : Registry) (desks : Option Desks) :
    (idle calls profile settings surroundings timed registry desks).Mirrored := by
  intro group
  cases group <;> exact ⟨trivial, rfl⟩

/-- After every run from the idle switchboard the crossings told of a group strictly
alternate, beginning with its filling, and a mode layer that follows them knows which
groups have members. Every further operation tells the emptied groups before the filled
ones. Each of its letters tells of the switchboard that the operation leaves: which groups
have members, whether a tone plays, whether the call in front is a voice-over-data call,
and whether a carrier ring is on. -/
theorem run_mirrors_roster (calls : CallTable n) (profile : DeviceProfile) (settings : Settings)
    (surroundings : Surroundings) (timed : Bool) (registry : Registry) (desks : Option Desks)
    (operations : List (Operation n)) :
    let s := (idle calls profile settings surroundings timed registry desks).run operations
    (∀ group, Crossing.Alternates true (Crossing.signals group (crossings s.letters)) ∧
      (Crossing.mirror (crossings s.letters) group = true ↔ s.roster.get group ≠ [])) ∧
    ∀ operation,
      let t := (s.perform operation).1
      ∃ news, t.letters = s.letters ++ news ∧
        (∀ letter ∈ news,
          (letter.2.active = true ↔ t.roster.active ≠ []) ∧
          (letter.2.ringing = true ↔ t.roster.ringing ≠ []) ∧
          (letter.2.holding = true ↔ t.roster.holding ≠ []) ∧
          (letter.2.processing = true ↔ t.roster.processing ≠ []) ∧
          letter.2.tonePlaying = t.tonePlaying ∧
          (letter.2.voip = true ↔ ∃ place, t.front = some place ∧ (t.call place).voip = true) ∧
          letter.2.carrierRing = t.carrierMode) ∧
        ∃ emptied filled : List Group,
          crossings news = emptied.map Crossing.emptied ++ filled.map Crossing.filled := by
  intro s
  have hmirrored : s.Mirrored :=
    (mirrored_idle calls profile settings surroundings timed registry desks).run operations
  constructor
  · intro group
    obtain ⟨halternates, hknows⟩ := hmirrored group
    rw [hknows]
    exact ⟨halternates, s.roster.isOccupied_iff group⟩
  · intro operation t
    obtain ⟨news, hletters, hsnapshot, hcrossings⟩ := reports_perform s operation
    refine ⟨news, hletters, fun letter hmem => ?_, ?_⟩
    · rw [hsnapshot letter hmem]
      exact t.snapshot_flags
    · rw [hcrossings]
      exact Crossing.between_eq_append _ _

end Switchboard

end PhoneAudio
