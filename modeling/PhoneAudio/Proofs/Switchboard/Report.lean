import Mathlib.Data.List.Basic
import PhoneAudio.Proofs.Call.Text
import PhoneAudio.Proofs.Switchboard.Service
import PhoneAudio.Switchboard.Report

/-!
# What a report tells

A report is about the identities of the tracked calls and of the calls in each group, the
identity and the state of the call in front, and the labels of the unread messages
(`Disclosure`). Its lines are put together from these alone, and they can be taken apart
again: an entry begins with two spaces and a heading does not, so the entries of a section
end where the next heading stands, whatever is written in them (`Disclosure.lines_inj`).

The text of a report is its lines, one below the other. That the lines can be told from the
text takes that none of them holds a line break. This is so for everything that the
switchboard writes by itself, and for the labels, since they are the labels of messages and
an address in a message is quoted (`Served.isLine`). So the texts of two reports are the same
exactly if the reports are about the same (`reportText_eq_iff`).
-/

namespace PhoneAudio

open Text

/-! ## Labels of messages -/

theorem Mode.Letter.isLine_label (letter : Mode.Letter) : IsLine (Mode.Letter.label letter) := by
  obtain ⟨message, snapshot⟩ := letter
  show IsLine message.name
  cases message with
  | crossing crossing => cases crossing with | _ group => cases group <;> decide
  | _ => decide

theorem Route.Request.isLine_label (request : Route.Request) : IsLine request.label := by
  cases request with
  | bluetooth address =>
    exact (IsLine.append (by decide) (isLine_quotedOption address)).append (by decide)
  | baseline includeBluetooth =>
    exact (IsLine.append (by decide) (isLine_flag includeBluetooth)).append (by decide)
  | focus level => cases level <;> decide
  | _ => decide

/-- The labels of a mailbox are the labels of messages. -/
theorem Mailbox.Accounts.mem_pending {α : Type} {label : α → String}
    {operations : List (Mailbox.Operation α)} {received : List α} {box : Mailbox α}
    (h : Mailbox.Accounts label operations received box) {text : String}
    (hmem : text ∈ box.pending?.getD []) : ∃ message, text = label message := by
  obtain ⟨unread, hholds⟩ := h.holds
  rw [Mailbox.pending?] at hmem
  split at hmem
  · rw [Option.getD_some, hholds.labels] at hmem
    obtain ⟨message, -, hlabel⟩ := List.mem_map.mp hmem
    exact ⟨message, hlabel.symm⟩
  · exact absurd hmem List.not_mem_nil

namespace Switchboard

variable {n m : Nat}

/-! ## Lines -/

/-- What a report is about. -/
@[ext] structure Disclosure where
  tracked : List CallId
  members : Group → List CallId
  front : Option (CallId × Call.State)
  unreadMode : List String
  unreadRoute : List String

/-- What the report of a switchboard is about. -/
def disclosed (s : Switchboard n) : Disclosure where
  tracked := s.tracked.map s.ident
  members group := (s.roster.get group).map s.ident
  front := s.front.map fun place => (s.ident place, (s.call place).state)
  unreadMode := s.unreadLabels Desks.modePending?
  unreadRoute := s.unreadLabels Desks.routePending?

/-- A line that is no entry: it does not begin with a space. -/
def IsHeading (line : String) : Prop := line.toList.head? ≠ some ' '

instance (line : String) : Decidable (IsHeading line) := inferInstanceAs (Decidable (_ ≠ _))

theorem entry_injective : Function.Injective entry := by
  intro text other h
  have htexts : "  ".toList ++ text.toList = "  ".toList ++ other.toList := by
    simpa [entry] using congrArg String.toList h
  exact String.toList_inj.mp (List.append_cancel_left htexts)

theorem IsHeading.ne_entry {heading : String} (h : IsHeading heading) (text : String) :
    heading ≠ entry text := by
  rintro rfl
  exact h (by simp [entry])

/-- The entries of a section end where the next heading stands. -/
theorem section_inj {heading : String} (h : IsHeading heading) {texts texts' : List String}
    {rest rest' : List String} :
    texts.map entry ++ heading :: rest = texts'.map entry ++ heading :: rest' ↔
      texts = texts' ∧ rest = rest' := by
  induction texts generalizing texts' with
  | nil =>
    cases texts' with
    | nil => simp
    | cons text texts' => simp [h.ne_entry text]
  | cons text texts ih =>
    cases texts' with
    | nil => simp [(h.ne_entry text).symm]
    | cons text' texts' => simp [entry_injective.eq_iff, ih, and_assoc]

theorem idEntries_eq (s : Switchboard n) (places : List (Fin n)) :
    s.idEntries places = ((places.map s.ident).map CallId.text).map entry := by
  simp [idEntries]

/-- The sections of a report, one after the other. -/
theorem reportLines_eq (s : Switchboard n) :
    s.reportLines = "All calls:" :: (s.idEntries s.tracked ++
      (Group.active.label ++ ":") :: (s.idEntries s.roster.active ++
      (Group.ringing.label ++ ":") :: (s.idEntries s.roster.ringing ++
      (Group.holding.label ++ ":") :: (s.idEntries s.roster.holding ++
      (Group.processing.label ++ ":") :: (s.idEntries s.roster.processing ++
      "Foreground call:" :: s.frontLine ::
      "Mode state machine pending messages:" ::
        ((s.unreadLabels Desks.modePending?).map entry ++
      "Route state machine pending messages:" ::
        (s.unreadLabels Desks.routePending?).map entry)))))) := by
  simp [reportLines, Group.all, Roster.get]

theorem frontLine_inj {s : Switchboard n} {t : Switchboard m} :
    s.frontLine = t.frontLine ↔
      (s.front.map fun place => (s.ident place, (s.call place).state)) =
        t.front.map fun place => (t.ident place, (t.call place).state) := by
  have hnull : ∀ call : Call, call.text ≠ "null" := by
    intro call h
    simpa [Call.text] using congrArg (fun text => text.toList.head?) h
  unfold frontLine
  cases s.front with
  | none =>
    cases t.front with
    | none => simp
    | some place => simp [(hnull (t.call place)).symm]
  | some place =>
    cases t.front with
    | none => simp [hnull (s.call place)]
    | some other => simpa [ident] using Call.text_inj

/-- The lines of two reports are the same exactly if the reports are about the same. -/
theorem reportLines_inj {s : Switchboard n} {t : Switchboard m} :
    s.reportLines = t.reportLines ↔ s.disclosed = t.disclosed := by
  have hids := CallId.text_injective.list_map
  have hentries := entry_injective.list_map
  rw [reportLines_eq, reportLines_eq]
  simp only [idEntries_eq]
  rw [List.cons_inj_right, section_inj (by decide), section_inj (by decide),
    section_inj (by decide), section_inj (by decide), section_inj (by decide), hids.eq_iff,
    hids.eq_iff, hids.eq_iff, hids.eq_iff, hids.eq_iff, List.cons.injEq, List.cons_inj_right,
    section_inj (by decide), hentries.eq_iff, frontLine_inj, Disclosure.ext_iff]
  constructor
  · rintro ⟨htracked, hactive, hringing, hholding, hprocessing, hfront, hmode, hroute⟩
    refine ⟨htracked, ?_, hfront, hmode, hroute⟩
    funext group
    cases group with
    | active => exact hactive
    | ringing => exact hringing
    | holding => exact hholding
    | processing => exact hprocessing
  · rintro ⟨htracked, hmembers, hfront, hmode, hroute⟩
    exact ⟨htracked, congrFun hmembers .active, congrFun hmembers .ringing,
      congrFun hmembers .holding, congrFun hmembers .processing, hfront, hmode, hroute⟩

/-! ## Texts -/

theorem isLine_entry {text : String} (h : IsLine text) : IsLine (entry text) :=
  IsLine.append (by decide) h

/-- No message that waits for a layer breaks the line it is listed on. -/
theorem Served.isLine_unread {s : Switchboard n} (hs : s.Served) {label : String}
    (h : label ∈ s.unreadLabels Desks.modePending? ∨
      label ∈ s.unreadLabels Desks.routePending?) : IsLine label := by
  unfold unreadLabels at h
  cases hdesks : s.desks with
  | none => simp [hdesks] at h
  | some desks =>
    obtain ⟨steps, rfl⟩ := hs desks hdesks
    have haccounts := Desks.accounts_run steps
    rw [hdesks] at h
    rcases h with hmode | hroute
    · obtain ⟨letter, rfl⟩ := haccounts.mode.mem_pending hmode
      exact letter.isLine_label
    · obtain ⟨request, rfl⟩ := haccounts.route.mem_pending hroute
      exact request.isLine_label

theorem isLine_frontLine (s : Switchboard n) : IsLine s.frontLine := by
  unfold frontLine
  split
  · decide
  · exact Call.isLine_text _

theorem Served.isLine {s : Switchboard n} (hs : s.Served) :
    ∀ line ∈ s.reportLines, IsLine line := by
  have hids : ∀ places, ∀ line ∈ s.idEntries places, IsLine line := by
    intro places line hmem
    obtain ⟨place, -, rfl⟩ := List.mem_map.mp hmem
    exact isLine_entry (CallId.isLine_text _)
  have hmode : ∀ line ∈ (s.unreadLabels Desks.modePending?).map entry, IsLine line := by
    intro line hmem
    obtain ⟨label, hlabel, rfl⟩ := List.mem_map.mp hmem
    exact isLine_entry (hs.isLine_unread (.inl hlabel))
  have hroute : ∀ line ∈ (s.unreadLabels Desks.routePending?).map entry, IsLine line := by
    intro line hmem
    obtain ⟨label, hlabel, rfl⟩ := List.mem_map.mp hmem
    exact isLine_entry (hs.isLine_unread (.inr hlabel))
  rw [reportLines_eq]
  simp only [List.forall_mem_cons, List.forall_mem_append]
  exact ⟨by decide, hids _, by decide, hids _, by decide, hids _, by decide, hids _, by decide,
    hids _, by decide, isLine_frontLine s, by decide, hmode, by decide, hroute⟩

/-- The lines of the text are the lines of the report. -/
theorem Served.splitOn_reportText {s : Switchboard n} (hs : s.Served) :
    s.reportText.toList.splitOn '\n' = s.reportLines.map String.toList ++ [[]] :=
  splitOn_join hs.isLine

theorem Served.reportText_eq_iff {s : Switchboard n} {t : Switchboard m} (hs : s.Served)
    (ht : t.Served) : s.reportText = t.reportText ↔ s.disclosed = t.disclosed := by
  rw [← reportLines_inj]
  constructor
  · intro h
    have hlines := hs.splitOn_reportText.symm.trans
      ((congrArg (fun text => text.toList.splitOn '\n') h).trans ht.splitOn_reportText)
    have hinjective : Function.Injective String.toList := fun _ _ => String.toList_inj.mp
    exact hinjective.list_map (List.append_cancel_right hlines)
  · intro h
    rw [reportText, reportText, h]

/-! ## Runs -/

/-- How a switchboard came to be as it is: what it started with, what had been done at the
mailboxes of its layers by then, if they are behind mailboxes, and what happened since. -/
structure History (n : Nat) where
  calls : CallTable n
  profile : DeviceProfile
  settings : Settings
  surroundings : Surroundings
  timed : Bool
  registry : Registry
  steps : Option (List Desks.Operation)
  operations : List (Operation n)

/-- The switchboard that a history leads to. -/
def History.outcome (history : History n) : Switchboard n :=
  (idle history.calls history.profile history.settings history.surroundings history.timed
    history.registry (history.steps.map fun steps => (Desks.run steps).1)).run history.operations

theorem History.served (history : History n) : history.outcome.Served := by
  refine Served.run ?_ history.operations
  intro desks hdesks
  obtain ⟨steps, -, rfl⟩ := Option.map_eq_some_iff.mp hdesks
  exact ⟨steps, rfl⟩

/-- Whatever two switchboards have been through, and whatever addresses are in the messages
that their layers have not read, the texts of their reports are the same exactly if they are
about the same: the identities of the tracked calls, those of each group in order, the call
in front with its state, and the labels of the unread messages. And the lines of such a text
are those of the report, so nothing that is listed makes a line of its own. -/
theorem run_report_unambiguous (first : History n) (second : History m) :
    let s := first.outcome
    let t := second.outcome
    (s.reportText = t.reportText ↔ s.disclosed = t.disclosed) ∧
      s.reportText.toList.splitOn '\n' = s.reportLines.map String.toList ++ [[]] := by
  intro s t
  exact ⟨first.served.reportText_eq_iff second.served, first.served.splitOn_reportText⟩

end Switchboard

end PhoneAudio
