import PhoneAudio.Switchboard.State

/-!
# Reports

A report lists the tracked calls, the groups, the call in front and the messages
that the layers have not read yet, one to a line. Headings end in a colon and
entries are indented, and no label of a message breaks its line. A summary gives
the state of the switchboard and its alerter in one line.
-/

namespace PhoneAudio

/-- A named record of a summary. -/
def summaryRecord (name : String) (fields : List (String × String)) : String :=
  name ++ " \x7b " ++ ", ".intercalate (fields.map fun field => field.1 ++ ": " ++ field.2) ++
    " \x7d"

/-- An identity that may be missing, in a summary. -/
def CallId.summary : Option CallId → String
  | none => "None"
  | some id => "Some(" ++ id.text ++ ")"

def Headcount.summary (count : Headcount) : String :=
  "BinCounts([" ++ ", ".intercalate (count.toList.map toString) ++ "])"

/-- The state of a gate in one line. -/
def Gate.summary {α : Type} (ident : α → CallId) (gate : Gate α) : String :=
  summaryRecord "VibrationController" [
    ("is_vibrating", Text.flag gate.isRunning),
    ("vibrating_call", CallId.summary (gate.owner?.map ident)),
    ("generation", toString gate.generation.toNat)]

/-- The state of an alerter in one line. -/
def Alerter.summary {n : Nat} (s : Alerter n) : String :=
  summaryRecord "Ringer" [
    ("ringing_call", CallId.summary (s.ringing.map s.calls.id)),
    ("call_waiting_call", CallId.summary (s.waiting.map fun waiting => s.calls.id waiting.call)),
    ("vibration", s.motor.gate.summary s.calls.id),
    ("flash_on", Text.flag s.flashing)]

namespace Switchboard

variable {n : Nat}

/-- The state of a switchboard in one line. -/
def summary (s : Switchboard n) : String :=
  summaryRecord "CallAudioManager" [
    ("calls", toString s.tracked.length),
    ("bins", s.roster.headcount.summary),
    ("foreground", CallId.summary (s.front.map s.ident)),
    ("crs_mode", Text.flag s.carrierMode),
    ("ringer", s.alerter.summary)]

/-- An entry under a heading. -/
def entry (text : String) : String := "  " ++ text

def idEntries (s : Switchboard n) (places : List (Fin n)) : List String :=
  places.map fun place => entry (s.ident place).text

/-- The line for the call in front. -/
def frontLine (s : Switchboard n) : String :=
  match s.front with
  | none => "null"
  | some place => (s.call place).text

/-- The labels of the messages that the layers have not read. -/
def unreadLabels (s : Switchboard n) (labels : Desks → Option (List String)) : List String :=
  (s.desks.bind labels).getD []

/-- The lines of a report. -/
def reportLines (s : Switchboard n) : List String :=
  "All calls:" :: s.idEntries s.tracked ++
    Group.all.flatMap (fun group =>
      (group.label ++ ":") :: s.idEntries (s.roster.get group)) ++
    ["Foreground call:", s.frontLine] ++
    "Mode state machine pending messages:" ::
      (s.unreadLabels Desks.modePending?).map entry ++
    "Route state machine pending messages:" ::
      (s.unreadLabels Desks.routePending?).map entry

/-- The report as a text in which every line ends in a line break. -/
def reportText (s : Switchboard n) : String :=
  String.join (s.reportLines.map (· ++ "\n"))

end Switchboard

end PhoneAudio
