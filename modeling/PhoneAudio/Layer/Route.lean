import PhoneAudio.Fault
import PhoneAudio.Text.Flag
import PhoneAudio.Text.Quoted

/-!
# The route layer

Where the audio of a call can go, what the layer that switches it is asked for,
and what it reports back.
-/

namespace PhoneAudio

/-- Where the audio of a call can go. -/
inductive Route where
  | earpiece
  | bluetooth
  | wiredHeadset
  | speaker
  /-- The headset if one is plugged in, else the earpiece. -/
  | wiredOrEarpiece
deriving DecidableEq

namespace Route

def all : List Route := [earpiece, bluetooth, wiredHeadset, speaker, wiredOrEarpiece]

def name : Route → String
  | earpiece => "Earpiece"
  | bluetooth => "Bluetooth"
  | wiredHeadset => "WiredHeadset"
  | speaker => "Speaker"
  | wiredOrEarpiece => "WiredOrEarpiece"

/-- The route as a report shows it. -/
def label : Route → String
  | earpiece => "EARPIECE"
  | bluetooth => "BLUETOOTH"
  | wiredHeadset => "WIRED_HEADSET"
  | speaker => "SPEAKER"
  | wiredOrEarpiece => "WIRED_OR_EARPIECE"

instance : Text.Vocabulary Route := ⟨all, name⟩

/-- One bit for every route of its own; a choice of two routes has the bits of both. -/
def number : Route → Int
  | earpiece => 1
  | bluetooth => 2
  | wiredHeadset => 4
  | speaker => 8
  | wiredOrEarpiece => 5

/-- The route with a number. -/
def ofNumber? (value : Int) : Except Fault Route :=
  match all.find? fun route => route.number == value with
  | some route => .ok route
  | none => .error (.route value)

theorem ofNumber?_number (route : Route) : ofNumber? route.number = .ok route := by
  cases route <;> rfl

theorem number_of_ofNumber? {value : Int} {route : Route} (h : ofNumber? value = .ok route) :
    route.number = value := by
  unfold ofNumber? at h
  split at h
  next found hfound =>
    cases h
    exact eq_of_beq (List.find?_some hfound :)
  · cases h

end Route

/-- How much of the audio focus the calls need. -/
inductive Focus where
  | none
  | active
  | ringing
deriving DecidableEq

namespace Focus

def all : List Focus := [none, active, ringing]

def name : Focus → String
  | none => "NoFocus"
  | active => "ActiveFocus"
  | ringing => "RingingFocus"

instance : Text.Vocabulary Focus := ⟨all, name⟩

end Focus

namespace Route

/-- A request to the route layer. -/
inductive Request where
  /-- The call in front changed: work out the route again. -/
  | update
  /-- Switch to the speaker without the user having asked. -/
  | autoSpeaker
  | bluetooth (address : Option String)
  | speaker
  | headset
  | earpiece
  | baseline (includeBluetooth : Bool)
  | muteOn
  | muteOff
  | toggleMute
  | focus (level : Focus)
deriving DecidableEq

namespace Request

/-- The request as a list of unread messages shows it. -/
def label : Request → String
  | update => "UpdateSystemAudioRoute"
  | autoSpeaker => "SwitchSpeaker"
  | bluetooth address =>
    "UserSwitchBluetooth \x7b address: " ++ Text.quotedOption address ++ " \x7d"
  | speaker => "UserSwitchSpeaker"
  | headset => "UserSwitchHeadset"
  | earpiece => "UserSwitchEarpiece"
  | baseline includeBluetooth =>
    "UserSwitchBaselineRoute \x7b include_bluetooth: " ++ Text.flag includeBluetooth ++ " \x7d"
  | muteOn => "MuteOn"
  | muteOff => "MuteOff"
  | toggleMute => "ToggleMute"
  | focus level => "SwitchFocus(" ++ level.name ++ ")"

/-- The requests that stand on their own. -/
def bare : List Request :=
  [update, autoSpeaker, speaker, headset, earpiece, muteOn, muteOff, toggleMute]

end Request

/-- What the route layer last reported. -/
structure Report where
  route : Route := .earpiece
  muted : Bool := false
  supported : List Route := [.earpiece, .speaker]
  bluetoothDevice : Option String := none
deriving DecidableEq

end Route

end PhoneAudio
