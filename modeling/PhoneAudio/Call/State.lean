import PhoneAudio.Text.Vocabulary

/-!
# Call states

The stations of a call from its creation to its end.
-/

namespace PhoneAudio.Call

/-- Where a call stands in its life. -/
inductive State where
  | created
  | connecting
  | selectAccount
  | dialing
  | pulling
  | ringing
  | simulatedRinging
  /-- Answered here, not yet acknowledged by the network. -/
  | answered
  | active
  | onHold
  | audioProcessing
  | disconnecting
  | disconnected
  | aborted
deriving DecidableEq

namespace State

def all : List State :=
  [created, connecting, selectAccount, dialing, pulling, ringing, simulatedRinging, answered,
    active, onHold, audioProcessing, disconnecting, disconnected, aborted]

def name : State → String
  | created => "New"
  | connecting => "Connecting"
  | selectAccount => "SelectPhoneAccount"
  | dialing => "Dialing"
  | pulling => "Pulling"
  | ringing => "Ringing"
  | simulatedRinging => "SimulatedRinging"
  | answered => "Answered"
  | active => "Active"
  | onHold => "OnHold"
  | audioProcessing => "AudioProcessing"
  | disconnecting => "Disconnecting"
  | disconnected => "Disconnected"
  | aborted => "Aborted"

/-- The state as a report shows it. -/
def label : State → String
  | created => "NEW"
  | connecting => "CONNECTING"
  | selectAccount => "SELECT_PHONE_ACCOUNT"
  | dialing => "DIALING"
  | pulling => "PULLING"
  | ringing => "RINGING"
  | simulatedRinging => "SIMULATED_RINGING"
  | answered => "ANSWERED"
  | active => "ACTIVE"
  | onHold => "ON_HOLD"
  | audioProcessing => "AUDIO_PROCESSING"
  | disconnecting => "DISCONNECTING"
  | disconnected => "DISCONNECTED"
  | aborted => "ABORTED"

instance : Text.Vocabulary State := ⟨all, name⟩

/-- An incoming call that waits for an answer, be the ringing real or simulated. -/
def isRinging : State → Bool
  | ringing => true
  | simulatedRinging => true
  | _ => false

def isActive : State → Bool
  | active => true
  | _ => false

theorem mem_all (state : State) : state ∈ all := by cases state <;> decide

end State

end PhoneAudio.Call
