import PhoneAudio.Text.Vocabulary

/-!
# Video of a call

Which way video flows in a call, if it flows at all.
-/

namespace PhoneAudio

/-- The direction of a call's video. -/
inductive Video where
  | audioOnly
  | sending
  | receiving
  | bothWays
deriving DecidableEq

namespace Video

def all : List Video := [audioOnly, sending, receiving, bothWays]

def name : Video → String
  | audioOnly => "AudioOnly"
  | sending => "TxEnabled"
  | receiving => "RxEnabled"
  | bothWays => "Bidirectional"

instance : Text.Vocabulary Video := ⟨all, name⟩

def isVideo : Video → Bool
  | audioOnly => false
  | _ => true

/-- Whether the local side sees the remote one. -/
def isReceived : Video → Bool
  | receiving => true
  | bothWays => true
  | _ => false

end Video

end PhoneAudio
