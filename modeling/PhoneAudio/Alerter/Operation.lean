import PhoneAudio.Alerter.Quiet
import PhoneAudio.Alerter.Ring
import PhoneAudio.Alerter.Time

/-!
# Operations of the alerter

All that can happen to an alerter: what it is asked for, what the user and the
owners of the calls do, what the ringtone player tells, and the passing of time.
-/

namespace PhoneAudio.Alerter

variable {n : Nat}

/-- What can happen to an alerter. -/
inductive Operation (n : Nat) where
  | startRinging (call : Option (Fin n)) (handsFree : Bool)
  | startCarrierRing (call : Option (Fin n)) (handsFree : Bool)
  | stopRinging
  | startWaiting (call : Fin n) (reason : Option String)
  | stopWaiting
  | buzzOnConnect
  | applySettings (settings : Settings)
  /-- The surroundings change without a word, all but whether there is a flash: that
  is settled when the phone is made. -/
  | surroundings (surroundings : Surroundings)
  /-- The user changes a volume. -/
  | volume (stream : Stream) (level : Nat)
  | revise (call : Fin n) (revision : Call.Revision)
  | note (call : Fin n) (event : Call.Event) (detail : Option String)
  /-- The ringtone player tells about haptics. -/
  | tellHaptics (coupled : Bool)
  /-- The ringtone player gives up on haptics. -/
  | loseHaptics
  | settle
  | advance (milliseconds : Nat)

/-- The next state, and the answer of an operation that has one. -/
def perform (s : Alerter n) : Operation n → Alerter n × Option Bool
  | .startRinging place handsFree => (s.startRinging place handsFree).map id some
  | .startCarrierRing place handsFree => (s.startCarrierRing place handsFree).map id some
  | .stopRinging => (s.stopRinging, none)
  | .startWaiting place reason => (s.startWaiting place reason, none)
  | .stopWaiting => (s.stopWaiting, none)
  | .buzzOnConnect => s.buzzOnConnect.map id some
  | .applySettings settings => (s.applySettings settings, none)
  | .surroundings surroundings =>
    ({ s with surroundings := { surroundings with hasFlash := s.surroundings.hasFlash } }, none)
  | .volume stream level => (s.changeVolume stream level, none)
  | .revise place revision => ({ s with calls := s.calls.revise place revision }, none)
  | .note place event detail => ({ s with calls := s.calls.record place event detail }, none)
  | .tellHaptics coupled => (s.signal (.known coupled), none)
  | .loseHaptics => (s.signal .lost, none)
  | .settle => (s.settle, none)
  | .advance milliseconds => (s.advance milliseconds, none)

/-- The state after a run of operations. -/
def run (s : Alerter n) (operations : List (Operation n)) : Alerter n :=
  operations.foldl (fun s operation => (s.perform operation).1) s

end PhoneAudio.Alerter
