import PhoneAudio.Alerter.Plan

/-!
# The alerter over time

A wait for the ringtone player and the ends of brief vibrations come to pass when
the clock is let run. What can come to pass at once does so first, in the order in
which it got in line: an ending of no length when its vibration starts, a wait
when it is new and again when word comes. Of a wait, the word is looked at first
and the deadline second. Then the clock moves, and what falls due comes to pass in
the order of the deadlines. Where there is no runtime a wait does not go on, but the
ends of brief vibrations come all the same.
-/

namespace PhoneAudio.Alerter

variable {n : Nat}

/-- The player tells, or gives up, if it is still waited for. Word that comes to a
wait in line does not change its place. -/
def signal (s : Alerter n) (signal : HapticsSignal) : Alerter n :=
  match s.wait with
  | none => s
  | some wait =>
    if wait.signal = .awaited then
      { s with wait := some { wait with signal, ahead := wait.ahead.or (some s.motor.dueCount) } }
    else s

/-- Looks at a wait whose turn it is. -/
def attend (s : Alerter n) (wait : Wait n) : Alerter n :=
  match wait.signal with
  | .known coupled => { s with wait := none }.carryOut (some wait.generation) wait.plan coupled
  | .lost => { s with wait := none }.fallBack (some wait.generation) wait.plan
  | .awaited =>
    if wait.deadline ≤ s.motor.now then
      { s with wait := none }.fallBack (some wait.generation) wait.plan
    else { s with wait := some { wait with ahead := none } }

def passUntil (s : Alerter n) (deadline : Nat) : Alerter n :=
  (s.onMotor fun motor => (motor.passUntil deadline, ())).1

def passFirst (s : Alerter n) (count : Nat) : Alerter n :=
  (s.onMotor fun motor => (motor.passFirst count, ())).1

/-- The turn of a wait that stands in line, after everything that is ahead of it. -/
def takeTurn (s : Alerter n) : Alerter n :=
  match s.wait with
  | none => s
  | some wait =>
    match wait.ahead with
    | none => s
    | some ahead => (s.passFirst ahead).attend wait

/-- Carries out the plan of a wait that lasted too long by some time. -/
def timeOut (s : Alerter n) (deadline : Nat) : Alerter n :=
  match s.wait with
  | none => s
  | some wait =>
    if wait.deadline ≤ deadline then
      { s.passUntil wait.deadline with wait := none }.fallBack (some wait.generation) wait.plan
    else s

/-- Everything that can come to pass at this time does. A wait has a turn only where there
is a runtime. -/
def settle (s : Alerter n) : Alerter n :=
  (if s.motor.timed then s.takeTurn else s).passUntil s.motor.now

/-- The clock moves on to some time, with the endings up to then. -/
def moveClock (s : Alerter n) (time : Nat) : Alerter n :=
  let s := s.passUntil time
  { s with motor := { s.motor with now := time } }

/-- The clock moves on by some milliseconds. -/
def advance (s : Alerter n) (milliseconds : Nat) : Alerter n :=
  -- what can come to pass at once does so before the clock moves
  let settled := s.settle
  let time := settled.motor.now + milliseconds
  (if s.motor.timed then settled.timeOut time else settled).moveClock time

end PhoneAudio.Alerter
