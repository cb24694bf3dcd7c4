import PhoneAudio.Text.Blank
import PhoneAudio.Text.Digits
import PhoneAudio.Vibration.Effect

/-!
# Ringing patterns

The vibrations that accompany a ring. A phone plays either its own long pulse or
one of a few simple patterns, among them three pulses that the user writes down
as three durations with commas between them.
-/

namespace PhoneAudio.Vibration

/-- The pattern that the user picked for incoming calls. -/
inductive Pattern where
  | simple
  | dzzzDa
  | mmMmMm
  | daDaDzzz
  | daDzzzDa
  /-- Three pulses of the user's own lengths. -/
  | custom
deriving DecidableEq

namespace Pattern

def all : List Pattern := [simple, dzzzDa, mmMmMm, daDaDzzz, daDzzzDa, custom]

def name : Pattern → String
  | simple => "simple"
  | dzzzDa => "dzzz_da"
  | mmMmMm => "mm_mm_mm"
  | daDaDzzz => "da_da_dzzz"
  | daDzzzDa => "da_dzzz_da"
  | custom => "custom"

instance : Text.Vocabulary Pattern := ⟨all, name⟩

/-- The pattern that a stored number picks; an unknown number picks the simple one. -/
def ofSetting (value : Int) : Pattern :=
  if value = 1 then dzzzDa
  else if value = 2 then mmMmMm
  else if value = 3 then daDaDzzz
  else if value = 4 then daDzzzDa
  else if value = 5 then custom
  else simple

end Pattern

/-! ## Built-in effects -/

/-- Two or three pulses of full strength between pauses. -/
def fiveBeats : List UInt8 := [0, 255, 0, 255, 0]

def sevenBeats : List UInt8 := [0, 255, 0, 255, 0, 255, 0]

/-- Priming pulses and then a buzz that grows; only the buzz repeats. -/
def pulse : Effect :=
  .waveform {
    timings := [0, 12, 250, 12, 500] ++ List.replicate 14 50 ++ [300, 1000]
    amplitudes := fiveBeats ++
      [77, 77, 78, 79, 81, 84, 87, 93, 101, 114, 133, 162, 205, 255, 255, 0]
    loopFrom := some 5 }

def simpleEffect : Effect := .waveform ⟨[0, 800, 800], [0, 255, 0], some 1⟩

/-- The built-in effect of a pattern. The custom pattern has none of its own. -/
def Pattern.effect : Pattern → Effect
  | dzzzDa => .waveform ⟨[0, 500, 200, 70, 720], fiveBeats, some 1⟩
  | mmMmMm => .waveform ⟨[0, 300, 400, 300, 400, 300, 1400], sevenBeats, some 1⟩
  | daDaDzzz => .waveform ⟨[0, 70, 80, 70, 180, 600, 1050], sevenBeats, some 1⟩
  | daDzzzDa => .waveform ⟨[0, 80, 200, 600, 150, 60, 1050], sevenBeats, some 1⟩
  | simple => simpleEffect
  | custom => simpleEffect

/-! ## Custom patterns -/

/-- Splits at the first comma, if there is one. -/
def cutAtComma? : List Char → Option (List Char × List Char)
  | [] => none
  | c :: rest =>
    if c = ',' then some ([], rest)
    else (cutAtComma? rest).map fun (before, after) => (c :: before, after)

/-- One duration; blanks around it do not count. -/
def duration? (field : List Char) : Except Flaw Nat :=
  match Text.word? (Text.trim field) with
  | some duration => .ok duration
  | none => .error (.notADuration (String.ofList (Text.trim field)))

/-- The three durations of a written pattern. What follows the second comma is the
third field, so a fourth field spoils it. -/
def durations? (pattern : List Char) : Except Flaw (Nat × Nat × Nat) :=
  match cutAtComma? pattern with
  | none => .error (.fieldsMissing (String.ofList pattern))
  | some (first, rest) =>
    -- only two commas divide; a third one is left in the last field
    match cutAtComma? rest with
    | none => .error (.fieldsMissing (String.ofList pattern))
    | some (second, third) => do
      let a ← duration? first
      let b ← duration? second
      let c ← duration? third
      .ok (a, b, c)

/-- Three pulses with pauses of four hundred milliseconds after each. -/
def threePulses (a b c : Nat) : Waveform :=
  ⟨[0, a, 400, b, 400, c, 400], sevenBeats, some 1⟩

/-- The effect of the user's own pattern. A pattern that is missing or blank stands
for `0,800,800`. -/
def customEffect? (pattern : Option String) : Except Flaw Effect :=
  match Text.trim (pattern.getD "").toList with
  | [] => (threePulses 0 800 800).effect?
  | written => do
    let (a, b, c) ← durations? written
    (threePulses a b c).effect?

/-- The vibration of a ring for the picked pattern. A phone without simple patterns
always pulses, and a custom pattern that cannot be read gives the simple effect. -/
def ringEffect (pattern : Pattern) (simplePatterns : Bool) (custom : Option String) : Effect :=
  if !simplePatterns then pulse
  else
    match pattern with
    | .custom =>
      match customEffect? custom with
      | .ok effect => effect
      | .error _ => simpleEffect
    | other => other.effect

example : (customEffect? (some " 1, +2 ,003 ")).toOption =
    some (.waveform (threePulses 1 2 3)) := by decide +kernel

end PhoneAudio.Vibration
