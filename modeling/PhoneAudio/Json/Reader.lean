import PhoneAudio.Json.Value
import PhoneAudio.Text.Hex

/-!
# Reading JSON text

Each reader takes the characters that are left and returns what it read with the
characters after it. The readers of values call each other; they are given more
steps than the text has characters, so the count never runs out on a text.
-/

namespace PhoneAudio.Json

/-- The four characters that may stand between tokens. -/
def isGap (c : Char) : Bool := c == ' ' || c == '\n' || c == '\t' || c == '\r'

def skipGaps (text : List Char) : List Char := text.dropWhile isGap

/-! ## Strings -/

/-- The character that a one-letter escape stands for. -/
def shortEscape? : Char → Option Char
  | '"' => some '"'
  | '\\' => some '\\'
  | '/' => some '/'
  | 'b' => some '\x08'
  | 'f' => some '\x0c'
  | 'n' => some '\n'
  | 'r' => some '\r'
  | 't' => some '\t'
  | _ => none

/-- The code units of a string up to its closing quote. An unescaped control
character is refused. -/
def codes : List Char → Option (List Nat × List Char)
  | [] => none
  | '"' :: rest => some ([], rest)
  | '\\' :: 'u' :: a :: b :: c :: d :: rest => do
    let code ← Text.Hex.read? [a, b, c, d]
    let (more, rest) ← codes rest
    some (code :: more, rest)
  | '\\' :: letter :: rest => do
    let c ← shortEscape? letter
    let (more, rest) ← codes rest
    some (c.toNat :: more, rest)
  | c :: rest =>
    if c.toNat < 0x20 ∨ c = '\\' then none
    else do
      let (more, rest) ← codes rest
      some (c.toNat :: more, rest)

def isLeading (code : Nat) : Bool := 0xD800 ≤ code && code < 0xDC00

def isTrailing (code : Nat) : Bool := 0xDC00 ≤ code && code < 0xE000

/-- Joins the halves of surrogate pairs; there is no text with a half on its own. -/
def joinPairs : List Nat → Option (List Char)
  | [] => some []
  | [code] =>
    if isLeading code || isTrailing code then none else some [Char.ofNat code]
  | code :: next :: rest =>
    if isTrailing code then none
    else if isLeading code then
      if isTrailing next then do
        let more ← joinPairs rest
        some (Char.ofNat (0x10000 + (code - 0xD800) * 0x400 + (next - 0xDC00)) :: more)
      else none
    else do
      let more ← joinPairs (next :: rest)
      some (Char.ofNat code :: more)

/-- The string after its opening quote. -/
def string? (text : List Char) : Option (Option String × List Char) := do
  let (units, rest) ← codes text
  some ((joinPairs units).map String.ofList, rest)

/-! ## Numbers -/

/-- The digits at the front, as values. -/
def digits (text : List Char) : List Nat × List Char :=
  ((text.takeWhile Char.isDigit).map fun c => c.toNat - '0'.toNat,
    text.dropWhile Char.isDigit)

/-- At least one digit. -/
def digits? (text : List Char) : Option (List Nat × List Char) :=
  match digits text with
  | ([], _) => none
  | found => some found

/-- A whole part: a zero on its own, or digits that do not start with one. -/
def whole? : List Char → Option (List Nat × List Char)
  | '0' :: rest => some ([0], rest)
  | text => digits? text

/-- A point and the digits after it, if there is a point. -/
def fraction? : List Char → Option (Option (List Nat) × List Char)
  | '.' :: rest => (digits? rest).map fun (found, rest) => (some found, rest)
  | text => some (none, text)

/-- The digits of an exponent after its sign. -/
def power? (negative : Bool) (text : List Char) : Option (Option Int × List Char) :=
  (digits? text).map fun (found, rest) =>
    let size : Int := Text.ofDigits found
    (some (if negative then -size else size), rest)

/-- An exponent, if there is one. -/
def exponent? : List Char → Option (Option Int × List Char)
  | [] => some (none, [])
  | c :: rest =>
    if c = 'e' ∨ c = 'E' then
      match rest with
      | '-' :: more => power? true more
      | '+' :: more => power? false more
      | more => power? false more
    else some (none, c :: rest)

/-- The rest of a numeral after its sign. -/
def unsigned? (negative : Bool) (text : List Char) : Option (Json × List Char) := do
  let (whole, rest) ← whole? text
  let (fraction, rest) ← fraction? rest
  let (exponent, rest) ← exponent? rest
  some (.number ⟨negative, whole, fraction, exponent⟩, rest)

def number? : List Char → Option (Json × List Char)
  | '-' :: rest => unsigned? true rest
  | text => unsigned? false text

/-! ## Values -/

mutual

/-- A value at the front of the text, after gaps. -/
def value? : Nat → List Char → Option (Json × List Char)
  | 0, _ => none
  | steps + 1, text =>
    match skipGaps text with
    | 'n' :: 'u' :: 'l' :: 'l' :: rest => some (.null, rest)
    | 't' :: 'r' :: 'u' :: 'e' :: rest => some (.bool true, rest)
    | 'f' :: 'a' :: 'l' :: 's' :: 'e' :: rest => some (.bool false, rest)
    | '"' :: rest => (string? rest).map fun (text, rest) => (.string text, rest)
    | '[' :: rest =>
      match skipGaps rest with
      | ']' :: rest => some (.array [], rest)
      | rest => (items? steps rest).map fun (items, rest) => (.array items, rest)
    | '\x7b' :: rest =>
      match skipGaps rest with
      | '\x7d' :: rest => some (.object [], rest)
      | rest => (members? steps rest).map fun (members, rest) => (.object members, rest)
    | rest => number? rest

/-- One or more values with commas between them, and the closing bracket. -/
def items? : Nat → List Char → Option (List Json × List Char)
  | 0, _ => none
  | steps + 1, text => do
    let (item, rest) ← value? steps text
    match skipGaps rest with
    | ']' :: rest => some ([item], rest)
    | ',' :: rest =>
      let (more, rest) ← items? steps rest
      some (item :: more, rest)
    | _ => none

/-- One or more named values with commas between them, and the closing brace. -/
def members? : Nat → List Char → Option (List (Option String × Json) × List Char)
  | 0, _ => none
  | steps + 1, text =>
    match skipGaps text with
    | '"' :: rest => do
      let (name, rest) ← string? rest
      match skipGaps rest with
      | ':' :: rest =>
        let (value, rest) ← value? steps rest
        match skipGaps rest with
        | '\x7d' :: rest => some ([(name, value)], rest)
        | ',' :: rest =>
          let (more, rest) ← members? steps rest
          some ((name, value) :: more, rest)
        | _ => none
      | _ => none
    | _ => none

end

/-- The value that a whole text writes. -/
def read? (text : String) : Option Json := do
  let characters := text.toList
  let (value, rest) ← value? (characters.length + 1) characters
  match skipGaps rest with
  | [] => some value
  | _ :: _ => none

end PhoneAudio.Json
