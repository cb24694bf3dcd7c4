import PhoneAudio.Text.Hex

/-!
# Call identity

A call is known by a number of 128 bits. It is written as thirty-two hexadecimal
digits in groups of eight, four, four, four and twelve. On reading, the hyphens
may be missing, braces or a name-space label may enclose the written form, and
letters may be in either case.
-/

namespace PhoneAudio

/-- The identity of a call. -/
structure CallId where
  number : BitVec 128
deriving DecidableEq

namespace CallId

def ofNat (n : Nat) : CallId := ⟨BitVec.ofNat 128 n⟩

def toNat (id : CallId) : Nat := id.number.toNat

/-- Puts a hyphen after every group of the written form. -/
def hyphenate (digits : List Char) : List Char :=
  digits.take 8 ++ ['-'] ++ (digits.drop 8).take 4 ++ ['-'] ++ (digits.drop 12).take 4 ++
    ['-'] ++ (digits.drop 16).take 4 ++ ['-'] ++ digits.drop 20

def characters (id : CallId) : List Char := hyphenate (Text.Hex.fixed 32 id.toNat)

/-- The written form of an identity. -/
def text (id : CallId) : String := String.ofList id.characters

/-- The identity that thirty-two digits write. -/
def ofDigits? (digits : List Char) : Option CallId :=
  if digits.length = 32 then (Text.Hex.read? digits).map ofNat else none

/-- The identity that hyphenated digits write. -/
def ofHyphenated? (written : List Char) : Option CallId :=
  let digits := written.take 8 ++ (written.drop 9).take 4 ++ (written.drop 14).take 4 ++
    (written.drop 19).take 4 ++ written.drop 24
  if written = hyphenate digits then ofDigits? digits else none

/-- The name-space label in lower case. -/
def urnLabel : List Char := "urn:uuid:".toList

/-- The identity that a text writes, in any of the accepted forms. -/
def read? (text : String) : Option CallId :=
  let written := text.toList
  match written.length with
  | 32 => ofDigits? written
  | 36 => ofHyphenated? written
  | 38 =>
    if written.head? = some '\x7b' ∧ written.getLast? = some '\x7d' then
      ofHyphenated? (written.drop 1).dropLast
    else none
  | 45 => if (written.take 9).map Char.toLower = urnLabel then ofHyphenated? (written.drop 9) else none
  | _ => none

example : (ofNat 42).text = "00000000-0000-0000-0000-00000000002a" := by decide +kernel
example : read? "00000000-0000-0000-0000-00000000002A" = some (ofNat 42) := by decide +kernel

end CallId

end PhoneAudio
