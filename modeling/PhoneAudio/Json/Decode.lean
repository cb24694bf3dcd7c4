import PhoneAudio.Json.Value
import PhoneAudio.Text.Vocabulary

/-!
# Decoding values

A decoder turns a value into a member of a domain type, or refuses it. Records
are read from an object, where every name of the record occurs at most once and
other names are skipped, or from an array that lists the fields in their order.
A choice is read from a string that names it or from an object whose only
member does.
-/

namespace PhoneAudio.Json

/-- A reading of values of one type. -/
abbrev Decoder (α : Type) := Json → Option α

def bool? : Decoder Bool
  | .bool value => some value
  | _ => none

def text? : Decoder String
  | .string text => text
  | _ => none

/-- A natural number below a bound. -/
def below? (bound : Nat) : Decoder Nat
  | .number value => value.below? bound
  | _ => none

def single? : Decoder Number.Single
  | .number value => value.single?
  | _ => none

/-- A value that may be null. -/
def nullable? {α : Type} (decode : Decoder α) : Decoder (Option α)
  | .null => some none
  | value => (decode value).map some

def list? {α : Type} (decode : Decoder α) : Decoder (List α)
  | .array items => items.mapM decode
  | _ => none

/-! ## Choices -/

/-- The name of a choice and what comes with it. -/
def choice? : Json → Option (String × Option Json)
  | .string name => name.map (·, none)
  | .object [(name, payload)] => name.map (·, some payload)
  | _ => none

/-- A choice with nothing to carry comes alone or with null. -/
def isBare : Option Json → Bool
  | none => true
  | some .null => true
  | some _ => false

/-- A word of a vocabulary. -/
def word? {α : Type} [Text.Vocabulary α] : Decoder α := fun value => do
  let (name, payload) ← choice? value
  if isBare payload then Text.Vocabulary.read? name else none

/-! ## Records -/

/-- The fields of a record that are there. -/
abbrev Record := String → Option Json

/-- Members under their names, if every name is a text. -/
def named? (members : List (Option String × Json)) : Option (List (String × Json)) :=
  members.mapM fun member => member.1.map (·, member.2)

/-- Whether no name of the record is given twice. -/
def isUnambiguous (names : List String) (members : List (String × Json)) : Bool :=
  names.all fun name => (members.filter fun member => member.1 == name).length ≤ 1

/-- The fields of a record with the given names. An array lists all of them, or, if
the record may be cut short, the first few. -/
def record? (names : List String) (mayBeShort : Bool) : Decoder Record
  | .object members => do
    let members ← named? members
    if isUnambiguous names members then some fun name => members.lookup name else none
  | .array items =>
    -- a surplus item is an error in either kind of record
    if items.length = names.length ∨ (mayBeShort ∧ items.length < names.length) then
      some fun name => (names.zip items).lookup name
    else none
  | _ => none

namespace Record

/-- A field that has to be there. -/
def required {α : Type} (record : Record) (name : String) (decode : Decoder α) : Option α :=
  (record name).bind decode

/-- A field with a value to take when it is not there. -/
def orElse {α : Type} (record : Record) (name : String) (default : α) (decode : Decoder α) :
    Option α :=
  match record name with
  | none => some default
  | some value => decode value

/-- A field that may be missing or null. -/
def optional {α : Type} (record : Record) (name : String) (decode : Decoder α) :
    Option (Option α) :=
  record.orElse name none (nullable? decode)

end Record

end PhoneAudio.Json
