import PhoneAudio.Json.Numeral

/-!
# Values

The tree of a JSON text. A numeral keeps its digits, and a string that holds
half of a surrogate pair is no text: such a string is known to be a string and
nothing else. Object members keep their order and may repeat a name.
-/

namespace PhoneAudio

/-- A JSON value. -/
inductive Json where
  | null
  | bool (value : Bool)
  | number (value : Json.Numeral)
  | string (text : Option String)
  | array (items : List Json)
  | object (members : List (Option String × Json))

end PhoneAudio
