import PhoneAudio.Text.Hex
import PhoneAudio.Text.Markless

/-!
# Quoted text

A text in a diagnostic line stands between double quotes. Quotes, backslashes
and the common controls have a short escape, every other character that leaves
no mark of its own is written by its code point, and the rest stand for
themselves. So a quoted text never breaks the line it stands in.
-/

namespace PhoneAudio.Text

/-- How one character is written between the quotes. -/
def escape (c : Char) : List Char :=
  if c = '"' then ['\\', '"']
  else if c = '\\' then ['\\', '\\']
  else if c = '\n' then ['\\', 'n']
  else if c = '\r' then ['\\', 'r']
  else if c = '\t' then ['\\', 't']
  else if c.toNat = 0 then ['\\', '0']
  else if isMarkless c then
    ['\\', 'u', '\x7b'] ++ Hex.shortest c.toNat ++ ['\x7d']
  else [c]

/-- A text between quotes, with its escapes. -/
def quoted (text : String) : String :=
  String.ofList ('"' :: text.toList.flatMap escape ++ ['"'])

/-- A text that may be missing, as a diagnostic line writes it. -/
def quotedOption : Option String → String
  | none => "None"
  | some text => "Some(" ++ quoted text ++ ")"

example : quoted "a\"b\\c\n" = "\"a\\\"b\\\\c\\n\"" := by decide +kernel
example : (quoted (String.singleton (Char.ofNat 0x7F))).length = 8 := by decide +kernel

end PhoneAudio.Text
