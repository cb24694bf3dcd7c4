import PhoneAudio.Json.Value
import PhoneAudio.Text.Digits

/-!
# The grammar of JSON texts

Which texts write a value, said without a reader. Every choice that a writer has is left
open: gaps between the tokens, a character by itself or by any escape that stands for it,
digits of either case, numerals with leading and trailing zeros where these may stand, and
members in any order. A numeral is given with its digits, since what number it stands for
depends on who asks.

Values, the items of an array and the members of an object are written by each other. They
are the three kinds of a `Phrase`, so that one relation covers them and one induction goes
through all three (`Writes`).
-/

namespace PhoneAudio.Json

/-- Nothing but blanks, tabs and line breaks. -/
def IsGap (gap : List Char) : Prop := ∀ c ∈ gap, c = ' ' ∨ c = '\n' ∨ c = '\t' ∨ c = '\r'

theorem isGap_nil : IsGap [] := fun _ hmem => absurd hmem List.not_mem_nil

/-! ## Strings -/

/-- The one-letter escapes, and the characters that they stand for. -/
def shortEscapes : List (Char × Char) :=
  [('"', '"'), ('\\', '\\'), ('/', '/'), ('b', '\x08'), ('f', '\x0c'), ('n', '\n'), ('r', '\r'),
    ('t', '\t')]

/-- A hexadecimal digit, in either case. -/
def IsHexDigit (c : Char) (value : Nat) : Prop :=
  value < 16 ∧ (c = Nat.digitChar value ∨ c = (Nat.digitChar value).toUpper)

/-- What stands between the quotes of a string, and the codes that it writes. -/
inductive Codes : List Nat → List Char → Prop
  | nil : Codes [] []
  | plain {c : Char} {more : List Nat} {text : List Char} (hcontrol : 0x20 ≤ c.toNat)
      (hquote : c ≠ '"') (hslash : c ≠ '\\') (h : Codes more text) :
      Codes (c.toNat :: more) (c :: text)
  | short {letter c : Char} {more : List Nat} {text : List Char}
      (hletter : (letter, c) ∈ shortEscapes) (h : Codes more text) :
      Codes (c.toNat :: more) ('\\' :: letter :: text)
  | code {a b c d : Char} {w x y z : Nat} {more : List Nat} {text : List Char}
      (ha : IsHexDigit a w) (hb : IsHexDigit b x) (hc : IsHexDigit c y) (hd : IsHexDigit d z)
      (h : Codes more text) :
      Codes ((((w * 16 + x) * 16 + y) * 16 + z) :: more) ('\\' :: 'u' :: a :: b :: c :: d :: text)

/-- The codes of a text: a character has its own, or, above those of sixteen bits, the two
halves of a surrogate pair. -/
inductive Encodes : List Char → List Nat → Prop
  | nil : Encodes [] []
  | own {c : Char} {text : List Char} {more : List Nat} (h : Encodes text more) :
      Encodes (c :: text) (c.toNat :: more)
  | pair {c : Char} {text : List Char} {more : List Nat} (hhigh : 0x10000 ≤ c.toNat)
      (h : Encodes text more) :
      Encodes (c :: text)
        ((0xD800 + (c.toNat - 0x10000) / 0x400) ::
          (0xDC00 + (c.toNat - 0x10000) % 0x400) :: more)

/-- A string with its quotes. With half of a surrogate pair on its own it is no text. -/
inductive WritesString : Option String → List Char → Prop
  | text {text : String} {codes : List Nat} {written : List Char} (hcodes : Codes codes written)
      (h : Encodes text.toList codes) : WritesString (some text) ('"' :: (written ++ ['"']))
  | broken {codes : List Nat} {written : List Char} (hcodes : Codes codes written)
      (h : ∀ text, ¬Encodes text codes) : WritesString none ('"' :: (written ++ ['"']))

/-- A character that needs no escape. -/
def isPlain (c : Char) : Bool := decide (0x20 ≤ c.toNat) && c != '"' && c != '\\'

/-- Characters that need no escape may all stand for themselves. -/
theorem writesString_plain {text : String} (h : text.toList.all isPlain = true) :
    WritesString (some text) ('"' :: (text.toList ++ ['"'])) := by
  have hencodes : ∀ row : List Char, Encodes row (row.map Char.toNat) := by
    intro row
    induction row with
    | nil => exact .nil
    | cons c rest ih => exact .own ih
  have hcodes : ∀ row : List Char, row.all isPlain = true → Codes (row.map Char.toNat) row := by
    intro row hrow
    induction row with
    | nil => exact .nil
    | cons c rest ih =>
      obtain ⟨hplain, hrest⟩ : isPlain c = true ∧ rest.all isPlain = true := by simpa using hrow
      obtain ⟨⟨hcontrol, hquote⟩, hslash⟩ :
          (0x20 ≤ c.toNat ∧ c ≠ '"') ∧ c ≠ '\\' := by simpa [isPlain] using hplain
      exact .plain hcontrol hquote hslash (ih hrest)
  exact .text (hcodes _ h) (hencodes _)

/-! ## Numerals -/

/-- One or more decimal digits. -/
structure WritesDigits (digits : List Nat) (text : List Char) : Prop where
  nonempty : digits ≠ []
  small : ∀ digit ∈ digits, digit < 10
  text_eq : text = digits.map Nat.digitChar

/-- A point and the digits after it, if there is a point. -/
inductive WritesFraction : Option (List Nat) → List Char → Prop
  | none : WritesFraction none []
  | some {digits : List Nat} {text : List Char} (h : WritesDigits digits text) :
      WritesFraction (some digits) ('.' :: text)

/-- An exponent, if there is one. -/
inductive WritesExponent : Option Int → List Char → Prop
  | none : WritesExponent none []
  | bare {mark : Char} {digits : List Nat} {text : List Char} (hmark : mark = 'e' ∨ mark = 'E')
      (h : WritesDigits digits text) :
      WritesExponent (some (Text.ofDigits digits)) (mark :: text)
  | plus {mark : Char} {digits : List Nat} {text : List Char} (hmark : mark = 'e' ∨ mark = 'E')
      (h : WritesDigits digits text) :
      WritesExponent (some (Text.ofDigits digits)) (mark :: '+' :: text)
  | minus {mark : Char} {digits : List Nat} {text : List Char} (hmark : mark = 'e' ∨ mark = 'E')
      (h : WritesDigits digits text) :
      WritesExponent (some (-Text.ofDigits digits)) (mark :: '-' :: text)

/-- A numeral. Its whole part begins with a zero only if it is one. -/
inductive WritesNumeral : Numeral → List Char → Prop
  | mk {negative : Bool} {whole : List Nat} {fraction : Option (List Nat)} {exponent : Option Int}
      {first second third : List Char} (hwhole : WritesDigits whole first)
      (hzero : whole.head? = some 0 → whole = [0]) (hfraction : WritesFraction fraction second)
      (hexponent : WritesExponent exponent third) :
      WritesNumeral ⟨negative, whole, fraction, exponent⟩
        ((if negative then ['-'] else []) ++ (first ++ (second ++ third)))

/-! ## Values -/

/-- What a piece of a text can write. -/
inductive Phrase where
  | value (value : Json)
  /-- One or more items of an array. -/
  | items (items : List Json)
  /-- One or more members of an object. -/
  | members (members : List (Option String × Json))

/-- A piece of a text writes a phrase. -/
inductive Writes : Phrase → List Char → Prop
  | null : Writes (.value .null) "null".toList
  | true : Writes (.value (.bool true)) "true".toList
  | false : Writes (.value (.bool false)) "false".toList
  | number {numeral : Numeral} {text : List Char} (h : WritesNumeral numeral text) :
      Writes (.value (.number numeral)) text
  | string {string : Option String} {text : List Char} (h : WritesString string text) :
      Writes (.value (.string string)) text
  | emptyArray {gap : List Char} (hgap : IsGap gap) :
      Writes (.value (.array [])) ('[' :: (gap ++ [']']))
  | array {items : List Json} {text : List Char} (h : Writes (.items items) text) :
      Writes (.value (.array items)) ('[' :: (text ++ [']']))
  | emptyObject {gap : List Char} (hgap : IsGap gap) :
      Writes (.value (.object [])) ('\x7b' :: (gap ++ ['\x7d']))
  | object {members : List (Option String × Json)} {text : List Char}
      (h : Writes (.members members) text) :
      Writes (.value (.object members)) ('\x7b' :: (text ++ ['\x7d']))
  | item {value : Json} {before text after : List Char} (hbefore : IsGap before)
      (h : Writes (.value value) text) (hafter : IsGap after) :
      Writes (.items [value]) (before ++ (text ++ after))
  | items {value : Json} {more : List Json} {before text after rest : List Char}
      (hbefore : IsGap before) (h : Writes (.value value) text) (hafter : IsGap after)
      (hmore : Writes (.items more) rest) :
      Writes (.items (value :: more)) (before ++ (text ++ (after ++ ',' :: rest)))
  | member {name : Option String} {value : Json}
      {before label beforeColon afterColon text after : List Char}
      (hbefore : IsGap before) (hname : WritesString name label) (hcolon : IsGap beforeColon)
      (hcolon' : IsGap afterColon) (h : Writes (.value value) text) (hafter : IsGap after) :
      Writes (.members [(name, value)])
        (before ++ (label ++ (beforeColon ++ ':' :: (afterColon ++ (text ++ after)))))
  | members {name : Option String} {value : Json} {more : List (Option String × Json)}
      {before label beforeColon afterColon text after rest : List Char}
      (hbefore : IsGap before) (hname : WritesString name label) (hcolon : IsGap beforeColon)
      (hcolon' : IsGap afterColon) (h : Writes (.value value) text) (hafter : IsGap after)
      (hmore : Writes (.members more) rest) :
      Writes (.members ((name, value) :: more))
        (before ++ (label ++
          (beforeColon ++ ':' :: (afterColon ++ (text ++ (after ++ ',' :: rest))))))

/-- A whole text writes a value, with gaps around it. -/
def WritesText (value : Json) (text : String) : Prop :=
  ∃ before written after, IsGap before ∧ Writes (.value value) written ∧ IsGap after ∧
    text.toList = before ++ (written ++ after)

end PhoneAudio.Json
