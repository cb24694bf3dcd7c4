/-!
# Vocabularies

A vocabulary is a finite type whose members each have one spelling. Reading a
spelling searches the list of members, so that no table is kept twice.
-/

namespace PhoneAudio.Text

/-- A finite type with a spelling for every member. -/
class Vocabulary (α : Type) where
  words : List α
  spell : α → String

/-- The first member with the given spelling. -/
def Vocabulary.read? {α : Type} [Vocabulary α] (text : String) : Option α :=
  (Vocabulary.words : List α).find? fun word => Vocabulary.spell word == text

/-- A member that is read has the spelling that was given. -/
theorem Vocabulary.spell_of_read? {α : Type} [Vocabulary α] {text : String} {word : α}
    (h : Vocabulary.read? text = some word) : Vocabulary.spell word = text := by
  simpa using List.find?_some h

end PhoneAudio.Text
