import PhoneAudio.Json.Decode

/-!
# Records that are read from objects

An object gives its members in some order. What a record finds under one of its names depends
only on what is given by that name (`given`); members of other names are skipped, whatever
they are and however many. The object is refused only if it gives one of the names of the
record twice (`record?_objectOf`).
-/

namespace PhoneAudio.Json

/-- The object with members whose names are texts. -/
def objectOf (members : List (String × Json)) : Json :=
  .object (members.map fun member => (some member.1, member.2))

/-- What is given by a name, in order. -/
def given (members : List (String × Json)) (name : String) : List Json :=
  (members.filter fun member => member.1 == name).map Prod.snd

theorem lookup_eq_head? (members : List (String × Json)) (name : String) :
    members.lookup name = (given members name).head? := by
  induction members with
  | nil => rfl
  | cons member rest ih =>
    obtain ⟨label, value⟩ := member
    rw [given] at ih ⊢
    by_cases h : label = name
    · simp [h]
    · simp [List.lookup_cons, beq_false_of_ne h, beq_false_of_ne (Ne.symm h), ih]

theorem named?_objectOf (members : List (String × Json)) :
    named? (members.map fun member => (some member.1, member.2)) = some members := by
  induction members with
  | nil => rfl
  | cons member rest ih =>
    rw [named?] at ih ⊢
    rw [List.map_cons, List.mapM_cons, ih]
    rfl

/-- An object that gives no name of a record twice is read as that record. -/
theorem record?_objectOf {names : List String} {members : List (String × Json)}
    (mayBeShort : Bool) (h : ∀ name ∈ names, (given members name).length ≤ 1) :
    record? names mayBeShort (objectOf members) =
      some fun name => (given members name).head? := by
  have hunambiguous : isUnambiguous names members = true := by
    rw [isUnambiguous, List.all_eq_true]
    intro name hmem
    simpa [given] using h name hmem
  rw [objectOf, record?]
  simp only [named?_objectOf, Option.bind_eq_bind, Option.bind_some, hunambiguous, if_true,
    lookup_eq_head?]

end PhoneAudio.Json
