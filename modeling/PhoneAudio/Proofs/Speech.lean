/-!
# Speech

Whoever speaks only ever adds to what was said. Every word is on a topic, and what a
listener makes of all the words is known after each of them. A step of a speaker is
described by the topics on which it may add something, and by the change of what the
listener makes of it.
-/

namespace PhoneAudio

variable {Word Topic State : Type} {topic : Word → Topic} {hear : State → Word → State}

/-- From `said` to `said'` only words on the listed topics were added, and who hears them
gets from `state` to `state'`. -/
def Adds (topic : Word → Topic) (hear : State → Word → State) (topics : List Topic)
    (said : List Word) (state : State) (said' : List Word) (state' : State) : Prop :=
  ∃ news, said' = said ++ news ∧ (∀ word ∈ news, topic word ∈ topics) ∧
    news.foldl hear state = state'

namespace Adds

variable {topics more : List Topic} {said said' said'' : List Word} {state state' state'' : State}

/-- A step that says nothing, and of which there is nothing to hear. -/
theorem silently (topics : List Topic) (hsaid : said' = said) (hstate : state' = state) :
    Adds topic hear topics said state said' state' := by
  refine ⟨[], ?_, ?_, ?_⟩
  · rw [hsaid, List.append_nil]
  · simp
  · rw [List.foldl_nil, hstate]

theorem single {word : Word} (hsaid : said' = said ++ [word])
    (hstate : state' = hear state word) :
    Adds topic hear [topic word] said state said' state' := by
  refine ⟨[word], hsaid, ?_, hstate.symm⟩
  simp

theorem mono (h : Adds topic hear topics said state said' state') (sub : topics ⊆ more) :
    Adds topic hear more said state said' state' := by
  obtain ⟨news, hsaid, htopics, hstate⟩ := h
  exact ⟨news, hsaid, fun word hmem => sub (htopics word hmem), hstate⟩

/-- Two steps, one after the other. -/
theorem trans (h₁ : Adds topic hear topics said state said' state')
    (h₂ : Adds topic hear more said' state' said'' state'') :
    Adds topic hear (topics ++ more) said state said'' state'' := by
  obtain ⟨first, hsaid, htopics, hstate⟩ := h₁
  obtain ⟨second, hsaid', htopics', hstate'⟩ := h₂
  refine ⟨first ++ second, ?_, ?_, ?_⟩
  · rw [hsaid', hsaid, List.append_assoc]
  · intro word hmem
    rcases List.mem_append.mp hmem with hmem | hmem
    · exact List.mem_append_left _ (htopics word hmem)
    · exact List.mem_append_right _ (htopics' word hmem)
  · rw [List.foldl_append, hstate, hstate']

/-- A reading that takes in nothing on the listed topics is the same as before. -/
theorem filterMap {α : Type} (h : Adds topic hear topics said state said' state')
    {reading : Word → Option α} (hreading : ∀ word, topic word ∈ topics → reading word = none) :
    said'.filterMap reading = said.filterMap reading := by
  obtain ⟨news, hsaid, htopics, -⟩ := h
  have hnone : news.filterMap reading = [] :=
    List.filterMap_eq_nil_iff.mpr fun word hmem => hreading word (htopics word hmem)
  rw [hsaid, List.filterMap_append, hnone, List.append_nil]

end Adds

end PhoneAudio
