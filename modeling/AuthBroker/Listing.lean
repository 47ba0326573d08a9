namespace AuthBroker.Listing

/-! Texts that are listed under keys.

A key can be listed more than once, and then its last entry counts.
-/

variable {Key : Type} [DecidableEq Key] {listing : List (Key × String)} {key : Key} {text : String}

def text? (listing : List (Key × String)) (key : Key) : Option String :=
  (listing.reverse.find? fun entry => entry.1 = key).map Prod.snd

/-- The text of a key is that of its last entry. -/
theorem text?_eq_some_iff : text? listing key = some text ↔
    ∃ before after, listing = before ++ (key, text) :: after ∧ ∀ entry ∈ after, entry.1 ≠ key := by
  rw [text?, Option.map_eq_some_iff]
  constructor
  · rintro ⟨⟨key', text⟩, found, rfl⟩
    obtain ⟨named, after, before, split, later⟩ := List.find?_eq_some_iff_append.mp found
    refine ⟨before.reverse, after.reverse, ?_, ?_⟩
    · have same : key' = key := of_decide_eq_true named
      subst same
      rw [← List.reverse_reverse listing, split, List.reverse_append, List.reverse_cons, List.append_assoc]
      rfl
    · intro entry member
      have passed := later entry (List.mem_reverse.mp member)
      simpa using passed
  · rintro ⟨before, after, rfl, later⟩
    refine ⟨(key, text), List.find?_eq_some_iff_append.mpr ⟨by simp, after.reverse, before.reverse, by simp, ?_⟩, rfl⟩
    intro entry member
    simpa using later entry (List.mem_reverse.mp member)

/-- Only a key that is not listed has no text. -/
theorem text?_eq_none_iff : text? listing key = none ↔ ∀ entry ∈ listing, entry.1 ≠ key := by
  rw [text?, Option.map_eq_none_iff, List.find?_eq_none]
  simp only [List.mem_reverse, decide_eq_true_eq, ne_eq]

end AuthBroker.Listing
