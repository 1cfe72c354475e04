/-!
# Parts of texts
-/

namespace MeterWatch.Text

/-- The parts between separators; there is always at least one. -/
def splitOn (isSeparator : Char → Bool) : List Char → List (List Char)
  | [] => [[]]
  | c :: rest =>
      let parts := splitOn isSeparator rest
      if isSeparator c then [] :: parts
      else
        match parts with
        | part :: others => (c :: part) :: others
        | [] => [[c]]

theorem splitOn_ne_nil (isSeparator : Char → Bool) (text : List Char) :
    splitOn isSeparator text ≠ [] := by
  cases text with
  | nil => simp [splitOn]
  | cons c rest =>
      simp only [splitOn]
      split
      · simp
      · split <;> simp

/-- No part holds a separator. -/
theorem not_isSeparator_of_mem_splitOn {isSeparator : Char → Bool}
    {text part : List Char} (h : part ∈ splitOn isSeparator text) :
    ∀ c ∈ part, isSeparator c = false := by
  induction text generalizing part with
  | nil => simp_all [splitOn]
  | cons c rest ih =>
      simp only [splitOn] at h
      split at h
      · rcases List.mem_cons.mp h with rfl | behind
        · simp
        · exact ih behind
      · next other =>
          split at h
          · next first others split =>
              rcases List.mem_cons.mp h with rfl | behind
              · intro d hd
                rcases List.mem_cons.mp hd with rfl | later
                · simpa using other
                · exact ih (split ▸ List.mem_cons_self) d later
              · exact ih (split ▸ List.mem_cons_of_mem _ behind)
          · next empty => exact absurd empty (splitOn_ne_nil _ _)

end MeterWatch.Text
