/-!
# Cutting a text at a separator

A tag value is a list of entries written with a separator between them. `splitOn` takes it apart;
there is always at least one entry, and one more than there are separators.
-/

namespace MetricBundle

/-- The parts of a text between the occurrences of a separator. -/
def splitOn (separator : Char) : List Char → List (List Char)
  | [] => [[]]
  | c :: cs =>
    if c = separator then [] :: splitOn separator cs
    else
      match splitOn separator cs with
      | [] => [[c]]
      | part :: parts => (c :: part) :: parts

theorem splitOn_ne_nil (separator : Char) (cs : List Char) : splitOn separator cs ≠ [] := by
  cases cs with
  | nil => simp [splitOn]
  | cons c cs =>
    simp only [splitOn]
    split
    · simp
    · split <;> simp

/-- There is one part more than there are separators. -/
theorem length_splitOn (separator : Char) (cs : List Char) :
    (splitOn separator cs).length = cs.count separator + 1 := by
  induction cs with
  | nil => rfl
  | cons c cs ih =>
    by_cases h : c = separator
    · subst h
      simp [splitOn, ih]
    · have hne := splitOn_ne_nil separator cs
      cases hs : splitOn separator cs with
      | nil => exact absurd hs hne
      | cons part parts =>
        rw [hs] at ih
        simp [splitOn, h, hs, ← ih]

end MetricBundle
