import MetricBundle.Proofs.LetterCases
import MetricBundle.Proofs.WordBoundaries

/-!
# Underscores separate

What is on the two sides of an underscore is put into snake case as if the other side was not there
(`snakeWords_separated`).  The reader still remembers what came before: the words, and whether the
last one was a run of capitals.  But the words only stay in front of those to come
(`foldl_take_after`), and what it knows of capitals is replaced as soon as the next word begins
(`take_of_word_nil`).  So nothing else of the reader matters between two words.

Words are never empty and have no underscore in them (`WordReader.Tidy`), so in a text in snake case
an underscore stands between two words, and nowhere else (`Separated`).
-/

namespace MetricBundle

open LetterCase

/-- Underscores stand between other characters, and only one at a time. -/
structure Separated (cs : List Char) : Prop where
  not_leading : ¬['_'] <+: cs
  not_trailing : ¬['_'] <:+ cs
  not_doubled : ¬['_', '_'] <:+: cs

/-- What is not empty has a last element. -/
theorem exists_eq_append_singleton {α : Type} {l : List α} (h : l ≠ []) :
    ∃ front last, l = front ++ [last] :=
  ⟨l.dropLast, l.getLast h, (List.dropLast_append_getLast h).symm⟩

theorem underscore_not_mem_lowered {c : Char} (h : c ≠ '_') : '_' ∉ lowered c := by
  intro hmem
  by_cases hc : lowered c = [c]
  · rw [hc] at hmem
    exact h (List.mem_singleton.mp hmem).symm
  · exact absurd (finished_of_mem_lowered hc hmem).le_toNat (by decide)

namespace WordReader

variable {r : WordReader} {c : Char}

/-! ## What one character does -/

/-- **What the reader can be after the next character**, and when. -/
inductive Takes (r : WordReader) (c : Char) : WordReader → Prop where
  | underscore : c = '_' → Takes r c r.close
  /-- A word begins after an underscore, or at the very beginning. -/
  | first : c ≠ '_' → r.word = [] →
      Takes r c { r with word := lowered c, capitals := isUpper c }
  | small : c ≠ '_' → r.word ≠ [] → isLower c = true → (r.capitals = true → r.word.length = 1) →
      Takes r c { r with word := r.word ++ [c], capitals := false }
  /-- A run of capitals gives up its last character. -/
  | split {front : List Char} {last : Char} : c ≠ '_' → r.word = front ++ [last] → front ≠ [] →
      isLower c = true → r.capitals = true →
      Takes r c { words := r.words ++ [front], word := [last, c], capitals := false }
  /-- A run of capitals goes on. -/
  | capital : c ≠ '_' → r.word ≠ [] → isUpper c = true → r.capitals = true →
      Takes r c { r with word := r.word ++ lowered c }
  | begin : c ≠ '_' → r.word ≠ [] → isUpper c = true → r.capitals = false →
      Takes r c { words := r.words ++ [r.word], word := lowered c, capitals := true }
  | other : c ≠ '_' → r.word ≠ [] → isLower c = false → isUpper c = false →
      Takes r c { r with word := r.word ++ [c] }

theorem takes (r : WordReader) (c : Char) : r.Takes c (r.take c) := by
  unfold take
  by_cases hc : c = '_'
  · rw [if_pos hc]
    exact .underscore hc
  rw [if_neg hc]
  by_cases hword : r.word = []
  · rw [if_pos (by rw [hword]; rfl)]
    exact .first hc hword
  rw [if_neg (by simpa using hword)]
  by_cases hsmall : isLower c = true
  · rw [if_pos hsmall]
    by_cases hsplit : r.capitals = true ∧ 1 < r.word.length
    · obtain ⟨hcapitals, hlength⟩ := hsplit
      obtain ⟨front, last, hfront⟩ := exists_eq_append_singleton hword
      have hne : front ≠ [] := by
        rintro rfl
        rw [hfront] at hlength
        exact Nat.lt_irrefl 1 hlength
      have htake : r.takeSmall c =
          { words := r.words ++ [front], word := [last, c], capitals := false } := by
        rw [takeSmall, if_pos (by simp [hcapitals, hlength]), hfront, List.dropLast_concat,
          List.length_append, List.length_singleton, Nat.add_sub_cancel, List.drop_left]
        rfl
      rw [htake]
      exact .split hc hfront hne hsmall hcapitals
    · rw [takeSmall, if_neg (by simpa using hsplit)]
      refine .small hc hword hsmall fun hcapitals => ?_
      have hpos := List.length_pos_iff.mpr hword
      have hshort : ¬1 < r.word.length := fun hlt => hsplit ⟨hcapitals, hlt⟩
      omega
  · rw [if_neg hsmall]
    rw [Bool.not_eq_true] at hsmall
    by_cases hupper : isUpper c = true
    · rw [if_pos hupper]
      by_cases hcapitals : r.capitals = true
      · rw [takeCapital, if_pos hcapitals]
        exact .capital hc hword hupper hcapitals
      · rw [takeCapital, if_neg hcapitals]
        exact .begin hc hword hupper (by simpa using hcapitals)
    · rw [if_neg hupper]
      exact .other hc hword hsmall (by simpa using hupper)

/-! ## After other words -/

/-- The reader with other words before its own. -/
def after (earlier : List (List Char)) (r : WordReader) : WordReader :=
  { r with words := earlier ++ r.words }

theorem close_after (earlier : List (List Char)) (r : WordReader) :
    (r.after earlier).close = r.close.after earlier := by
  unfold close after
  by_cases hword : r.word.isEmpty = true
  · rw [if_pos hword, if_pos hword]
  · rw [if_neg hword, if_neg hword, List.append_assoc]

/-- What is read does not depend on the words before it. -/
theorem take_after (earlier : List (List Char)) (r : WordReader) (c : Char) :
    (r.after earlier).take c = (r.take c).after earlier := by
  unfold take
  rw [close_after]
  unfold takeSmall takeCapital after
  simp only
  split_ifs <;> simp only [List.append_assoc]

theorem foldl_take_after (earlier : List (List Char)) (r : WordReader) (cs : List Char) :
    cs.foldl take (r.after earlier) = (cs.foldl take r).after earlier := by
  induction cs generalizing r with
  | nil => rfl
  | cons c cs ih => rw [List.foldl_cons, List.foldl_cons, take_after, ih]

theorem take_first (hword : r.word = []) (hc : c ≠ '_') :
    r.take c = { r with word := lowered c, capitals := isUpper c } := by
  rw [take, if_neg hc, hword]
  rfl

/-- Between two words, all that matters of the reader are the words that it has read. -/
theorem take_of_word_nil (hword : r.word = []) (hc : c ≠ '_') :
    r.take c = (take {} c).after r.words := by
  rw [take_first hword hc, take_first rfl hc, after, List.append_nil]

theorem words_foldl_take (hword : r.word = []) (cs : List Char) :
    (cs.foldl take r).close.words = r.words ++ snakeWords cs := by
  induction cs with
  | nil =>
    rw [List.foldl_nil, close_of_word_nil hword]
    exact (List.append_nil _).symm
  | cons c cs ih =>
    rw [snakeWords, List.foldl_cons, List.foldl_cons]
    by_cases hc : c = '_'
    · -- there is no word to be ended
      have htake : r.take c = r := by
        rw [take, if_pos hc, close_of_word_nil hword]
      have hfirst : take {} c = {} := by
        rw [take, if_pos hc]
        rfl
      rw [htake, hfirst]
      exact ih
    · rw [take_of_word_nil hword hc, foldl_take_after, close_after]
      rfl

theorem word_close (r : WordReader) : r.close.word = [] := by
  unfold close
  by_cases hword : r.word.isEmpty = true
  · rw [if_pos hword]
    exact List.isEmpty_iff.mp hword
  · rw [if_neg hword]

/-! ## The words -/

/-- There are words only where there is something to read, and no underscore is part of them. -/
structure Tidy (r : WordReader) : Prop where
  words : ∀ word ∈ r.words, word ≠ [] ∧ '_' ∉ word
  word : '_' ∉ r.word

theorem tidy_empty : Tidy {} := ⟨fun _ h => absurd h List.not_mem_nil, List.not_mem_nil⟩

theorem Tidy.concat (h : r.Tidy) {word : List Char} (hne : word ≠ []) (hmem : '_' ∉ word) :
    ∀ w ∈ r.words ++ [word], w ≠ [] ∧ '_' ∉ w := by
  rw [List.forall_mem_append, List.forall_mem_singleton]
  exact ⟨h.words, hne, hmem⟩

theorem Tidy.close (h : r.Tidy) : r.close.Tidy := by
  by_cases hword : r.word = []
  · rwa [close_of_word_nil hword]
  · rw [WordReader.close, if_neg (by simpa using hword)]
    exact ⟨h.concat hword h.word, List.not_mem_nil⟩

/-- **One more character** keeps the words tidy. -/
theorem Tidy.take (h : r.Tidy) (c : Char) : (r.take c).Tidy := by
  have hconcat {added : List Char} (hadded : '_' ∉ added) : '_' ∉ r.word ++ added := by
    rw [List.mem_append, not_or]
    exact ⟨h.word, hadded⟩
  have hsingle (hc : c ≠ '_') : '_' ∉ [c] := fun hmem => hc (List.mem_singleton.mp hmem).symm
  have htakes := r.takes c
  generalize r.take c = r' at htakes ⊢
  cases htakes with
  | underscore => exact h.close
  | first hc => exact ⟨h.words, underscore_not_mem_lowered hc⟩
  | small hc => exact ⟨h.words, hconcat (hsingle hc)⟩
  | split hc hword hfront =>
    have hmem := h.word
    rw [hword, List.mem_append, not_or] at hmem
    refine ⟨h.concat hfront hmem.1, ?_⟩
    rw [List.mem_cons, not_or]
    exact ⟨fun hlast => hmem.2 (List.mem_singleton.mpr hlast), hsingle hc⟩
  | capital hc => exact ⟨h.words, hconcat (underscore_not_mem_lowered hc)⟩
  | begin hc hword => exact ⟨h.concat hword h.word, underscore_not_mem_lowered hc⟩
  | other hc => exact ⟨h.words, hconcat (hsingle hc)⟩

theorem Tidy.foldl_take (h : r.Tidy) (cs : List Char) : (cs.foldl WordReader.take r).Tidy := by
  induction cs generalizing r with
  | nil => exact h
  | cons c cs ih => exact ih (h.take c)

end WordReader

/-- A word in snake case has something in it, and no underscore. -/
theorem tidy_snakeWords (cs : List Char) : ∀ word ∈ snakeWords cs, word ≠ [] ∧ '_' ∉ word :=
  (WordReader.tidy_empty.foldl_take cs).close.words

/-- **Underscores separate.**  The words of a text with an underscore in it are those before it and
those after it. -/
theorem snakeWords_separated (before rest : List Char) :
    snakeWords (before ++ '_' :: rest) = snakeWords before ++ snakeWords rest := by
  have htake : (before ++ '_' :: rest).foldl WordReader.take {} =
      rest.foldl WordReader.take (before.foldl WordReader.take {}).close := by
    rw [List.foldl_append, List.foldl_cons]
    rfl
  rw [snakeWords, htake, WordReader.words_foldl_take (WordReader.word_close _), ← snakeWords]

/-! ## The text -/

theorem intercalate_append {α : Type} {separator : List α} {xs ys : List (List α)} (hxs : xs ≠ [])
    (hys : ys ≠ []) : separator.intercalate (xs ++ ys) =
      separator.intercalate xs ++ separator ++ separator.intercalate ys := by
  induction xs with
  | nil => exact absurd rfl hxs
  | cons x xs ih =>
    by_cases h : xs = []
    · subst h
      rw [List.singleton_append, List.intercalate_cons_of_ne_nil hys, List.intercalate_singleton]
    · have hne : xs ++ ys ≠ [] := List.append_ne_nil_of_left_ne_nil h ys
      rw [List.cons_append, List.intercalate_cons_of_ne_nil hne, ih h,
        List.intercalate_cons_of_ne_nil h]
      simp only [List.append_assoc]

theorem intercalate_eq_nil_iff {separator : Char} {words : List (List Char)}
    (h : ∀ word ∈ words, word ≠ []) : [separator].intercalate words = [] ↔ words = [] := by
  cases words with
  | nil => exact ⟨fun _ => rfl, fun _ => rfl⟩
  | cons word words =>
    obtain ⟨hword, -⟩ := List.forall_mem_cons.mp h
    refine ⟨fun hnil => ?_, fun hnil => nomatch hnil⟩
    by_cases hwords : words = []
    · rw [hwords, List.intercalate_singleton] at hnil
      exact absurd hnil hword
    · rw [List.intercalate_cons_of_ne_nil hwords] at hnil
      simp at hnil

/-- Words that are joined together can be joined in two parts first, if a part without words is left
out. -/
theorem intercalate_append_eq {separator : Char} {xs ys : List (List Char)}
    (hxs : ∀ word ∈ xs, word ≠ []) (hys : ∀ word ∈ ys, word ≠ []) :
    [separator].intercalate (xs ++ ys) = [separator].intercalate
      ([[separator].intercalate xs, [separator].intercalate ys].filter fun part =>
        !part.isEmpty) := by
  by_cases hfirst : xs = []
  · rw [hfirst, List.nil_append, List.intercalate_nil, List.filter_cons_of_neg (by simp)]
    by_cases hsecond : ys = []
    · rw [hsecond, List.intercalate_nil, List.filter_cons_of_neg (by simp), List.filter_nil,
        List.intercalate_nil]
    · have hne : [separator].intercalate ys ≠ [] := mt (intercalate_eq_nil_iff hys).mp hsecond
      rw [List.filter_cons_of_pos (by simpa using hne), List.filter_nil,
        List.intercalate_singleton]
  · have hne : [separator].intercalate xs ≠ [] := mt (intercalate_eq_nil_iff hxs).mp hfirst
    rw [List.filter_cons_of_pos (by simpa using hne)]
    by_cases hsecond : ys = []
    · rw [hsecond, List.append_nil, List.intercalate_nil, List.filter_cons_of_neg (by simp),
        List.filter_nil, List.intercalate_singleton]
    · have hne' : [separator].intercalate ys ≠ [] := mt (intercalate_eq_nil_iff hys).mp hsecond
      rw [List.filter_cons_of_pos (by simpa using hne'), List.filter_nil,
        intercalate_append hfirst hsecond, List.intercalate_cons_of_ne_nil (List.cons_ne_nil _ []),
        List.intercalate_singleton]

namespace Separated

variable {word rest : List Char}

theorem of_not_mem (h : '_' ∉ word) : Separated word where
  not_leading hp := h (hp.subset (List.mem_singleton_self _))
  not_trailing hs := h (hs.subset (List.mem_singleton_self _))
  not_doubled hi := h (hi.subset List.mem_cons_self)

/-- No two underscores are next to each other up to a word and the underscore after it. -/
theorem not_doubled_append (h : Separated rest) (hmem : '_' ∉ word) :
    ¬['_', '_'] <:+: word ++ '_' :: rest := by
  induction word with
  | nil =>
    intro hdoubled
    rcases List.infix_cons_iff.mp hdoubled with hp | hi
    · exact h.not_leading (List.cons_prefix_cons.mp hp).2
    · exact h.not_doubled hi
  | cons c word ih =>
    obtain ⟨hc, hword⟩ := not_or.mp (mt List.mem_cons.mpr hmem)
    intro hdoubled
    rcases List.infix_cons_iff.mp hdoubled with hp | hi
    · exact hc (List.cons_prefix_cons.mp hp).1
    · exact ih hword hi

theorem append (h : Separated rest) (hrest : rest ≠ []) (hne : word ≠ []) (hmem : '_' ∉ word) :
    Separated (word ++ '_' :: rest) where
  not_leading hp := by
    obtain ⟨c, word, rfl⟩ := List.exists_cons_of_ne_nil hne
    exact hmem ((List.cons_prefix_cons.mp hp).1 ▸ List.mem_cons_self)
  not_trailing hs := by
    have hsuffix : rest <:+ word ++ '_' :: rest := ⟨word ++ ['_'], by simp⟩
    rcases List.suffix_or_suffix_of_suffix hs hsuffix with hshort | hlong
    · exact h.not_trailing hshort
    · -- the rest would be the underscore alone
      rcases List.suffix_cons_iff.mp hlong with heq | hnil
      · exact h.not_leading (heq ▸ List.prefix_refl _)
      · exact hrest (List.suffix_nil.mp hnil)
  not_doubled := h.not_doubled_append hmem

theorem intercalate {words : List (List Char)}
    (h : ∀ word ∈ words, word ≠ [] ∧ '_' ∉ word) : Separated (['_'].intercalate words) := by
  induction words with
  | nil => exact of_not_mem List.not_mem_nil
  | cons word words ih =>
    obtain ⟨⟨hne, hmem⟩, hwords⟩ := List.forall_mem_cons.mp h
    by_cases hnil : words = []
    · rw [hnil, List.intercalate_singleton]
      exact of_not_mem hmem
    · have hrest : ['_'].intercalate words ≠ [] :=
        mt (intercalate_eq_nil_iff fun w hw => (hwords w hw).1).mp hnil
      rw [List.intercalate_cons_of_ne_nil hnil, List.append_assoc]
      exact (ih hwords).append hrest hne hmem

end Separated

/-- **Snake case separates at underscores.**  A text with an underscore in it is put into snake case
by doing so with what is before it and what is after it, and joining what is left of the two by one
underscore.  In the result no underscore is at an end or next to another one. -/
theorem snakeCase_separated :
    (∀ before rest, snakeCase (before ++ '_' :: rest) =
      ['_'].intercalate ([snakeCase before, snakeCase rest].filter fun part => !part.isEmpty)) ∧
    ∀ cs, Separated (snakeCase cs) := by
  refine ⟨fun before rest => ?_, fun cs => Separated.intercalate (tidy_snakeWords cs)⟩
  rw [snakeCase, snakeWords_separated]
  exact intercalate_append_eq (fun word hword => (tidy_snakeWords before word hword).1)
    fun word hword => (tidy_snakeWords rest word hword).1

end MetricBundle
