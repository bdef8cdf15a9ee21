import MetricBundle.Proofs.WordSeparation

/-!
# What snake case keeps

The characters of an identifier, underscores aside, come back from snake case in the same order, and
each of them exactly once.  They move on the way: from the word being read to the words that have
been read, and the last character of a run of capitals back into a new word.  What does not move is
the text of all words, one after the other (`WordReader.text`); each character adds to its end what
it is lowered to (`text_take`).

There is one reservation.  A titlecase letter is lowered where it begins a word and kept where it
does not, so the text is the lowered identifier for characters of which this is not so (`Plain`).
All characters of ASCII are among them.
-/

namespace MetricBundle

open LetterCase

/-- A character that becomes the same wherever it stands in a word: it is a capital, or is left as
it is when it is lowered. -/
def Plain (c : Char) : Prop := isUpper c = true ∨ lowered c = [c]

theorem Plain.lowered_eq {c : Char} (h : Plain c) (hupper : isUpper c = false) :
    lowered c = [c] := by
  rcases h with h | h
  · rw [hupper] at h
    cases h
  · exact h

/-- The text without underscores. -/
def withoutUnderscores (cs : List Char) : List Char := cs.filter fun c => c != '_'

theorem withoutUnderscores_of_not_mem {cs : List Char} (h : '_' ∉ cs) :
    withoutUnderscores cs = cs := by
  refine List.filter_eq_self.mpr fun c hc => bne_iff_ne.mpr ?_
  rintro rfl
  exact h hc

/-- Without the underscores that join them, words are just one after the other. -/
theorem withoutUnderscores_intercalate {words : List (List Char)} (h : ∀ word ∈ words, '_' ∉ word) :
    withoutUnderscores (['_'].intercalate words) = words.flatten := by
  induction words with
  | nil => rfl
  | cons word words ih =>
    obtain ⟨hword, hwords⟩ := List.forall_mem_cons.mp h
    have hfirst := withoutUnderscores_of_not_mem hword
    by_cases hnil : words = []
    · rw [hnil, List.intercalate_singleton, hfirst, List.flatten_singleton]
    · rw [List.intercalate_cons_of_ne_nil hnil, List.append_assoc, withoutUnderscores,
        List.filter_append, ← withoutUnderscores, hfirst, List.flatten_cons, ← ih hwords]
      rfl

namespace WordReader

variable {r : WordReader} {c : Char}

/-- The words and the one that is being read, one after the other. -/
def text (r : WordReader) : List Char := r.words.flatten ++ r.word

theorem text_close (r : WordReader) : r.close.text = r.text := by
  by_cases hword : r.word = []
  · rw [close_of_word_nil hword]
  · rw [close, if_neg (by simpa using hword), text, text, List.flatten_append,
      List.flatten_singleton, List.append_nil]

/-- **One more character** adds to the end of the text what it is lowered to. -/
theorem text_take (hplain : Plain c) (hc : c ≠ '_') : (r.take c).text = r.text ++ lowered c := by
  have htakes := r.takes c
  generalize r.take c = r' at htakes ⊢
  cases htakes with
  | underscore h => exact absurd h hc
  | first _ hword => simp [text, hword]
  | small _ _ hsmall => simp [text, hplain.lowered_eq (isUpper_of_isLower hsmall)]
  | split _ hword _ hsmall _ =>
    simp [text, hword, hplain.lowered_eq (isUpper_of_isLower hsmall)]
  | capital => simp [text]
  | begin => simp [text]
  | other _ _ _ hupper => simp [text, hplain.lowered_eq hupper]

theorem text_foldl_take {cs : List Char} (h : ∀ c ∈ cs, Plain c) :
    (cs.foldl take r).text = r.text ++ loweredText (withoutUnderscores cs) := by
  induction cs generalizing r with
  | nil => exact (List.append_nil _).symm
  | cons c cs ih =>
    obtain ⟨hplain, hcs⟩ := List.forall_mem_cons.mp h
    rw [List.foldl_cons, ih hcs]
    by_cases hc : c = '_'
    · have htake : r.take c = r.close := if_pos hc
      rw [htake, text_close, withoutUnderscores, withoutUnderscores,
        List.filter_cons_of_neg (by simpa using hc)]
    · rw [text_take hplain hc, withoutUnderscores, withoutUnderscores,
        List.filter_cons_of_pos (by simpa using hc), List.append_assoc]
      rfl

end WordReader

/-- **The words are the identifier, lowered**, without its underscores. -/
theorem flatten_snakeWords {cs : List Char} (h : ∀ c ∈ cs, Plain c) :
    (snakeWords cs).flatten = loweredText (withoutUnderscores cs) := by
  have htext : (cs.foldl WordReader.take {}).close.text =
      loweredText (withoutUnderscores cs) := by
    rw [WordReader.text_close, WordReader.text_foldl_take h]
    rfl
  rw [WordReader.text, WordReader.word_close, List.append_nil] at htext
  exact htext

/-- A character of a word comes from a character of the identifier. -/
theorem exists_mem_of_mem_word {cs word : List Char} {d : Char} (h : ∀ c ∈ cs, Plain c)
    (hword : word ∈ snakeWords cs) (hd : d ∈ word) : ∃ c ∈ cs, d ∈ lowered c := by
  have hflat : d ∈ (snakeWords cs).flatten := List.mem_flatten.mpr ⟨word, hword, hd⟩
  rw [flatten_snakeWords h] at hflat
  obtain ⟨c, hc, hdc⟩ := List.mem_flatMap.mp hflat
  exact ⟨c, (List.mem_filter.mp hc).1, hdc⟩

theorem withoutUnderscores_snakeCase {cs : List Char} (h : ∀ c ∈ cs, Plain c) :
    withoutUnderscores (snakeCase cs) = loweredText (withoutUnderscores cs) := by
  rw [snakeCase, withoutUnderscores_intercalate fun word hword => (tidy_snakeWords cs word hword).2,
    flatten_snakeWords h]

/-! ## ASCII -/

/-- What holds of all characters of ASCII can be found out one by one. -/
theorem forall_ascii {p : Char → Prop} (h : ∀ n < 0x80, p (Char.ofNat n)) :
    ∀ c : Char, c.toNat < 0x80 → p c := by
  intro c hc
  rw [← Char.ofNat_toNat c]
  exact h c.toNat hc

/-- Lowering a character of ASCII is what is usually meant by it. -/
theorem lowered_of_ascii {c : Char} (hc : c.toNat < 0x80) :
    lowered c = [c.toLower] ∧ isUpper c.toLower = false := by
  have hall : ∀ d : Char, d.toNat < 0x80 → lowered d = [d.toLower] ∧ isUpper d.toLower = false :=
    forall_ascii (by decide +kernel)
  exact hall c hc

theorem plain_of_ascii {c : Char} (hc : c.toNat < 0x80) : Plain c := by
  cases hupper : isUpper c with
  | true => exact .inl hupper
  | false => exact .inr (lowered_of_isUpper_eq_false hc hupper)

theorem loweredText_of_ascii {cs : List Char} (h : IsAscii cs) :
    loweredText cs = cs.map Char.toLower := by
  induction cs with
  | nil => rfl
  | cons c cs ih =>
    obtain ⟨hc, hcs⟩ := List.forall_mem_cons.mp h
    rw [List.map_cons, ← ih hcs, loweredText, List.flatMap_cons, (lowered_of_ascii hc).1]
    rfl

/-- Lowering the letters of an ASCII text and putting it into snake case differ by underscores. -/
theorem withoutUnderscores_snakeCase_of_ascii {cs : List Char} (h : IsAscii cs) :
    withoutUnderscores (snakeCase cs) = (withoutUnderscores cs).map Char.toLower := by
  have hrest : IsAscii (withoutUnderscores cs) := fun c hc => h c (List.mem_of_mem_filter hc)
  rw [withoutUnderscores_snakeCase fun c hc => plain_of_ascii (h c hc), loweredText_of_ascii hrest]

theorem mem_snakeCase_of_ascii {cs : List Char} (h : IsAscii cs) {c : Char}
    (hc : c ∈ snakeCase cs) : c = '_' ∨ ∃ d ∈ withoutUnderscores cs, d.toLower = c := by
  by_cases hunderscore : c = '_'
  · exact .inl hunderscore
  · have hmem : c ∈ withoutUnderscores (snakeCase cs) :=
      List.mem_filter.mpr ⟨hc, bne_iff_ne.mpr hunderscore⟩
    rw [withoutUnderscores_snakeCase_of_ascii h] at hmem
    exact .inr (List.mem_map.mp hmem)

/-- **Snake case loses nothing.**  Without its underscores, an ASCII text in snake case is the text
itself without its underscores and with every letter lowered.  No capital remains. -/
theorem snakeCase_keeps_characters {cs : List Char} (hascii : IsAscii cs) :
    withoutUnderscores (snakeCase cs) = (withoutUnderscores cs).map Char.toLower ∧
    ∀ c ∈ snakeCase cs, isUpper c = false := by
  refine ⟨withoutUnderscores_snakeCase_of_ascii hascii, fun c hc => ?_⟩
  rcases mem_snakeCase_of_ascii hascii hc with rfl | ⟨d, hd, rfl⟩
  · decide
  · exact (lowered_of_ascii (hascii d (List.mem_of_mem_filter hd))).2

theorem snakeCase_keeps_characters_of_mixed :
    IsAscii "_AB1cDEf__g".toList ∧
    withoutUnderscores (snakeCase "_AB1cDEf__g".toList) = "ab1cdefg".toList ∧
    ∀ c ∈ snakeCase "_AB1cDEf__g".toList, isUpper c = false := by
  have hascii : IsAscii "_AB1cDEf__g".toList := by decide
  obtain ⟨hkept, hsmall⟩ := snakeCase_keeps_characters hascii
  exact ⟨hascii, hkept, hsmall⟩

end MetricBundle
