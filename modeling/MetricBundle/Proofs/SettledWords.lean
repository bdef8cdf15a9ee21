import MetricBundle.Proofs.KeptCharacters
import Mathlib.Data.List.Induction
import Mathlib.Tactic.Tauto

/-!
# Snake case applied again

A text in snake case should stay as it is when it is put into snake case again.  Its words are read
one by one then (`snakeWords_intercalate`), so it does if and only if each of them is read as a
single word, unchanged.  Which words are can be said without the reader (`Settled`): no word begins
inside of it, and neither its first character nor any capital in it has a lowercase form.

Words of snake case are settled as long as lowering makes small letters of capitals and leaves
everything else alone.  There are two kinds of letters of which that is not so, and both can keep a
text from staying as it is (`snakeCase_again_of_titlecase`):

* a titlecase letter, which has a lowercase form and is no capital, is lowered only where it begins
  a word, and not if a run of capitals has given it up to the word;
* a capital without a lowercase form is still a capital in the result, where a word begins before it
  if the capitals in front of it have become small letters.
-/

namespace MetricBundle

open LetterCase

/-- **A word that is read as it is.** -/
structure Settled (word : List Char) : Prop where
  /-- No word begins inside of it. -/
  not_boundary : ∀ before after, before ≠ [] → after ≠ [] → word = before ++ after →
    ¬Boundary before after
  lowered_first : ∀ c ∈ word.head?, lowered c = [c]
  lowered_capital : ∀ c ∈ word, isUpper c = true → lowered c = [c]

/-- A character that is replaced is not among the characters in its place. -/
theorem lowered_eq_of_mem {c : Char} (h : c ∈ lowered c) : lowered c = [c] := by
  by_contra hc
  exact hc (finished_of_mem_lowered hc h).lowered_eq

/-- A character that is last in its own place is not replaced. -/
theorem lowered_eq_of_append {xs ys : List Char} {c : Char} (h : xs ++ lowered c = ys ++ [c]) :
    lowered c = [c] := by
  obtain ⟨front, last, hlast⟩ := exists_eq_append_singleton (lowered_ne_nil c)
  rw [hlast, ← List.append_assoc] at h
  obtain ⟨-, rfl⟩ := List.append_singleton_inj.mp h
  apply lowered_eq_of_mem
  rw [hlast]
  simp

theorem settled_singleton (c : Char) : Settled [c] ↔ lowered c = [c] := by
  constructor
  · intro h
    exact h.lowered_first c rfl
  · intro h
    refine ⟨fun before after hbefore hafter hcut => ?_, fun d hd => ?_, fun d hd _ => ?_⟩
    · have hlength := congrArg List.length hcut
      have := List.length_pos_iff.mpr hbefore
      have := List.length_pos_iff.mpr hafter
      rw [List.length_append, List.length_singleton] at hlength
      omega
    · obtain rfl : c = d := by simpa using hd
      exact h
    · obtain rfl := List.mem_singleton.mp hd
      exact h

/-- A word stays settled if the next character goes on with it and is not lowered. -/
theorem settled_concat {word : List Char} {c : Char} (hne : word ≠ []) :
    Settled (word ++ [c]) ↔ Settled word ∧
      (isUpper c = true → EndsInCapital word ∧ lowered c = [c]) ∧
      (isLower c = true → EndsInCapital word → word.length = 1) := by
  have hhead : (word ++ [c]).head? = word.head? := List.head?_append_of_ne_nil word hne
  constructor
  · intro h
    refine ⟨⟨?_, fun d hd => h.lowered_first d (hhead ▸ hd), fun d hd =>
      h.lowered_capital d (List.mem_append_left _ hd)⟩, fun hupper => ⟨?_, ?_⟩, ?_⟩
    · intro before after hbefore hafter hcut hboundary
      refine h.not_boundary before (after ++ [c]) hbefore (by simp) ?_ ?_
      · rw [hcut, List.append_assoc]
      · exact (boundary_concat hafter).mpr (.inl hboundary)
    · by_contra hends
      exact h.not_boundary word [c] hne (by simp) rfl (.capital hupper hends)
    · exact h.lowered_capital c (by simp) hupper
    · intro hsmall hends
      by_contra hlength
      obtain ⟨front, last, rfl⟩ := exists_eq_append_singleton hne
      have hfront : front ≠ [] := by
        rintro rfl
        exact hlength rfl
      refine h.not_boundary front [last, c] hfront (by simp) (by simp) ?_
      exact .lastOfRun hsmall hends
  · rintro ⟨h, hcapital, hsmall⟩
    refine ⟨?_, fun d hd => h.lowered_first d (hhead ▸ hd), fun d hd hupper => ?_⟩
    · intro before after hbefore hafter hcut hboundary
      rcases cut_cases hafter hcut with ⟨rfl, rfl⟩ | ⟨rest, hrest, rfl, rfl⟩
      · obtain ⟨hupper, hends⟩ := boundary_singleton.mp hboundary
        exact hends (hcapital hupper).1
      · rcases (boundary_concat hrest).mp hboundary with hearlier | ⟨last, rfl, hlower, hends⟩
        · exact h.not_boundary before rest hbefore hrest rfl hearlier
        · have hlength := hsmall hlower hends
          have := List.length_pos_iff.mpr hbefore
          rw [List.length_append, List.length_singleton] at hlength
          omega
    · rcases List.mem_append.mp hd with hd | hd
      · exact h.lowered_capital d hd hupper
      · obtain rfl := List.mem_singleton.mp hd
        exact (hcapital hupper).2

/-! ## Reading a settled word -/

namespace WordReader

theorem word_take_ne_nil (r : WordReader) {c : Char} (hc : c ≠ '_') : (r.take c).word ≠ [] := by
  have htakes := r.takes c
  generalize r.take c = r' at htakes ⊢
  cases htakes with
  | underscore h => exact absurd h hc
  | first | begin => exact lowered_ne_nil c
  | small | other => exact List.append_ne_nil_of_right_ne_nil _ (List.cons_ne_nil c [])
  | split => exact List.cons_ne_nil _ _
  | capital _ hword => exact List.append_ne_nil_of_left_ne_nil hword _

theorem word_foldl_take_ne_nil (r : WordReader) {cs : List Char} (hne : cs ≠ [])
    (hmem : '_' ∉ cs) : (cs.foldl take r).word ≠ [] := by
  obtain ⟨front, last, rfl⟩ := exists_eq_append_singleton hne
  rw [List.foldl_append, List.foldl_cons, List.foldl_nil]
  apply word_take_ne_nil
  rintro rfl
  exact hmem (by simp)

/-- What the reader remembers of capitals after the next character. -/
theorem capitals_take {r : WordReader} {c : Char} (hc : c ≠ '_') (hword : r.word ≠ []) :
    (r.take c).capitals = true ↔
      isUpper c = true ∨ isUpper c = false ∧ isLower c = false ∧ r.capitals = true := by
  have htakes := r.takes c
  generalize r.take c = r' at htakes ⊢
  cases htakes with
  | underscore h => exact absurd h hc
  | first _ h => exact absurd h hword
  | small _ _ hlower | split _ _ _ hlower => simp [hlower, isUpper_of_isLower hlower]
  | capital _ _ hupper hcapitals => simp [hupper, hcapitals]
  | begin _ _ hupper => simp [hupper]
  | other _ _ hlower hupper => simp [hlower, hupper]

/-- Since the last underscore, the reader remembers whether the last letter is a capital. -/
theorem capitals_foldl_take {cs : List Char} (hne : cs ≠ []) (hmem : '_' ∉ cs) :
    (cs.foldl take {}).capitals = true ↔ EndsInCapital cs := by
  induction cs using List.reverseRecOn with
  | nil => exact absurd rfl hne
  | append_singleton cs c ih =>
    rw [List.mem_append, not_or, List.mem_singleton] at hmem
    have hc : c ≠ '_' := Ne.symm hmem.2
    rw [List.foldl_append, List.foldl_cons, List.foldl_nil, endsInCapital_concat]
    by_cases hnil : cs = []
    · subst hnil
      rw [List.foldl_nil, take_first rfl hc]
      simp [not_endsInCapital_nil]
    · rw [capitals_take hc (word_foldl_take_ne_nil _ hnil hmem.1), ih hnil hmem.1]

/-- The reader is inside of its first word, which is the given one. -/
structure Holds (r : WordReader) (word : List Char) : Prop where
  words_eq : r.words = []
  word_eq : r.word = word

/-- **One more character of a word.**  The word is still read as it is if and only if the character
goes on with it and is not lowered. -/
theorem holds_take_iff {r : WordReader} {word : List Char} {c : Char} (hword : r.word ≠ [])
    (hc : c ≠ '_') (hcapitals : r.capitals = true ↔ EndsInCapital word) :
    (r.take c).Holds (word ++ [c]) ↔ r.Holds word ∧
      (isUpper c = true → EndsInCapital word ∧ lowered c = [c]) ∧
      (isLower c = true → EndsInCapital word → word.length = 1) := by
  have hgoes {b : Bool} : Holds ⟨r.words, r.word ++ [c], b⟩ (word ++ [c]) ↔ r.Holds word :=
    ⟨fun h => ⟨h.words_eq, (List.append_singleton_inj.mp h.word_eq).1⟩,
      fun h => ⟨h.words_eq, congrArg (· ++ [c]) h.word_eq⟩⟩
  have hended {first last : List Char} {b : Bool} :
      ¬Holds ⟨r.words ++ [first], last, b⟩ (word ++ [c]) := fun h =>
    List.append_ne_nil_of_right_ne_nil _ (List.cons_ne_nil first []) h.words_eq
  have htakes := r.takes c
  generalize r.take c = r' at htakes ⊢
  cases htakes with
  | underscore h => exact absurd h hc
  | first _ h => exact absurd h hword
  | small _ _ hlower hlength =>
    rw [hgoes, isUpper_of_isLower hlower]
    constructor
    · intro h
      refine ⟨h, fun hupper => absurd hupper Bool.false_ne_true, fun _ hends => ?_⟩
      rw [← h.word_eq]
      exact hlength (hcapitals.mpr hends)
    · rintro ⟨h, -⟩
      exact h
  | @split front last _ hfront hne hlower hcap =>
    refine iff_of_false hended ?_
    rintro ⟨h, -, hlength⟩
    -- a run of one capital is not split
    have hone := hlength hlower (hcapitals.mp hcap)
    rw [← h.word_eq, hfront, List.length_append, List.length_singleton] at hone
    have := List.length_pos_iff.mpr hne
    omega
  | capital _ _ hupper hcap =>
    have hlower := isLower_of_isUpper hupper
    constructor
    · intro h
      have heq : lowered c = [c] := lowered_eq_of_append h.word_eq
      have hholds := h
      rw [heq, hgoes] at hholds
      refine ⟨hholds, fun _ => ⟨hcapitals.mp hcap, heq⟩, fun h => ?_⟩
      rw [hlower] at h
      cases h
    · rintro ⟨h, hcapital, -⟩
      rw [(hcapital hupper).2]
      exact hgoes.mpr h
  | begin _ _ hupper hcap =>
    refine iff_of_false hended ?_
    rintro ⟨-, hcapital, -⟩
    rw [hcapitals.mpr (hcapital hupper).1] at hcap
    cases hcap
  | other _ _ hlower hupper =>
    rw [hgoes, hlower, hupper]
    simp

/-- **Settled words are those that are read as they are.** -/
theorem holds_foldl_take_iff {word : List Char} (hne : word ≠ []) (hmem : '_' ∉ word) :
    (word.foldl take {}).Holds word ↔ Settled word := by
  induction word using List.reverseRecOn with
  | nil => exact absurd rfl hne
  | append_singleton word c ih =>
    rw [List.mem_append, not_or, List.mem_singleton] at hmem
    have hc : c ≠ '_' := Ne.symm hmem.2
    rw [List.foldl_append, List.foldl_cons, List.foldl_nil]
    by_cases hnil : word = []
    · subst hnil
      rw [List.foldl_nil, take_first rfl hc, List.nil_append, settled_singleton]
      exact ⟨fun h => h.word_eq, fun h => ⟨rfl, h⟩⟩
    · rw [holds_take_iff (word_foldl_take_ne_nil _ hnil hmem.1) hc
        (capitals_foldl_take hnil hmem.1), ih hnil hmem.1, settled_concat hnil]

end WordReader

/-- The words of a text without underscores, the last one being read. -/
theorem snakeWords_of_not_mem {cs : List Char} (hne : cs ≠ []) (hmem : '_' ∉ cs) :
    snakeWords cs =
      (cs.foldl WordReader.take {}).words ++ [(cs.foldl WordReader.take {}).word] := by
  have hword := WordReader.word_foldl_take_ne_nil {} hne hmem
  rw [snakeWords, WordReader.close, if_neg (by simpa using hword)]

theorem snakeWords_eq_singleton_iff {word : List Char} (hne : word ≠ []) (hmem : '_' ∉ word) :
    snakeWords word = [word] ↔ Settled word := by
  rw [← WordReader.holds_foldl_take_iff hne hmem, snakeWords_of_not_mem hne hmem]
  constructor
  · intro h
    rw [← List.nil_append [word]] at h
    obtain ⟨hwords, hword⟩ := List.append_singleton_inj.mp h
    exact ⟨hwords, hword⟩
  · intro h
    rw [h.words_eq, h.word_eq, List.nil_append]

/-! ## Snake case applied again -/

/-- Words that are joined by underscores are read one by one. -/
theorem snakeWords_intercalate (words : List (List Char)) :
    snakeWords (['_'].intercalate words) = words.flatMap snakeWords := by
  induction words with
  | nil => rfl
  | cons word words ih =>
    rw [List.flatMap_cons]
    by_cases hnil : words = []
    · rw [hnil, List.intercalate_singleton, List.flatMap_nil, List.append_nil]
    · rw [List.intercalate_cons_of_ne_nil hnil, List.append_assoc, List.singleton_append,
        snakeWords_separated, ih]

/-- Underscores tell the words apart. -/
theorem intercalate_inj {xs ys : List (List Char)} (hxs : ∀ word ∈ xs, word ≠ [] ∧ '_' ∉ word)
    (hys : ∀ word ∈ ys, word ≠ [] ∧ '_' ∉ word)
    (h : ['_'].intercalate xs = ['_'].intercalate ys) : xs = ys := by
  by_cases hnil : xs = []
  · subst hnil
    rw [List.intercalate_nil] at h
    exact ((intercalate_eq_nil_iff fun word hword => (hys word hword).1).mp h.symm).symm
  · have hys_ne : ys ≠ [] := by
      rintro rfl
      rw [List.intercalate_nil] at h
      exact hnil ((intercalate_eq_nil_iff fun word hword => (hxs word hword).1).mp h)
    rw [← List.splitOn_intercalate '_' (fun word hword => (hxs word hword).2) hnil, h,
      List.splitOn_intercalate '_' (fun word hword => (hys word hword).2) hys_ne]

/-- If every element gives way to something, all stay as they are only if each does. -/
theorem flatMap_eq_self_iff {α : Type} {f : α → List α} {xs : List α} (h : ∀ x ∈ xs, f x ≠ []) :
    xs.flatMap f = xs ↔ ∀ x ∈ xs, f x = [x] := by
  have hle {ys : List α} (hys : ∀ y ∈ ys, f y ≠ []) : ys.length ≤ (ys.flatMap f).length := by
    induction ys with
    | nil => exact Nat.le_refl 0
    | cons y ys ih =>
      obtain ⟨hy, hys⟩ := List.forall_mem_cons.mp hys
      have := List.length_pos_iff.mpr hy
      have := ih hys
      rw [List.flatMap_cons, List.length_append, List.length_cons]
      omega
  induction xs with
  | nil => simp
  | cons x xs ih =>
    obtain ⟨hx, hxs⟩ := List.forall_mem_cons.mp h
    rw [List.flatMap_cons, List.forall_mem_cons]
    constructor
    · intro heq
      have hlength := congrArg List.length heq
      have := hle hxs
      have := List.length_pos_iff.mpr hx
      rw [List.length_append, List.length_cons] at hlength
      obtain ⟨y, hy⟩ : ∃ y, f x = [y] := List.length_eq_one_iff.mp (by omega)
      rw [hy, List.singleton_append] at heq
      obtain ⟨rfl, hrest⟩ := List.cons.inj heq
      exact ⟨hy, (ih hxs).mp hrest⟩
    · rintro ⟨hx, hrest⟩
      rw [hx, (ih hxs).mpr hrest, List.singleton_append]

theorem snakeWords_ne_nil {word : List Char} (hne : word ≠ []) (hmem : '_' ∉ word) :
    snakeWords word ≠ [] := by
  rw [snakeWords_of_not_mem hne hmem]
  exact List.append_ne_nil_of_right_ne_nil _ (List.cons_ne_nil _ _)

/-- A word without capitals is settled if its first character is not lowered. -/
theorem settled_of_no_capital {word : List Char} (hupper : ∀ c ∈ word, isUpper c = false)
    (hfirst : ∀ c ∈ word.head?, lowered c = [c]) : Settled word := by
  have hnone {before : List Char} (hbefore : ∀ c ∈ before, isUpper c = false) :
      ¬EndsInCapital before := by
    rintro ⟨front, capital, others, rfl, hcapital, -⟩
    rw [hbefore capital (by simp)] at hcapital
    cases hcapital
  refine ⟨fun before after _ _ hcut hboundary => ?_, hfirst, fun c hc h => ?_⟩
  · subst hcut
    rcases hboundary with ⟨hcapital, -⟩ | ⟨-, hends⟩
    · rw [hupper _ (by simp)] at hcapital
      cases hcapital
    · refine hnone (fun c hc => hupper c ?_) hends
      simp only [List.mem_append, List.mem_cons] at hc ⊢
      tauto
  · rw [hupper c hc] at h
    cases h

theorem snakeCase_snakeCase_eq_iff (cs : List Char) :
    snakeCase (snakeCase cs) = snakeCase cs ↔ ∀ word ∈ snakeWords cs, Settled word := by
  have htidy := tidy_snakeWords cs
  have hagain : snakeWords (snakeCase cs) = (snakeWords cs).flatMap snakeWords := by
    rw [snakeCase, snakeWords_intercalate]
  have hwords : snakeCase (snakeCase cs) = snakeCase cs ↔
      (snakeWords cs).flatMap snakeWords = snakeWords cs := by
    rw [← hagain]
    exact ⟨intercalate_inj (tidy_snakeWords _) htidy, congrArg ['_'].intercalate⟩
  rw [hwords, flatMap_eq_self_iff fun word hword =>
    snakeWords_ne_nil (htidy word hword).1 (htidy word hword).2]
  exact forall₂_congr fun word hword =>
    snakeWords_eq_singleton_iff (htidy word hword).1 (htidy word hword).2

/-- Words are settled if all capitals of their text have lowercase forms, and nothing else has
one. -/
theorem settled_of_mem_snakeWords {cs : List Char}
    (h : ∀ c ∈ cs, isUpper c = true ↔ lowered c ≠ [c]) : ∀ word ∈ snakeWords cs, Settled word := by
  intro word hword
  have hplain : ∀ c ∈ cs, Plain c := by
    intro c hc
    by_cases heq : lowered c = [c]
    · exact .inr heq
    · exact .inl ((h c hc).mpr heq)
  -- each character of the word is what a character of the text is lowered to
  have hfinal : ∀ d ∈ word, isUpper d = false ∧ lowered d = [d] := by
    intro d hd
    obtain ⟨c, hc, hdc⟩ := exists_mem_of_mem_word hplain hword hd
    by_cases heq : lowered c = [c]
    · rw [heq] at hdc
      obtain rfl := List.mem_singleton.mp hdc
      have hnot : ¬isUpper d = true := fun hupper => (h d hc).mp hupper heq
      exact ⟨Bool.eq_false_iff.mpr hnot, heq⟩
    · have hfinished := finished_of_mem_lowered heq hdc
      exact ⟨hfinished.isUpper_eq_false, hfinished.lowered_eq⟩
  refine settled_of_no_capital (fun d hd => (hfinal d hd).1) fun d hd => ?_
  exact (hfinal d (List.mem_of_mem_head? hd)).2

/-- **When snake case applied again changes nothing.**  A text in snake case stays as it is if and
only if each of its words is settled.  This is so if in the text that was put into snake case all
capitals had lowercase forms, and no other character had one. -/
theorem snakeCase_again (cs : List Char) :
    (snakeCase (snakeCase cs) = snakeCase cs ↔ ∀ word ∈ snakeWords cs, Settled word) ∧
    ((∀ c ∈ cs, isUpper c = true ↔ lowered c ≠ [c]) →
      snakeCase (snakeCase cs) = snakeCase cs) := by
  have hiff := snakeCase_snakeCase_eq_iff cs
  exact ⟨hiff, fun h => hiff.mpr (settled_of_mem_snakeWords h)⟩

theorem snakeCase_again_of_mixed :
    (∀ c ∈ "ÜberHTTPServer2_İd".toList, isUpper c = true ↔ lowered c ≠ [c]) ∧
    snakeCase "ÜberHTTPServer2_İd".toList = "über_http_server2_i_̇d".toList ∧
    snakeCase "über_http_server2_i_̇d".toList = "über_http_server2_i_̇d".toList := by
  have hcase : ∀ c ∈ "ÜberHTTPServer2_İd".toList, isUpper c = true ↔ lowered c ≠ [c] := by
    have hall :
        "ÜberHTTPServer2_İd".toList.all (fun c => isUpper c == (lowered c != [c])) = true := by
      decide +kernel
    intro c hc
    rw [beq_iff_eq.mp (List.all_eq_true.mp hall c hc), bne_iff_ne]
  have honce : snakeCase "ÜberHTTPServer2_İd".toList = "über_http_server2_i_̇d".toList := by
    decide +kernel
  have htwice := (snakeCase_again "ÜberHTTPServer2_İd".toList).2 hcase
  rw [honce] at htwice
  exact ⟨hcase, honce, htwice⟩

/-- A titlecase letter that a run of capitals gives up is lowered the second time only, and a
capital without a lowercase form begins a word the second time only. -/
theorem snakeCase_again_of_titlecase :
    snakeCase "Aǅc".toList = "a_ǅc".toList ∧
    snakeCase (snakeCase "Aǅc".toList) = "a_ǆc".toList ∧
    snakeCase (snakeCase "Aǅc".toList) ≠ snakeCase "Aǅc".toList ∧
    snakeCase (snakeCase "A𝐀".toList) ≠ snakeCase "A𝐀".toList := by
  refine ⟨?_, ?_, ?_, ?_⟩ <;> decide +kernel

end MetricBundle
