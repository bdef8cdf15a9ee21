import MetricBundle.SnakeCase
import MetricBundle.Text.Split
import Mathlib.Data.List.Forall2

/-!
# Where the words of an identifier begin

Underscores part an identifier into stretches, and each stretch is read as words of its own.  Inside
a stretch a word begins before a capital unless the last letter so far is a capital as well, and it
begins one place before a small letter if the last letter so far is a capital.  These are the only
places (`Boundary`), and they depend on nothing but letter case: the words of a stretch are what is
between them (`Words`), and snake case lowers these words and joins them by underscores.

The reader decides about a place only when it has seen the character after it, and then it may have
to give back the last character of the word being read.  So the induction goes over what has been
read so far (`Reads`): its words begin at its boundaries, and one more character adds at most one
boundary, before itself or before the last character.

What is given back need not be a letter.  The last letter before a small one may be a capital with
digits after it, and then the last digit begins the word (`snakeCase_splits_before_digit`).
-/

namespace MetricBundle

open LetterCase

/-- All characters are ASCII. -/
def IsAscii (cs : List Char) : Prop := ∀ c ∈ cs, c.toNat < 0x80

instance (cs : List Char) : Decidable (IsAscii cs) :=
  List.decidableBAll (fun c : Char => c.toNat < 0x80) cs

/-- The last letter of a text is a capital. -/
def EndsInCapital (cs : List Char) : Prop :=
  ∃ front capital others, cs = front ++ capital :: others ∧ isUpper capital = true ∧
    ∀ c ∈ others, isUpper c = false ∧ isLower c = false

/-- **A word begins between two parts of a stretch.** -/
inductive Boundary : List Char → List Char → Prop where
  /-- Before a capital, unless the last letter before it is a capital too. -/
  | capital {before after : List Char} {c : Char} : isUpper c = true → ¬EndsInCapital before →
      Boundary before (c :: after)
  /-- One place before a small letter, if the last letter before that is a capital. -/
  | lastOfRun {before after : List Char} {c small : Char} : isLower small = true →
      EndsInCapital (before ++ [c]) → Boundary before (c :: small :: after)

/-- One of the words begins after the given text. -/
def Begins (words : List (List Char)) (before : List Char) : Prop :=
  ∃ front word back, words = front ++ word :: back ∧ front.flatten = before

/-- **The words of a stretch**: they make up the stretch, and they begin at its boundaries. -/
structure Words (stretch : List Char) (words : List (List Char)) : Prop where
  flatten_eq : words.flatten = stretch
  ne_nil : ∀ word ∈ words, word ≠ []
  begins_iff : ∀ before after, before ≠ [] → after ≠ [] → stretch = before ++ after →
    (Begins words before ↔ Boundary before after)

/-- What is between the underscores of an identifier, if there is something. -/
def stretches (cs : List Char) : List (List Char) :=
  (splitOn '_' cs).filter fun part => !part.isEmpty

def loweredText (cs : List Char) : List Char := cs.flatMap lowered

/-! ## Letters of ASCII -/

section Ascii

variable {c : Char} {cs : List Char} (hc : c.toNat < 0x80)
include hc

theorem isLower_eq_false_of_isUpper (h : isUpper c = true) : isLower c = false := by
  rw [isUpper, if_pos hc, Bool.and_eq_true, decide_eq_true_eq, decide_eq_true_eq] at h
  rw [isLower, if_pos hc, Bool.and_eq_false_iff, decide_eq_false_iff_not, decide_eq_false_iff_not]
  omega

theorem isUpper_eq_false_of_isLower (h : isLower c = true) : isUpper c = false := by
  cases hu : isUpper c with
  | false => rfl
  | true => exact absurd h (Bool.eq_false_iff.mp (isLower_eq_false_of_isUpper hc hu))

theorem lowered_of_isUpper_eq_false (h : isUpper c = false) : lowered c = [c] := by
  rw [lowered, if_pos hc, h]
  rfl

theorem exists_lowered : ∃ l, lowered c = [l] := ⟨_, if_pos hc⟩

end Ascii

theorem length_loweredText {cs : List Char} (h : IsAscii cs) :
    (loweredText cs).length = cs.length := by
  induction cs with
  | nil => rfl
  | cons c cs ih =>
    obtain ⟨hc, hcs⟩ := List.forall_mem_cons.mp h
    obtain ⟨l, hl⟩ := exists_lowered hc
    have hrest : (loweredText cs).length = cs.length := ih hcs
    rw [loweredText, List.flatMap_cons, hl, List.length_append, List.length_singleton,
      List.length_cons, ← hrest, loweredText]
    omega

theorem loweredText_append (cs ds : List Char) :
    loweredText (cs ++ ds) = loweredText cs ++ loweredText ds :=
  List.flatMap_append

theorem loweredText_singleton (c : Char) : loweredText [c] = lowered c := List.append_nil _

theorem not_endsInCapital_nil : ¬EndsInCapital [] := by
  rintro ⟨front, capital, others, h, -⟩
  cases front <;> cases h

theorem endsInCapital_concat (cs : List Char) (c : Char) :
    EndsInCapital (cs ++ [c]) ↔
      isUpper c = true ∨ (isUpper c = false ∧ isLower c = false ∧ EndsInCapital cs) := by
  constructor
  · rintro ⟨front, capital, others, h, hcapital, hothers⟩
    rcases List.eq_nil_or_concat others with rfl | ⟨others, last, rfl⟩
    · obtain ⟨-, rfl⟩ := List.append_singleton_inj.mp h
      exact .inl hcapital
    · rw [List.concat_eq_append, ← List.cons_append, ← List.append_assoc] at h
      obtain ⟨rfl, rfl⟩ := List.append_singleton_inj.mp h
      rw [List.concat_eq_append, List.forall_mem_append] at hothers
      obtain ⟨hu, hl⟩ := hothers.2 c (List.mem_singleton_self c)
      exact .inr ⟨hu, hl, front, capital, others, rfl, hcapital, hothers.1⟩
  · rintro (hu | ⟨hu, hl, front, capital, others, rfl, hcapital, hothers⟩)
    · exact ⟨cs, c, [], rfl, hu, fun _ h => absurd h List.not_mem_nil⟩
    · refine ⟨front, capital, others ++ [c], by rw [List.append_assoc, List.cons_append], hcapital,
        ?_⟩
      rw [List.forall_mem_append, List.forall_mem_singleton]
      exact ⟨hothers, hu, hl⟩

/-! ## One more character -/

section Concat

variable {words : List (List Char)} {word stretch before after : List Char} {c : Char}

theorem begins_concat :
    Begins (words ++ [word]) before ↔ Begins words before ∨ words.flatten = before := by
  constructor
  · rintro ⟨front, first, back, h, rfl⟩
    rcases List.eq_nil_or_concat back with rfl | ⟨back, last, rfl⟩
    · obtain ⟨rfl, -⟩ := List.append_singleton_inj.mp h
      exact .inr rfl
    · rw [List.concat_eq_append, ← List.cons_append, ← List.append_assoc] at h
      obtain ⟨rfl, -⟩ := List.append_singleton_inj.mp h
      exact .inl ⟨front, first, back, rfl, rfl⟩
  · rintro (⟨front, first, back, rfl, rfl⟩ | rfl)
    · exact ⟨front, first, back ++ [word], by rw [List.append_assoc, List.cons_append], rfl⟩
    · exact ⟨words, word, [], rfl, rfl⟩

/-- Where the last word begins does not depend on how far it goes. -/
theorem begins_concat_congr (other : List Char) :
    Begins (words ++ [word]) before ↔ Begins (words ++ [other]) before := by
  rw [begins_concat, begins_concat]

theorem Begins.length_lt (h : Begins words before) (hne : ∀ word ∈ words, word ≠ []) :
    before.length < words.flatten.length := by
  obtain ⟨front, first, back, rfl, rfl⟩ := h
  have hfirst : first ≠ [] := hne first (by simp)
  have hpos : 0 < first.length := List.length_pos_iff.mpr hfirst
  rw [List.flatten_append, List.length_append, List.flatten_cons, List.length_append]
  omega

theorem boundary_singleton : Boundary before [c] ↔ isUpper c = true ∧ ¬EndsInCapital before := by
  constructor
  · intro h
    cases h with
    | capital hc hbefore => exact ⟨hc, hbefore⟩
  · rintro ⟨hc, hbefore⟩
    exact .capital hc hbefore

/-- A character that comes after a place can make it a boundary only right after the next one. -/
theorem boundary_concat (hafter : after ≠ []) :
    Boundary before (after ++ [c]) ↔ Boundary before after ∨
      ∃ last, after = [last] ∧ isLower c = true ∧ EndsInCapital (before ++ [last]) := by
  obtain ⟨first, rest, rfl⟩ := List.exists_cons_of_ne_nil hafter
  constructor
  · intro h
    rw [List.cons_append] at h
    cases rest with
    | nil =>
      rcases h with ⟨hfirst, hbefore⟩ | ⟨hc, hbefore⟩
      · exact .inl (.capital hfirst hbefore)
      · exact .inr ⟨first, rfl, hc, hbefore⟩
    | cons second rest =>
      rcases h with ⟨hfirst, hbefore⟩ | ⟨hsecond, hbefore⟩
      · exact .inl (.capital hfirst hbefore)
      · exact .inl (.lastOfRun hsecond hbefore)
  · rintro (h | ⟨last, h, hc, hbefore⟩)
    · rcases h with ⟨hfirst, hbefore⟩ | ⟨hsecond, hbefore⟩
      · exact .capital hfirst hbefore
      · exact .lastOfRun hsecond hbefore
    · obtain ⟨rfl, rfl⟩ := List.cons.inj h
      exact .lastOfRun hc hbefore

/-- A stretch that has been read, cut before its last character or earlier. -/
theorem cut_cases (hafter : after ≠ []) (h : stretch ++ [c] = before ++ after) :
    (before = stretch ∧ after = [c]) ∨
      ∃ rest, rest ≠ [] ∧ after = rest ++ [c] ∧ stretch = before ++ rest := by
  rcases List.eq_nil_or_concat after with rfl | ⟨rest, last, rfl⟩
  · exact absurd rfl hafter
  · rw [List.concat_eq_append, ← List.append_assoc] at h
    obtain ⟨rfl, rfl⟩ := List.append_singleton_inj.mp h
    cases rest with
    | nil => exact .inl ⟨(List.append_nil _).symm, rfl⟩
    | cons first rest => exact .inr ⟨first :: rest, List.cons_ne_nil _ _, by simp, rfl⟩

theorem words_singleton (c : Char) : Words [c] [[c]] where
  flatten_eq := rfl
  ne_nil := by simp
  begins_iff before after hbefore hafter h := by
    have hlength : 1 = before.length + after.length := by
      rw [← List.length_append, ← h]
      rfl
    have := List.length_pos_iff.mpr hbefore
    have := List.length_pos_iff.mpr hafter
    omega

/-- The last word goes on. -/
theorem Words.extend (h : Words stretch (words ++ [word]))
    (hcapital : isUpper c = true → EndsInCapital stretch)
    (hsmall : isLower c = true → EndsInCapital stretch → word.length = 1) :
    Words (stretch ++ [c]) (words ++ [word ++ [c]]) where
  flatten_eq := by
    rw [← h.flatten_eq]
    simp
  ne_nil := by
    have hne := h.ne_nil
    simp only [List.forall_mem_append, List.forall_mem_singleton] at hne ⊢
    exact ⟨hne.1, by simp⟩
  begins_iff before after hbefore hafter hcut := by
    rw [begins_concat_congr word]
    rcases cut_cases hafter hcut with ⟨rfl, rfl⟩ | ⟨rest, hrest, rfl, rfl⟩
    · -- no word begins where the stretch ended, and that is no boundary
      have hno : ¬Begins (words ++ [word]) before := by
        intro hbegins
        have hlt := hbegins.length_lt h.ne_nil
        rw [h.flatten_eq] at hlt
        exact Nat.lt_irrefl _ hlt
      rw [boundary_singleton]
      exact ⟨fun hbegins => absurd hbegins hno, fun ⟨hc, hnot⟩ => absurd (hcapital hc) hnot⟩
    · rw [h.begins_iff before rest hbefore hrest rfl, boundary_concat hrest]
      refine ⟨.inl, ?_⟩
      rintro (hboundary | ⟨last, rfl, hc, hends⟩)
      · exact hboundary
      · -- the last word is this one character, so it begins here
        have hword : word.length = 1 := hsmall hc hends
        obtain ⟨only, rfl⟩ := List.length_eq_one_iff.mp hword
        have hflat := h.flatten_eq
        rw [List.flatten_append, List.flatten_singleton] at hflat
        obtain ⟨hflat, -⟩ := List.append_singleton_inj.mp hflat
        exact (h.begins_iff before [last] hbefore hrest rfl).mp (begins_concat.mpr (.inr hflat))

/-- A capital begins a word. -/
theorem Words.begin (h : Words stretch (words ++ [word])) (hc : isUpper c = true)
    (hends : ¬EndsInCapital stretch) (hcase : isLower c = false) :
    Words (stretch ++ [c]) (words ++ [word] ++ [[c]]) where
  flatten_eq := by
    rw [← h.flatten_eq]
    simp
  ne_nil := by
    have hne := h.ne_nil
    rw [List.forall_mem_append, List.forall_mem_singleton]
    exact ⟨hne, by simp⟩
  begins_iff before after hbefore hafter hcut := by
    rw [begins_concat, h.flatten_eq]
    rcases cut_cases hafter hcut with ⟨rfl, rfl⟩ | ⟨rest, hrest, rfl, rfl⟩
    · rw [boundary_singleton]
      exact ⟨fun _ => ⟨hc, hends⟩, fun _ => .inr rfl⟩
    · have hne : before ++ rest ≠ before := by simpa using hrest
      rw [h.begins_iff before rest hbefore hrest rfl, boundary_concat hrest]
      simp [hne, hcase]

/-- The last character of the last word begins a word with a small letter. -/
theorem Words.split {last : Char} (h : Words (stretch ++ [last]) (words ++ [word ++ [last]]))
    (hword : word ≠ []) (hc : isLower c = true) (hends : EndsInCapital (stretch ++ [last]))
    (hcase : isUpper c = false) :
    Words (stretch ++ [last] ++ [c]) (words ++ [word] ++ [[last, c]]) where
  flatten_eq := by
    rw [← h.flatten_eq]
    simp
  ne_nil := by
    have hne := h.ne_nil
    simp only [List.forall_mem_append, List.forall_mem_singleton] at hne ⊢
    exact ⟨⟨hne.1, hword⟩, by simp⟩
  begins_iff before after hbefore hafter hcut := by
    have hflat : (words ++ [word]).flatten = stretch := by
      have hflat := h.flatten_eq
      rw [List.flatten_append, List.flatten_singleton, ← List.append_assoc] at hflat
      rw [List.flatten_append, List.flatten_singleton]
      exact (List.append_singleton_inj.mp hflat).1
    have hearlier : Begins (words ++ [word]) before ↔ Begins (words ++ [word ++ [last]]) before :=
      begins_concat_congr _
    rw [begins_concat, hflat, hearlier]
    rcases cut_cases hafter hcut with ⟨rfl, rfl⟩ | ⟨rest, hrest, rfl, hstretch⟩
    · have hno : ¬Begins (words ++ [word ++ [last]]) (stretch ++ [last]) := by
        intro hbegins
        have hlt := hbegins.length_lt h.ne_nil
        rw [h.flatten_eq] at hlt
        exact Nat.lt_irrefl _ hlt
      rw [boundary_singleton, hcase]
      simp [hno]
    · rw [h.begins_iff before rest hbefore hrest hstretch, boundary_concat hrest]
      refine or_congr_right ⟨?_, ?_⟩
      · rintro rfl
        have hrest : rest = [last] := List.append_cancel_left hstretch.symm
        exact ⟨last, hrest, hc, hends⟩
      · rintro ⟨first, rfl, -, -⟩
        exact (List.append_singleton_inj.mp hstretch).1

end Concat

/-! ## Reading a stretch -/

namespace WordReader

/-- The reader has read a stretch, or a part of one that begins with it, after other words. -/
structure Reads (earlier : List (List Char)) (stretch : List Char) (words : List (List Char))
    (word : List Char) (r : WordReader) : Prop where
  words_eq : r.words = earlier ++ words.map loweredText
  word_eq : r.word = loweredText word
  capitals_iff : r.capitals = true ↔ EndsInCapital stretch
  isWords : Words stretch (words ++ [word])

variable {earlier words : List (List Char)} {stretch word : List Char} {r : WordReader} {c : Char}

theorem reads_begin (hempty : r.word = []) (hc : c ≠ '_') :
    Reads r.words [c] [] [c] (r.take c) := by
  have htake : r.take c = { r with word := lowered c, capitals := isUpper c } := by
    rw [take, if_neg hc, hempty]
    rfl
  rw [htake]
  refine ⟨(List.append_nil _).symm, (loweredText_singleton c).symm, ?_, words_singleton c⟩
  have hends := endsInCapital_concat [] c
  rw [List.nil_append] at hends
  rw [hends]
  simp [not_endsInCapital_nil]

section Take

variable (h : Reads earlier stretch words word r) (hascii : IsAscii word) (hc : c.toNat < 0x80)
include h hascii

theorem Reads.word_ne_nil : r.word ≠ [] := by
  have hword : word ≠ [] := h.isWords.ne_nil word (by simp)
  rw [h.word_eq, ← List.length_pos_iff, length_loweredText hascii]
  exact List.length_pos_iff.mpr hword

include hc

/-- A small letter goes on with the word, or takes its last character with it into a new one. -/
theorem Reads.takeSmall (hsmall : isLower c = true) :
    ∃ words' word', Reads earlier (stretch ++ [c]) words' word' (r.takeSmall c) := by
  have hupper : isUpper c = false := isUpper_eq_false_of_isLower hc hsmall
  have hcapitals : false = true ↔ EndsInCapital (stretch ++ [c]) := by
    rw [endsInCapital_concat]
    simp [hsmall, hupper]
  by_cases hsplit : r.capitals = true ∧ 1 < r.word.length
  · have htake : r.takeSmall c =
        { words := r.words ++ [r.word.dropLast]
          word := r.word.drop (r.word.length - 1) ++ [c]
          capitals := false } := by
      rw [WordReader.takeSmall, if_pos (by simpa using hsplit)]
    obtain ⟨hcapital, hlength⟩ := hsplit
    rw [h.word_eq, length_loweredText hascii] at hlength
    obtain ⟨front, last, rfl⟩ : ∃ front last, word = front ++ [last] := by
      rcases List.eq_nil_or_concat word with rfl | ⟨front, last, rfl⟩
      · exact absurd hlength (by simp)
      · exact ⟨front, last, List.concat_eq_append⟩
    have hfront : front ≠ [] := by
      rintro rfl
      exact absurd hlength (by simp)
    -- the last character of the word is lowered to one character, which is given back
    obtain ⟨l, hl⟩ := exists_lowered (hascii last (by simp))
    have hword : r.word = loweredText front ++ [l] := by
      rw [h.word_eq, loweredText_append, loweredText_singleton, hl]
    obtain ⟨earlierStretch, rfl⟩ : ∃ s, stretch = s ++ [last] := by
      refine ⟨words.flatten ++ front, ?_⟩
      rw [← h.isWords.flatten_eq]
      simp
    refine ⟨words ++ [front], [last, c], ?_⟩
    rw [htake]
    refine ⟨?_, ?_, hcapitals,
      h.isWords.split hfront hsmall (h.capitals_iff.mp hcapital) hupper⟩
    · rw [hword, h.words_eq, List.dropLast_concat, List.map_append, List.map_singleton,
        List.append_assoc]
    · have hdrop : r.word.drop (r.word.length - 1) = [l] := by
        rw [hword, List.length_append, List.length_singleton, Nat.add_sub_cancel,
          List.drop_left]
      have hlast : loweredText [last, c] = lowered last ++ (lowered c ++ []) := rfl
      rw [hdrop, hlast, hl, lowered_of_isUpper_eq_false hc hupper]
      rfl
  · have htake : r.takeSmall c = { r with word := r.word ++ [c], capitals := false } := by
      rw [WordReader.takeSmall, if_neg (by simpa using hsplit)]
    refine ⟨words, word ++ [c], ?_⟩
    rw [htake]
    refine ⟨h.words_eq, ?_, hcapitals, h.isWords.extend (fun hu => ?_) fun _ hends => ?_⟩
    · rw [h.word_eq, loweredText_append, loweredText_singleton,
        lowered_of_isUpper_eq_false hc hupper]
    · rw [hupper] at hu
      cases hu
    · have hnot : ¬1 < r.word.length := fun hlt => hsplit ⟨h.capitals_iff.mpr hends, hlt⟩
      have hpos := List.length_pos_iff.mpr (h.word_ne_nil hascii)
      rw [h.word_eq, length_loweredText hascii] at hnot hpos
      omega

omit hascii in
/-- A capital goes on with a run of capitals, or begins a new word. -/
theorem Reads.takeCapital (hupper : isUpper c = true) :
    ∃ words' word', Reads earlier (stretch ++ [c]) words' word' (r.takeCapital c) := by
  have hsmall : isLower c = false := isLower_eq_false_of_isUpper hc hupper
  have hends : EndsInCapital (stretch ++ [c]) := (endsInCapital_concat stretch c).mpr (.inl hupper)
  by_cases hcapital : r.capitals = true
  · have htake : r.takeCapital c = { r with word := r.word ++ lowered c } := by
      rw [WordReader.takeCapital, if_pos hcapital]
    refine ⟨words, word ++ [c], ?_⟩
    rw [htake]
    refine ⟨h.words_eq, ?_, ⟨fun _ => hends, fun _ => hcapital⟩,
      h.isWords.extend (fun _ => h.capitals_iff.mp hcapital) fun hl => ?_⟩
    · rw [h.word_eq, loweredText_append, loweredText_singleton]
    · rw [hsmall] at hl
      cases hl
  · have htake : r.takeCapital c =
        { words := r.words ++ [r.word], word := lowered c, capitals := true } := by
      rw [WordReader.takeCapital, if_neg hcapital]
    refine ⟨words ++ [word], [c], ?_⟩
    rw [htake]
    refine ⟨?_, (loweredText_singleton c).symm, ⟨fun _ => hends, fun _ => rfl⟩,
      h.isWords.begin hupper (fun hbefore => hcapital (h.capitals_iff.mpr hbefore)) hsmall⟩
    rw [h.words_eq, h.word_eq, List.map_append, List.map_singleton, List.append_assoc]

/-- **One more character of a stretch.** -/
theorem Reads.take (hunderscore : c ≠ '_') :
    ∃ words' word', Reads earlier (stretch ++ [c]) words' word' (r.take c) := by
  have hword : r.word.isEmpty = false := by simpa using h.word_ne_nil hascii
  rw [WordReader.take, if_neg hunderscore, hword, if_neg Bool.false_ne_true]
  split
  case isTrue hsmall => exact h.takeSmall hascii hc hsmall
  case isFalse hsmall =>
    rw [Bool.not_eq_true] at hsmall
    split
    case isTrue hupper => exact h.takeCapital hc hupper
    case isFalse hupper =>
      rw [Bool.not_eq_true] at hupper
      refine ⟨words, word ++ [c], h.words_eq, ?_, ?_, h.isWords.extend ?_ ?_⟩
      · rw [h.word_eq, loweredText_append, loweredText_singleton,
          lowered_of_isUpper_eq_false hc hupper]
      · rw [endsInCapital_concat, ← h.capitals_iff]
        simp [hsmall, hupper]
      · rw [hupper]
        exact fun hu => nomatch hu
      · rw [hsmall]
        exact fun hl => nomatch hl

end Take

/-- The word being read is part of the stretch. -/
theorem Reads.isAscii_word (h : Reads earlier stretch words word r) (hascii : IsAscii stretch) :
    IsAscii word := by
  intro c hc
  refine hascii c ?_
  rw [← h.isWords.flatten_eq]
  exact List.mem_flatten.mpr ⟨word, by simp, hc⟩

/-- **The rest of a stretch**, one character after the other. -/
theorem Reads.takeAll {rest : List Char} (h : Reads earlier stretch words word r)
    (hascii : IsAscii (stretch ++ rest)) (hunderscore : '_' ∉ rest) :
    ∃ words' word',
      Reads earlier (stretch ++ rest) words' word' (rest.foldl WordReader.take r) := by
  induction rest generalizing stretch words word r with
  | nil => exact ⟨words, word, by rwa [List.append_nil]⟩
  | cons c rest ih =>
    have hstretch : IsAscii stretch := fun d hd => hascii d (List.mem_append_left _ hd)
    have hc : c.toNat < 0x80 := hascii c (by simp)
    obtain ⟨hne, hrest⟩ := not_or.mp (mt List.mem_cons.mpr hunderscore)
    obtain ⟨words', word', h'⟩ := h.take (h.isAscii_word hstretch) hc (Ne.symm hne)
    rw [List.append_cons] at hascii ⊢
    exact ih h' hascii hrest

theorem close_of_word_nil (hempty : r.word = []) : r.close = r := by
  rw [close, hempty]
  rfl

theorem Reads.close_eq (h : Reads earlier stretch words word r) (hascii : IsAscii stretch) :
    r.close.words = earlier ++ (words ++ [word]).map loweredText ∧ r.close.word = [] := by
  have hword : r.word.isEmpty = false := by simpa using h.word_ne_nil (h.isAscii_word hascii)
  rw [close, hword, if_neg Bool.false_ne_true]
  refine ⟨?_, rfl⟩
  simp only [h.words_eq, h.word_eq, List.map_append, List.map_singleton, List.append_assoc]

/-- A whole stretch is read as its words. -/
theorem exists_words {stretch : List Char} (hempty : r.word = []) (hne : stretch ≠ [])
    (hascii : IsAscii stretch) (hunderscore : '_' ∉ stretch) :
    ∃ words, Words stretch words ∧ (stretch.foldl WordReader.take r).close.word = [] ∧
      (stretch.foldl WordReader.take r).close.words = r.words ++ words.map loweredText := by
  obtain ⟨c, rest, rfl⟩ := List.exists_cons_of_ne_nil hne
  obtain ⟨hc, hrest⟩ := not_or.mp (mt List.mem_cons.mpr hunderscore)
  obtain ⟨words, word, h⟩ := (reads_begin hempty (Ne.symm hc)).takeAll hascii hrest
  obtain ⟨hwords, hword⟩ := h.close_eq hascii
  exact ⟨words ++ [word], h.isWords, hword, hwords⟩

end WordReader

/-! ## Reading an identifier -/

/-- What the first part of a text is, and what the others are the parts of. -/
theorem splitOn_eq_cons {separator : Char} {cs part : List Char} {parts : List (List Char)}
    (h : splitOn separator cs = part :: parts) :
    separator ∉ part ∧ (cs = part ∧ parts = [] ∨
      ∃ rest, cs = part ++ separator :: rest ∧ splitOn separator rest = parts) := by
  induction cs generalizing part parts with
  | nil =>
    obtain ⟨rfl, rfl⟩ := List.cons.inj h
    exact ⟨List.not_mem_nil, .inl ⟨rfl, rfl⟩⟩
  | cons c cs ih =>
    rw [splitOn] at h
    split at h
    case isTrue hc =>
      obtain ⟨rfl, rfl⟩ := List.cons.inj h
      exact ⟨List.not_mem_nil, .inr ⟨cs, by rw [hc, List.nil_append], rfl⟩⟩
    case isFalse hc =>
      cases hs : splitOn separator cs with
      | nil => exact absurd hs (splitOn_ne_nil separator cs)
      | cons first others =>
        rw [hs] at h
        obtain ⟨rfl, rfl⟩ := List.cons.inj h
        obtain ⟨hfirst, hcs⟩ := ih hs
        refine ⟨?_, ?_⟩
        · rw [List.mem_cons, not_or]
          exact ⟨Ne.symm hc, hfirst⟩
        · rcases hcs with ⟨rfl, rfl⟩ | ⟨rest, rfl, rfl⟩
          · exact .inl ⟨rfl, rfl⟩
          · exact .inr ⟨rest, rfl, rfl⟩

/-- The induction is on the parts between the underscores, of which the empty ones are passed
over. -/
theorem exists_words_of_parts {parts : List (List Char)} {cs : List Char} {r : WordReader}
    (hparts : splitOn '_' cs = parts) (hempty : r.word = []) (hascii : IsAscii cs) :
    ∃ wordss, List.Forall₂ Words (parts.filter fun part => !part.isEmpty) wordss ∧
      (cs.foldl WordReader.take r).close.words = r.words ++ wordss.flatten.map loweredText := by
  induction parts generalizing cs r with
  | nil => exact absurd hparts (splitOn_ne_nil '_' cs)
  | cons part parts ih =>
    obtain ⟨hunderscore, hcs⟩ := splitOn_eq_cons hparts
    have hpart : IsAscii part := by
      intro c hc
      rcases hcs with ⟨rfl, -⟩ | ⟨rest, rfl, -⟩
      · exact hascii c hc
      · exact hascii c (List.mem_append_left _ hc)
    -- the words of the first part, if it has any
    obtain ⟨first, hfirst, hword, hwords⟩ : ∃ first : List (List (List Char)),
        List.Forall₂ Words ([part].filter fun part => !part.isEmpty) first ∧
        (part.foldl WordReader.take r).close.word = [] ∧
        (part.foldl WordReader.take r).close.words =
          r.words ++ first.flatten.map loweredText := by
      by_cases hne : part = []
      · subst hne
        rw [List.foldl_nil, WordReader.close_of_word_nil hempty]
        exact ⟨[], .nil, hempty, (List.append_nil _).symm⟩
      · obtain ⟨words, hwords, hword, hread⟩ :=
          WordReader.exists_words hempty hne hpart hunderscore
        refine ⟨[words], ?_, hword, by simpa using hread⟩
        rw [List.filter_cons_of_pos (by simpa using hne)]
        exact .cons hwords .nil
    rcases hcs with ⟨rfl, rfl⟩ | ⟨rest, rfl, hrest⟩
    · exact ⟨first, hfirst, hwords⟩
    · have hstep : (part ++ '_' :: rest).foldl WordReader.take r =
          rest.foldl WordReader.take (part.foldl WordReader.take r).close := by
        rw [List.foldl_append, List.foldl_cons]
        rfl
      have hascii' : IsAscii rest := fun c hc => hascii c (by simp [hc])
      obtain ⟨others, hothers, hread⟩ := ih hrest hword hascii'
      refine ⟨first ++ others, ?_, ?_⟩
      · rw [← List.singleton_append, List.filter_append]
        exact List.rel_append hfirst hothers
      · rw [hstep, hread, hwords, List.flatten_append, List.map_append, List.append_assoc]

/-- What is between underscores consists of characters of the identifier. -/
theorem isAscii_of_mem_stretches {cs stretch : List Char} (hascii : IsAscii cs)
    (h : stretch ∈ stretches cs) : IsAscii stretch := by
  obtain ⟨hmem, -⟩ := List.mem_filter.mp h
  clear h
  generalize hparts : splitOn '_' cs = parts at hmem
  induction parts generalizing cs with
  | nil => exact absurd hmem List.not_mem_nil
  | cons part parts ih =>
    obtain ⟨-, hcs⟩ := splitOn_eq_cons hparts
    rcases hcs with ⟨rfl, rfl⟩ | ⟨rest, rfl, hrest⟩
    · rw [List.mem_singleton.mp hmem]
      exact hascii
    · rcases List.mem_cons.mp hmem with rfl | hmem
      · exact fun c hc => hascii c (List.mem_append_left _ hc)
      · exact ih (fun c hc => hascii c (by simp [hc])) hrest hmem

/-! ## Where words begin -/

namespace Words

variable {stretch before after : List Char} {words : List (List Char)} {c : Char}
  (h : Words stretch words)
include h

/-- After a small letter a capital begins a word. -/
theorem begins_of_small_capital {small capital : Char}
    (hcut : stretch = before ++ small :: capital :: after) (hascii : small.toNat < 0x80)
    (hsmall : isLower small = true) (hcapital : isUpper capital = true) :
    Begins words (before ++ [small]) := by
  rw [h.begins_iff (before ++ [small]) (capital :: after) (by simp) (by simp) (by simp [hcut])]
  refine .capital hcapital ?_
  rw [endsInCapital_concat, isUpper_eq_false_of_isLower hascii hsmall, hsmall]
  simp

/-- A run of capitals before a small letter gives up its last one. -/
theorem begins_of_run {capital last small : Char}
    (hcut : stretch = before ++ capital :: last :: small :: after) (hlast : isUpper last = true)
    (hsmall : isLower small = true) : Begins words (before ++ [capital]) := by
  rw [h.begins_iff (before ++ [capital]) (last :: small :: after) (by simp) (by simp)
    (by simp [hcut])]
  exact .lastOfRun hsmall ((endsInCapital_concat _ last).mpr (.inl hlast))

/-- Before a character that is no capital a word begins exactly if it is no letter either, stands
right before a small letter, and the last letter before it is a capital. -/
theorem begins_iff_of_not_capital (hbefore : before ≠ []) (hcut : stretch = before ++ c :: after)
    (hc : isUpper c = false) :
    Begins words before ↔ isLower c = false ∧ EndsInCapital before ∧
      ∃ small rest, after = small :: rest ∧ isLower small = true := by
  rw [h.begins_iff before (c :: after) hbefore (by simp) hcut]
  constructor
  · intro hboundary
    rcases hboundary with ⟨hcapital, -⟩ | ⟨hsmall, hends⟩
    · rw [hc] at hcapital
      cases hcapital
    · rw [endsInCapital_concat, hc] at hends
      rcases hends with hcapital | ⟨-, hlower, hends⟩
      · cases hcapital
      · exact ⟨hlower, hends, _, _, rfl, hsmall⟩
  · rintro ⟨hlower, hends, small, rest, rfl, hsmall⟩
    exact .lastOfRun hsmall ((endsInCapital_concat before c).mpr (.inr ⟨hc, hlower, hends⟩))

end Words

/-- **The words of an ASCII identifier begin at boundaries**, and snake case lowers the words and
joins them by underscores.  Inside a stretch a word begins between a small letter and a capital, and
before the last capital of a run that a small letter follows.  Before any character but a capital a
word begins exactly if it is no letter either, stands right before a small letter, and the last
letter before it is a capital. -/
theorem snakeCase_boundaries {cs : List Char} (hascii : IsAscii cs) :
    (∃ wordss : List (List (List Char)), List.Forall₂ Words (stretches cs) wordss ∧
      snakeCase cs = ['_'].intercalate (wordss.flatten.map loweredText)) ∧
    ∀ stretch ∈ stretches cs, ∀ words, Words stretch words →
      (∀ before after small capital, stretch = before ++ small :: capital :: after →
        isLower small = true → isUpper capital = true → Begins words (before ++ [small])) ∧
      (∀ before after capital last small,
        stretch = before ++ capital :: last :: small :: after →
        isUpper capital = true → isUpper last = true → isLower small = true →
          Begins words (before ++ [capital])) ∧
      ∀ before after c, before ≠ [] → stretch = before ++ c :: after → isUpper c = false →
        (Begins words before ↔ isLower c = false ∧ EndsInCapital before ∧
          ∃ small rest, after = small :: rest ∧ isLower small = true) := by
  refine ⟨?_, fun stretch hmem words h => ⟨?_, ?_, ?_⟩⟩
  · obtain ⟨wordss, hwords, hread⟩ := exists_words_of_parts (r := {}) rfl rfl hascii
    refine ⟨wordss, hwords, ?_⟩
    rw [snakeCase, snakeWords, hread]
    rfl
  · intro before after small capital hcut hsmall hcapital
    have hstretch := isAscii_of_mem_stretches hascii hmem
    exact h.begins_of_small_capital hcut (hstretch small (by simp [hcut])) hsmall hcapital
  · intro before after capital last small hcut _ hlast hsmall
    exact h.begins_of_run hcut hlast hsmall
  · intro before after c hbefore hcut hc
    exact h.begins_iff_of_not_capital hbefore hcut hc

theorem snakeCase_boundaries_of_mixed :
    IsAscii "AB1cDEf_g".toList ∧
    (∃ wordss, List.Forall₂ Words (stretches "AB1cDEf_g".toList) wordss ∧
      snakeCase "AB1cDEf_g".toList = ['_'].intercalate (wordss.flatten.map loweredText)) ∧
    snakeCase "AB1cDEf_g".toList = "ab_1c_d_ef_g".toList := by
  have hascii : IsAscii "AB1cDEf_g".toList := by decide
  exact ⟨hascii, (snakeCase_boundaries hascii).1, by decide⟩

/-- A digit can begin a word. -/
theorem snakeCase_splits_before_digit :
    snakeCase "A1b".toList = "a_1b".toList ∧ isUpper '1' = false ∧
      Words "A1b".toList [['A'], ['1', 'b']] := by
  refine ⟨by decide, by decide, ?_⟩
  have hends : EndsInCapital ['A', '1'] :=
    ⟨[], 'A', ['1'], rfl, by decide, List.forall_mem_singleton.mpr (by decide)⟩
  have hfirst : Words ['A'] ([] ++ [['A']]) := words_singleton 'A'
  have hsecond : Words (['A'] ++ ['1']) ([] ++ [['A'] ++ ['1']]) :=
    hfirst.extend (fun h => absurd h (by decide)) fun h => absurd h (by decide)
  exact hsecond.split (by decide) (by decide) hends (by decide)

end MetricBundle
