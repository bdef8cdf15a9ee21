import MetricBundle.Text.LetterCase
import Mathlib.Data.List.Chain

/-!
# Capitals and small letters

The tables of letter case fit together.  No character is both a capital and a small letter
(`isUpper_of_isLower`), and lowering is finished after one time: what takes the place of a character
is no capital and is lowered to itself (`finished_of_mem_lowered`).  So a capital is still there
after lowering only if it has no lowercase form.

Both are comparisons of two tables, run by run.  The tables are ordered, so a run has to be compared
with the few runs only that reach into its range (`Run.near`).  Runs in the same range can still be
apart: capitals and small letters alternate there (`Run.apart`).
-/

namespace MetricBundle.LetterCase

/-! ## Ordered lists -/

section Ordered

variable {α : Type} {p : α → Bool} {x : α} {l : List α}

/-- If a property goes over from each element to those before it, everything that has it is at the
beginning. -/
theorem mem_takeWhile (hback : l.Pairwise fun x y => p y = true → p x = true) (hx : x ∈ l)
    (hp : p x = true) : x ∈ l.takeWhile p := by
  induction l with
  | nil => cases hx
  | cons y l ih =>
    obtain ⟨hy, hback⟩ := List.pairwise_cons.mp hback
    rcases List.mem_cons.mp hx with rfl | hx
    · rw [List.takeWhile_cons_of_pos hp]
      exact List.mem_cons_self
    · rw [List.takeWhile_cons_of_pos (hy x hx hp)]
      exact List.mem_cons_of_mem y (ih hback hx)

theorem mem_dropWhile (hx : x ∈ l) (hp : ¬p x = true) : x ∈ l.dropWhile p := by
  induction l with
  | nil => cases hx
  | cons y l ih =>
    by_cases hy : p y = true
    · rw [List.dropWhile_cons_of_pos hy]
      rcases List.mem_cons.mp hx with rfl | hx
      · exact absurd hy hp
      · exact ih hx
    · rwa [List.dropWhile_cons_of_neg hy]

end Ordered

/-! ## Runs of code points -/

/-- The runs of a table that reach into the range of a run.  In an ordered table they are next to
each other. -/
def Run.near (a : Run) (table : List Run) : List Run :=
  -- comparisons as the kernel computes them fast, since the tables are long
  (table.dropWhile fun b => Nat.blt b.last a.first).takeWhile fun b => Nat.ble b.first a.last

/-- The runs have no code point in common, as far as their ends show: their steps pass by each
other, or one of them is a single point that the other one leaves out. -/
def Run.apart (a b : Run) : Bool :=
  (a.step == 2 && b.step == 2 && (a.first + b.first) % 2 == 1) ||
    (a.first == a.last && !b.contains a.first) || (b.first == b.last && !a.contains b.first)

/-- A run has no code point in common with a table. -/
def Run.apartFrom (a : Run) (table : List Run) : Bool := (a.near table).all a.apart

/-- The runs of a table begin one after the other. -/
def Ordered (table : List Run) : Prop := table.IsChain fun a b => a.first ≤ b.first

instance (table : List Run) : Decidable (Ordered table) :=
  inferInstanceAs (Decidable (table.IsChain _))

namespace Run

variable {a b : Run} {table : List Run} {n : Nat}

theorem contains_eq_true_iff :
    a.contains n = true ↔ a.first ≤ n ∧ n ≤ a.last ∧ (n - a.first) % a.step = 0 := by
  simp only [contains, Bool.and_eq_true, decide_eq_true_eq, beq_iff_eq, and_assoc]

theorem not_contains_of_apart (h : a.apart b = true) (ha : a.contains n = true) :
    ¬b.contains n = true := by
  intro hb
  obtain ⟨hafirst, halast, hastep⟩ := contains_eq_true_iff.mp ha
  obtain ⟨hbfirst, hblast, hbstep⟩ := contains_eq_true_iff.mp hb
  simp only [apart, Bool.or_eq_true, Bool.and_eq_true, beq_iff_eq, Bool.not_eq_true'] at h
  rcases h with (⟨⟨ha2, hb2⟩, hodd⟩ | ⟨hpoint, hout⟩) | ⟨hpoint, hout⟩
  · rw [ha2] at hastep
    rw [hb2] at hbstep
    omega
  · obtain rfl : n = a.first := by omega
    rw [hout] at hb
    cases hb
  · obtain rfl : n = b.first := by omega
    rw [hout] at ha
    cases ha

/-- A run of an ordered table that shares a code point with the given run is near it. -/
theorem mem_near (hordered : Ordered table) (hb : b ∈ table) (han : a.contains n = true)
    (hbn : b.contains n = true) : b ∈ a.near table := by
  obtain ⟨hafirst, halast, -⟩ := contains_eq_true_iff.mp han
  obtain ⟨hbfirst, hblast, -⟩ := contains_eq_true_iff.mp hbn
  have htrans : Trans (fun x y : Run => x.first ≤ y.first) (fun x y : Run => x.first ≤ y.first)
      (fun x y : Run => x.first ≤ y.first) := ⟨Nat.le_trans⟩
  have hpairs : table.Pairwise fun x y => x.first ≤ y.first :=
    List.isChain_iff_pairwise.mp hordered
  have hback : table.Pairwise fun x y =>
      Nat.ble y.first a.last = true → Nat.ble x.first a.last = true := by
    refine hpairs.imp fun {x y} hxy hy => ?_
    rw [Nat.ble_eq] at hy ⊢
    omega
  apply mem_takeWhile (hback.sublist (List.dropWhile_sublist _))
  · apply mem_dropWhile hb
    rw [Nat.blt_eq]
    omega
  · rw [Nat.ble_eq]
    omega

/-- No run of the table has a code point of a run that is apart from it. -/
theorem not_any_contains (hordered : Ordered table) (h : a.apartFrom table = true)
    (ha : a.contains n = true) : (table.any fun b => b.contains n) = false := by
  rw [List.any_eq_false]
  intro b hb hbn
  have hnear : b ∈ a.near table := mem_near hordered hb ha hbn
  exact not_contains_of_apart (List.all_eq_true.mp h b hnear) ha hbn

end Run

/-! ## The tables -/

theorem ordered_upperRuns : Ordered upperRuns := by decide +kernel

theorem lowerRuns_apart : ∀ a ∈ lowerRuns, a.apartFrom upperRuns = true := by decide +kernel

/-- The characters that are lowered to one other. -/
def shiftedRuns : List Run := lowerShifts.map Prod.fst

theorem ordered_shiftedRuns : Ordered shiftedRuns := by decide +kernel

/-- What the characters of a run are lowered to, each by the same distance. -/
def lowerForms (shift : Run × Int) : Run :=
  ⟨(shift.1.first + shift.2).toNat, (shift.1.last + shift.2).toNat, shift.1.step⟩

/-- The code points are characters, no capitals, and not lowered any more. -/
structure Run.IsFinal (forms : Run) : Prop where
  valid : forms.last < 0xD800 ∨ 0xDFFF < forms.first ∧ forms.last < 0x110000
  small : 0x61 ≤ forms.first ∧ forms.last ≤ 0x7A ∨ 0x80 ≤ forms.first
  apart_upper : forms.apartFrom upperRuns = true
  apart_shifted : forms.apartFrom shiftedRuns = true

instance (forms : Run) : Decidable forms.IsFinal :=
  decidable_of_iff
    ((forms.last < 0xD800 ∨ 0xDFFF < forms.first ∧ forms.last < 0x110000) ∧
      (0x61 ≤ forms.first ∧ forms.last ≤ 0x7A ∨ 0x80 ≤ forms.first) ∧
      forms.apartFrom upperRuns = true ∧ forms.apartFrom shiftedRuns = true)
    ⟨fun ⟨h₁, h₂, h₃, h₄⟩ => ⟨h₁, h₂, h₃, h₄⟩, fun ⟨h₁, h₂, h₃, h₄⟩ => ⟨h₁, h₂, h₃, h₄⟩⟩

theorem isFinal_lowerForms : ∀ shift ∈ lowerShifts, (lowerForms shift).IsFinal := by
  decide +kernel

/-! ## Characters -/

theorem toNat_ofNat {n : Nat} (h : n.isValidChar) : (Char.ofNat n).toNat = n := by
  rw [Char.ofNat, dif_pos h]
  rfl

/-- No character is a capital and a small letter. -/
theorem isUpper_of_isLower {c : Char} (h : isLower c = true) : isUpper c = false := by
  by_cases hc : c.toNat < 0x80
  · rw [isLower, if_pos hc, Bool.and_eq_true, decide_eq_true_eq, decide_eq_true_eq] at h
    rw [isUpper, if_pos hc, Bool.and_eq_false_iff, decide_eq_false_iff_not,
      decide_eq_false_iff_not]
    omega
  · rw [isLower, if_neg hc] at h
    rw [isUpper, if_neg hc]
    obtain ⟨a, ha, hcontains⟩ := List.any_eq_true.mp h
    exact Run.not_any_contains ordered_upperRuns (lowerRuns_apart a ha) hcontains

theorem isLower_of_isUpper {c : Char} (h : isUpper c = true) : isLower c = false := by
  cases hl : isLower c with
  | false => rfl
  | true => exact absurd h (Bool.eq_false_iff.mp (isUpper_of_isLower hl))

/-- Lowering has nothing left to do with the character. -/
structure Finished (c : Char) : Prop where
  isUpper_eq_false : isUpper c = false
  lowered_eq : lowered c = [c]
  le_toNat : 0x61 ≤ c.toNat

/-- A character is left as it is if it is no capital of ASCII and in no run of the table. -/
theorem lowered_eq_self {c : Char} (hupper : isUpper c = false)
    (hshifted : (shiftedRuns.any fun a => a.contains c.toNat) = false) : lowered c = [c] := by
  by_cases hc : c.toNat < 0x80
  · rw [lowered, if_pos hc, hupper]
    rfl
  · have hdotted : c.toNat ≠ 0x130 := by
      intro heq
      rw [← Char.ofNat_toNat c, heq] at hupper
      exact absurd hupper (by decide)
    have hnone : lowerShifts.find? (·.1.contains c.toNat) = none := by
      rw [shiftedRuns, List.any_map, List.any_eq_false] at hshifted
      exact List.find?_eq_none.mpr hshifted
    rw [lowered, if_neg hc, if_neg hdotted, hnone]

theorem Run.IsFinal.finished {forms : Run} {c : Char} (h : forms.IsFinal)
    (hc : forms.contains c.toNat = true) : Finished c := by
  obtain ⟨hfirst, hlast, -⟩ := contains_eq_true_iff.mp hc
  have hupper : isUpper c = false := by
    by_cases hascii : c.toNat < 0x80
    · rw [isUpper, if_pos hascii, Bool.and_eq_false_iff, decide_eq_false_iff_not,
        decide_eq_false_iff_not]
      rcases h.small with h | h <;> omega
    · rw [isUpper, if_neg hascii]
      exact not_any_contains ordered_upperRuns h.apart_upper hc
  refine ⟨hupper, lowered_eq_self hupper ?_, ?_⟩
  · exact not_any_contains ordered_shiftedRuns h.apart_shifted hc
  · rcases h.small with h | h <;> omega

/-- The lowercase form of a character in a run. -/
theorem contains_lowerForms {shift : Run × Int} {n : Nat} (h : (lowerForms shift).IsFinal)
    (hn : shift.1.contains n = true) :
    (lowerForms shift).contains (Char.ofNat (n + shift.2).toNat).toNat = true := by
  obtain ⟨⟨first, last, step⟩, distance⟩ := shift
  obtain ⟨hfirst, hlast, hstep⟩ := Run.contains_eq_true_iff.mp hn
  have hvalid := h.valid
  have hsmall := h.small
  simp only [lowerForms] at hvalid hsmall hfirst hlast hstep ⊢
  have hchar : (n + distance).toNat.isValidChar := by
    rw [Nat.isValidChar]
    omega
  have hsteps : (n + distance).toNat - (first + distance).toNat = n - first := by omega
  rw [toNat_ofNat hchar, Run.contains_eq_true_iff]
  simp only [hsteps]
  exact ⟨by omega, by omega, hstep⟩

/-- **Lowering is finished after one time.**  A character that is not left as it is has lowercase
forms in its place, which are no capitals and stay as they are. -/
theorem finished_of_mem_lowered {c d : Char} (hc : lowered c ≠ [c]) (hd : d ∈ lowered c) :
    Finished d := by
  by_cases hascii : c.toNat < 0x80
  · rw [lowered, if_pos hascii] at hc hd
    cases hupper : isUpper c with
    | false =>
      rw [hupper] at hc
      exact absurd rfl hc
    | true =>
      rw [hupper, if_pos rfl] at hd
      obtain rfl := List.mem_singleton.mp hd
      rw [isUpper, if_pos hascii, Bool.and_eq_true, decide_eq_true_eq, decide_eq_true_eq] at hupper
      have hsmall : Run.IsFinal ⟨0x61, 0x7A, 1⟩ := by decide +kernel
      have hchar : (c.toNat + 0x20).isValidChar := by
        rw [Nat.isValidChar]
        omega
      refine hsmall.finished ?_
      rw [toNat_ofNat hchar, Run.contains_eq_true_iff]
      simp only
      exact ⟨by omega, by omega, Nat.mod_one _⟩
  · by_cases hdotted : c.toNat = 0x130
    · rw [lowered, if_neg hascii, if_pos hdotted] at hd
      simp only [List.mem_cons, List.not_mem_nil, or_false] at hd
      rcases hd with rfl | rfl
      · exact ⟨by decide, by decide, by decide⟩
      · exact ⟨by decide, by decide, by decide⟩
    · rw [lowered, if_neg hascii, if_neg hdotted] at hc hd
      split at hd
      case h_1 run distance hfind =>
        obtain rfl := List.mem_singleton.mp hd
        have hmem := List.mem_of_find?_eq_some hfind
        have hcontains := List.find?_some hfind
        have hfinal := isFinal_lowerForms _ hmem
        exact hfinal.finished (contains_lowerForms hfinal hcontains)
      case h_2 hfind =>
        rw [hfind] at hc
        exact absurd rfl hc

/-- Something always takes the place of a character. -/
theorem lowered_ne_nil (c : Char) : lowered c ≠ [] := by
  unfold lowered
  split
  · exact List.cons_ne_nil _ _
  · split
    · exact List.cons_ne_nil _ _
    · split <;> exact List.cons_ne_nil _ _

end MetricBundle.LetterCase
