import MetricBundle.Blueprint
import MetricBundle.Proofs.ProductRounding
import MetricBundle.Proofs.WindowTurns

/-!
# Quantiles as order statistics

The value of a quantile is one of the reported samples: the one that stands, when they are put in
order, at the place that the share of their count gives (`sampleIndex`).  A place is always one of
the samples', whatever the quantile.  Shares are monotone (`Number.ceilCount_mul_mono`), so values
are in the order of their quantiles, and the share of a count is none for zero and all for one, so
these two give the least and the greatest sample.

Samples are put in the order of their bits, which is total: no two different ones are equal in it.
So the order in which they came does not matter.  That a share of the count is computed without
error needs the count to be one of at most 53 bits, which streams with room for no more samples
never exceed (`Roomy`); where a capacity is read, it is one of 32 bits (`readCount`).
-/

namespace MetricBundle.AgeWindow

/-! ## Room in the streams -/

/-- The window has the given shape, and no stream holds more than it has room for. -/
structure Roomy (shape : WindowShape) (w : AgeWindow) : Prop where
  shape_eq : w.shape = shape
  size_le : ∀ q ∈ w.streams, q.size ≤ shape.capacity

section Room

variable {shape : WindowShape} {w : AgeWindow}

theorem roomy_after? {created : Nat} {calls : List (Nat × Call)}
    (h : after? shape created calls = some w) : Roomy shape w :=
  have hreached := reached_after? h
  ⟨hreached.shape_eq, hreached.size_le shape.capacity_pos.ne'⟩

theorem length_reported_le (h : Roomy shape w) : w.reported.length ≤ shape.capacity := by
  rw [reported, SampleQueue.samples, List.length_reverse, SampleQueue.length_recent]
  exact h.size_le _ (List.get_mem _ _)

end Room

/-! ## The order of samples -/

theorem totalLE_iff {x y : Number} : x.totalLE y = true ↔ x.totalKey ≤ y.totalKey :=
  decide_eq_true_iff

theorem pairwise_ordered (w : AgeWindow) :
    w.ordered.Pairwise fun x y => x.totalLE y = true := by
  refine List.pairwise_mergeSort (fun x y z hxy hyz => ?_) (fun x y => ?_) w.reported
  · rw [totalLE_iff] at hxy hyz ⊢
    exact hxy.trans hyz
  · rw [Bool.or_eq_true, totalLE_iff, totalLE_iff]
    exact Int.le_total _ _

theorem perm_ordered (w : AgeWindow) : w.ordered.Perm w.reported := List.mergeSort_perm _ _

theorem length_ordered (w : AgeWindow) : w.ordered.length = w.reported.length :=
  w.perm_ordered.length_eq

/-- Only the samples count, not the order in which they came. -/
theorem ordered_eq_of_perm {w w' : AgeWindow} (h : w.reported.Perm w'.reported) :
    w.ordered = w'.ordered := by
  refine List.Perm.eq_of_pairwise (fun x y _ _ hxy hyx => ?_) w.pairwise_ordered
    w'.pairwise_ordered (w.perm_ordered.trans (h.trans w'.perm_ordered.symm))
  rw [totalLE_iff] at hxy hyx
  exact Number.totalKey_injective (Int.le_antisymm hxy hyx)

theorem totalLE_getElem {w : AgeWindow} {i j : Nat} (hi : i < w.ordered.length)
    (hj : j < w.ordered.length) (hle : i ≤ j) : w.ordered[i].totalLE w.ordered[j] = true := by
  rcases Nat.lt_or_eq_of_le hle with hlt | rfl
  · exact List.pairwise_iff_getElem.mp w.pairwise_ordered i j hi hj hlt
  · exact totalLE_iff.mpr (Int.le_refl _)

/-! ## Places -/

/-- The place among so many ordered samples that a quantile stands at. -/
def sampleIndex (n : Nat) (quantile : Number) : Nat :=
  min ((quantile.mul (Number.ofNat n)).ceilCount - 1) (n - 1)

section Places

variable {n : Nat} {p q : Number} {w : AgeWindow}

/-- **The place is one of the samples'**, whatever the quantile. -/
theorem sampleIndex_lt (hn : n ≠ 0) (q : Number) : sampleIndex n q < n := by
  unfold sampleIndex
  omega

theorem rank_eq (hw : w.reported ≠ []) (q : Number) :
    ∃ hlt : sampleIndex w.ordered.length q < w.ordered.length,
      rank w.ordered q = w.ordered[sampleIndex w.ordered.length q] := by
  have hne : w.ordered.length ≠ 0 := by
    rw [length_ordered]
    exact fun h => hw (List.length_eq_zero_iff.mp h)
  have hlt := sampleIndex_lt hne q
  refine ⟨hlt, ?_⟩
  show w.ordered.getD (sampleIndex w.ordered.length q) Number.notANumber = _
  rw [List.getD_eq_getElem?_getD, List.getElem?_eq_getElem hlt]
  rfl

theorem rank_nil (q : Number) : rank [] q = Number.notANumber := List.getD_nil

theorem sampleIndex_mono (hn : n ≠ 0) (hlt : n < 2 ^ 53) (hp : SummaryOpts.isShare p = true)
    (hq : SummaryOpts.isShare q = true) (hle : p.le q = true) :
    sampleIndex n p ≤ sampleIndex n q := by
  have hzero := (Bool.and_eq_true _ _ ▸ hp).1
  have hone := (Bool.and_eq_true _ _ ▸ hq).2
  have hmono := Number.ceilCount_mul_mono hzero hle hone hn hlt
  unfold sampleIndex
  omega

theorem sampleIndex_zero (hn : n ≠ 0) (hlt : n < 2 ^ 53) (hq : q.same Number.zero = true) :
    sampleIndex n q = 0 := by
  rw [sampleIndex, Number.ceilCount_zero_mul hq hn hlt]
  exact Nat.zero_min _

theorem sampleIndex_one (hn : n ≠ 0) (hlt : n < 2 ^ 53) : sampleIndex n Number.one = n - 1 := by
  rw [sampleIndex, Number.ceilCount_one_mul hn hlt, Nat.min_self]

end Places

/-! ## Values -/

section Values

variable {w : AgeWindow} {objectives : List (Number × Number)}

theorem rank_mem (hw : w.reported ≠ []) (q : Number) : rank w.ordered q ∈ w.reported := by
  obtain ⟨hlt, hrank⟩ := rank_eq hw q
  rw [hrank]
  exact w.perm_ordered.mem_iff.mp (List.getElem_mem hlt)

/-- A sample that is reported stands at some place of the order. -/
theorem exists_getElem_ordered {x : Number} (hx : x ∈ w.reported) :
    ∃ i, ∃ hlt : i < w.ordered.length, w.ordered[i] = x :=
  List.getElem_of_mem (w.perm_ordered.mem_iff.mpr hx)

theorem rank_mono (hw : w.reported ≠ []) (hlt : w.reported.length < 2 ^ 53) {p q : Number}
    (hp : SummaryOpts.isShare p = true) (hq : SummaryOpts.isShare q = true)
    (hle : p.le q = true) : (rank w.ordered p).totalLE (rank w.ordered q) = true := by
  obtain ⟨hlow, hrank⟩ := rank_eq hw p
  obtain ⟨hhigh, hrank'⟩ := rank_eq hw q
  rw [hrank, hrank']
  refine totalLE_getElem hlow hhigh (sampleIndex_mono (by omega) ?_ hp hq hle)
  rwa [length_ordered]

theorem rank_zero_le (hw : w.reported ≠ []) (hlt : w.reported.length < 2 ^ 53) {q x : Number}
    (hq : q.same Number.zero = true) (hx : x ∈ w.reported) :
    (rank w.ordered q).totalLE x = true := by
  obtain ⟨hplace, hrank⟩ := rank_eq hw q
  obtain ⟨i, hi, rfl⟩ := exists_getElem_ordered hx
  rw [hrank]
  rw [← length_ordered] at hlt
  refine totalLE_getElem hplace hi ?_
  rw [sampleIndex_zero (by omega) hlt hq]
  exact Nat.zero_le i

theorem le_rank_one (hw : w.reported ≠ []) (hlt : w.reported.length < 2 ^ 53) {x : Number}
    (hx : x ∈ w.reported) : x.totalLE (rank w.ordered Number.one) = true := by
  obtain ⟨hplace, hrank⟩ := rank_eq hw Number.one
  obtain ⟨i, hi, rfl⟩ := exists_getElem_ordered hx
  rw [hrank]
  rw [← length_ordered] at hlt
  refine totalLE_getElem hi hplace ?_
  rw [sampleIndex_one (by omega) hlt]
  omega

/-- **Quantiles are order statistics of what is reported.**  Whatever calls have led to the window,
there is a value for each objective, at a place of the samples put in order that is never beyond
them, whatever the quantile.  So values are samples.  For objectives from zero to one that are in
order, values are in order; the value of zero is the least sample, and that of one the greatest.
Only which samples are reported counts, not their order; and if there are none, no value is a
number. -/
theorem quantiles_are_order_statistics {shape : WindowShape} {created : Nat}
    {calls : List (Nat × Call)} (h : after? shape created calls = some w)
    (hcapacity : shape.capacity < 2 ^ 53) (objectives : List (Number × Number)) :
    (w.quantiles objectives).map Prod.fst = objectives.map Prod.fst ∧
    (w.reported ≠ [] →
      (∀ q, ∃ hlt : sampleIndex w.ordered.length q < w.ordered.length,
        rank w.ordered q = w.ordered[sampleIndex w.ordered.length q]) ∧
      (∀ v ∈ w.quantiles objectives, v.2 ∈ w.reported) ∧
      ((∀ o ∈ objectives, SummaryOpts.isShare o.1 = true) →
        objectives.Pairwise (fun o o' => o.1.le o'.1 = true) →
        (w.quantiles objectives).Pairwise fun v v' => v.2.totalLE v'.2 = true) ∧
      ∀ v ∈ w.quantiles objectives, ∀ x ∈ w.reported,
        (v.1.same Number.zero = true → v.2.totalLE x = true) ∧
        (v.1.same Number.one = true → x.totalLE v.2 = true)) ∧
    (w.reported = [] → ∀ v ∈ w.quantiles objectives, v.2 = Number.notANumber) ∧
    ∀ w' : AgeWindow, w'.reported.Perm w.reported →
      w'.quantiles objectives = w.quantiles objectives := by
  have hlt : w.reported.length < 2 ^ 53 :=
    Nat.lt_of_le_of_lt (length_reported_le (roomy_after? h)) hcapacity
  have hvalue : ∀ v ∈ w.quantiles objectives, v.2 = rank w.ordered v.1 := by
    intro v hv
    obtain ⟨o, -, rfl⟩ := List.mem_map.mp hv
    rfl
  refine ⟨?quantiles, fun hw => ⟨rank_eq hw, ?samples, ?inOrder, ?ends⟩, ?none, ?order⟩
  case quantiles =>
    exact List.map_map
  case samples =>
    intro v hv
    rw [hvalue v hv]
    exact rank_mem hw v.1
  case inOrder =>
    intro hshares hpairwise
    refine List.pairwise_map.mpr (hpairwise.imp_of_mem fun {o o'} ho ho' hle => ?_)
    exact rank_mono hw hlt (hshares o ho) (hshares o' ho') hle
  case ends =>
    intro v hv x hx
    rw [hvalue v hv]
    refine ⟨fun hzero => rank_zero_le hw hlt hzero hx, fun hone => ?_⟩
    obtain hone | ⟨-, hone⟩ | ⟨-, hone⟩ := Number.eq_or_zeros_of_same hone
    · rw [hone]
      exact le_rank_one hw hlt hx
    · exact absurd hone (by decide)
    · exact absurd hone (by decide)
  case none =>
    intro hnone v hv
    have hordered : w.ordered = [] := by
      rw [ordered, hnone, List.mergeSort_nil]
    rw [hvalue v hv, hordered, rank_nil]
  case order =>
    intro w' hperm
    simp only [quantiles, ordered_eq_of_perm hperm]

/-- Negative zero, one and what is not a number, which is the greatest, in a stream with room for
three samples. -/
theorem quantiles_are_order_statistics_of_mixed_samples :
    let shape : WindowShape :=
      { maxAge := 10, ageBuckets := 2, capacity := 3, ageBuckets_pos := by decide,
        capacity_pos := by decide }
    let calls : List (Nat × Call) :=
      [(0, .observe Number.zero), (1, .observe Number.one), (2, .observe Number.notANumber),
        (3, .observe Number.zero.neg)]
    let objectives := [(Number.zero.neg, Number.zero), (Number.one, Number.zero)]
    ∃ w, after? shape 0 calls = some w ∧
      w.reported = [Number.one, Number.notANumber, Number.zero.neg] ∧
      (w.quantiles objectives).Pairwise (fun v v' => v.2.totalLE v'.2 = true) ∧
      ∀ v ∈ w.quantiles objectives,
        (v.1.same Number.zero = true → v.2.totalLE Number.zero.neg = true) ∧
        (v.1.same Number.one = true → Number.notANumber.totalLE v.2 = true) := by
  intro shape calls objectives
  have hrun : (after? shape 0 calls).map reported =
      some [Number.one, Number.notANumber, Number.zero.neg] := by decide
  obtain ⟨w, hw, hreported⟩ := Option.map_eq_some_iff.mp hrun
  obtain ⟨-, hsome, -⟩ := quantiles_are_order_statistics hw (by decide) objectives
  obtain ⟨-, -, hordered, hends⟩ := hsome (by rw [hreported]; exact List.cons_ne_nil _ _)
  rw [hreported] at hends
  refine ⟨w, hw, hreported, hordered (by decide) ?_, fun v hv => ?_⟩
  · exact .cons (by decide) (List.pairwise_singleton _ _)
  · exact ⟨(hends v hv _ (by simp)).1, (hends v hv _ (by simp)).2⟩

end Values

end MetricBundle.AgeWindow
