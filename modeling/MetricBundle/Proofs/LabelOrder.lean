import MetricBundle.Blueprint
import MetricBundle.Family
import Mathlib.Data.List.Lex
import Mathlib.Data.String.Basic
import Mathlib.Tactic.SplitIfs
import Mathlib.Tactic.Tauto

/-!
# The order of label values

The children of a vector of summaries are collected in the order of their label values, as these
are declared.  A registry orders samples by label values as well, but takes the values in the order
of the names of their labels, among those of the constant labels.

A series has a label for each `LabelSource` of its blueprint (`labelPairs_eq`), and these are in the
same order for all children.  So two of its samples are in order just if the values of the variable
labels are, when they are taken in the order of `labelIndices` (`textsLE_labelPairs`).  If the label
names have been declared in order, this is the order of the values as they are declared
(`labelIndices_of_ordered`).
-/

namespace MetricBundle

/-! ## Lists of texts -/

/-- Lists of texts are ordered as lists usually are. -/
theorem textsLE_iff {texts others : List String} :
    textsLE texts others = true ↔ texts ≤ others := by
  rw [le_iff_lt_or_eq]
  induction texts generalizing others with
  | nil => cases others <;> simp [textsLE]
  | cons a rest ih =>
    cases others with
    | nil => simp [textsLE]
    | cons b others =>
      rw [textsLE, List.cons_lt_cons_iff, List.cons.injEq]
      split
      case isTrue heq =>
        subst heq
        simp [ih]
      case isFalse hne => simp [hne]

theorem textsLE_trans {texts others more : List String} (h : textsLE texts others = true)
    (h' : textsLE others more = true) : textsLE texts more = true :=
  textsLE_iff.mpr ((textsLE_iff.mp h).trans (textsLE_iff.mp h'))

theorem textsLE_total (texts others : List String) :
    (textsLE texts others || textsLE others texts) = true := by
  rw [Bool.or_eq_true, textsLE_iff, textsLE_iff]
  exact le_total texts others

/-- Things with different tuples of label values are in strict order once they have been put in
order. -/
theorem pairwise_lt_mergeSort {α : Type} {l : List (List String × α)}
    (h : (l.map Prod.fst).Nodup) :
    ((l.mergeSort fun a b => textsLE a.1 b.1).map Prod.fst).Pairwise (· < ·) := by
  have hsorted : (l.mergeSort fun a b => textsLE a.1 b.1).Pairwise
      fun a b => textsLE a.1 b.1 = true := by
    refine List.pairwise_mergeSort (fun a b c hab hbc => ?_) (fun a b => ?_) l
    · exact textsLE_trans hab hbc
    · exact textsLE_total a.1 b.1
  have hnodup : ((l.mergeSort fun a b => textsLE a.1 b.1).map Prod.fst).Nodup :=
    ((List.mergeSort_perm l _).map Prod.fst).nodup_iff.mpr h
  refine List.pairwise_map.mpr ?_
  refine (hsorted.and (List.pairwise_map.mp hnodup)).imp fun ⟨hle, hne⟩ => ?_
  exact lt_of_le_of_ne (textsLE_iff.mp hle) hne

/-! ## Constant labels -/

theorem mem_names_putLabel {name name' value : String} {labels : List (String × String)} :
    name ∈ (putLabel name' value labels).map Prod.fst ↔
      name = name' ∨ name ∈ labels.map Prod.fst := by
  induction labels with
  | nil => simp [putLabel]
  | cons p labels ih =>
    obtain ⟨n, v⟩ := p
    unfold putLabel
    split_ifs with hlt heq
    · simp only [List.map_cons, List.mem_cons, ih]
      exact or_left_comm
    · subst heq
      simp
    · simp

/-- Putting labels in order drops values, but no names. -/
theorem mem_names_orderLabels {name : String} {labels : List (String × String)} :
    name ∈ (orderLabels labels).map Prod.fst ↔ name ∈ labels.map Prod.fst := by
  have hfold (added : List (String × String)) : ∀ start : List (String × String),
      name ∈ (added.foldl (fun ls p => putLabel p.1 p.2 ls) start).map Prod.fst ↔
        name ∈ start.map Prod.fst ∨ name ∈ added.map Prod.fst := by
    induction added with
    | nil => simp
    | cons p added ih =>
      intro start
      rw [List.foldl_cons, ih, mem_names_putLabel, List.map_cons, List.mem_cons]
      tauto
  rw [orderLabels, hfold]
  simp

/-! ## Samples -/

theorem Sample.le_trans {a b c : Sample} (h : a.le b = true) (h' : b.le c = true) :
    a.le c = true := by
  unfold Sample.le at *
  by_cases hab : a.labels.length = b.labels.length
  · by_cases hbc : b.labels.length = c.labels.length
    · rw [if_pos hab] at h
      rw [if_pos hbc] at h'
      rw [if_pos (hab.trans hbc)]
      exact textsLE_trans h h'
    · rw [if_neg hbc] at h'
      rw [if_neg (hab ▸ hbc), hab]
      exact h'
  · by_cases hbc : b.labels.length = c.labels.length
    · rw [if_neg hab] at h
      rw [if_neg (hbc ▸ hab), ← hbc]
      exact h
    · rw [if_neg hab, decide_eq_true_eq] at h
      rw [if_neg hbc, decide_eq_true_eq] at h'
      rw [if_neg (by omega), decide_eq_true_eq]
      omega

theorem Sample.le_total (a b : Sample) : (a.le b || b.le a) = true := by
  unfold Sample.le
  by_cases hab : a.labels.length = b.labels.length
  · rw [if_pos hab, if_pos hab.symm]
    exact textsLE_total _ _
  · rw [if_neg hab, if_neg (Ne.symm hab), Bool.or_eq_true, decide_eq_true_eq, decide_eq_true_eq]
    omega

/-- Putting samples in order leaves them as they are just if they are in order. -/
theorem mergeSort_eq_self_iff {samples : List Sample} :
    samples.mergeSort Sample.le = samples ↔ samples.Pairwise fun a b => a.le b = true := by
  constructor
  · intro h
    rw [← h]
    refine List.pairwise_mergeSort (fun a b c hab hbc => ?_) (fun a b => ?_) samples
    · exact Sample.le_trans hab hbc
    · exact Sample.le_total a b
  · exact List.mergeSort_of_pairwise

/-! ## Where label values come from -/

/-- Where the value of a label comes from. -/
inductive LabelSource where
  | fixed (value : String)
  /-- It is given for the variable label of this number. -/
  | given (index : Nat)
deriving DecidableEq

namespace LabelSource

def value (values : List String) : LabelSource → String
  | .fixed value => value
  | .given index => values.getD index ""

def index? : LabelSource → Option Nat
  | .fixed _ => none
  | .given index => some index

/-- Only the values of variable labels tell series apart. -/
theorem textsLE_map_value (sources : List LabelSource) (values others : List String) :
    textsLE (sources.map (value values)) (sources.map (value others)) =
      textsLE ((sources.filterMap index?).map (values.getD · ""))
        ((sources.filterMap index?).map (others.getD · "")) := by
  induction sources with
  | nil => rfl
  | cons source sources ih =>
    cases source with
    | fixed v =>
      have hsame : (fixed v).value values = (fixed v).value others := rfl
      rw [List.map_cons, List.map_cons, textsLE, if_pos hsame, ih]
      rfl
    | given i =>
      rw [List.map_cons, List.map_cons, textsLE, ih]
      rfl

end LabelSource

namespace Blueprint

variable {b : Blueprint} {values others : List String}

/-- Where the values of the constant labels come from. -/
def constantSources (b : Blueprint) : List (String × LabelSource) :=
  b.descriptor.constLabels.map fun p => (p.1, .fixed p.2)

def variableSources (b : Blueprint) : List (String × LabelSource) :=
  b.descriptor.variableLabels.zipIdx.map fun p => (p.1, .given p.2)

/-- The labels of a series before they are put in order. -/
def unorderedSources (b : Blueprint) : List (String × LabelSource) :=
  match b.instrument with
  | .summary => b.constantSources ++ b.variableSources
  | _ => b.variableSources ++ b.constantSources

/-- The labels of a series, each with the source of its value. -/
def labelSources (b : Blueprint) : List (String × LabelSource) :=
  b.unorderedSources.mergeSort fun p q => decide (p.1 ≤ q.1)

/-- The numbers of the variable labels in the order of the labels. -/
def labelIndices (b : Blueprint) : List Nat := b.labelSources.filterMap (·.2.index?)

theorem zip_eq_map_variableSources (h : values.length = b.arity) :
    b.descriptor.variableLabels.zip values =
      b.variableSources.map fun p => (p.1, p.2.value values) := by
  unfold arity at h
  refine List.ext_getElem ?_ fun i hi hi' => ?_
  · simp [variableSources, h]
  · simp only [List.length_zip] at hi
    have hlt : i < values.length := by omega
    simp [variableSources, LabelSource.value, List.getElem?_eq_getElem hlt]

theorem constLabels_eq_map_constantSources (b : Blueprint) (values : List String) :
    b.descriptor.constLabels = b.constantSources.map fun p => (p.1, p.2.value values) := by
  simp [constantSources, LabelSource.value, Function.comp_def]

/-- The labels of a series are the same for all label values, but for the values themselves. -/
theorem labelPairs_eq (h : values.length = b.arity) :
    b.labelPairs values = b.labelSources.map fun p => (p.1, p.2.value values) := by
  have hsources : b.unorderedSources.map (fun p => (p.1, p.2.value values)) =
      match b.instrument with
      | .summary => b.descriptor.constLabels ++ b.descriptor.variableLabels.zip values
      | _ => b.descriptor.variableLabels.zip values ++ b.descriptor.constLabels := by
    rw [b.constLabels_eq_map_constantSources values, zip_eq_map_variableSources h]
    unfold unorderedSources
    split <;> rw [List.map_append]
  have hsort := List.map_mergeSort (l := b.unorderedSources)
    (r := fun p q => decide (p.1 ≤ q.1)) (s := fun p q => decide (p.1 ≤ q.1))
    (f := fun p => (p.1, p.2.value values)) fun _ _ _ _ => rfl
  rw [labelSources, hsort, hsources]
  rfl

theorem map_fst_labelPairs (h : values.length = b.arity) :
    (b.labelPairs values).map Prod.fst = b.labelSources.map Prod.fst := by
  rw [labelPairs_eq h, List.map_map]
  rfl

theorem map_snd_labelPairs (h : values.length = b.arity) :
    (b.labelPairs values).map Prod.snd = (b.labelSources.map Prod.snd).map (·.value values) := by
  rw [labelPairs_eq h, List.map_map, List.map_map]
  rfl

/-- The labels of a series are the constant labels, and the variable ones with their values. -/
theorem labelPairs_perm (b : Blueprint) (values : List String) :
    (b.labelPairs values).Perm
      (b.descriptor.constLabels ++ b.descriptor.variableLabels.zip values) := by
  refine (List.mergeSort_perm _ _).trans ?_
  split
  · exact .refl _
  · exact List.perm_append_comm

theorem names_labelPairs_perm (h : values.length = b.arity) :
    ((b.labelPairs values).map Prod.fst).Perm
      (b.descriptor.constLabels.map Prod.fst ++ b.descriptor.variableLabels) := by
  have hperm := (b.labelPairs_perm values).map Prod.fst
  rw [List.map_append, List.map_fst_zip (Nat.le_of_eq h.symm)] at hperm
  exact hperm

/-! ## The order of the variable labels -/

theorem filterMap_index?_variableSources (b : Blueprint) :
    b.variableSources.filterMap (·.2.index?) = List.range b.arity := by
  have hindex : (fun p : String × LabelSource => p.2.index?) ∘
      (fun p : String × Nat => (p.1, LabelSource.given p.2)) = some ∘ Prod.snd := rfl
  rw [variableSources, List.filterMap_map, hindex, List.filterMap_eq_map, List.zipIdx_map_snd,
    List.range_eq_range']
  rfl

theorem filterMap_index?_constantSources (b : Blueprint) :
    b.constantSources.filterMap (·.2.index?) = [] := by
  rw [List.filterMap_eq_nil_iff]
  intro p hp
  obtain ⟨q, -, rfl⟩ := List.mem_map.mp hp
  rfl

/-- Every variable label has one place among the labels. -/
theorem labelIndices_perm (b : Blueprint) : b.labelIndices.Perm (List.range b.arity) := by
  have hperm : b.labelIndices.Perm (b.unorderedSources.filterMap (·.2.index?)) :=
    (List.mergeSort_perm _ _).filterMap _
  refine hperm.trans (.of_eq ?_)
  unfold unorderedSources
  split <;> rw [List.filterMap_append, filterMap_index?_variableSources,
    filterMap_index?_constantSources]
  · rfl
  · rw [List.append_nil]

/-- Label names that have been declared in order stay so when the labels are put in order. -/
theorem labelIndices_of_ordered (h : b.descriptor.variableLabels.Pairwise (· ≤ ·)) :
    b.labelIndices = List.range b.arity := by
  have hsources : b.variableSources.Pairwise fun p q => decide (p.1 ≤ q.1) = true := by
    have hnames : (b.variableSources.map Prod.fst).Pairwise (· ≤ ·) := by
      rw [variableSources, List.map_map]
      exact (List.zipIdx_map_fst 0 b.descriptor.variableLabels).symm ▸ h
    exact (List.pairwise_map.mp hnames).imp fun hle => decide_eq_true hle
  have hsublist : b.variableSources.Sublist b.unorderedSources := by
    unfold unorderedSources
    split
    · exact List.sublist_append_right _ _
    · exact List.sublist_append_left _ _
  -- what is in order among the labels keeps its order when all of them are put in order
  have hordered : b.variableSources.Sublist b.labelSources := by
    refine List.sublist_mergeSort (fun p q r hpq hqr => ?_) (fun p q => ?_) hsources hsublist
    · exact decide_eq_true ((of_decide_eq_true hpq).trans (of_decide_eq_true hqr))
    · rw [Bool.or_eq_true, decide_eq_true_eq, decide_eq_true_eq]
      exact le_total p.1 q.1
  have hindices := hordered.filterMap fun p => p.2.index?
  rw [filterMap_index?_variableSources] at hindices
  exact (hindices.eq_of_length b.labelIndices_perm.length_eq.symm).symm

theorem map_getD_range (h : values.length = b.arity) :
    (List.range b.arity).map (values.getD · "") = values := by
  refine List.ext_getElem (by simp [h]) fun i hi hi' => ?_
  simp [List.getElem?_eq_getElem hi']

/-- **Labels are in order if the values of the variable labels are**, when these are taken in the
order of the labels. -/
theorem textsLE_labelPairs (hvalues : values.length = b.arity) (hothers : others.length = b.arity) :
    textsLE ((b.labelPairs values).map Prod.snd) ((b.labelPairs others).map Prod.snd) =
      textsLE (b.labelIndices.map (values.getD · "")) (b.labelIndices.map (others.getD · "")) := by
  rw [map_snd_labelPairs hvalues, map_snd_labelPairs hothers, LabelSource.textsLE_map_value,
    List.filterMap_map]
  rfl

/-- Series with the same labels have been given the same label values. -/
theorem labelPairs_injective (hvalues : values.length = b.arity)
    (hothers : others.length = b.arity) (h : b.labelPairs values = b.labelPairs others) :
    values = others := by
  have hsnd := congrArg (List.map Prod.snd) h
  rw [map_snd_labelPairs hvalues, map_snd_labelPairs hothers, List.map_inj_left] at hsnd
  rw [← map_getD_range hvalues, ← map_getD_range hothers]
  refine List.map_congr_left fun i hi => ?_
  -- the variable label of number `i` has a place among the labels, where the values agree
  obtain ⟨p, hp, hindex⟩ := List.mem_filterMap.mp (b.labelIndices_perm.mem_iff.mpr hi)
  have hvalue := hsnd p.2 (List.mem_map_of_mem hp)
  cases hsource : p.2 with
  | fixed v =>
    rw [hsource] at hindex
    cases hindex
  | given j =>
    rw [hsource] at hindex hvalue
    obtain rfl := Option.some.inj hindex
    exact hvalue

end Blueprint

end MetricBundle
