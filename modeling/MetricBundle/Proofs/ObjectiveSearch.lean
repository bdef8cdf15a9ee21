import MetricBundle.Proofs.Objectives

/-!
# Putting an objective in its place

An objective is put among others by a search for its quantile.  A stretch of the list is halved until
one objective is left, and that one tells whether the quantile is there or where it belongs
(`search`).  The search looks at a few objectives only, so it finds the place only if the list
ascends; and the list ascends only because every insertion before found its place.  On a list that
ascends the search splits it where it should (`search_splits`), and putting an objective there is
`insertObjective` (`putBySearch_eq`).  So the objectives that come of any insertions, one after the
other, are the same however the place of each is found.

What they are depends on little: each quantile that was inserted is there once, in the total order,
with the error of its last insertion (`SummaryOpts.objectives_keep_last`).
-/

namespace MetricBundle

variable {objectives before after : List (Number × Number)} {quantile : Number}

/-! ## The search -/

/-- Where a search for a quantile ends. -/
inductive SearchEnd where
  /-- At an objective that has the quantile. -/
  | found (place : Nat)
  /-- Where an objective with the quantile belongs. -/
  | missing (place : Nat)
deriving DecidableEq

/-- Halves a stretch of `size` objectives from `base` on until it has only one, and gives the place
of that one.  An objective in the middle that is beyond the quantile rules out the second half, and
any other one the first half. -/
def narrow (objectives : List (Number × Number)) (quantile : Number) (base size : Nat)
    (h : base + size ≤ objectives.length) : Nat :=
  if hsize : 1 < size then
    if quantile.totalKey < (objectives[base + size / 2]).1.totalKey then
      narrow objectives quantile base (size - size / 2) (by omega)
    else narrow objectives quantile (base + size / 2) (size - size / 2) (by omega)
  else base
termination_by size

/-- Searches objectives for a quantile. -/
def search (objectives : List (Number × Number)) (quantile : Number) : SearchEnd :=
  let place := narrow objectives quantile 0 objectives.length (by omega)
  match objectives[place]? with
  | none => .missing 0
  | some o =>
    if o.1.totalKey = quantile.totalKey then .found place
    else if o.1.totalKey < quantile.totalKey then .missing (place + 1)
    else .missing place

/-- Puts an objective where a search for its quantile ends: it gives its error to the objective that
is found, or goes to the place where it belongs. -/
def putBySearch (quantile error : Number) (objectives : List (Number × Number)) :
    List (Number × Number) :=
  match search objectives quantile with
  | .found place => objectives.modify place fun o => (o.1, error)
  | .missing place => objectives.insertIdx place (quantile, error)

/-- **Where a search should end.**  What comes before the place has lesser quantiles, and what comes
after it greater ones. -/
inductive Splits (quantile : Number) : List (Number × Number) → SearchEnd → Prop
  | found {before after : List (Number × Number)} (error : Number) :
    (∀ o ∈ before, o.1.totalKey < quantile.totalKey) →
      (∀ o ∈ after, quantile.totalKey < o.1.totalKey) →
      Splits quantile (before ++ (quantile, error) :: after) (.found before.length)
  | missing {before after : List (Number × Number)} :
    (∀ o ∈ before, o.1.totalKey < quantile.totalKey) →
      (∀ o ∈ after, quantile.totalKey < o.1.totalKey) →
      Splits quantile (before ++ after) (.missing before.length)

/-! ## The search on a list that ascends -/

theorem Ascending.lt_getElem (h : Ascending objectives) {i j : Nat} (hij : i < j)
    (hj : j < objectives.length) : objectives[i].1.totalKey < objectives[j].1.totalKey :=
  List.pairwise_iff_getElem.mp h i j (by omega) hj hij

/-- What stays of a stretch is in it, is not beyond the quantile unless the stretch began there, and
is followed by what is beyond the quantile, if the stretch is. -/
theorem narrow_bounds (hasc : Ascending objectives) {base size : Nat}
    (h : base + size ≤ objectives.length) (hpos : 0 < size)
    (hbeyond : ∀ i (hi : i < objectives.length), base + size ≤ i →
      quantile.totalKey < objectives[i].1.totalKey) :
    ∃ hlt : narrow objectives quantile base size h < objectives.length,
      (narrow objectives quantile base size h = base ∨
        objectives[narrow objectives quantile base size h].1.totalKey ≤ quantile.totalKey) ∧
      ∀ i (hi : i < objectives.length), narrow objectives quantile base size h < i →
        quantile.totalKey < objectives[i].1.totalKey := by
  fun_induction narrow objectives quantile base size h with
  | case1 base size h hsize hgreater ih =>
    apply ih
    · omega
    · -- the second half is beyond the quantile, since the one in the middle is
      intro i hi hle
      by_cases hmid : i = base + size / 2
      · subst hmid
        exact hgreater
      · exact Int.lt_trans hgreater (hasc.lt_getElem (by omega) hi)
  | case2 base size h hsize hle ih =>
    obtain ⟨hlt, hplace, hrest⟩ := ih (by omega) (by
      intro i hi hi'
      exact hbeyond i hi (by omega))
    refine ⟨hlt, .inr ?_, hrest⟩
    rcases hplace with hplace | hplace
    · simp only [hplace]
      omega
    · exact hplace
  | case3 base size h hsize =>
    have hone : size = 1 := by omega
    subst hone
    refine ⟨by omega, .inl rfl, ?_⟩
    intro i hi hlt
    exact hbeyond i hi (by omega)

theorem splits_found {place : Nat} (hlt : place < objectives.length)
    (hequal : objectives[place].1 = quantile)
    (hbefore : ∀ o ∈ objectives.take place, o.1.totalKey < quantile.totalKey)
    (hafter : ∀ o ∈ objectives.drop (place + 1), quantile.totalKey < o.1.totalKey) :
    Splits quantile objectives (.found place) := by
  have hsplits := Splits.found objectives[place].2 hbefore hafter
  have hdrop : (quantile, objectives[place].2) :: objectives.drop (place + 1) =
      objectives.drop place := by
    rw [← hequal]
    exact List.getElem_cons_drop hlt
  rwa [hdrop, List.take_append_drop, List.length_take, Nat.min_eq_left (Nat.le_of_lt hlt)]
    at hsplits

theorem splits_missing {place : Nat} (hle : place ≤ objectives.length)
    (hbefore : ∀ o ∈ objectives.take place, o.1.totalKey < quantile.totalKey)
    (hafter : ∀ o ∈ objectives.drop place, quantile.totalKey < o.1.totalKey) :
    Splits quantile objectives (.missing place) := by
  have hsplits := Splits.missing hbefore hafter
  rwa [List.take_append_drop, List.length_take, Nat.min_eq_left hle] at hsplits

/-- **On a list that ascends a search ends where it should.** -/
theorem search_splits (hasc : Ascending objectives) (quantile : Number) :
    Splits quantile objectives (search objectives quantile) := by
  by_cases hnil : objectives = []
  · subst hnil
    exact splits_missing (Nat.le_refl 0) (by simp) (by simp)
  have hpos : 0 < objectives.length := List.length_pos_of_ne_nil hnil
  have hwhole : 0 + objectives.length ≤ objectives.length := by omega
  have hnone : ∀ i (hi : i < objectives.length), 0 + objectives.length ≤ i →
      quantile.totalKey < objectives[i].1.totalKey := by
    intro i hi hle
    omega
  obtain ⟨hlt, hplace, hbeyond⟩ := narrow_bounds hasc hwhole hpos hnone
  unfold search
  generalize narrow objectives quantile 0 objectives.length _ = place at hlt hplace hbeyond
  have hafter : ∀ o ∈ objectives.drop (place + 1), quantile.totalKey < o.1.totalKey := by
    intro o ho
    obtain ⟨i, hi, rfl⟩ := List.mem_drop_iff_getElem.mp ho
    exact hbeyond _ (by omega) (by omega)
  simp only [List.getElem?_eq_getElem hlt]
  by_cases hequal : objectives[place].1.totalKey = quantile.totalKey
  · rw [if_pos hequal]
    refine splits_found hlt (Number.totalKey_injective hequal) ?_ hafter
    intro o ho
    obtain ⟨i, hi, rfl⟩ := List.mem_take_iff_getElem.mp ho
    rw [← hequal]
    exact hasc.lt_getElem (by omega) hlt
  rw [if_neg hequal]
  by_cases hless : objectives[place].1.totalKey < quantile.totalKey
  · rw [if_pos hless]
    refine splits_missing hlt ?_ hafter
    intro o ho
    obtain ⟨i, hi, rfl⟩ := List.mem_take_iff_getElem.mp ho
    by_cases hlast : i = place
    · subst hlast
      exact hless
    · exact Int.lt_trans (hasc.lt_getElem (by omega) hlt) hless
  · -- the stretch began with an objective that is beyond the quantile already
    obtain rfl : place = 0 := by omega
    rw [if_neg hless]
    refine splits_missing (Nat.zero_le _) (by simp) ?_
    rw [List.drop_zero]
    intro o ho
    obtain ⟨i, hi, rfl⟩ := List.mem_iff_getElem.mp ho
    by_cases hzero : i = 0
    · subst hzero
      omega
    · exact hbeyond i hi (by omega)

/-! ## Putting an objective by a search -/

theorem insertObjective_append (error : Number)
    (h : ∀ o ∈ before, o.1.totalKey < quantile.totalKey) :
    insertObjective quantile error (before ++ after) =
      before ++ insertObjective quantile error after := by
  induction before with
  | nil => rfl
  | cons o before ih =>
    obtain ⟨ho, hbefore⟩ := List.forall_mem_cons.mp h
    rw [List.cons_append, insertObjective, if_pos ho, ih hbefore, List.cons_append]

theorem insertObjective_of_lt (error : Number)
    (h : ∀ o ∈ after, quantile.totalKey < o.1.totalKey) :
    insertObjective quantile error after = (quantile, error) :: after := by
  cases after with
  | nil => rfl
  | cons o after =>
    have ho := h o List.mem_cons_self
    have hne : o.1 ≠ quantile := fun heq => Int.lt_irrefl _ (heq ▸ ho)
    rw [insertObjective, if_neg (by omega), if_neg hne]

theorem insertIdx_length {α : Type} (before after : List α) (a : α) :
    (before ++ after).insertIdx before.length a = before ++ a :: after := by
  induction before with
  | nil => rfl
  | cons b before ih => exact congrArg (b :: ·) ih

/-- **Putting an objective by a search is putting it in order**, on a list that ascends. -/
theorem putBySearch_eq (hasc : Ascending objectives) (quantile error : Number) :
    putBySearch quantile error objectives = insertObjective quantile error objectives := by
  have hsplits := search_splits hasc quantile
  unfold putBySearch
  generalize search objectives quantile = ending at hsplits
  cases hsplits with
  | found e hbefore hafter =>
    rw [insertObjective_append error hbefore, insertObjective, if_neg (Int.lt_irrefl _),
      if_pos rfl]
    simp [List.modify_eq_take_cons_drop]
  | missing hbefore hafter =>
    rw [insertObjective_append error hbefore, insertObjective_of_lt error hafter]
    exact insertIdx_length _ _ _

/-! ## Any insertions, one after the other -/

/-- Searching is as good as going through the list, from no objectives on. -/
theorem foldl_putBySearch (pairs : List (Number × Number)) :
    pairs.foldl (fun os p => putBySearch p.1 p.2 os) [] = putInOrder pairs := by
  induction pairs using List.reverseRecOn with
  | nil => rfl
  | append_singleton pairs p ih =>
    rw [List.foldl_append, ih, putInOrder_concat]
    exact putBySearch_eq (ascending_putInOrder pairs) p.1 p.2

/-- The quantile was inserted with the error, and not again after that. -/
def InsertedLast (pairs : List (Number × Number)) (quantile error : Number) : Prop :=
  ∃ before after, pairs = before ++ (quantile, error) :: after ∧ ∀ p ∈ after, p.1 ≠ quantile

theorem lastGiven_eq_some_iff {pairs : List (Number × Number)} {quantile error : Number} :
    lastGiven pairs quantile = some error ↔ InsertedLast pairs quantile error := by
  constructor
  case mp =>
    intro h
    obtain ⟨p, hfind, rfl⟩ := Option.map_eq_some_iff.mp h
    obtain ⟨hkey, after, before, hsplit, hafter⟩ := List.find?_eq_some_iff_append.mp hfind
    obtain rfl : p.1 = quantile := beq_iff_eq.mp hkey
    refine ⟨before.reverse, after.reverse, ?_, ?_⟩
    · rw [← List.reverse_reverse pairs, hsplit]
      simp
    · intro o ho
      simpa using hafter o (List.mem_reverse.mp ho)
  case mpr =>
    rintro ⟨before, after, rfl, hafter⟩
    have hnone : after.reverse.find? (fun p => p.1 == quantile) = none :=
      List.find?_eq_none.mpr fun p hp => by simpa using hafter p (List.mem_reverse.mp hp)
    rw [lastGiven, List.reverse_append, List.reverse_cons, List.append_assoc, List.find?_append,
      hnone]
    simp

theorem insertedLast_congr {pairs others : List (Number × Number)} :
    (∀ q, lastGiven others q = lastGiven pairs q) ↔
      ∀ q e, InsertedLast others q e ↔ InsertedLast pairs q e := by
  refine forall_congr' fun q => ?_
  rw [Option.ext_iff]
  simp only [lastGiven_eq_some_iff]

/-- In a list that ascends every objective is the one that is looked up for its quantile. -/
theorem Ascending.lookup_eq_some_iff (h : Ascending objectives) {error : Number} :
    objectives.lookup quantile = some error ↔ (quantile, error) ∈ objectives := by
  rw [List.lookup_eq_some_iff]
  constructor
  case mp =>
    rintro ⟨before, after, rfl, -⟩
    exact List.mem_append_right _ List.mem_cons_self
  case mpr =>
    intro hmem
    obtain ⟨before, after, rfl⟩ := List.append_of_mem hmem
    refine ⟨before, after, rfl, ?_⟩
    intro p hp
    have hlt : p.1.totalKey < quantile.totalKey :=
      (List.pairwise_append.mp h).2.2 p hp _ List.mem_cons_self
    exact bne_iff_ne.mpr fun heq => Int.lt_irrefl _ (heq ▸ hlt)

/-- The objectives that are there are those that were inserted last. -/
theorem mem_putInOrder_iff {pairs : List (Number × Number)} {quantile error : Number} :
    (quantile, error) ∈ putInOrder pairs ↔ InsertedLast pairs quantile error := by
  rw [← (ascending_putInOrder pairs).lookup_eq_some_iff, lookup_putInOrder, lastGiven_eq_some_iff]

/-- **Insertions keep a map in order, in which the last one wins.**  Objectives are inserted one by
one into options without any.  The quantiles then ascend strictly in the total order, and they are
just those that were inserted, each with the error of its last insertion.  So other insertions lead
to the same objectives if and only if they agree on the last error of every quantile, in whatever
order they come.  The place of each objective may as well be found by a search that halves the
list. -/
theorem SummaryOpts.objectives_keep_last (o : SummaryOpts) (pairs : List (Number × Number)) :
    let inserted (pairs : List (Number × Number)) : List (Number × Number) :=
      ({ o with objectives := [] }.withObjectives pairs).objectives
    Ascending (inserted pairs) ∧
    (∀ q, q ∈ (inserted pairs).map Prod.fst ↔ q ∈ pairs.map Prod.fst) ∧
    (∀ q e, (q, e) ∈ inserted pairs ↔ InsertedLast pairs q e) ∧
    (∀ others, inserted others = inserted pairs ↔
      ∀ q e, InsertedLast others q e ↔ InsertedLast pairs q e) ∧
    inserted pairs = pairs.foldl (fun os p => putBySearch p.1 p.2 os) [] := by
  intro inserted
  have hinserted (pairs : List (Number × Number)) : inserted pairs = putInOrder pairs :=
    objectives_withObjectives rfl pairs
  simp only [hinserted]
  refine ⟨ascending_putInOrder pairs, ?_, fun q e => mem_putInOrder_iff, ?_,
    (foldl_putBySearch pairs).symm⟩
  · intro q
    have hpair (l : List (Number × Number)) : q ∈ l.map Prod.fst ↔ ∃ e, (q, e) ∈ l := by simp
    rw [hpair, ← lastGiven_isSome_iff, Option.isSome_iff_exists]
    simp only [mem_putInOrder_iff, lastGiven_eq_some_iff]
  · intro others
    rw [putInOrder_eq_iff, insertedLast_congr]

end MetricBundle
