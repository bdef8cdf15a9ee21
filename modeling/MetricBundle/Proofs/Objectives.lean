import Mathlib.Data.List.Pairwise
import MetricBundle.Proofs.KindAgreement
import MetricBundle.Proofs.ListTags

/-!
# The objectives of a summary

Options keep their objectives in the total order of the quantiles, each quantile once, with the
error that it was given last.  So two ways to give objectives one after the other lead to the same
options just if every quantile was given the same error last (`putInOrder_eq_iff`).

A field gives its objectives by a tag, and there two quantiles are one if they are the same *value*.
The total order is finer: it tells the two zeros apart.  A summary whose tag has both zeros comes to
have one objective for them, where giving the same objectives to the options one by one leads to
two.  That is the only disagreement (`Field.objectives_as_given_iff`).
-/

namespace MetricBundle

/-! ## Objectives in order -/

/-- The quantiles ascend strictly in the total order. -/
def Ascending (objectives : List (Number × Number)) : Prop :=
  objectives.Pairwise fun p o => p.1.totalKey < o.1.totalKey

/-- The objectives that result from adding some one by one, when there are none at first. -/
def putInOrder (pairs : List (Number × Number)) : List (Number × Number) :=
  pairs.foldl (fun os p => insertObjective p.1 p.2 os) []

theorem SummaryOpts.objectives_withObjectives {o : SummaryOpts} (h : o.objectives = [])
    (pairs : List (Number × Number)) : (o.withObjectives pairs).objectives = putInOrder pairs := by
  rw [withObjectives, h]
  rfl

theorem putInOrder_concat (pairs : List (Number × Number)) (p : Number × Number) :
    putInOrder (pairs ++ [p]) = insertObjective p.1 p.2 (putInOrder pairs) := by
  rw [putInOrder, List.foldl_append]
  rfl

theorem lookup_cons_eq (quantile error : Number) (objectives : List (Number × Number))
    (q : Number) : ((quantile, error) :: objectives).lookup q =
      if quantile = q then some error else objectives.lookup q := by
  rw [List.lookup_cons, BEq.comm]
  by_cases h : quantile = q
  · simp [h]
  · simp [h, beq_eq_false_iff_ne.mpr h]

section Insert

variable (quantile error : Number) (objectives : List (Number × Number))

theorem mem_insertObjective {p : Number × Number}
    (h : p ∈ insertObjective quantile error objectives) :
    p = (quantile, error) ∨ p ∈ objectives := by
  induction objectives with
  | nil => exact .inl (List.mem_singleton.mp h)
  | cons o rest ih =>
    obtain ⟨q, e⟩ := o
    rw [insertObjective] at h
    split at h
    case isTrue =>
      rcases List.mem_cons.mp h with rfl | h
      · exact .inr List.mem_cons_self
      · exact (ih h).imp_right (List.mem_cons_of_mem _)
    case isFalse =>
      split at h
      case isTrue heq =>
        subst heq
        exact (List.mem_cons.mp h).imp_right (List.mem_cons_of_mem _)
      case isFalse => exact List.mem_cons.mp h

/-- An insertion changes the error of its quantile and no other. -/
theorem lookup_insertObjective (q : Number) :
    (insertObjective quantile error objectives).lookup q =
      if quantile = q then some error else objectives.lookup q := by
  induction objectives with
  | nil => exact lookup_cons_eq _ _ _ _
  | cons o rest ih =>
    obtain ⟨q', e'⟩ := o
    rw [insertObjective]
    split
    case isTrue hlt =>
      rw [lookup_cons_eq, lookup_cons_eq, ih]
      by_cases h : quantile = q
      · -- the quantile that is passed is another one
        have hne : q' ≠ q := fun heq => Int.lt_irrefl _ (h ▸ heq ▸ hlt)
        rw [if_neg hne, if_pos h, if_pos h]
      · rw [if_neg h, if_neg h]
    case isFalse =>
      split
      case isTrue heq =>
        subst heq
        rw [lookup_cons_eq, lookup_cons_eq]
        split <;> rfl
      case isFalse => exact lookup_cons_eq _ _ _ _

variable {objectives}

theorem ascending_insertObjective (h : Ascending objectives) :
    Ascending (insertObjective quantile error objectives) := by
  induction objectives with
  | nil => exact List.pairwise_singleton _ _
  | cons o rest ih =>
    obtain ⟨hfirst, hrest⟩ := List.pairwise_cons.mp h
    obtain ⟨q, e⟩ := o
    rw [insertObjective]
    split
    case isTrue hlt =>
      refine List.pairwise_cons.mpr ⟨fun p hp => ?_, ih hrest⟩
      rcases mem_insertObjective _ _ _ hp with rfl | hp
      · exact hlt
      · exact hfirst p hp
    case isFalse hge =>
      split
      case isTrue => exact List.pairwise_cons.mpr ⟨hfirst, hrest⟩
      case isFalse hne =>
        have hlt : quantile.totalKey < q.totalKey := by
          have hkey : q.totalKey ≠ quantile.totalKey := fun h => hne (Number.totalKey_injective h)
          omega
        refine List.pairwise_cons.mpr ⟨fun p hp => ?_, h⟩
        rcases List.mem_cons.mp hp with rfl | hp
        · exact hlt
        · exact Int.lt_trans hlt (hfirst p hp)

end Insert

theorem ascending_putInOrder (pairs : List (Number × Number)) : Ascending (putInOrder pairs) := by
  induction pairs using List.reverseRecOn with
  | nil => exact .nil
  | append_singleton pairs p ih =>
    rw [putInOrder_concat]
    exact ascending_insertObjective p.1 p.2 ih

/-- Each quantile has the error that it was given last. -/
theorem lookup_putInOrder (pairs : List (Number × Number)) (q : Number) :
    (putInOrder pairs).lookup q = lastGiven pairs q := by
  induction pairs using List.reverseRecOn with
  | nil => rfl
  | append_singleton pairs p ih =>
    rw [putInOrder_concat, lookup_insertObjective, lastGiven_concat, ih]

/-- What comes before all quantiles is none of them. -/
theorem lookup_eq_none_of_lt {objectives : List (Number × Number)} {q : Number}
    (h : ∀ p ∈ objectives, q.totalKey < p.1.totalKey) : objectives.lookup q = none := by
  refine List.lookup_eq_none_iff.mpr fun p hp => bne_iff_ne.mpr fun heq => ?_
  have hlt := h p hp
  rw [← heq] at hlt
  exact Int.lt_irrefl _ hlt

/-- No quantile of a list in order comes before one that the list begins with. -/
theorem Ascending.le_of_lookup {p : Number × Number} {rest : List (Number × Number)}
    (h : Ascending (p :: rest)) {q : Number} (hq : ((p :: rest).lookup q).isSome = true) :
    p.1.totalKey ≤ q.totalKey := by
  by_contra hlt
  have hfirst := (List.pairwise_cons.mp h).1
  have hnone : (p :: rest).lookup q = none := lookup_eq_none_of_lt fun o ho => by
    rcases List.mem_cons.mp ho with rfl | ho
    · omega
    · exact Int.lt_trans (Int.not_le.mp hlt) (hfirst o ho)
  rw [hnone] at hq
  cases hq

/-- Objectives in order are given by their look-ups. -/
theorem Ascending.ext {a b : List (Number × Number)} (ha : Ascending a) (hb : Ascending b)
    (h : ∀ q, a.lookup q = b.lookup q) : a = b := by
  have hself (p : Number × Number) (rest : List (Number × Number)) :
      (p :: rest).lookup p.1 = some p.2 := List.lookup_cons_self
  induction a generalizing b with
  | nil =>
    cases b with
    | nil => rfl
    | cons o b => exact nomatch (h o.1).trans (hself o b)
  | cons p a ih =>
    cases b with
    | nil => exact nomatch (h p.1).symm.trans (hself p a)
    | cons o b =>
      -- each list begins with the least quantile that has an error, which is the same in both
      have hle : p.1.totalKey ≤ o.1.totalKey := ha.le_of_lookup (by rw [h, hself]; rfl)
      have hge : o.1.totalKey ≤ p.1.totalKey := hb.le_of_lookup (by rw [← h, hself]; rfl)
      have hkey : p.1 = o.1 := Number.totalKey_injective (Int.le_antisymm hle hge)
      have hvalue : p.2 = o.2 := by
        have hq := h p.1
        rw [hself, hkey, hself] at hq
        exact Option.some.inj hq
      obtain rfl : p = o := Prod.ext hkey hvalue
      obtain ⟨hp, ha⟩ := List.pairwise_cons.mp ha
      obtain ⟨ho, hb⟩ := List.pairwise_cons.mp hb
      refine congrArg (p :: ·) (ih ha hb fun q => ?_)
      by_cases hq : p.1 = q
      · subst hq
        rw [lookup_eq_none_of_lt hp, lookup_eq_none_of_lt ho]
      · have hlook := h q
        rwa [lookup_cons_eq, lookup_cons_eq, if_neg hq, if_neg hq] at hlook

/-- **Objectives come out the same just if every quantile was given the same error last.** -/
theorem putInOrder_eq_iff {a b : List (Number × Number)} :
    putInOrder a = putInOrder b ↔ ∀ q, lastGiven a q = lastGiven b q := by
  constructor
  case mp =>
    intro h q
    rw [← lookup_putInOrder, h, lookup_putInOrder]
  case mpr =>
    intro h
    refine (ascending_putInOrder a).ext (ascending_putInOrder b) fun q => ?_
    rw [lookup_putInOrder, lookup_putInOrder, h q]

/-! ## One quantile for equal values -/

/-- The first quantile with the value of the given one, which stands for itself if there is none. -/
def firstSame (pairs : List (Number × Number)) (q : Number) : Number :=
  ((pairs.find? fun p => q.same p.1).map Prod.fst).getD q

section FirstSame

variable {pairs : List (Number × Number)} {q : Number}

theorem firstSame_eq_self_or_mem (pairs : List (Number × Number)) (q : Number) :
    (firstSame pairs q = q ∧ ∀ p ∈ pairs, q.same p.1 = false) ∨
      ∃ p ∈ pairs, q.same p.1 = true ∧ firstSame pairs q = p.1 := by
  unfold firstSame
  cases hfind : pairs.find? fun p => q.same p.1 with
  | none => exact .inl ⟨rfl, fun p hp => by simpa using List.find?_eq_none.mp hfind p hp⟩
  | some p =>
    exact .inr ⟨p, List.mem_of_find?_eq_some hfind,
      List.find?_some (p := fun p : Number × Number => q.same p.1) hfind, rfl⟩

/-- More objectives change nothing about a quantile that is among them. -/
theorem firstSame_concat (p : Number × Number) (h : q ∈ pairs.map Prod.fst ∨ q = p.1) :
    firstSame (pairs ++ [p]) q = firstSame pairs q := by
  unfold firstSame
  rw [List.find?_append]
  cases hfind : pairs.find? fun o => q.same o.1 with
  | some o => rfl
  | none =>
    rw [Option.none_or, List.find?_singleton]
    split
    case isFalse => rfl
    case isTrue hsame =>
      rcases h with h | rfl
      · -- a quantile that is the same as something is the same as itself
        obtain ⟨o, ho, rfl⟩ := List.mem_map.mp h
        obtain ⟨hnum, -⟩ := Number.same_iff.mp hsame
        exact absurd (Number.same_iff.mpr ⟨hnum, hnum, rfl⟩) (List.find?_eq_none.mp hfind o ho)
      · rfl

/-- Where no two objectives have the same value as quantile, only one quantile has a given value. -/
theorem eq_of_same (h : pairs.Pairwise fun p o => o.1.same p.1 = false) {o e : Number × Number}
    (ho : o ∈ pairs) (he : e ∈ pairs) (hsame : o.1.same e.1 = true) : o.1 = e.1 := by
  have hsymm : Std.Symm fun p o : Number × Number => o.1.same p.1 = false :=
    ⟨fun p o hpo => (Number.same_comm p.1 o.1).trans hpo⟩
  by_contra hne
  have hunlike : e.1.same o.1 = false := h.forall ho he fun hoe => hne (congrArg Prod.fst hoe)
  rw [Number.same_comm, hsame] at hunlike
  cases hunlike

/-- Putting an objective changes the error of the first quantile with its value, and no other. -/
theorem lastGiven_putValue (h : pairs.Pairwise fun p o => o.1.same p.1 = false)
    (p : Number × Number) (q : Number) :
    lastGiven (putValue Number.same pairs p) q =
      if firstSame pairs p.1 = q then some p.2 else lastGiven pairs q := by
  rcases firstSame_eq_self_or_mem pairs p.1 with ⟨hself, hnone⟩ | ⟨o, ho, hsame, hfirst⟩
  · have hany : (pairs.any fun o => p.1.same o.1) = false :=
      List.any_eq_false.mpr fun o ho => by simp [hnone o ho]
    rw [putValue, hany, hself]
    exact lastGiven_concat pairs p q
  · have hany : (pairs.any fun o => p.1.same o.1) = true := List.any_eq_true.mpr ⟨o, ho, hsame⟩
    have hkeys : ((fun e : Number × Number => e.1 == q) ∘
        fun e => if p.1.same e.1 then (e.1, p.2) else e) = fun e => e.1 == q := by
      funext e
      simp only [Function.comp_apply]
      split <;> rfl
    rw [putValue, hany, if_pos rfl, lastGiven, ← List.map_reverse, List.find?_map, hkeys,
      Option.map_map, hfirst, lastGiven]
    cases hfind : pairs.reverse.find? fun e => e.1 == q with
    | none =>
      have hne : o.1 ≠ q := fun heq =>
        List.find?_eq_none.mp hfind o (List.mem_reverse.mpr ho) (beq_iff_eq.mpr heq)
      simp [hne]
    | some e =>
      have he : e ∈ pairs := List.mem_reverse.mp (List.mem_of_find?_eq_some hfind)
      have hkey : e.1 = q :=
        beq_iff_eq.mp (List.find?_some (p := fun e : Number × Number => e.1 == q) hfind)
      subst hkey
      by_cases heq : o.1 = e.1
      · rw [if_pos heq]
        simp [← heq, hsame]
      · -- only one quantile in the list has the value
        have hother : p.1.same e.1 = false := by
          rw [← Bool.not_eq_true]
          intro hlike
          rw [Number.same_comm] at hsame
          exact heq (eq_of_same h ho he (Number.same_trans hsame hlike))
        rw [if_neg heq]
        simp [hother]

end FirstSame

/-- Merging equal values first is giving every objective to the first quantile with its value. -/
theorem lastGiven_lastWins (pairs : List (Number × Number)) (q : Number) :
    lastGiven (lastWins Number.same pairs) q =
      lastGiven (pairs.map fun p => (firstSame pairs p.1, p.2)) q := by
  have htrans : ∀ x y z : Number, x.same y = true → y.same z = true → x.same z = true :=
    fun _ _ _ hxy hyz => Number.same_trans hxy hyz
  have hfirst : ∀ pairs q, firstSame (lastWins Number.same pairs) q = firstSame pairs q :=
    fun pairs q => by rw [firstSame, find?_lastWins htrans, firstSame]
  induction pairs using List.reverseRecOn with
  | nil => rfl
  | append_singleton pairs p ih =>
    have hmap : ((pairs ++ [p]).map fun o => (firstSame (pairs ++ [p]) o.1, o.2)) =
        (pairs.map fun o => (firstSame pairs o.1, o.2)) ++ [(firstSame pairs p.1, p.2)] := by
      rw [List.map_append, List.map_singleton, firstSame_concat p (.inr rfl)]
      congr 1
      refine List.map_congr_left fun o ho => ?_
      rw [firstSame_concat p (.inl (List.mem_map_of_mem ho))]
    rw [hmap, lastGiven_concat, ← ih, lastWins_same_concat,
      lastGiven_putValue (pairwise_lastWins Number.same pairs), hfirst]

/-- Every quantile is the first one with its value just if the zeros are not both there. -/
theorem putInOrder_firstSame_iff (pairs : List (Number × Number)) :
    putInOrder (pairs.map fun p => (firstSame pairs p.1, p.2)) = putInOrder pairs ↔
      ¬(Number.zero ∈ pairs.map Prod.fst ∧ Number.zero.neg ∈ pairs.map Prod.fst) := by
  constructor
  case mpr =>
    intro hzeros
    congr 1
    refine (List.map_congr_left fun p hp => ?_).trans (List.map_id pairs)
    rcases firstSame_eq_self_or_mem pairs p.1 with ⟨hself, -⟩ | ⟨o, ho, hsame, hfirst⟩
    · rw [hself]
      rfl
    · have hp' := List.mem_map_of_mem (f := Prod.fst) hp
      have ho' := List.mem_map_of_mem (f := Prod.fst) ho
      rcases Number.eq_or_zeros_of_same hsame with heq | ⟨hpz, hoz⟩ | ⟨hpz, hoz⟩
      · rw [hfirst, ← heq]
        rfl
      · exact absurd ⟨hpz ▸ hp', hoz ▸ ho'⟩ hzeros
      · exact absurd ⟨hoz ▸ ho', hpz ▸ hp'⟩ hzeros
  case mp =>
    rintro h ⟨hzero, hneg⟩
    -- both zeros would have to be the first quantile with the value zero
    have hmerged : ∀ z : Number, Number.zero.same z = true → z ∈ pairs.map Prod.fst →
        z = firstSame pairs Number.zero := by
      intro z hz hmem
      have hsome := (lastGiven_isSome_iff pairs z).mpr hmem
      rw [← putInOrder_eq_iff.mp h z, lastGiven_isSome_iff, List.map_map] at hsome
      obtain ⟨p, hp, hfirst⟩ := List.mem_map.mp hsome
      have hpz : Number.zero.same p.1 = true := by
        rcases firstSame_eq_self_or_mem pairs p.1 with ⟨hself, -⟩ | ⟨o, -, hsame, hfirst'⟩
        · rwa [← hself, show firstSame pairs p.1 = z from hfirst]
        · rw [Number.same_comm] at hsame
          refine Number.same_trans ?_ hsame
          rwa [← hfirst', show firstSame pairs p.1 = z from hfirst]
      have hlike : (fun o : Number × Number => p.1.same o.1) =
          fun o => Number.zero.same o.1 := by
        funext o
        rw [Bool.eq_iff_iff]
        refine ⟨Number.same_trans hpz, Number.same_trans ?_⟩
        rwa [Number.same_comm]
      have hfound : (pairs.find? fun o => Number.zero.same o.1).isSome = true :=
        List.find?_isSome.mpr ⟨p, hp, hpz⟩
      rw [← show firstSame pairs p.1 = z from hfirst, firstSame, firstSame, hlike]
      obtain ⟨o, ho⟩ := Option.isSome_iff_exists.mp hfound
      rw [ho]
      rfl
    have hzeros := (hmerged Number.zero (by decide) hzero).trans
      (hmerged Number.zero.neg (by decide) hneg).symm
    exact absurd hzeros (by decide)

/-! ## The objectives of a field -/

namespace Field

variable {f : Field} {o : SummaryOpts}

/-- Whatever the kind, the options of a summary are the ones that its tags give. -/
theorem summaryOpts_of_resolve (h : f.resolve.opts = some (.summary o)) :
    o = f.summaryOpts.value := by
  have hsummary {i : Instrument} (hi : (f.optsFor i).value = .summary o) :
      o = f.summaryOpts.value := by
    cases i with
    | summary => exact (MetricOpts.summary.inj hi).symm
    | counter | gauge | histogram => cases hi
  cases hkind : f.kind with
  | metric i s =>
    rw [(resolve_of_metric hkind).1] at h
    exact hsummary (Option.some.inj h)
  | observer s =>
    rw [(resolve_of_observer hkind).1] at h
    unfold observerOpts at h
    split at h
    case h_1 => cases h
    case h_2 i hi => exact hsummary (Option.some.inj h)
  | other =>
    rw [resolve_of_other hkind] at h
    cases h

theorem objectives_of_resolve (h : f.resolve.opts = some (.summary o)) :
    o.objectives = putInOrder (lastWins Number.same f.givenObjectives) := by
  rw [summaryOpts_of_resolve h]
  show (SummaryOpts.withObjectives _ f.objectives.value).objectives = _
  rw [SummaryOpts.objectives_withObjectives rfl, objectives_eq]

/-- **Only the zeros are told apart by the options and not by the tag.**  Take a field that resolves
to the options of a summary.  Its objectives are those that result from adding to plain options, one
by one, the objectives that the entries of the tag denote, each under the first quantile with its
value.  This is the same as adding them under their own quantiles just if the zero and the negative
zero are not both among these. -/
theorem objectives_as_given_iff (h : f.resolve.opts = some (.summary o)) :
    let given := f.givenObjectives
    let plain : SummaryOpts := { common := f.commonOpts }
    o.objectives =
      (plain.withObjectives (given.map fun p => (firstSame given p.1, p.2))).objectives ∧
    (o.objectives = (plain.withObjectives given).objectives ↔
      ¬(Number.zero ∈ given.map Prod.fst ∧ Number.zero.neg ∈ given.map Prod.fst)) := by
  intro given plain
  have hmerged : o.objectives = putInOrder (given.map fun p => (firstSame given p.1, p.2)) := by
    rw [objectives_of_resolve h]
    exact putInOrder_eq_iff.mpr (lastGiven_lastWins given)
  have hplain (pairs : List (Number × Number)) :
      (plain.withObjectives pairs).objectives = putInOrder pairs :=
    SummaryOpts.objectives_withObjectives rfl pairs
  rw [hplain, hplain]
  refine ⟨hmerged, ?_⟩
  rw [hmerged]
  exact putInOrder_firstSame_iff given

/-- A summary with the given value as its tag of objectives. -/
def summaryWith (objectives : String) : Field :=
  (ofKind "latency" (.metric .summary .scalar)).withTag .objectives objectives

theorem objectives_as_given_of_repeated_quantile :
    ∃ o, (summaryWith "0.9:0.1, 0.5:0.2, 0.9:0.3").resolve.opts = some (.summary o) ∧
      o.objectives.length = 2 ∧
      o.objectives = (SummaryOpts.withObjectives
        { common := (summaryWith "0.9:0.1, 0.5:0.2, 0.9:0.3").commonOpts }
        (summaryWith "0.9:0.1, 0.5:0.2, 0.9:0.3").givenObjectives).objectives := by
  have h : (summaryWith "0.9:0.1, 0.5:0.2, 0.9:0.3").resolve.opts =
      some (.summary (summaryWith "0.9:0.1, 0.5:0.2, 0.9:0.3").summaryOpts.value) := rfl
  exact ⟨_, h, by decide +kernel, (objectives_as_given_iff h).2.mpr (by decide +kernel)⟩

/-- With both zeros, the tag gives one objective and the options have two. -/
theorem objectives_not_as_given_of_zeros :
    ∃ o, (summaryWith "0:0.1, -0:0.2").resolve.opts = some (.summary o) ∧
      (summaryWith "0:0.1, -0:0.2").resolve.faults = [] ∧
      o.objectives.map Prod.fst = [Number.zero] ∧
      (SummaryOpts.withObjectives { common := (summaryWith "0:0.1, -0:0.2").commonOpts }
        (summaryWith "0:0.1, -0:0.2").givenObjectives).objectives.map Prod.fst =
          [Number.zero.neg, Number.zero] :=
  ⟨(summaryWith "0:0.1, -0:0.2").summaryOpts.value, rfl, by decide +kernel, by decide +kernel,
    by decide +kernel⟩

end Field

end MetricBundle
