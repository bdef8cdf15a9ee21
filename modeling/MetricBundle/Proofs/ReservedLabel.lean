import MetricBundle.Proofs.SampleText

/-!
# The reserved label of summaries

The quantiles of a summary are exposed under the label `quantile`, so a summary may not have a label
of this name itself.  A label can come to it by three ways: as a constant label, as one of the label
names of a vector, or as a variable label among the options.  The first two are checked when the
summary is made.  The third one is closed for a single summary, which can have no variable labels at
all, but open for a vector, since a vector has the variable labels of its options besides the label
names it is given.

So the samples of a summary have the reserved label just if the options have it as a variable label
(`Telemetry.quantile_label_iff`).  In all other cases the reserved label occurs once in each line
for a quantile, with that quantile, and not in any other line.
-/

namespace MetricBundle

/-! ## The check -/

/-- The options of a summary with nothing wrong about them reserve the label, as far as constant
labels and given label names go. -/
theorem SummaryOpts.reserved_of_defect {o : SummaryOpts} {names : List String}
    (h : o.defect names = none) :
    quantileLabel ∉ names ∧ quantileLabel ∉ o.common.constLabels.map Prod.fst := by
  unfold defect at h
  split at h
  case h_1 => cases h
  case h_2 =>
    split_ifs at h with hmany hshort hreserved
    simpa [not_or] using hreserved

section Summary

variable {r : Request} {o : SummaryOpts} {b : Blueprint}

/-- A summary has the variable labels of its options, and those that it is given. -/
theorem Blueprint.variableLabels_of_summary (hopts : r.opts = .summary o)
    (hb : Blueprint.of r = .ok b) :
    b.descriptor.variableLabels = o.common.variableLabels ++ r.labels.getD [] := by
  rw [Descriptor.variableLabels_of (Blueprint.descriptor_of hb), Request.variableLabels, hopts]

theorem Blueprint.reserved_of_request (hopts : r.opts = .summary o)
    (hb : Blueprint.of r = .ok b) :
    quantileLabel ∉ r.labels.getD [] ∧
      quantileLabel ∉ b.descriptor.constLabels.map Prod.fst := by
  obtain ⟨-, -, hconst⟩ := Descriptor.of_eq_ok (Blueprint.descriptor_of hb)
  rw [hconst, mem_names_orderLabels, hopts]
  unfold Blueprint.of at hb
  split at hb
  case h_1 => cases hb
  case h_2 hdefect =>
    rw [Blueprint.requestDefect, hopts] at hdefect
    exact SummaryOpts.reserved_of_defect hdefect

/-- A series of a summary has the reserved label just if the options have it. -/
theorem Series.Belongs.reserved_iff {s : Series} {values : List String} (h : s.Belongs b values)
    (hopts : r.opts = .summary o) (hb : Blueprint.of r = .ok b) :
    quantileLabel ∈ s.sample.labels.map Prod.fst ↔ quantileLabel ∈ o.common.variableLabels := by
  obtain ⟨hgiven, hconst⟩ := Blueprint.reserved_of_request hopts hb
  rw [h.names_perm.mem_iff, Blueprint.variableLabels_of_summary hopts hb, List.mem_append,
    List.mem_append]
  tauto

end Summary

namespace Telemetry

variable {t t₁ t' : Telemetry} {m c : Metric} {b : Blueprint}

/-- A single summary that has been made has no variable labels. -/
theorem arity_eq_zero_of_make {r : Request} {o : SummaryOpts} (h : t.make r = .ok (m, t'))
    (hb : Blueprint.of r = .ok b) (hopts : r.opts = .summary o) (hnone : r.labels = none) :
    b.arity = 0 := by
  obtain ⟨hbopts, hbshape⟩ := Blueprint.of_eq_ok hb
  have hsummary : b.instrument = .summary := by
    rw [Blueprint.instrument, hbopts, hopts]
    rfl
  have hshape : b.shape = .scalar := by
    rw [hbshape, Request.shape, hnone]
    rfl
  simp only [make, hb, build, hshape] at h
  obtain ⟨s, hs, -⟩ := exists_of_map_eq_ok h
  unfold Blueprint.onlySeries at hs
  split at hs
  case isTrue => cases hs
  case isFalse hfree =>
    by_contra hne
    exact hfree ⟨hsummary, hne⟩

/-- A handle on a metric that has been made: the one that was made with it, or one on a child, got
at any time. -/
inductive Obtained (t₁ : Telemetry) (m : Metric) : Metric → Telemetry → Prop where
  | own : Obtained t₁ m m t₁
  | child {operations : List Operation} {values : List String} {c : Metric} {t : Telemetry} :
      (t₁.performAll operations).child m values = .ok (c, t) → Obtained t₁ m c t

/-- Whatever is collected by a handle on a metric comes from series of the metric's blueprint. -/
theorem Obtained.exists_series (h : Obtained t₁ m c t) (hkeeps : t₁.Keeps m b)
    (operations : List Operation) :
    ∀ sample ∈ (t.performAll operations).samples (.metric c),
      ∃ (values : List String) (s : Series), sample = s.sample ∧ s.Belongs b values := by
  cases h with
  | own => exact (hkeeps.performAll operations).exists_series_of_mem
  | @child earlier values _ _ hchild =>
    have hkeeps := hkeeps.performAll earlier
    cases hshape : b.shape with
    | vector =>
      have hc := (hkeeps.isChild hshape hchild).performAll operations
      obtain ⟨values', s, hsamples, hb⟩ := hc.exists_series
      rw [hsamples]
      intro sample hsample
      exact ⟨values', s, List.mem_singleton.mp hsample, hb⟩
    | scalar =>
      -- a single metric has no children, and its handle leads to itself
      have hself : (t₁.performAll earlier).child m values = .ok (m, t₁.performAll earlier) := by
        simp only [Telemetry.child, hkeeps.shape_eq, hshape]
      rw [hself] at hchild
      obtain ⟨rfl, rfl⟩ := Prod.mk.inj (Except.ok.inj hchild)
      exact (hkeeps.performAll operations).exists_series_of_mem

theorem Obtained.exists_series_of_collect (h : Obtained t₁ m c t) (hkeeps : t₁.Keeps m b)
    {operations : List Operation} {families : List Family}
    (hcollect : collect (.metric c) (t.performAll operations) = (.ok families, t')) :
    ∀ f ∈ families, ∀ sample ∈ f.samples,
      ∃ (values : List String) (s : Series), sample = s.sample ∧ s.Belongs b values := by
  -- what is collected are the samples after one more operation
  have hstate : t' = t.performAll (operations ++ [.collect (.metric c)]) := by
    rw [performAll, List.foldl_append]
    exact (congrArg Prod.snd hcollect).symm
  rw [families_of_collect hcollect, hstate]
  intro f hf sample hsample
  obtain rfl := List.mem_singleton.mp (List.mem_filter.mp hf).1
  exact h.exists_series hkeeps _ sample hsample

/-- A label of a new name is the only one of that name. -/
theorem filter_append_label {name value : String} {labels : List (String × String)}
    (h : name ∉ labels.map Prod.fst) :
    (labels ++ [(name, value)]).filter (·.1 == name) = [(name, value)] := by
  have hnone : labels.filter (·.1 == name) = [] := by
    rw [List.filter_eq_nil_iff]
    intro p hp hname
    apply h
    rw [← beq_iff_eq.mp hname]
    exact List.mem_map_of_mem hp
  rw [List.filter_append, hnone]
  simp

/-- **The reserved label of a summary.**  A summary is made, single or a vector.  A single one has
no variable labels.  Whenever it or one of its children is collected later, a sample has the
reserved label just if the options have it as a variable label.  If they do not have it, then the
reserved label occurs once in each line for a quantile, where it is the quantile that is reported,
one of the objectives, and it does not occur in the other lines. -/
theorem quantile_label_iff {t₀ t₁ : Telemetry} {r : Request} {o : SummaryOpts} {m : Metric}
    (hopts : r.opts = .summary o) (hmake : t₀.make r = .ok (m, t₁)) :
    (r.labels = none → o.common.variableLabels = []) ∧
    ∀ c t, Obtained t₁ m c t → ∀ operations families t',
      collect (.metric c) (t.performAll operations) = (.ok families, t') →
      ∀ f ∈ families, ∀ s ∈ f.samples,
        (quantileLabel ∈ s.labels.map Prod.fst ↔ quantileLabel ∈ o.common.variableLabels) ∧
        ∃ (reported : List (Number × Number)) (sum : Number) (count : Nat),
          s.reading = .summary reported sum count ∧
          reported.map Prod.fst = o.objectives.map Prod.fst ∧
          Exposition.sampleLines f.name s =
            reported.map (fun q =>
              Exposition.valueLine f.name (s.labels ++ [(quantileLabel, q.1.text)]) q.2)
              ++ Exposition.totalLines f.name s.labels sum count ∧
          (quantileLabel ∉ o.common.variableLabels → ∀ q ∈ reported,
            (s.labels ++ [(quantileLabel, q.1.text)]).filter (·.1 == quantileLabel) =
              [(quantileLabel, q.1.text)]) := by
  obtain ⟨b, hb, hkeeps⟩ := keeps_of_make hmake
  have hbopts : b.opts = .summary o := (Blueprint.of_eq_ok hb).1.trans hopts
  constructor
  · intro hnone
    have harity := arity_eq_zero_of_make hmake hb hopts hnone
    rw [Blueprint.arity, Blueprint.variableLabels_of_summary hopts hb, hnone] at harity
    simpa using harity
  · intro c t hc operations families t' hcollect f hf s hs
    obtain ⟨values, series, rfl, hbelongs⟩ := hc.exists_series_of_collect hkeeps hcollect f hf s hs
    obtain ⟨reported, sum, count, hreading, hreported, hlines⟩ :=
      Exposition.exists_sampleLines f.name (hbelongs.shows hbopts)
    have hreserved := hbelongs.reserved_iff hopts hb
    refine ⟨hreserved, reported, sum, count, hreading, hreported, hlines, ?_⟩
    intro hfree q _
    exact filter_append_label (mt hreserved.mp hfree)

/-! ## A child of a vector -/

theorem exists_quantile_line {name : String} {s : Sample} {labels : List (String × String)}
    {quantile x sum : Number} {rest : List (Number × Number)} {count : Nat}
    (hlabels : s.labels = labels)
    (hreading : s.reading = .summary ((quantile, x) :: rest) sum count) :
    ∃ x, Exposition.valueLine name (labels ++ [(quantileLabel, quantile.text)]) x ∈
      Exposition.sampleLines name s := by
  refine ⟨x, ?_⟩
  rw [Exposition.sampleLines, hreading, ← hlabels]
  exact List.mem_cons_self

/-- One half. -/
def half : Number := ⟨0x3FE0000000000000⟩

/-- Medians, with the given variable labels among the options and the given label names. -/
def medians (own names : List String) : Request where
  opts := .summary {
    common := { name := "v", help := "h", variableLabels := own }
    objectives := [(half, Number.zero)] }
  labels := some names

/-- A child of a vector with label names of both sorts, none of which is reserved. -/
theorem quantile_label_of_child_free :
    ∃ m t₁ c t families t', Telemetry.make (medians ["route"] ["code"]) {} = .ok (m, t₁) ∧
      t₁.child m ["/", "200"] = .ok (c, t) ∧
      collect (.metric c) t = (.ok families, t') ∧ families.length = 1 ∧
      ∀ f ∈ families, ∀ s ∈ f.samples, quantileLabel ∉ s.labels.map Prod.fst := by
  have hmake : Telemetry.make (medians ["route"] ["code"]) {} = .ok (_, _) := rfl
  refine ⟨_, _, _, _, _, _, hmake, rfl, rfl, rfl, ?_⟩
  intro f hf s hs hmem
  have hfree := (quantile_label_iff rfl hmake).2 _ _
    (@Obtained.child _ _ [] ["/", "200"] _ _ rfl) [] _ _ rfl f hf s hs
  exact absurd (hfree.1.mp hmem) (by decide)

/-- A child of a vector whose options have the reserved label has it twice in the line for the
median. -/
theorem quantile_label_of_child_twice :
    ∃ m t₁ c t families t', Telemetry.make (medians ["quantile"] []) {} = .ok (m, t₁) ∧
      t₁.child m ["x"] = .ok (c, t) ∧ collect (.metric c) t = (.ok families, t') ∧
      ∃ f ∈ families, ∃ s ∈ f.samples, s.labels = [("quantile", "x")] ∧
        ∃ x, Exposition.valueLine "v" [("quantile", "x"), ("quantile", half.text)] x ∈
          Exposition.sampleLines f.name s := by
  have hlabels : [("quantile", "x")].mergeSort (fun p q => decide (p.1 ≤ q.1)) =
      [("quantile", "x")] := List.mergeSort_singleton _
  refine ⟨_, _, _, _, _, _, rfl, rfl, rfl, _, List.mem_singleton.mpr rfl, _,
    List.mem_singleton.mpr rfl, hlabels, ?_⟩
  show ∃ x, Exposition.valueLine _ ([("quantile", "x")] ++ [(quantileLabel, half.text)]) x ∈ _
  exact exists_quantile_line hlabels rfl

end Telemetry

end MetricBundle
