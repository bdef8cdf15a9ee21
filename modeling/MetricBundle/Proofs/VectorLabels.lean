import MetricBundle.Proofs.TelemetryRun
import MetricBundle.Proofs.WindowRun

/-!
# The label names of vectors

A vector is asked for with label names, whatever its instrument is, and the options can have
variable labels as well.  Counters, gauges and histograms forget those of the options, and have the
given label names alone; summaries put the given ones behind those of the options.  So vectors of
all instruments have the label names that they are given, unless a summary's options have variable
labels too (`Factory.vector_labels`).

A vector leads to a child for as many label values as it has variable labels, and for no other
number.  Only a new child can then still be refused, since its series cannot be started
(`StartFault`).
-/

namespace MetricBundle

/-- Why no series of a vector with the given options and label names can be started at a time. -/
inductive StartFault (opts : MetricOpts) (names : List String) (now : Nat) : Fault → Prop where
  /-- A histogram has the label of its buckets. -/
  | bucketLabel {o : HistogramOpts} : opts = .histogram o →
      bucketLabel ∈ o.common.constLabels.map Prod.fst ∨ bucketLabel ∈ names →
      StartFault opts names now (.metric .bucketLabelReserved)
  /-- The bounds of a histogram are not acceptable. -/
  | bounds {o : HistogramOpts} {e : MetricError} : opts = .histogram o →
      bucketBounds o.buckets = .error e → StartFault opts names now (.metric e)
  /-- The first span of a summary's window leaves the range of the clock. -/
  | overrun {o : SummaryOpts} : opts = .summary o →
      Duration.clockLimit ≤ now + o.window.span → StartFault opts names now .clockRange

/-- The options that all instruments share matter only by their constant labels. -/
theorem StartFault.of_withCommon {opts : MetricOpts} {c : Opts} {names : List String} {now : Nat}
    {fault : Fault} (hconst : c.constLabels = opts.common.constLabels)
    (h : StartFault (opts.withCommon c) names now fault) : StartFault opts names now fault := by
  cases opts with
  | counter | gauge =>
    cases h with
    | bucketLabel ho | bounds ho | overrun ho => cases ho
  | histogram o =>
    cases h with
    | bucketLabel ho hreserved =>
      cases ho
      exact .bucketLabel rfl (hconst ▸ hreserved)
    | bounds ho hbounds =>
      cases ho
      exact .bounds rfl hbounds
    | overrun ho => cases ho
  | summary o =>
    cases h with
    | bucketLabel ho | bounds ho => cases ho
    | overrun ho hlimit =>
      cases ho
      exact .overrun rfl hlimit

namespace Blueprint

variable {b : Blueprint} {now : Nat} {fault : Fault}

theorem startFault_of_newMeter (names : List String) (h : b.newMeter now = .error fault) :
    StartFault b.opts names now fault := by
  unfold newMeter at h
  split at h
  case h_1 | h_2 => cases h
  case h_3 o ho =>
    split at h
    case h_1 => cases h
    case h_2 e he =>
      obtain rfl := Except.error.inj h
      exact .bounds ho he
  case h_4 o ho =>
    split at h
    case h_1 => cases h
    case h_2 hnone =>
      obtain rfl := Except.error.inj h
      exact .overrun ho (AgeWindow.limit_le_of_start?_eq_none hnone)

/-- With the right number of label values a series can be started, but for these faults. -/
theorem startFault_of_newSeries {r : Request} {names values : List String}
    (hb : Blueprint.of r = .ok b) (hnames : r.labels = some names)
    (hlength : values.length = b.arity) (h : b.newSeries values now = .error fault) :
    StartFault r.opts names now fault := by
  have hopts := (Blueprint.of_eq_ok hb).1
  have harity : b.arityDefect values = none := if_pos hlength
  unfold newSeries labelDefect at h
  split_ifs at h with hreserved
  -- the vector was made without this check, which is left to the series of a histogram
  · obtain ⟨hhistogram, hlabel⟩ := hreserved
    obtain rfl := Except.error.inj h
    obtain ⟨o, ho⟩ : ∃ o, r.opts = .histogram o := by
      rw [instrument, hopts] at hhistogram
      cases hr : r.opts with
      | histogram o => exact ⟨o, rfl⟩
      | counter | gauge | summary =>
        rw [hr] at hhistogram
        cases hhistogram
    have hvariable : b.descriptor.variableLabels = names := by
      rw [Descriptor.variableLabels_of (descriptor_of hb), Request.variableLabels, ho, hnames]
    have hconst : b.descriptor.constLabels = orderLabels o.common.constLabels := by
      rw [(Descriptor.of_eq_ok (descriptor_of hb)).2.2, ho]
      rfl
    refine .bucketLabel ho ?_
    rw [← mem_names_orderLabels, ← hconst, ← hvariable, or_comm]
    simpa [Descriptor.hasLabel] using hlabel
  · simp only [harity] at h
    exact hopts ▸ startFault_of_newMeter names (eq_error_of_map_eq_error h)

end Blueprint

namespace Factory

variable {f : Factory} {r : Request} {t t' : Telemetry} {m : Metric}

/-- A factory supplies no labels. -/
theorem labels_prepare (f : Factory) (o : Opts) :
    (f.prepare o).constLabels = o.constLabels ∧
      (f.prepare o).variableLabels = o.variableLabels := by
  unfold prepare
  by_cases hhelp : (o.withDefaults f.space f.subsystem).help.isEmpty = true
  · simp only [if_pos hhelp]
    exact ⟨rfl, rfl⟩
  · simp only [if_neg hhelp]
    exact ⟨rfl, rfl⟩

theorem variableLabels_prepareRequest (f : Factory) (r : Request) :
    (f.prepareRequest r).variableLabels = r.variableLabels := by
  rcases r with ⟨opts, labels⟩
  cases opts <;> cases labels <;>
    simp only [prepareRequest, Request.variableLabels, MetricOpts.withCommon, MetricOpts.common,
      labels_prepare]

/-- What answers a request is kept as it was made, of the prepared request's blueprint. -/
theorem keeps_of_newMetric (h : f.newMetric r t = (.ok (.ok m), t')) :
    ∃ b, Blueprint.of (f.prepareRequest r) = .ok b ∧ t'.Keeps m b := by
  unfold newMetric at h
  split_ifs at h
  · cases h
  · obtain ⟨extended, registered, hmake, hregister, rfl⟩ := enrol_eq_ok_iff.mp h
    obtain ⟨b, hb, hkeeps⟩ := Telemetry.keeps_of_make hmake
    obtain ⟨-, rfl⟩ := Telemetry.register_eq_ok_iff.mp hregister
    exact ⟨b, hb, hkeeps.follows (Telemetry.follows_of_eq rfl rfl)⟩

/-- **The label names of vectors.**  Whatever the instrument of the options, a vector that a factory
has made for label names has these as its variable labels, in the given order; only for a summary
those that its options have come before them.  So it has just the given ones, unless it is a summary
with options that have some.  Whatever is done afterwards, the vector leads to a child for as many
label values as it has variable labels, and for no other number, where the error tells both numbers.
Only if a new child is needed its series may not be startable, for a reason that is not the number
of label values.  What is collected from a child has the variable labels besides the constant
ones. -/
theorem vector_labels {f : Factory} {opts : MetricOpts} {names : List String}
    {t t₁ : Telemetry} {m : Metric}
    (h : f.newMetric { opts, labels := some names } t = (.ok (.ok m), t₁)) :
    m.instrument = opts.instrument ∧ m.shape = .vector ∧
    m.descriptor.variableLabels =
      (if opts.instrument = .summary then opts.common.variableLabels else []) ++ names ∧
    (m.descriptor.variableLabels = names ↔
      (opts.instrument = .summary → opts.common.variableLabels = [])) ∧
    ∀ (operations : List Telemetry.Operation) (values : List String),
      let t := t₁.performAll operations
      let count := m.descriptor.variableLabels.length
      (values.length ≠ count →
        t.child m values = .error (.metric (.cardinality count values.length))) ∧
      (values.length = count →
        (∃ c t', t.child m values = .ok (c, t') ∧ c.instrument = opts.instrument ∧
          c.shape = .scalar ∧ ∃ s, t'.samples (.metric c) = [s] ∧
            (s.labels.map Prod.fst).Perm
              (m.descriptor.constLabels.map Prod.fst ++ m.descriptor.variableLabels)) ∨
        ∃ fault, t.child m values = .error fault ∧ StartFault opts names t.now fault) := by
  obtain ⟨b, hb, hkeeps⟩ := keeps_of_newMetric h
  obtain ⟨hopts, hshape⟩ := Blueprint.of_eq_ok hb
  have hinstrument : b.instrument = opts.instrument := by
    rw [Blueprint.instrument, hopts]
    exact instrument_prepareRequest
  have hlabels : m.descriptor.variableLabels =
      (if opts.instrument = .summary then opts.common.variableLabels else []) ++ names := by
    rw [hkeeps.descriptor_eq, Descriptor.variableLabels_of (Blueprint.descriptor_of hb),
      variableLabels_prepareRequest]
    cases opts <;> rfl
  refine ⟨hkeeps.instrument_eq.trans hinstrument, hkeeps.shape_eq.trans hshape, hlabels, ?_, ?_⟩
  · rw [hlabels]
    simp
  · intro operations values t count
    have hcount : count = b.arity := congrArg (·.variableLabels.length) hkeeps.descriptor_eq
    have hkept : t.Keeps m b := hkeeps.performAll operations
    rw [hcount]
    constructor
    · intro hlength
      exact hkept.child_of_miscounted hshape hlength
    · intro hlength
      rcases hkept.child_cases hshape hlength with ⟨c, t', hchild, hc⟩ | ⟨fault, hnew, hchild⟩
      · left
        obtain ⟨values', s, hsamples, hbelongs⟩ := hc.exists_series
        refine ⟨c, t', hchild, hc.instrument_eq.trans hinstrument, hc.shape_eq, s.sample, hsamples,
          ?_⟩
        rw [hkept.descriptor_eq]
        exact hbelongs.names_perm
      · right
        refine ⟨fault, hchild, ?_⟩
        apply StartFault.of_withCommon (labels_prepare f opts.common).1
        exact Blueprint.startFault_of_newSeries hb rfl hlength hnew

/-- Options with a variable label of their own. -/
def keyed (name : String) : Opts := { name, help := "h", variableLabels := ["k"] }

/-- A counter forgets the label of its options, and has a child for one label value. -/
theorem vector_labels_of_counter :
    ∃ m t₁, Factory.newMetric ⟨"", ""⟩ { opts := .counter (keyed "c"), labels := some ["l"] } {} =
        (.ok (.ok m), t₁) ∧
      m.descriptor.variableLabels = ["l"] ∧ ∃ c t', t₁.child m ["x"] = .ok (c, t') := by
  have hnew : Factory.newMetric ⟨"", ""⟩ { opts := .counter (keyed "c"), labels := some ["l"] } {} =
      (.ok (.ok _), _) := rfl
  obtain ⟨-, -, hlabels, -, hchildren⟩ := vector_labels hnew
  refine ⟨_, _, hnew, hlabels, ?_⟩
  rcases (hchildren [] ["x"]).2 rfl with ⟨c, t', hchild, -⟩ | ⟨fault, -, hfault⟩
  · exact ⟨c, t', hchild⟩
  · cases hfault with
    | bucketLabel ho | bounds ho | overrun ho => cases ho

/-- A summary keeps the label of its options, and has no child for one label value, where a counter
has one. -/
theorem vector_labels_of_summary_differ :
    ∃ m t₁ c t' m' t₁',
      Factory.newMetric ⟨"", ""⟩ { opts := .counter (keyed "c"), labels := some ["l"] } {} =
        (.ok (.ok m), t₁) ∧
      Factory.newMetric ⟨"", ""⟩
          { opts := .summary { common := keyed "s" }, labels := some ["l"] } t₁ =
        (.ok (.ok m'), t₁') ∧
      t₁'.child m ["x"] = .ok (c, t') ∧ m'.descriptor.variableLabels = ["k", "l"] ∧
      t₁'.child m' ["x"] = .error (.metric (.cardinality 2 1)) :=
  ⟨_, _, _, _, _, _, rfl, rfl, rfl, rfl, rfl⟩

end Factory

end MetricBundle
