import MetricBundle.Proofs.FactoryRun

/-!
# Kinds agree along the whole chain

A field goes through four tables on its way to a handle.  Its kind decides how it is resolved; the
label names decide whether a vector is asked for; the options decide the instrument; and the type of
a handle decides which metrics it is a handle on.  What goes through them is the variant of a
metric: an instrument in a shape.  The variants of a kind (`FieldKind.variants`) are those of the
requests that are made for its fields (`Field.variant_mem_of_call?`), the factory answers with the
variant it is asked for, and a handle type accepts a metric if and only if it covers the metric's
variant (`HandleType.accept_of_covered`).

Together: every metric that a field gets is of the field's own kind, and can be taken as the handle
type of that kind (`Factory.kinds_agree`).
-/

namespace MetricBundle

/-- An instrument in a shape. -/
abbrev Variant := Instrument × Shape

def Metric.variant (m : Metric) : Variant := (m.instrument, m.shape)

def Request.variant (r : Request) : Variant := (r.opts.instrument, r.shape)

/-- The variants of the metrics that a field of the kind can get. -/
def FieldKind.variants : FieldKind → List Variant
  | .metric i s => [(i, s)]
  | .observer s => [(.histogram, s), (.summary, s)]
  | .other => []

/-- The variants of the metrics that a handle of the type can be on. -/
def HandleType.covered : HandleType → List Variant
  | .metric i s => [(i, s)]
  | .observer s => [(.histogram, s), (.summary, s)]
  | .any => FieldKind.metrics.flatMap FieldKind.variants
  | .option type => type.covered

/-! ## From the field to the request -/

namespace Field

theorem instrument_optsFor (f : Field) (i : Instrument) : (f.optsFor i).value.instrument = i := by
  cases i <;> rfl

/-- An observer becomes a histogram or a summary. -/
theorem isObserver_of_observerInstrument? {f : Field} {i : Instrument}
    (h : f.observerInstrument? = some i) : i.isObserver = true := by
  simp only [observerInstrument?] at h
  split at h
  · cases h
    rfl
  · split at h
    · cases h
      rfl
    · split at h
      · cases h
        split <;> rfl
      · cases h

theorem isObserver_of_observerOpts {f : Field} {opts : MetricOpts}
    (h : f.observerOpts.value = some opts) : opts.instrument.isObserver = true := by
  unfold observerOpts at h
  split at h
  case h_1 => cases h
  case h_2 i hi =>
    obtain rfl : (f.optsFor i).value = opts := Option.some.inj h
    rw [instrument_optsFor]
    exact isObserver_of_observerInstrument? hi

/-- Cutting a text gives at least one label name, be it blank. -/
theorem labelNames_ne_nil (f : Field) : f.labelNames.value ≠ [] := by
  simp only [labelNames, ne_eq, List.map_eq_nil_iff]
  exact splitOn_ne_nil ',' _

theorem shapeLabels_eq_nil_iff (f : Field) (s : Shape) :
    (f.shapeLabels s).value = [] ↔ s = .scalar := by
  cases s with
  | scalar => exact ⟨fun _ => rfl, fun _ => rfl⟩
  | vector => exact ⟨fun h => absurd h f.labelNames_ne_nil, fun h => nomatch h⟩

theorem resolve_of_metric {f : Field} {i : Instrument} {s : Shape} (h : f.kind = .metric i s) :
    f.resolve.opts = some (f.optsFor i).value ∧ f.resolve.labelNames = (f.shapeLabels s).value := by
  simp only [resolve, resolveNoted, h]
  exact ⟨rfl, rfl⟩

theorem resolve_of_observer {f : Field} {s : Shape} (h : f.kind = .observer s) :
    f.resolve.opts = f.observerOpts.value ∧ f.resolve.labelNames = (f.shapeLabels s).value := by
  cases s <;> simp only [resolve, resolveNoted, h] <;> exact ⟨rfl, rfl⟩

/-- There is nothing to a field that is no metric, and nothing wrong with it. -/
theorem resolve_of_other {f : Field} (h : f.kind = .other) : f.resolve = ⟨none, [], []⟩ := by
  simp only [resolve, resolveNoted, h]
  rfl

theorem call?_of_other {f : Field} (h : f.kind = .other) : f.call? = none := by
  refine Option.eq_none_iff_forall_ne_some.mpr fun r hr => ?_
  have hopts := (call?_eq_some_iff.mp hr).2.1
  rw [resolve_of_other h] at hopts
  cases hopts

/-- A request is for a vector if and only if the field is one: the label names of a vector are never
none, and a single metric has none. -/
theorem labels_of_call? {f : Field} {r : Request} {s : Shape}
    (hlabels : f.resolve.labelNames = (f.shapeLabels s).value)
    (hvector : f.kind.isVector = true ↔ s = .vector) (h : f.call? = some r) :
    r.shape = s ∧
      (f.kind.isVector = true → ∃ name names, r.labels = some (name :: names)) ∧
      (f.kind.isVector = false → r.labels = none) := by
  have hr := (call?_eq_some_iff.mp h).2.2.2
  rw [hlabels] at hr
  cases s with
  | scalar =>
    rw [if_pos ((f.shapeLabels_eq_nil_iff .scalar).mpr rfl)] at hr
    refine ⟨by rw [Request.shape, hr]; rfl, fun hkind => ?_, fun _ => hr⟩
    cases hvector.mp hkind
  | vector =>
    -- even a blank tag gives one name, so the emptiness of the list tells vectors apart
    have hne : (f.shapeLabels .vector).value ≠ [] := fun hnil =>
      nomatch (f.shapeLabels_eq_nil_iff .vector).mp hnil
    rw [if_neg hne] at hr
    obtain ⟨name, names, hcons⟩ := List.exists_cons_of_ne_nil hne
    refine ⟨by rw [Request.shape, hr]; rfl, fun _ => ⟨name, names, ?_⟩, fun hkind => ?_⟩
    · rw [hr, hcons]
    rw [hvector.mpr rfl] at hkind
    cases hkind

theorem mem_variants_observer {i : Instrument} (h : i.isObserver = true) (s : Shape) :
    (i, s) ∈ FieldKind.variants (.observer s) := by
  cases i with
  | counter | gauge => cases h
  | histogram | summary => simp [FieldKind.variants]

/-- **A request for a field is for a variant of the field's kind, with label names if and only if
the kind is a vector's.** -/
theorem variant_mem_of_call? {f : Field} {r : Request} (h : f.call? = some r) :
    r.variant ∈ f.kind.variants ∧
      (f.kind.isVector = true → ∃ name names, r.labels = some (name :: names)) ∧
      (f.kind.isVector = false → r.labels = none) := by
  have hopts := (call?_eq_some_iff.mp h).2.1
  cases hkind : f.kind with
  | metric i s =>
    obtain ⟨hresolved, hlabels⟩ := resolve_of_metric hkind
    have hvector : f.kind.isVector = true ↔ s = .vector := by
      rw [hkind]
      cases s <;> simp [FieldKind.isVector]
    obtain ⟨hshape, hr⟩ := labels_of_call? hlabels hvector h
    rw [hresolved] at hopts
    have hinstrument : r.opts.instrument = i := by
      rw [← Option.some.inj hopts, instrument_optsFor]
    rw [hkind] at hr
    refine ⟨?_, hr⟩
    rw [Request.variant, hinstrument, hshape]
    exact List.mem_singleton_self _
  | observer s =>
    obtain ⟨hresolved, hlabels⟩ := resolve_of_observer hkind
    have hvector : f.kind.isVector = true ↔ s = .vector := by
      rw [hkind]
      cases s <;> simp [FieldKind.isVector]
    obtain ⟨hshape, hr⟩ := labels_of_call? hlabels hvector h
    rw [hresolved] at hopts
    rw [hkind] at hr
    refine ⟨?_, hr⟩
    rw [Request.variant, hshape]
    exact mem_variants_observer (isObserver_of_observerOpts hopts) s
  | other =>
    rw [call?_of_other hkind] at h
    cases h

end Field

/-! ## From the metric to the handle -/

namespace HandleType

/-- The handle type of a kind covers just the kind's own variants. -/
theorem covered_ofKind {k : FieldKind} {type : HandleType} (h : ofKind k = some type) :
    type.covered = k.variants := by
  cases k with
  | metric i s =>
    obtain rfl := Option.some.inj h
    rfl
  | observer s =>
    obtain rfl := Option.some.inj h
    rfl
  | other => cases h

/-- The types of which all metrics are. -/
theorem mem_covered_any (v : Variant) : v ∈ covered .any := by
  obtain ⟨i, s⟩ := v
  cases i <;> cases s <;> decide

/-- A metric of a variant that the type covers is accepted as a handle on that very metric. -/
theorem accept_of_covered {type : HandleType} {m : Metric} (h : m.variant ∈ type.covered) :
    ∃ handle, type.accept m = some handle ∧ (handle = .metric m ∨ handle = .observer m) := by
  induction type with
  | metric i s =>
    have hm : m.instrument = i ∧ m.shape = s := by simpa [covered, Metric.variant] using h
    exact ⟨.metric m, by rw [accept, if_pos hm], .inl rfl⟩
  | observer s =>
    have hm : m.instrument.isObserver = true ∧ m.shape = s := by
      simp only [covered, Metric.variant, List.mem_cons, Prod.mk.injEq, List.not_mem_nil,
        or_false] at h
      rcases h with ⟨hi, hs⟩ | ⟨hi, hs⟩
      · exact ⟨by rw [hi]; rfl, hs⟩
      · exact ⟨by rw [hi]; rfl, hs⟩
    exact ⟨.observer m, by rw [accept, if_pos hm], .inr rfl⟩
  | any => exact ⟨.metric m, rfl, .inl rfl⟩
  | option type ih => exact ih h

theorem accept_of_not_covered {type : HandleType} {m : Metric} (h : m.variant ∉ type.covered) :
    type.accept m = none := by
  induction type with
  | metric i s =>
    refine if_neg fun hm => h ?_
    simp [covered, Metric.variant, hm]
  | observer s =>
    refine if_neg fun ⟨hobserver, hs⟩ => h ?_
    cases hi : m.instrument with
    | counter | gauge => rw [hi] at hobserver; cases hobserver
    | histogram | summary => simp [covered, Metric.variant, hi, hs]
  | any => exact absurd (mem_covered_any m.variant) h
  | option type ih => exact ih h

end HandleType

namespace Slots

variable {s : Slots} {i : Nat} {f : Field} {m : Metric} {type : HandleType}

/-- A handle on the metric can be taken from the slot as the type. -/
def Yields (s : Slots) (i : Nat) (type : HandleType) (m : Metric) : Prop :=
  ∃ handle, (s.take type i).1 = .ok (some handle) ∧ (handle = .metric m ∨ handle = .observer m)

theorem yields_of_covered (hf : s.schema.fields[i]? = some f) (hm : s.metric? i = some m)
    (h : m.variant ∈ type.covered) : s.Yields i type m := by
  obtain ⟨handle, haccept, hhandle⟩ := HandleType.accept_of_covered h
  refine ⟨handle, ?_, hhandle⟩
  simp only [take, hf, hm, haccept]

theorem take_of_not_covered (hf : s.schema.fields[i]? = some f) (hm : s.metric? i = some m)
    (h : m.variant ∉ type.covered) :
    (s.take type i).1 = .error (f.failure (.typeMismatch m.instrument m.shape)) := by
  simp only [take, hf, hm, HandleType.accept_of_not_covered h]

/-- What the slot of a field holds once the replies have settled it. -/
theorem metric?_settled (hlt : i < s.metrics.length) {replies : List Reply} {reply : Reply}
    (h : replies[i]? = some reply) :
    (s.settled replies).metric? i = slotAfter (s.metric? i) reply := by
  rw [metric?, metric?, getElem?_settled, h, List.getElem?_eq_getElem hlt]
  rfl

/-- An empty slot holds a metric afterwards only if the reply has it. -/
theorem slotAfter_none_eq_some {reply : Reply} (h : slotAfter none reply = some m) :
    reply = some (.ok m) := by
  match reply, h with
  | none, h => cases h
  | some (.error _), h => cases h
  | some (.ok _), h => rw [Option.some.inj h]

end Slots

/-- **The field got a metric of its own kind.**  The metric is of a variant of the kind; the options
that the field resolves to have chosen the instrument; and it was made by the factory for a request
with label names if and only if the kind is a vector's. -/
structure Field.Got (f : Field) (factory : Factory) (m : Metric) : Prop where
  variant_mem : m.variant ∈ f.kind.variants
  chosen : ∃ opts, f.resolve.opts = some opts ∧ m.instrument = opts.instrument
  made : ∃ r t t', f.call? = some r ∧ factory.newMetric r t = (.ok (.ok m), t') ∧
    (f.kind.isVector = true → ∃ name names, r.labels = some (name :: names)) ∧
    (f.kind.isVector = false → r.labels = none)

theorem Factory.Replied.got {factory : Factory} {f : Field} {m : Metric}
    (h : factory.Replied f (some (.ok m))) : f.Got factory m := by
  cases h with
  | answered hcall hmade =>
    obtain ⟨hinstrument, hshape⟩ := newMetric_eq_ok hmade
    obtain ⟨hmem, hlabels⟩ := Field.variant_mem_of_call? hcall
    exact {
      variant_mem := by rwa [Metric.variant, hinstrument, hshape]
      chosen := ⟨_, (Field.call?_eq_some_iff.mp hcall).2.1, hinstrument⟩
      made := ⟨_, _, _, hcall, hmade, hlabels⟩ }

theorem Factory.Replied.of_other {factory : Factory} {f : Field} {reply : Reply}
    (h : factory.Replied f reply) (hkind : f.kind = .other) :
    reply = none ∧ f.failuresAfter reply = [] := by
  cases h with
  | unasked =>
    refine ⟨rfl, ?_⟩
    simp only [Field.failuresAfter, Field.resolutionFailures, Field.resolve_of_other hkind,
      List.map_nil, ite_self]
  | answered hcall =>
    rw [Field.call?_of_other hkind] at hcall
    cases hcall

/-- **Kinds agree along the whole chain.**  When a factory has populated slots, it has replied about
every field, and the replies settle the slots and the failures.  A field that is no metric gets
none, and nothing is wrong with it.  A field that got a metric got one of its own kind: its slot
yields the metric as the handle type of the kind, optional or not, and as every other type that
covers the metric's variant; taking it as any other type is a type mismatch. -/
theorem Factory.kinds_agree {factory : Factory} {schema : Schema} {s s' : Slots} {errors : Errors}
    {t t' : Telemetry} (hs : s.schema = schema)
    (hrun : s.populate factory.toMetricFactory schema t = (.ok (s', errors), t')) :
    ∃ replies : List Reply,
      s' = s.settled replies ∧ errors = ⟨failuresAfter schema.fields replies⟩ ∧
      ∀ i f, schema.fields[i]? = some f → ∃ reply, replies[i]? = some reply ∧
        (f.kind = .other →
          reply = none ∧ s'.metric? i = s.metric? i ∧ f.failuresAfter reply = []) ∧
        ∀ m, reply = some (.ok m) →
          f.Got factory m ∧ s'.metric? i = some m ∧
          (∀ type, HandleType.ofKind f.kind = some type →
            s'.Yields i type m ∧ s'.Yields i (.option type) m) ∧
          (∀ type : HandleType, m.variant ∈ type.covered → s'.Yields i type m) ∧
          ∀ type : HandleType, m.variant ∉ type.covered →
            (s'.take type i).1 = .error (f.failure (.typeMismatch m.instrument m.shape)) := by
  obtain ⟨replies, hreplied, rfl, rfl⟩ := populate_eq_ok hs hrun
  refine ⟨replies, rfl, rfl, fun i f hf => ?_⟩
  obtain ⟨reply, hreplies, hreply⟩ := replied_getElem? hreplied hf
  have hlt : i < s.metrics.length := by
    rw [s.aligned, hs]
    exact (List.getElem?_eq_some_iff.mp hf).1
  have hslot := Slots.metric?_settled hlt hreplies
  have hfield : (s.settled replies).schema.fields[i]? = some f := by
    rw [← hf, ← hs]
    rfl
  refine ⟨reply, hreplies, fun hkind => ?_, fun m hm => ?_⟩
  · obtain ⟨hnone, hfailures⟩ := hreply.of_other hkind
    rw [hnone] at hslot
    exact ⟨hnone, hslot, hfailures⟩
  · rw [hm] at hreply hslot
    have hgot := hreply.got
    have hyields (type : HandleType) (h : m.variant ∈ type.covered) :
        (s.settled replies).Yields i type m :=
      Slots.yields_of_covered hfield hslot h
    refine ⟨hgot, hslot, fun type htype => ?_, hyields, fun type h =>
      Slots.take_of_not_covered hfield hslot h⟩
    -- the handle type of the kind covers just the variants that the field can get
    have hcovered : m.variant ∈ type.covered :=
      (HandleType.covered_ofKind htype).symm ▸ hgot.variant_mem
    exact ⟨hyields type hcovered, hyields (.option type) hcovered⟩

/-- An observer with a label, which the length of a window makes a summary. -/
def observedField : Field :=
  ((Field.ofKind "latency" (.observer .vector)).withTag .labelNames "route").withTag .maxAge "10s"

def observedSchema : Schema where
  typeName := "Observed"
  fields := [observedField]

/-- The summary that the observer gets. -/
def observedMetric : Metric where
  instrument := .summary
  shape := .vector
  descriptor :=
    { fqName := "latency", help := "latency", constLabels := [], variableLabels := ["route"] }
  id := 0

theorem kinds_agree_for_observer :
    let run := (Slots.ofSchema observedSchema).populate (Factory.toMetricFactory ⟨"", ""⟩)
      observedSchema {}
    let s' := (Slots.ofSchema observedSchema).put 0 (some observedMetric)
    run.1 = .ok (s', ⟨[]⟩) ∧ s'.Yields 0 (.option (.observer .vector)) observedMetric := by
  intro run s'
  have hrun : run = (.ok (s', ⟨[]⟩), run.2) := rfl
  obtain ⟨replies, hsettled, -, hfields⟩ := Factory.kinds_agree rfl hrun
  obtain ⟨reply, hreply, -, hgot⟩ := hfields 0 observedField rfl
  have hlt : 0 < (Slots.ofSchema observedSchema).metrics.length := by decide
  have hslot := Slots.metric?_settled hlt hreply
  rw [← hsettled] at hslot
  have hmetric : reply = some (.ok observedMetric) := Slots.slotAfter_none_eq_some hslot.symm
  obtain ⟨-, -, hown, -⟩ := hgot observedMetric hmetric
  exact ⟨congrArg Prod.fst hrun, (hown _ rfl).2⟩

end MetricBundle
