import MetricBundle.Proofs.Construction
import MetricBundle.Proofs.LabelOrder

/-!
# Runs of telemetry

Whatever is done with telemetry is an `Operation`, and a run is one operation after the other, on
any metrics and in any order.  An operation can fail, and then it leaves behind what it leaves.

What an operation can do to what is there is said once, by `Telemetry.Follows`: every series stays
in its place and keeps its labels and the objectives it reports on; every vector stays in its place
and keeps its blueprint, while it loses children or gets a new one, whose series belongs to it.  So
a metric that has been made stays what it was made as (`Telemetry.Keeps`): its handle leads to
series whose labels are those of the blueprint with the values by which the series are addressed
(`keeps_of_make`, `Keeps.performAll`).

What is collected by a handle is read off these series (`Keeps.exists_series`).  The same holds of
the handle on a child of a vector (`IsChild`), which also stays good when the vector has lost the
child.
-/

namespace MetricBundle

/-- The objectives that a meter reports on, if it has a window. -/
def Meter.objectives? : Meter → Option (List (Number × Number))
  | .window objectives _ => some objectives
  | _ => none

/-- The objectives that the metric is to report on, if it is a summary. -/
def Blueprint.objectives? (b : Blueprint) : Option (List (Number × Number)) :=
  match b.opts with
  | .summary o => some o.objectives
  | _ => none

/-- The quantiles that are reported, by a summary. -/
def Reading.quantiles? : Reading → Option (List Number)
  | .summary quantiles _ _ => some (quantiles.map Prod.fst)
  | _ => none

/-- The sample is one of a summary with the given label names and quantiles. -/
structure Sample.Shows (s : Sample) (names : List String) (quantiles : List Number) : Prop where
  names_eq : s.labels.map Prod.fst = names
  quantiles_eq : s.reading.quantiles? = some quantiles

namespace Series

/-- The sample that is collected from a series. -/
def sample (s : Series) : Sample := { labels := s.labels, reading := s.meter.reading }

/-- The series is the one of a blueprint for the given label values. -/
structure Belongs (s : Series) (b : Blueprint) (values : List String) : Prop where
  length_eq : values.length = b.arity
  labels_eq : s.labels = b.labelPairs values
  objectives_eq : s.meter.objectives? = b.objectives?

/-- The second series is the first one at a later time. -/
structure Continues (s s' : Series) : Prop where
  labels_eq : s'.labels = s.labels
  objectives_eq : s'.meter.objectives? = s.meter.objectives?

theorem Continues.refl (s : Series) : s.Continues s := ⟨rfl, rfl⟩

theorem Continues.trans {s s' s'' : Series} (h : s.Continues s') (h' : s'.Continues s'') :
    s.Continues s'' :=
  ⟨h'.labels_eq.trans h.labels_eq, h'.objectives_eq.trans h.objectives_eq⟩

theorem quantiles?_reading (meter : Meter) :
    meter.reading.quantiles? = meter.objectives?.map (·.map Prod.fst) := by
  cases meter with
  | value | buckets => rfl
  | window objectives w =>
    show some ((w.quantiles objectives).map Prod.fst) = some (objectives.map Prod.fst)
    rw [AgeWindow.quantiles, List.map_map]
    rfl

theorem Belongs.names_perm {s : Series} {b : Blueprint} {values : List String}
    (h : s.Belongs b values) :
    (s.sample.labels.map Prod.fst).Perm
      (b.descriptor.constLabels.map Prod.fst ++ b.descriptor.variableLabels) := by
  show (s.labels.map Prod.fst).Perm _
  rw [h.labels_eq]
  exact Blueprint.names_labelPairs_perm h.length_eq

/-- A series of a summary reports the quantiles of the objectives. -/
theorem Belongs.shows {s : Series} {b : Blueprint} {values : List String} {o : SummaryOpts}
    (h : s.Belongs b values) (hopts : b.opts = .summary o) :
    s.sample.Shows (b.labelSources.map Prod.fst) (o.objectives.map Prod.fst) where
  names_eq := by
    show s.labels.map Prod.fst = _
    rw [h.labels_eq, Blueprint.map_fst_labelPairs h.length_eq]
  quantiles_eq := by
    show s.meter.reading.quantiles? = _
    rw [quantiles?_reading, h.objectives_eq, Blueprint.objectives?, hopts]
    rfl

theorem Belongs.of_continues {s s' : Series} {b : Blueprint} {values : List String}
    (h : s.Belongs b values) (hs : s.Continues s') : s'.Belongs b values :=
  ⟨h.length_eq, hs.labels_eq.trans h.labels_eq, hs.objectives_eq.trans h.objectives_eq⟩

end Series

/-- Every series of the first list is continued at its place in the second one. -/
def Continued (series series' : List Series) : Prop :=
  ∀ (id : Nat) (s : Series), series[id]? = some s →
    ∃ s', series'[id]? = some s' ∧ s.Continues s'

theorem continued_refl (series : List Series) : Continued series series :=
  fun _ s hs => ⟨s, hs, .refl s⟩

theorem Continued.trans {series series' series'' : List Series} (h : Continued series series')
    (h' : Continued series' series'') : Continued series series'' := by
  intro id s hs
  obtain ⟨s₁, hs₁, hcontinues⟩ := h id s hs
  obtain ⟨s₂, hs₂, hcontinues'⟩ := h' id s₁ hs₁
  exact ⟨s₂, hs₂, hcontinues.trans hcontinues'⟩

theorem continued_append (series added : List Series) : Continued series (series ++ added) := by
  intro id s hs
  have hlt := (List.getElem?_eq_some_iff.mp hs).1
  exact ⟨s, (List.getElem?_append_left hlt).trans hs, .refl s⟩

theorem continued_set {series : List Series} {id : Nat} {s s' : Series}
    (hs : series[id]? = some s) (h : s.Continues s') : Continued series (series.set id s') := by
  intro j r hr
  by_cases hid : id = j
  · subst hid
    obtain rfl := Option.some.inj (hs.symm.trans hr)
    exact ⟨s', List.getElem?_set_self (List.getElem?_eq_some_iff.mp hs).1, h⟩
  · exact ⟨r, (List.getElem?_set_ne hid).trans hr, .refl r⟩

namespace MetricVector

/-- The children of the vector have different keys, and each leads to the series of the blueprint
for label values with that key. -/
structure Kept (v : MetricVector) (series : List Series) : Prop where
  nodup : (v.children.map Prod.fst).Nodup
  belongs : ∀ c ∈ v.children, ∃ values s, c.1 = v.blueprint.childKey values ∧
    series[c.2]? = some s ∧ s.Belongs v.blueprint values

/-- What can become of a vector, when the next new series would get the given number. -/
inductive Next (v : MetricVector) (number : Nat) (series : List Series) : MetricVector → Prop where
  | fewer {children : List (List String × Nat)} : children.Sublist v.children →
      Next v number series { v with children }
  | more {values : List String} {s : Series} : v.lookup values = none →
      series[number]? = some s → s.Belongs v.blueprint values →
      Next v number series (v.insert values number)

theorem next_refl (v : MetricVector) (number : Nat) (series : List Series) :
    v.Next number series v :=
  .fewer (List.Sublist.refl _)

variable {v v' : MetricVector} {series series' : List Series} {number : Nat}

theorem Next.blueprint_eq (h : v.Next number series v') : v'.blueprint = v.blueprint := by
  cases h <;> rfl

theorem key_ne_of_lookup {values : List String} (h : v.lookup values = none) :
    ∀ c ∈ v.children, c.1 ≠ v.blueprint.childKey values := by
  rw [lookup, Option.map_eq_none_iff, List.find?_eq_none] at h
  intro c hc heq
  exact h c hc (beq_iff_eq.mpr heq)

theorem Kept.next (hv : v.Kept series) (hseries : Continued series series')
    (h : v.Next number series' v') : v'.Kept series' := by
  -- the series of the children that there were are continued
  have hbelongs : ∀ c ∈ v.children, ∃ values s, c.1 = v.blueprint.childKey values ∧
      series'[c.2]? = some s ∧ s.Belongs v.blueprint values := by
    intro c hc
    obtain ⟨values, s, hkey, hs, hb⟩ := hv.belongs c hc
    obtain ⟨s', hs', hcontinues⟩ := hseries c.2 s hs
    exact ⟨values, s', hkey, hs', hb.of_continues hcontinues⟩
  cases h with
  | fewer hsub =>
    refine ⟨(hsub.map Prod.fst).nodup hv.nodup, fun c hc => ?_⟩
    exact hbelongs c (hsub.subset hc)
  | @more values s hnone hs hb =>
    refine ⟨?_, fun c hc => ?_⟩
    · rw [insert, List.map_append, List.nodup_append]
      refine ⟨hv.nodup, List.pairwise_singleton _ _, ?_⟩
      rintro _ hkey _ hnew rfl
      obtain ⟨c, hc, rfl⟩ := List.mem_map.mp hkey
      exact key_ne_of_lookup hnone c hc (List.mem_singleton.mp hnew)
    · rcases List.mem_append.mp hc with hc | hc
      · exact hbelongs c hc
      · rw [List.mem_singleton.mp hc]
        exact ⟨values, s, rfl, hs, hb⟩

end MetricVector

namespace Telemetry

variable {t t' : Telemetry} {m : Metric} {b : Blueprint}

/-- What an operation can do to the series and vectors that there are. -/
structure Follows (t t' : Telemetry) : Prop where
  series : Continued t.series t'.series
  vectors : ∀ (id : Nat) (v : MetricVector), t.vectors[id]? = some v →
    ∃ v', t'.vectors[id]? = some v' ∧ v.Next t.series.length t'.series v'

/-- The telemetry has what was made of a blueprint at the place of the given number. -/
def Holds (t : Telemetry) (b : Blueprint) (id : Nat) : Prop :=
  match b.shape with
  | .scalar => ∃ s, t.series[id]? = some s ∧ s.Belongs b []
  | .vector => ∃ v, t.vectors[id]? = some v ∧ v.blueprint = b ∧ v.Kept t.series

/-- The handle is one on what was made of a blueprint. -/
structure Keeps (t : Telemetry) (m : Metric) (b : Blueprint) : Prop where
  instrument_eq : m.instrument = b.instrument
  shape_eq : m.shape = b.shape
  descriptor_eq : m.descriptor = b.descriptor
  holds : t.Holds b m.id

theorem Keeps.follows (h : t.Keeps m b) (ht : t.Follows t') : t'.Keeps m b := by
  refine ⟨h.instrument_eq, h.shape_eq, h.descriptor_eq, ?_⟩
  have hholds := h.holds
  unfold Holds at hholds ⊢
  split at hholds
  case h_1 =>
    obtain ⟨s, hs, hb⟩ := hholds
    obtain ⟨s', hs', hcontinues⟩ := ht.series m.id s hs
    exact ⟨s', hs', hb.of_continues hcontinues⟩
  case h_2 =>
    obtain ⟨v, hv, hblueprint, hkept⟩ := hholds
    obtain ⟨v', hv', hnext⟩ := ht.vectors m.id v hv
    exact ⟨v', hv', hnext.blueprint_eq.trans hblueprint, hkept.next ht.series hnext⟩

/-! ## What has been made -/

theorem objectives?_of_newMeter {now : Nat} {meter : Meter} (h : b.newMeter now = .ok meter) :
    meter.objectives? = b.objectives? := by
  unfold Blueprint.newMeter at h
  unfold Blueprint.objectives?
  split at h
  case h_1 hopts | h_2 hopts => rw [hopts, ← Except.ok.inj h]; rfl
  case h_3 hopts =>
    rw [hopts]
    split at h
    · rw [← Except.ok.inj h]; rfl
    · cases h
  case h_4 hopts =>
    rw [hopts]
    split at h
    · rw [← Except.ok.inj h]; rfl
    · cases h

theorem belongs_of_newSeries {values : List String} {now : Nat} {s : Series}
    (h : b.newSeries values now = .ok s) : s.Belongs b values := by
  unfold Blueprint.newSeries at h
  split at h
  case h_1 => cases h
  case h_2 =>
    split at h
    case h_1 => cases h
    case h_2 harity =>
      obtain ⟨meter, hmeter, rfl⟩ := exists_of_map_eq_ok h
      refine ⟨?_, rfl, objectives?_of_newMeter hmeter⟩
      unfold Blueprint.arityDefect at harity
      split at harity
      · assumption
      · cases harity

/-- A metric that has been made is one of its blueprint, without children. -/
theorem keeps_of_build (h : t.build b = .ok (m, t')) : t'.Keeps m b := by
  unfold build at h
  split at h
  case h_1 hshape =>
    obtain ⟨s, hs, hmade⟩ := exists_of_map_eq_ok h
    obtain ⟨rfl, rfl⟩ := Prod.mk.inj hmade
    refine ⟨rfl, rfl, rfl, ?_⟩
    unfold Blueprint.onlySeries at hs
    split at hs
    · cases hs
    · unfold Holds
      rw [hshape]
      exact ⟨s, List.getElem?_concat_length, belongs_of_newSeries hs⟩
  case h_2 hshape =>
    obtain ⟨rfl, rfl⟩ := Prod.mk.inj (Except.ok.inj h)
    refine ⟨rfl, rfl, rfl, ?_⟩
    unfold Holds
    rw [hshape]
    refine ⟨{ blueprint := b }, List.getElem?_concat_length, rfl, List.nodup_nil, ?_⟩
    exact fun c hc => absurd hc List.not_mem_nil

theorem keeps_of_make {r : Request} (h : t.make r = .ok (m, t')) :
    ∃ b, Blueprint.of r = .ok b ∧ t'.Keeps m b := by
  unfold make at h
  split at h
  case h_1 b hb => exact ⟨b, hb, keeps_of_build h⟩
  case h_2 => cases h

/-! ## Operations -/

/-- Adding to the series and the vectors leaves those alone that there are. -/
theorem follows_of_append {series : List Series} {vectors : List MetricVector}
    (hseries : t'.series = t.series ++ series) (hvectors : t'.vectors = t.vectors ++ vectors) :
    t.Follows t' where
  series := hseries ▸ continued_append t.series series
  vectors id v hv := by
    refine ⟨v, ?_, v.next_refl _ _⟩
    rw [hvectors]
    exact (List.getElem?_append_left (List.getElem?_eq_some_iff.mp hv).1).trans hv

/-- Nothing has been done to series and vectors. -/
theorem follows_of_eq (hseries : t'.series = t.series) (hvectors : t'.vectors = t.vectors) :
    t.Follows t' :=
  follows_of_append (hseries.trans (List.append_nil _).symm)
    (hvectors.trans (List.append_nil _).symm)

/-- A vector is put into the place of one that may become it. -/
theorem follows_of_set {id : Nat} {v v' : MetricVector} (hv : t.vectors[id]? = some v)
    (hvectors : t'.vectors = t.vectors.set id v') (hseries : Continued t.series t'.series)
    (hnext : v.Next t.series.length t'.series v') : t.Follows t' where
  series := hseries
  vectors j w hw := by
    rw [hvectors]
    by_cases hid : id = j
    · subst hid
      obtain rfl := Option.some.inj (hv.symm.trans hw)
      exact ⟨v', List.getElem?_set_self (List.getElem?_eq_some_iff.mp hv).1, hnext⟩
    · exact ⟨w, (List.getElem?_set_ne hid).trans hw, w.next_refl _ _⟩

theorem follows_of_make {r : Request} (h : t.make r = .ok (m, t')) : t.Follows t' := by
  unfold make at h
  split at h
  case h_2 => cases h
  case h_1 =>
    unfold build at h
    split at h
    case h_1 =>
      obtain ⟨s, -, hmade⟩ := exists_of_map_eq_ok h
      obtain ⟨-, rfl⟩ := Prod.mk.inj hmade
      exact follows_of_append rfl (List.append_nil _).symm
    case h_2 =>
      obtain ⟨-, rfl⟩ := Prod.mk.inj (Except.ok.inj h)
      exact follows_of_append (List.append_nil _).symm rfl

theorem follows_of_makeCallback {kind : CallbackKind} {numeric : NumericType} {o : Opts}
    {value : Number} {c : Callback} (h : t.makeCallback kind numeric o value = .ok (c, t')) :
    t.Follows t' := by
  unfold makeCallback at h
  split at h
  case h_1 => cases h
  case h_2 =>
    split at h
    case isTrue =>
      obtain ⟨-, rfl⟩ := Prod.mk.inj (Except.ok.inj h)
      exact follows_of_eq rfl rfl
    case isFalse => cases h

theorem follows_of_child {c : Metric} {values : List String} (h : t.child m values = .ok (c, t')) :
    t.Follows t' := by
  unfold child at h
  split at h
  case h_1 v hv =>
    split at h
    case h_1 => cases h
    case h_2 =>
      obtain ⟨-, rfl⟩ := Prod.mk.inj (Except.ok.inj h)
      exact follows_of_eq rfl rfl
    case h_3 harity hlookup =>
      obtain ⟨s, hs, hmade⟩ := exists_of_map_eq_ok h
      obtain ⟨-, rfl⟩ := Prod.mk.inj hmade
      refine follows_of_set hv rfl (continued_append _ _) ?_
      exact .more hlookup List.getElem?_concat_length (belongs_of_newSeries hs)
  case h_2 =>
    obtain ⟨-, rfl⟩ := Prod.mk.inj (Except.ok.inj h)
    exact follows_of_eq rfl rfl

theorem follows_of_remove {values : List String} (h : t.remove m values = .ok t') :
    t.Follows t' := by
  unfold remove at h
  split at h
  case h_1 => cases h
  case h_2 v hv =>
    split at h
    case h_1 => cases h
    case h_2 =>
      obtain rfl := Except.ok.inj h
      exact follows_of_set hv rfl (continued_refl _) (.fewer List.filter_sublist)

theorem follows_reset (m : Metric) (t : Telemetry) : t.Follows (t.reset m) := by
  cases hv : t.vectors[m.id]? with
  | none =>
    refine follows_of_eq rfl ?_
    exact List.modify_eq_self (List.getElem?_eq_none_iff.mp hv)
  | some v =>
    refine follows_of_set hv ?_ (continued_refl _) (.fewer (List.nil_sublist _))
    show t.vectors.modify m.id _ = _
    rw [List.modify_eq_set_getElem?, hv]
    rfl

/-! ## Moving meters -/

/-- Nothing but meters has been moved. -/
structure Metered (t t' : Telemetry) : Prop where
  rest_eq : t' = { t with series := t'.series }
  continued : Continued t.series t'.series

theorem metered_refl (t : Telemetry) : t.Metered t := ⟨rfl, continued_refl _⟩

theorem Metered.trans {t'' : Telemetry} (h : t.Metered t') (h' : t'.Metered t'') :
    t.Metered t'' := by
  refine ⟨?_, h.continued.trans h'.continued⟩
  rw [h'.rest_eq, h.rest_eq]

theorem Metered.follows (h : t.Metered t') : t.Follows t' where
  series := h.continued
  vectors id v hv := by
    refine ⟨v, ?_, v.next_refl _ _⟩
    rw [h.rest_eq]
    exact hv

/-- A step keeps the objectives of meters, also where it fails. -/
def KeepsObjectives (step : Meter → Except Meter Meter) : Prop :=
  ∀ meter meter', step meter = .ok meter' ∨ step meter = .error meter' →
    meter'.objectives? = meter.objectives?

theorem keepsObjectives_onWindow (turn : AgeWindow → Except AgeWindow AgeWindow) :
    KeepsObjectives (Meter.onWindow turn) := by
  intro meter meter' h
  cases meter with
  | value | buckets =>
    rcases h with h | h
    · rw [← Except.ok.inj h]
    · cases h
  | window objectives w =>
    rw [Meter.onWindow] at h
    cases hturn : turn w with
    | ok w' | error w' =>
      simp only [hturn] at h
      rcases h with h | h
      all_goals cases h
      rfl

theorem keepsObjectives_apply (now : Nat) (change : Change) :
    KeepsObjectives (Meter.apply now change) := by
  intro meter meter' h
  unfold Meter.apply at h
  split at h
  case h_4 => exact keepsObjectives_onWindow _ _ _ h
  all_goals
    rcases h with h | h
    · obtain rfl := Except.ok.inj h
      rfl
    · cases h

theorem stepMeter_metered {step : Meter → Except Meter Meter} (hstep : KeepsObjectives step)
    (id : Nat) (t : Telemetry) : t.Metered (stepMeter id step t).2 := by
  cases hs : t.series[id]? with
  | none =>
    simp only [stepMeter, hs]
    exact metered_refl t
  | some s =>
    cases hm : step s.meter with
    | ok meter =>
      simp only [stepMeter, hs, hm]
      exact ⟨rfl, continued_set hs ⟨rfl, hstep _ _ (.inl hm)⟩⟩
    | error meter =>
      simp only [stepMeter, hs, hm]
      exact ⟨rfl, continued_set hs ⟨rfl, hstep _ _ (.inr hm)⟩⟩

theorem rotateAll_metered (ids : List Nat) (t : Telemetry) : t.Metered (rotateAll ids t).2 := by
  induction ids generalizing t with
  | nil => exact metered_refl t
  | cons id ids ih =>
    have hstep := stepMeter_metered (keepsObjectives_onWindow (AgeWindow.rotate t.now)) id t
    rw [rotateAll_cons]
    rcases hs : stepMeter id (Meter.rotate t.now) t with ⟨result, t₁⟩
    have ht₁ : t.Metered t₁ := by
      have hsame : (stepMeter id (Meter.onWindow (AgeWindow.rotate t.now)) t).2 = t₁ :=
        congrArg Prod.snd hs
      rw [← hsame]
      exact hstep
    cases result with
    | ok u =>
      rw [Action.bind_of_ok hs]
      exact ht₁.trans (ih t₁)
    | error fault =>
      rw [Action.bind_of_error hs]
      exact ht₁

theorem change_metered (m : Metric) (c : Change) (t : Telemetry) :
    t.Metered (change m c t).2 := by
  unfold change
  cases m.shape with
  | scalar =>
    by_cases hfall : m.instrument = .counter ∧ c.isFall = true
    · simp only [if_pos hfall]
      exact metered_refl t
    · simp only [if_neg hfall]
      exact stepMeter_metered (keepsObjectives_apply t.now c) m.id t
  | vector => exact metered_refl t

theorem collect_of_rotateAll {c : Collector} (h : rotateAll (t.members c) t = (.ok (), t')) :
    collect c t = (.ok (Family.inhabited [t'.family c]), t') :=
  Action.bind_of_ok h _

theorem collect_of_fault {c : Collector} {fault : Fault}
    (h : rotateAll (t.members c) t = (.error fault, t')) : collect c t = (.error fault, t') :=
  Action.bind_of_error h _

theorem families_of_collect {c : Collector} {families : List Family}
    (h : collect c t = (.ok families, t')) : families = Family.inhabited [t'.family c] := by
  rcases hr : rotateAll (t.members c) t with ⟨fault | u, t₁⟩
  · rw [collect_of_fault hr] at h
    cases h
  · rw [collect_of_rotateAll hr] at h
    obtain ⟨hfamilies, rfl⟩ := Prod.mk.inj h
    exact (Except.ok.inj hfamilies).symm

theorem collect_metered (c : Collector) (t : Telemetry) : t.Metered (collect c t).2 := by
  have hrotate := rotateAll_metered (t.members c) t
  rcases hr : rotateAll (t.members c) t with ⟨result, t'⟩
  rw [hr] at hrotate
  cases result with
  | ok u => rw [collect_of_rotateAll hr]; exact hrotate
  | error fault => rw [collect_of_fault hr]; exact hrotate

theorem gather_metered (t : Telemetry) : t.Metered (gather t).2 := by
  have hrotate := rotateAll_metered (t.registry.flatMap t.members) t
  rcases hr : rotateAll (t.registry.flatMap t.members) t with ⟨result, t'⟩
  rw [hr] at hrotate
  cases result with
  | ok u => rw [gather_of_rotateAll hr]; exact hrotate
  | error fault => rw [gather_of_fault hr]; exact hrotate

/-! ## Runs -/

/-- Something that is done with telemetry. -/
inductive Operation where
  | advance (span : Nat)
  | log (entry : LogEntry)
  | make (r : Request)
  | makeCallback (kind : CallbackKind) (numeric : NumericType) (o : Opts) (value : Number)
  | register (c : Collector)
  | child (m : Metric) (values : List String)
  | change (m : Metric) (c : Change)
  | remove (m : Metric) (values : List String)
  | reset (m : Metric)
  | setSource (c : Callback) (x : Number)
  | collect (c : Collector)
  | gather
deriving DecidableEq

/-- What something that can be refused leaves behind. -/
def orElseSame (t : Telemetry) {ε α : Type} : Except ε (α × Telemetry) → Telemetry
  | .ok (_, t') => t'
  | .error _ => t

/-- What an operation leaves behind. -/
def perform (t : Telemetry) : Operation → Telemetry
  | .advance span => t.advance span
  | .log entry => t.log entry
  | .make r => t.orElseSame (t.make r)
  | .makeCallback kind numeric o value => t.orElseSame (t.makeCallback kind numeric o value)
  | .register c => (t.register c).toOption.getD t
  | .child m values => t.orElseSame (t.child m values)
  | .change m c => (Telemetry.change m c t).2
  | .remove m values => (t.remove m values).toOption.getD t
  | .reset m => t.reset m
  | .setSource c x => t.setSource c x
  | .collect c => (Telemetry.collect c t).2
  | .gather => (Telemetry.gather t).2

/-- Operations one after the other. -/
def performAll (t : Telemetry) (operations : List Operation) : Telemetry :=
  operations.foldl perform t

/-- **Every operation leaves series and vectors in their places**, whether it fails or not. -/
theorem follows_perform (t : Telemetry) (operation : Operation) :
    t.Follows (t.perform operation) := by
  cases operation with
  | advance | log | setSource => exact follows_of_eq rfl rfl
  | make r =>
    rw [perform]
    cases hmake : t.make r with
    | ok p => exact follows_of_make hmake
    | error fault => exact follows_of_eq rfl rfl
  | makeCallback kind numeric o value =>
    rw [perform]
    cases hmake : t.makeCallback kind numeric o value with
    | ok p => exact follows_of_makeCallback hmake
    | error fault => exact follows_of_eq rfl rfl
  | register c =>
    rw [perform]
    cases hregister : t.register c with
    | ok registered =>
      obtain ⟨-, rfl⟩ := register_eq_ok_iff.mp hregister
      exact follows_of_eq rfl rfl
    | error e => exact follows_of_eq rfl rfl
  | child m values =>
    rw [perform]
    cases hchild : t.child m values with
    | ok p => exact follows_of_child hchild
    | error fault => exact follows_of_eq rfl rfl
  | change m c => exact (change_metered m c t).follows
  | remove m values =>
    rw [perform]
    cases hremove : t.remove m values with
    | ok removed => exact follows_of_remove hremove
    | error e => exact follows_of_eq rfl rfl
  | reset m => exact follows_reset m t
  | collect c => exact (collect_metered c t).follows
  | gather => exact (gather_metered t).follows

/-- **What has been made stays what it was made as.** -/
theorem Keeps.performAll (h : t.Keeps m b) (operations : List Operation) :
    (t.performAll operations).Keeps m b := by
  induction operations generalizing t with
  | nil => exact h
  | cons operation operations ih => exact ih (h.follows (follows_perform t operation))

/-! ## What is collected -/

/-- Children in any order lead to series that belong to label values with their keys. -/
theorem exists_series_of_children {series : List Series} (children : List (List String × Nat))
    (h : ∀ c ∈ children, ∃ values s, c.1 = b.childKey values ∧ series[c.2]? = some s ∧
      s.Belongs b values) :
    ∃ ss : List (List String × Series), (∀ c ∈ ss, c.2.Belongs b c.1) ∧
      children.map Prod.fst = ss.map (b.childKey ·.1) ∧
      (children.map Prod.snd).filterMap (series[·]?.map Series.sample) = ss.map (·.2.sample) := by
  induction children with
  | nil => exact ⟨[], by simp, rfl, rfl⟩
  | cons c children ih =>
    obtain ⟨hc, hchildren⟩ := List.forall_mem_cons.mp h
    obtain ⟨values, s, hkey, hs, hb⟩ := hc
    obtain ⟨ss, hss, hkeys, hsamples⟩ := ih hchildren
    have hsample : series[c.2]?.map Series.sample = some s.sample := by rw [hs]; rfl
    refine ⟨(values, s) :: ss, List.forall_mem_cons.mpr ⟨hb, hss⟩, ?_, ?_⟩
    · rw [List.map_cons, List.map_cons, hkey, hkeys]
    · rw [List.map_cons, List.map_cons, List.filterMap_cons, hsample, hsamples]

/-- The children of a vector in the order in which they are collected. -/
theorem exists_listed (v : MetricVector) :
    ∃ listed : List (List String × Nat), v.members = listed.map Prod.snd ∧
      listed.Perm v.children ∧
      (v.blueprint.instrument = .summary → (v.children.map Prod.fst).Nodup →
        (listed.map Prod.fst).Pairwise (· < ·)) := by
  unfold MetricVector.members
  split
  case h_1 => exact ⟨_, rfl, List.mergeSort_perm _ _, fun _ => pairwise_lt_mergeSort⟩
  case h_2 hsummary => exact ⟨_, rfl, .refl _, fun h => absurd h hsummary⟩

/-- **What is collected from a metric are the samples of its series**, each with the labels of the
label values by which it is addressed.  Those of a summary are in the order of these. -/
theorem Keeps.exists_series (h : t.Keeps m b) :
    ∃ ss : List (List String × Series), t.samples (.metric m) = ss.map (·.2.sample) ∧
      (∀ c ∈ ss, c.2.Belongs b c.1) ∧
      (b.instrument = .summary → (ss.map Prod.fst).Pairwise (· < ·)) := by
  have hsamples : t.samples (.metric m) =
      (t.members (.metric m)).filterMap (t.series[·]?.map Series.sample) := rfl
  have hholds := h.holds
  unfold Holds at hholds
  split at hholds
  case h_1 hshape =>
    obtain ⟨s, hs, hb⟩ := hholds
    have hmembers : t.members (.metric m) = [m.id] := by
      simp only [members, h.shape_eq, hshape]
    have hsample : t.series[m.id]?.map Series.sample = some s.sample := by rw [hs]; rfl
    refine ⟨[([], s)], ?_, by simpa using hb, fun _ => List.pairwise_singleton _ _⟩
    rw [hsamples, hmembers, List.filterMap_cons, hsample]
    rfl
  case h_2 hshape =>
    obtain ⟨v, hv, rfl, hkept⟩ := hholds
    have hmembers : t.members (.metric m) = v.members := by
      simp only [members, h.shape_eq, hshape, hv]
    obtain ⟨listed, hlisted, hperm, hsorted⟩ := exists_listed v
    obtain ⟨ss, hss, hkeys, hlistedSamples⟩ := exists_series_of_children listed fun c hc =>
      hkept.belongs c (hperm.mem_iff.mp hc)
    refine ⟨ss, by rw [hsamples, hmembers, hlisted, hlistedSamples], hss, fun hsummary => ?_⟩
    have hlt := hsorted hsummary hkept.nodup
    -- the key of a child of a summary is its label values
    have hvalues (c : List String × Series) : v.blueprint.childKey c.1 = c.1 := by
      rw [Blueprint.childKey, hsummary]
    rw [hkeys, funext hvalues] at hlt
    exact hlt

theorem Keeps.exists_series_of_mem (h : t.Keeps m b) :
    ∀ sample ∈ t.samples (.metric m),
      ∃ (values : List String) (s : Series), sample = s.sample ∧ s.Belongs b values := by
  obtain ⟨ss, hsamples, hbelongs, -⟩ := h.exists_series
  rw [hsamples]
  intro sample hsample
  obtain ⟨c, hc, rfl⟩ := List.mem_map.mp hsample
  exact ⟨c.1, c.2, rfl, hbelongs c hc⟩

/-! ## Children -/

/-- The handle is one on a child of what was made of a blueprint.  The child is addressed by the
given label values, or by others with the same key. -/
structure IsChild (t : Telemetry) (c : Metric) (b : Blueprint) (values : List String) : Prop where
  instrument_eq : c.instrument = b.instrument
  shape_eq : c.shape = .scalar
  descriptor_eq : c.descriptor = b.descriptor
  series : ∃ values' s, b.childKey values' = b.childKey values ∧ t.series[c.id]? = some s ∧
    s.Belongs b values'

variable {c : Metric} {values : List String}

theorem IsChild.follows (h : t.IsChild c b values) (ht : t.Follows t') :
    t'.IsChild c b values := by
  obtain ⟨values', s, hkey, hs, hb⟩ := h.series
  obtain ⟨s', hs', hcontinues⟩ := ht.series c.id s hs
  exact ⟨h.instrument_eq, h.shape_eq, h.descriptor_eq, values', s', hkey, hs',
    hb.of_continues hcontinues⟩

theorem IsChild.performAll (h : t.IsChild c b values) (operations : List Operation) :
    (t.performAll operations).IsChild c b values := by
  induction operations generalizing t with
  | nil => exact h
  | cons operation operations ih => exact ih (h.follows (follows_perform t operation))

/-- With a wrong number of label values there is no child. -/
theorem Keeps.child_of_miscounted (h : t.Keeps m b) (hshape : b.shape = .vector)
    (hlength : values.length ≠ b.arity) :
    t.child m values = .error (.metric (.cardinality b.arity values.length)) := by
  have hholds := h.holds
  simp only [Holds, hshape] at hholds
  obtain ⟨v, hv, rfl, -⟩ := hholds
  have harity : v.blueprint.arityDefect values =
      some (.cardinality v.blueprint.arity values.length) := if_neg hlength
  simp only [child, h.shape_eq, hshape, hv, harity]

/-- With the right number of label values a vector leads to a child, unless a new one is needed and
its series cannot be started. -/
theorem Keeps.child_cases (h : t.Keeps m b) (hshape : b.shape = .vector)
    (hlength : values.length = b.arity) :
    (∃ c t', t.child m values = .ok (c, t') ∧ t'.IsChild c b values) ∨
      ∃ fault, b.newSeries values t.now = .error fault ∧ t.child m values = .error fault := by
  have hholds := h.holds
  simp only [Holds, hshape] at hholds
  obtain ⟨v, hv, rfl, hkept⟩ := hholds
  have harity : v.blueprint.arityDefect values = none := if_pos hlength
  simp only [child, h.shape_eq, hshape, hv, harity]
  cases hlookup : v.lookup values with
  | some id =>
    refine .inl ⟨_, _, rfl, h.instrument_eq, rfl, h.descriptor_eq, ?_⟩
    obtain ⟨c, hc, rfl⟩ := Option.map_eq_some_iff.mp hlookup
    obtain ⟨values', s, hkey, hs, hb⟩ := hkept.belongs c (List.mem_of_find?_eq_some hc)
    have hfound := List.find?_some hc
    exact ⟨values', s, hkey.symm.trans (beq_iff_eq.mp hfound), hs, hb⟩
  | none =>
    cases hnew : v.blueprint.newSeries values t.now with
    | error fault => exact .inr ⟨fault, rfl, rfl⟩
    | ok s =>
      refine .inl ⟨_, _, rfl, h.instrument_eq, rfl, h.descriptor_eq, values, s, rfl, ?_,
        belongs_of_newSeries hnew⟩
      exact List.getElem?_concat_length

theorem Keeps.isChild (h : t.Keeps m b) (hshape : b.shape = .vector)
    (hchild : t.child m values = .ok (c, t')) : t'.IsChild c b values := by
  by_cases hlength : values.length = b.arity
  · rcases h.child_cases hshape hlength with ⟨c₁, t₁, hok, hc₁⟩ | ⟨fault, -, herror⟩
    · rw [hok] at hchild
      obtain ⟨rfl, rfl⟩ := Prod.mk.inj (Except.ok.inj hchild)
      exact hc₁
    · rw [herror] at hchild
      cases hchild
  · rw [h.child_of_miscounted hshape hlength] at hchild
    cases hchild

theorem IsChild.exists_series (h : t.IsChild c b values) :
    ∃ (values' : List String) (s : Series), t.samples (.metric c) = [s.sample] ∧
      s.Belongs b values' := by
  obtain ⟨values', s, -, hs, hb⟩ := h.series
  have hmembers : t.members (.metric c) = [c.id] := by
    simp only [members, h.shape_eq]
  have hsample : t.sample? c.id = some s.sample := by
    rw [sample?, hs]
    rfl
  refine ⟨values', s, ?_, hb⟩
  show (t.members (.metric c)).filterMap t.sample? = _
  rw [hmembers, List.filterMap_cons, hsample]
  rfl

end Telemetry

end MetricBundle
