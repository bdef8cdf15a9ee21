import MetricBundle.Proofs.SampleText
import MetricBundle.Proofs.TelemetryRun
import MetricBundle.Proofs.WindowRun
import Mathlib.Data.List.Nodup
import Mathlib.Data.List.Permutation

/-!
# Two ways to take a snapshot

A snapshot of one collector is taken from the collector itself, or gathered from a registry that
holds nothing else.  The registry puts the samples of each family in order, and a collector is
collected as it is; apart from this the two do the same (`Telemetry.gather_only`), and neither
notices whether the other one has been taken before (`Telemetry.collect_again`).

So for the metrics that are made here, summaries and callbacks, the two snapshots agree just if the
samples are collected in the registry's order: the text of summaries in another order is another
one.  They are in this order whatever the children are, if the label names have been declared in
order, and for other label names they need not be.
-/

namespace MetricBundle

/-! ## Up to the present -/

/-- Bringing a meter up to the present twice is doing so once. -/
theorem Meter.rotate_rotate {now : Nat} {meter meter' : Meter}
    (h : meter.rotate now = .ok meter') : meter'.rotate now = .ok meter' := by
  unfold Meter.rotate at h ⊢
  cases meter with
  | value | buckets =>
    rw [← Except.ok.inj h]
    rfl
  | window objectives w =>
    rw [Meter.onWindow] at h
    cases hw : w.rotate now with
    | ok w' =>
      rw [hw] at h
      rw [← Except.ok.inj h]
      simp only [Meter.onWindow, AgeWindow.rotate_rotate hw]
    | error w' =>
      rw [hw] at h
      cases h

namespace Telemetry

variable {t t' : Telemetry} {c : Collector}

/-- The series of these numbers are up to the present. -/
def UpToDate (t : Telemetry) (ids : List Nat) : Prop :=
  ∀ id ∈ ids, ∀ s, t.series[id]? = some s → s.meter.rotate t.now = .ok s.meter

/-- Bringing series that are up to the present up to it does nothing. -/
theorem rotateAll_of_upToDate {ids : List Nat} (h : t.UpToDate ids) :
    rotateAll ids t = (.ok (), t) := by
  induction ids with
  | nil => rfl
  | cons id ids ih =>
    have hstep : stepMeter id (Meter.rotate t.now) t = (.ok (), t) := by
      cases hs : t.series[id]? with
      | none => simp only [stepMeter, hs]
      | some s =>
        have hput : t.series.set id s = t.series := by
          obtain ⟨hlt, rfl⟩ := List.getElem?_eq_some_iff.mp hs
          exact List.set_getElem_self hlt
        simp only [stepMeter, hs, h id List.mem_cons_self s hs, hput]
    rw [rotateAll_cons, Action.bind_of_ok hstep]
    exact ih fun j hj => h j (List.mem_cons_of_mem _ hj)

/-- A series that has been brought up to the present is up to it, and so are those that were. -/
theorem upToDate_of_stepMeter {id : Nat} {ids : List Nat} (h : t.UpToDate ids)
    (hstep : stepMeter id (Meter.rotate t.now) t = (.ok (), t')) :
    t'.UpToDate (id :: ids) := by
  unfold stepMeter at hstep
  cases hs : t.series[id]? with
  | none =>
    simp only [hs] at hstep
    obtain rfl := (Prod.mk.inj hstep).2
    intro j hj r hr
    rcases List.mem_cons.mp hj with rfl | hj
    · rw [hs] at hr
      cases hr
    · exact h j hj r hr
  | some s =>
    cases hm : s.meter.rotate t.now with
    | error meter =>
      simp only [hs, hm] at hstep
      cases hstep
    | ok meter =>
      simp only [hs, hm] at hstep
      obtain rfl := (Prod.mk.inj hstep).2
      intro j hj r hr
      have hr : (t.series.set id { s with meter })[j]? = some r := hr
      by_cases hid : id = j
      · subst hid
        rw [List.getElem?_set_self (List.getElem?_eq_some_iff.mp hs).1] at hr
        rw [← Option.some.inj hr]
        exact Meter.rotate_rotate hm
      · rw [List.getElem?_set_ne hid] at hr
        exact h j ((List.mem_cons.mp hj).resolve_left (Ne.symm hid)) r hr

theorem upToDate_of_rotateAll {ids done : List Nat} (h : t.UpToDate done)
    (hrotate : rotateAll ids t = (.ok (), t')) : t'.UpToDate (ids ++ done) := by
  -- a series may occur twice in `ids`, so what has been done is kept for all steps to come
  induction ids generalizing t done with
  | nil =>
    obtain rfl := (Prod.mk.inj hrotate).2
    exact h
  | cons id ids ih =>
    rw [rotateAll_cons] at hrotate
    rcases hs : stepMeter id (Meter.rotate t.now) t with ⟨fault | u, t₁⟩
    · rw [Action.bind_of_error hs] at hrotate
      cases hrotate
    · rw [Action.bind_of_ok hs] at hrotate
      have hids := ih (upToDate_of_stepMeter h hs) hrotate
      intro j hj
      apply hids j
      simp only [List.cons_append, List.mem_cons, List.mem_append] at hj ⊢
      tauto

theorem members_of_metered (h : t.Metered t') (c : Collector) : t'.members c = t.members c := by
  rw [h.rest_eq]
  rfl

/-- **Collecting once more at the same time gives the same.** -/
theorem collect_again {families : List Family} (h : collect c t = (.ok families, t')) :
    collect c t' = (.ok families, t') := by
  rcases hr : rotateAll (t.members c) t with ⟨fault | u, t₁⟩
  · rw [collect_of_fault hr] at h
    cases h
  · rw [collect_of_rotateAll hr] at h
    obtain ⟨hfamilies, rfl⟩ := Prod.mk.inj h
    have hmetered : t.Metered t₁ := by
      have hmetered := rotateAll_metered (t.members c) t
      rw [hr] at hmetered
      exact hmetered
    have hdone : t₁.UpToDate (t.members c ++ []) :=
      upToDate_of_rotateAll (fun j hj => absurd hj List.not_mem_nil) hr
    rw [List.append_nil, ← members_of_metered hmetered c] at hdone
    rw [collect_of_rotateAll (rotateAll_of_upToDate hdone), hfamilies]

/-! ## A registry with one collector -/

/-- The telemetry with a registry that holds one collector and nothing else. -/
def only (c : Collector) (t : Telemetry) : Telemetry := { t with registry := [c] }

theorem beside_only (c : Collector) : Beside (only c) :=
  ⟨fun _ => rfl, fun _ => rfl, fun _ _ => rfl⟩

theorem mergeAll_singleton (f : Family) :
    Family.mergeAll [f] = (Family.inhabited [f]).map Family.ordered := by
  unfold Family.mergeAll Family.inhabited
  cases hempty : f.samples.isEmpty with
  | true => simp [hempty]
  | false => simp [hempty, Family.merge]

/-- **Gathering from a registry that holds only one collector is collecting from it**, and putting
the samples in order. -/
theorem gather_only (c : Collector) (t : Telemetry) :
    gather (t.only c) =
      ((collect c t).1.map (·.map Family.ordered), (collect c t).2.only c) := by
  have hmembers : (t.only c).registry.flatMap (t.only c).members = t.members c := by
    show [c].flatMap t.members = _
    rw [List.flatMap_singleton]
  have hrotate := (beside_only c).rotateAll_eq (t.members c) t
  rw [← hmembers] at hrotate
  rcases hr : rotateAll (t.members c) t with ⟨result, t'⟩
  rw [hmembers, hr, ← hmembers] at hrotate
  cases result with
  | ok u =>
    rw [gather_of_rotateAll hrotate, collect_of_rotateAll hr]
    exact congrArg (fun families => (Except.ok families, t'.only c)) (mergeAll_singleton _)
  | error fault =>
    rw [gather_of_fault hrotate, collect_of_fault hr]
    rfl

/-! ## The order of the samples -/

/-- The samples of a collector are in the order in which a registry puts them. -/
def InOrder (t : Telemetry) (c : Collector) : Prop :=
  (t.samples c).Pairwise fun a b => a.le b = true

/-- Of two series of a metric the samples are in order if the label values are, in the order of the
labels. -/
theorem le_of_belongs {b : Blueprint} {s s' : Series} {values values' : List String}
    (hs : s.Belongs b values) (hs' : s'.Belongs b values') :
    s.sample.le s'.sample = textsLE (b.labelIndices.map (values.getD · ""))
      (b.labelIndices.map (values'.getD · "")) := by
  have hlabels : s.labels.length = s'.labels.length := by
    have hnames := Blueprint.map_fst_labelPairs hs.length_eq
    rw [← Blueprint.map_fst_labelPairs hs'.length_eq, ← hs.labels_eq, ← hs'.labels_eq] at hnames
    simpa using congrArg List.length hnames
  rw [← Blueprint.textsLE_labelPairs hs.length_eq hs'.length_eq, ← hs.labels_eq, ← hs'.labels_eq]
  exact if_pos hlabels

section Summary

variable {m : Metric} {b : Blueprint} {o : SummaryOpts}

theorem shows_of_keeps (h : t.Keeps m b) (hopts : b.opts = .summary o) :
    ∀ s ∈ t.samples (.metric m),
      s.Shows (b.labelSources.map Prod.fst) (o.objectives.map Prod.fst) := by
  intro sample hsample
  obtain ⟨values, s, rfl, hbelongs⟩ := h.exists_series_of_mem sample hsample
  exact hbelongs.shows hopts

/-- No two samples of a summary have the same labels. -/
theorem eq_of_labels_eq (h : t.Keeps m b) (hopts : b.opts = .summary o) :
    ∀ s ∈ t.samples (.metric m), ∀ s' ∈ t.samples (.metric m), s.labels = s'.labels → s = s' := by
  obtain ⟨ss, hsamples, hbelongs, hsorted⟩ := h.exists_series
  have hlt := hsorted (by rw [Blueprint.instrument, hopts]; rfl)
  rw [hsamples]
  intro s hs s' hs' hlabels
  obtain ⟨c, hc, rfl⟩ := List.mem_map.mp hs
  obtain ⟨c', hc', rfl⟩ := List.mem_map.mp hs'
  have hb := hbelongs c hc
  have hb' := hbelongs c' hc'
  have hvalues : c.1 = c'.1 := by
    refine Blueprint.labelPairs_injective hb.length_eq hb'.length_eq ?_
    rw [← hb.labels_eq, ← hb'.labels_eq]
    exact hlabels
  have hnodup : (ss.map Prod.fst).Nodup := hlt.imp ne_of_lt
  rw [List.inj_on_of_nodup_map hnodup hc hc' hvalues]

/-- The samples of a summary whose label names have been declared in order are in order. -/
theorem inOrder_of_declared (h : t.Keeps m b) (hopts : b.opts = .summary o)
    (hdeclared : m.descriptor.variableLabels.Pairwise (· ≤ ·)) : t.InOrder (.metric m) := by
  obtain ⟨ss, hsamples, hbelongs, hsorted⟩ := h.exists_series
  have hlt := hsorted (by rw [Blueprint.instrument, hopts]; rfl)
  rw [h.descriptor_eq] at hdeclared
  rw [InOrder, hsamples, List.pairwise_map]
  rw [List.pairwise_map] at hlt
  refine hlt.imp_of_mem fun {c c'} hc hc' hvalues => ?_
  have hb := hbelongs c hc
  have hb' := hbelongs c' hc'
  rw [le_of_belongs hb hb', Blueprint.labelIndices_of_ordered hdeclared,
    Blueprint.map_getD_range hb.length_eq, Blueprint.map_getD_range hb'.length_eq, textsLE_iff]
  exact le_of_lt hvalues

end Summary

end Telemetry

/-! ## Texts -/

namespace Family

theorem inhabited_of_samples {f : Family} (h : f.samples ≠ []) : inhabited [f] = [f] := by
  simp [inhabited, h]

theorem text_singleton (f : Family) :
    (Exposition.text [f]).toList =
      (Exposition.headLines f).flatMap String.toList ++
        Exposition.samplesText f.name f.samples := by
  rw [Exposition.text, List.map_singleton, String.toList_join, List.flatMap_singleton,
    Exposition.familyText, String.toList_join, List.flatMap_append]
  rfl

/-- A family stays as it is, when its samples are put in order, just if they are in order. -/
theorem map_ordered_inhabited {f : Family} :
    (inhabited [f]).map ordered = inhabited [f] ↔ f.samples.Pairwise fun a b => a.le b = true := by
  by_cases hempty : f.samples = []
  · simp [inhabited, hempty]
  · rw [inhabited_of_samples hempty, List.map_singleton, ← mergeSort_eq_self_iff]
    constructor
    · intro hordered
      exact congrArg samples (List.singleton_inj.mp hordered)
    · intro hsort
      rw [ordered, hsort]

/-- The text of a summary's family shows whether its samples are in order. -/
theorem pairwise_of_text_eq {f : Family} {names : List String} {quantiles : List Number}
    (hshows : ∀ s ∈ f.samples, s.Shows names quantiles)
    (hlabels : ∀ s ∈ f.samples, ∀ s' ∈ f.samples, s.labels = s'.labels → s = s')
    (htext : Exposition.text (inhabited [f]) = Exposition.text ((inhabited [f]).map ordered)) :
    f.samples.Pairwise fun a b => a.le b = true := by
  by_cases hempty : f.samples = []
  · rw [hempty]
    exact List.Pairwise.nil
  · have hchars := congrArg String.toList htext
    rw [inhabited_of_samples hempty, List.map_singleton, text_singleton, text_singleton] at hchars
    have hsamples : Exposition.samplesText f.name f.samples =
        Exposition.samplesText f.name (f.samples.mergeSort Sample.le) :=
      List.append_cancel_left hchars
    have hperm : (f.samples.mergeSort Sample.le).Perm f.samples := List.mergeSort_perm _ _
    exact mergeSort_eq_self_iff.mp
      (Exposition.eq_of_samplesText hperm hshows hlabels hsamples).symm

end Family

namespace Snapshot

theorem compare_eq_ok_iff {expected actual : Snapshot} {names : List String} :
    expected.compare actual names = .ok () ↔ expected.text names = actual.text names := by
  unfold compare
  simp only
  split
  case isTrue h => simp [h]
  case isFalse h => simp [h]

theorem text_all (s : Snapshot) : s.text [] = Exposition.text s.families := by
  simp [text, select]

end Snapshot

/-! ## Summaries and callbacks -/

namespace Telemetry

/-- A collector of the sorts that are defined here is made: a summary, single or a vector, or a
callback. -/
inductive Makes (t : Telemetry) : Collector → Telemetry → Prop where
  | summary {r : Request} {o : SummaryOpts} {m : Metric} {t' : Telemetry} :
      r.opts = .summary o → t.make r = .ok (m, t') → Makes t (.metric m) t'
  | callback {kind : CallbackKind} {numeric : NumericType} {o : Opts} {value : Number}
      {c : Callback} {t' : Telemetry} :
      t.makeCallback kind numeric o value = .ok (c, t') → Makes t (.callback c) t'

variable {t t' : Telemetry} {c : Collector}

/-- What a collector must be for the text of its family to show whether its samples are in order:
one of a single sample, or a summary. -/
inductive Readable (t : Telemetry) : Collector → Prop where
  | summary {m : Metric} {b : Blueprint} {o : SummaryOpts} :
      t.Keeps m b → b.opts = .summary o → Readable t (.metric m)
  | callback (c : Callback) : Readable t (.callback c)

theorem readable_of_makes (h : t.Makes c t') : t'.Readable c := by
  cases h with
  | summary hopts hmake =>
    obtain ⟨b, hb, hkeeps⟩ := keeps_of_make hmake
    exact .summary hkeeps ((Blueprint.of_eq_ok hb).1.trans hopts)
  | callback hmake => exact .callback _

theorem Readable.performAll (h : t.Readable c) (operations : List Operation) :
    (t.performAll operations).Readable c := by
  cases h with
  | summary hkeeps hopts => exact .summary (hkeeps.performAll operations) hopts
  | callback c => exact .callback c

theorem Readable.follows (h : t.Readable c) (ht : t.Follows t') : t'.Readable c := by
  cases h with
  | summary hkeeps hopts => exact .summary (hkeeps.follows ht) hopts
  | callback c => exact .callback c

theorem Readable.inOrder_of_text_eq (h : t.Readable c)
    (htext : Exposition.text (Family.inhabited [t.family c]) =
      Exposition.text ((Family.inhabited [t.family c]).map Family.ordered)) : t.InOrder c := by
  cases h with
  | summary hkeeps hopts =>
    exact Family.pairwise_of_text_eq (shows_of_keeps hkeeps hopts) (eq_of_labels_eq hkeeps hopts)
      htext
  | callback c => exact List.pairwise_singleton _ _

theorem Readable.inOrder (h : t.Readable c)
    (hdeclared : c.descriptor.variableLabels.Pairwise (· ≤ ·)) : t.InOrder c := by
  cases h with
  | summary hkeeps hopts => exact inOrder_of_declared hkeeps hopts hdeclared
  | callback c => exact List.pairwise_singleton _ _

end Telemetry

namespace Snapshot

open Telemetry

theorem collect_eq (c : Collector) (t : Telemetry) :
    collect c t = ((Telemetry.collect c t).1.map Snapshot.mk, (Telemetry.collect c t).2) := by
  rcases h : Telemetry.collect c t with ⟨families | fault, t'⟩
  · exact Action.bind_of_error h _
  · exact Action.bind_of_ok h _

theorem gather_eq (t : Telemetry) :
    gather t = ((Telemetry.gather t).1.map Snapshot.mk, (Telemetry.gather t).2) := by
  rcases h : Telemetry.gather t with ⟨families | fault, t'⟩
  · exact Action.bind_of_error h _
  · exact Action.bind_of_ok h _

/-- The snapshot with the samples of each family in order. -/
def ordered (s : Snapshot) : Snapshot := ⟨s.families.map Family.ordered⟩

theorem gather_only (c : Collector) (t : Telemetry) :
    gather (t.only c) = ((collect c t).1.map ordered, (collect c t).2.only c) := by
  rw [gather_eq, Telemetry.gather_only, collect_eq]
  cases (Telemetry.collect c t).1 <;> rfl

variable {t t' : Telemetry} {c : Collector} {s : Snapshot}

/-- What is collected is read off when the series of the collector are up to the present. -/
theorem eq_of_collect (h : collect c t = (.ok s, t')) :
    Telemetry.collect c t = (.ok s.families, t') ∧ s = ⟨Family.inhabited [t'.family c]⟩ := by
  rw [collect_eq] at h
  rcases hcollect : Telemetry.collect c t with ⟨fault | families, t₁⟩
  · rw [hcollect] at h
    cases h
  · rw [hcollect] at h
    cases h
    exact ⟨rfl, congrArg Snapshot.mk (families_of_collect hcollect)⟩

theorem ordered_of_inOrder (h : t.InOrder c) :
    ordered ⟨Family.inhabited [t.family c]⟩ = ⟨Family.inhabited [t.family c]⟩ :=
  congrArg Snapshot.mk (Family.map_ordered_inhabited.mpr h)

/-- The text of a readable collector is another one in order, unless its samples are in order. -/
theorem compare_ordered_iff (h : t.Readable c) {s : Snapshot}
    (hs : s = ⟨Family.inhabited [t.family c]⟩) :
    (s.compare s.ordered [] = .ok () ↔ t.InOrder c) ∧
      (s.ordered.compare s [] = .ok () ↔ t.InOrder c) := by
  have htext : s.text [] = s.ordered.text [] ↔ t.InOrder c := by
    constructor
    · intro heq
      rw [text_all, text_all, hs] at heq
      exact h.inOrder_of_text_eq heq
    · intro hinOrder
      rw [hs, ordered_of_inOrder hinOrder]
  rw [compare_eq_ok_iff, compare_eq_ok_iff]
  exact ⟨htext, eq_comm.trans htext⟩

/-- **When the two snapshots agree.**  A summary, a vector of summaries or a callback is made, and
then anything is done, with it and with all else.  If the clock allows it to be collected, it can be
gathered from a registry with nothing else, at the same time or right after; taking one snapshot
does not change the other one.  What is gathered is what is collected, with the samples put in
order.  So the two snapshots compare as equal, whichever of them is the expected one, just if the
samples are in order as they are collected, and then they are the same.  The samples are in order
whenever the label names have been declared in order. -/
theorem agree_iff_inOrder {t₀ t₁ : Telemetry} {c : Collector} (h : t₀.Makes c t₁)
    (operations : List Operation) :
    let t := t₁.performAll operations
    match collect c t with
    | (.ok collected, t') =>
      collect c t' = (.ok collected, t') ∧
      gather (t.only c) = (.ok collected.ordered, t'.only c) ∧
      gather (t'.only c) = (.ok collected.ordered, t'.only c) ∧
      (collected.compare collected.ordered [] = .ok () ↔ t'.InOrder c) ∧
      (collected.ordered.compare collected [] = .ok () ↔ t'.InOrder c) ∧
      (t'.InOrder c → collected.ordered = collected) ∧
      (c.descriptor.variableLabels.Pairwise (· ≤ ·) → t'.InOrder c)
    | (.error fault, t') => gather (t.only c) = (.error fault, t'.only c) := by
  intro t
  have honly := gather_only c t
  rcases hcollect : collect c t with ⟨fault | collected, t'⟩
  · rw [hcollect] at honly
    exact honly
  · obtain ⟨hfamilies, hcollected⟩ := eq_of_collect hcollect
    have hagain : collect c t' = (.ok collected, t') := by
      rw [collect_eq, collect_again hfamilies]
      rfl
    have honlyAgain := gather_only c t'
    rw [hcollect] at honly
    rw [hagain] at honlyAgain
    -- collecting moves meters only, so the collector leads to the same series as before
    have hreadable : t'.Readable c := by
      have hmetered := collect_metered c t
      rw [hfamilies] at hmetered
      exact ((readable_of_makes h).performAll operations).follows hmetered.follows
    obtain ⟨hcompare, hcompare'⟩ := compare_ordered_iff hreadable hcollected
    refine ⟨hagain, honly, honlyAgain, hcompare, hcompare', ?_, hreadable.inOrder⟩
    intro hinOrder
    rw [hcollected, ordered_of_inOrder hinOrder]

/-! ## Two children -/

theorem collect_of_current {t : Telemetry} {c : Collector}
    (h : ∀ s ∈ t.series, s.meter.rotate t.now = .ok s.meter) :
    collect c t = (.ok ⟨Family.inhabited [t.family c]⟩, t) := by
  have hupToDate : t.UpToDate (t.members c) := fun _ _ s hs => h s (List.mem_of_getElem? hs)
  rw [collect_eq, collect_of_rotateAll (rotateAll_of_upToDate hupToDate)]
  rfl

/-- Summaries with the given label names. -/
def byLabels (names : List String) : Request where
  opts := .summary { common := { name := "v", help := "h" } }
  labels := some names

/-- The vector of these summaries. -/
def vectorBy (names : List String) : Metric where
  instrument := .summary
  shape := .vector
  descriptor := { fqName := "v", help := "h", constLabels := [], variableLabels := names }
  id := 0

/-- The vector has been made. -/
def madeBy (names : List String) : Telemetry where
  vectors := [{
    blueprint := {
      opts := (byLabels names).opts
      shape := .vector
      descriptor := (vectorBy names).descriptor } }]

/-- The vector has been made, and two children of it. -/
def usedBy (names : List String) : Telemetry :=
  (madeBy names).performAll
    [.child (vectorBy names) ["1", "2"], .child (vectorBy names) ["2", "1"]]

/-- Both snapshots of a vector with label names in order, of which two children have been made. -/
theorem agree_for_labels_in_order :
    Telemetry.make (byLabels ["a", "b"]) {} = .ok (vectorBy ["a", "b"], madeBy ["a", "b"]) ∧
      ∃ snapshot, collect (.metric (vectorBy ["a", "b"])) (usedBy ["a", "b"]) =
          (.ok snapshot, usedBy ["a", "b"]) ∧
        gather ((usedBy ["a", "b"]).only (.metric (vectorBy ["a", "b"]))) =
          (.ok snapshot, (usedBy ["a", "b"]).only (.metric (vectorBy ["a", "b"]))) := by
  have hmake : Telemetry.make (byLabels ["a", "b"]) {} =
      .ok (vectorBy ["a", "b"], madeBy ["a", "b"]) := rfl
  have hseries : ∀ s ∈ (usedBy ["a", "b"]).series,
      s.meter.rotate (usedBy ["a", "b"]).now = .ok s.meter := by decide +kernel
  have hnames : (vectorBy ["a", "b"]).descriptor.variableLabels.Pairwise (· ≤ ·) := by
    decide +kernel
  have hcollect := collect_of_current (c := .metric (vectorBy ["a", "b"])) hseries
  have hagree := agree_iff_inOrder (.summary rfl hmake)
    [.child (vectorBy ["a", "b"]) ["1", "2"], .child (vectorBy ["a", "b"]) ["2", "1"]]
  rw [usedBy] at hcollect ⊢
  simp only [hcollect] at hagree
  obtain ⟨-, hgather, -, -, -, hsame, hordered⟩ := hagree
  rw [hsame (hordered hnames)] at hgather
  exact ⟨hmake, _, hcollect, hgather⟩

/-- The two snapshots of a vector with label names out of order, of which two children have been
made. -/
theorem disagree_for_labels_out_of_order :
    Telemetry.make (byLabels ["b", "a"]) {} = .ok (vectorBy ["b", "a"], madeBy ["b", "a"]) ∧
      ∃ collected gathered,
        collect (.metric (vectorBy ["b", "a"])) (usedBy ["b", "a"]) =
          (.ok collected, usedBy ["b", "a"]) ∧
        gather ((usedBy ["b", "a"]).only (.metric (vectorBy ["b", "a"]))) =
          (.ok gathered, (usedBy ["b", "a"]).only (.metric (vectorBy ["b", "a"]))) ∧
        collected.compare gathered [] ≠ .ok () ∧ gathered.compare collected [] ≠ .ok () := by
  have hmake : Telemetry.make (byLabels ["b", "a"]) {} =
      .ok (vectorBy ["b", "a"], madeBy ["b", "a"]) := rfl
  have hseries : ∀ s ∈ (usedBy ["b", "a"]).series,
      s.meter.rotate (usedBy ["b", "a"]).now = .ok s.meter := by decide +kernel
  have hsamples : ¬(usedBy ["b", "a"]).InOrder (.metric (vectorBy ["b", "a"])) := by
    unfold InOrder
    decide_cbv
  have hcollect := collect_of_current (c := .metric (vectorBy ["b", "a"])) hseries
  have hgather := gather_only (.metric (vectorBy ["b", "a"])) (usedBy ["b", "a"])
  rw [hcollect] at hgather
  have hreadable : (usedBy ["b", "a"]).Readable (.metric (vectorBy ["b", "a"])) :=
    (readable_of_makes (.summary rfl hmake)).performAll _
  obtain ⟨hcompare, hcompare'⟩ := compare_ordered_iff hreadable rfl
  refine ⟨hmake, _, _, hcollect, hgather, ?_, ?_⟩
  · intro hok
    exact hsamples (hcompare.mp hok)
  · intro hok
    exact hsamples (hcompare'.mp hok)

end Snapshot

end MetricBundle
