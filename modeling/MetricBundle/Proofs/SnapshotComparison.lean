import MetricBundle.Proofs.FamilyText
import MetricBundle.Proofs.Repopulation
import MetricBundle.Proofs.SnapshotAgreement
import Mathlib.Data.List.Sort

/-!
# Comparing snapshots family by family

Comparing two snapshots looks at one text of each, in which all families with the given names stand
one after the other.  Nothing is hidden by that: for snapshots that have been gathered, the texts
are equal just if each name is absent from both or has a family with the same text in both
(`Snapshot.compare_family_by_family`).

A registry gives what this needs.  However its collectors have been made and used (`Reached`), their
names and label names are valid and they have help texts (`Genuine`), so their families are legible;
and merging them gives each name one family, in the order of the names (`Family.ByName`).  What the
constructors of a factory register is registered in this way, also when a bundle is populated
(`Reached.construct`, `runs_populate`).
-/

namespace MetricBundle

/-! ## Merging -/

namespace Family

variable {f : Family} {families : List Family}

/-- The families are in the order of their names, each of which is there once. -/
def ByName (families : List Family) : Prop := families.Pairwise fun f g => f.name < g.name

theorem name_of_mem_merge : ∀ g ∈ merge f families, g.name = f.name ∨ ∃ k ∈ families,
    g.name = k.name := by
  induction families with
  | nil => simp [merge]
  | cons k families ih =>
    intro g hg
    unfold merge at hg
    split_ifs at hg with hlt heq
    · rcases List.mem_cons.mp hg with rfl | hg
      · exact .inr ⟨g, List.mem_cons_self, rfl⟩
      · rcases ih g hg with hname | ⟨l, hl, hname⟩
        · exact .inl hname
        · exact .inr ⟨l, List.mem_cons_of_mem _ hl, hname⟩
    · rcases List.mem_cons.mp hg with rfl | hg
      · exact .inl heq
      · exact .inr ⟨g, List.mem_cons_of_mem _ hg, rfl⟩
    · rcases List.mem_cons.mp hg with rfl | hg
      · exact .inl rfl
      · exact .inr ⟨g, hg, rfl⟩

theorem byName_merge (h : ByName families) : ByName (merge f families) := by
  induction families with
  | nil => exact List.pairwise_singleton _ _
  | cons k families ih =>
    obtain ⟨hk, hrest⟩ := List.pairwise_cons.mp h
    unfold merge
    split_ifs with hlt heq
    · refine List.pairwise_cons.mpr ⟨fun g hg => ?_, ih hrest⟩
      rcases name_of_mem_merge g hg with hname | ⟨l, hl, hname⟩
      · exact hname ▸ hlt
      · exact hname ▸ hk l hl
    · exact List.pairwise_cons.mpr ⟨hk, hrest⟩
    · have hfk : f.name < k.name := lt_of_le_of_ne (not_lt.mp hlt) (Ne.symm heq)
      refine List.pairwise_cons.mpr ⟨fun g hg => ?_, h⟩
      rcases List.mem_cons.mp hg with rfl | hg
      · exact hfk
      · exact hfk.trans (hk g hg)

theorem legible_merge (hf : f.Legible) (h : ∀ g ∈ families, g.Legible) :
    ∀ g ∈ merge f families, g.Legible := by
  induction families with
  | nil => simpa [merge] using hf
  | cons k families ih =>
    obtain ⟨hk, hrest⟩ := List.forall_mem_cons.mp h
    unfold merge
    split_ifs
    · exact List.forall_mem_cons.mpr ⟨hk, ih hrest⟩
    · refine List.forall_mem_cons.mpr ⟨⟨hk.name_valid, hk.help_ne, fun s hs => ?_⟩, hrest⟩
      rcases List.mem_append.mp hs with hs | hs
      · exact hk.labels_valid s hs
      · exact hf.labels_valid s hs
    · exact List.forall_mem_cons.mpr ⟨hf, h⟩

theorem Legible.ordered (h : f.Legible) : f.ordered.Legible where
  name_valid := h.name_valid
  help_ne := h.help_ne
  labels_valid s hs := h.labels_valid s ((List.mergeSort_perm _ _).mem_iff.mp hs)

/-- **Merged families are in the order of their names, each of which is there once.**  They are
legible if all families are. -/
theorem byName_mergeAll (families : List Family) :
    ByName (mergeAll families) ∧
      ((∀ f ∈ families, f.Legible) → ∀ f ∈ mergeAll families, f.Legible) := by
  have hfold (families merged : List Family) (hmerged : ByName merged) :
      ByName (families.foldl (fun merged f => merge f merged) merged) ∧
        ((∀ f ∈ families, f.Legible) → (∀ f ∈ merged, f.Legible) →
          ∀ f ∈ families.foldl (fun merged f => merge f merged) merged, f.Legible) := by
    induction families generalizing merged with
    | nil => exact ⟨hmerged, fun _ h => h⟩
    | cons f families ih =>
      obtain ⟨hname, hlegible⟩ := ih (merge f merged) (byName_merge hmerged)
      refine ⟨hname, fun h hm => ?_⟩
      obtain ⟨hf, hrest⟩ := List.forall_mem_cons.mp h
      exact hlegible hrest (legible_merge hf hm)
  obtain ⟨hname, hlegible⟩ := hfold (inhabited families) [] List.Pairwise.nil
  refine ⟨List.pairwise_map.mpr hname, fun h => List.forall_mem_map.mpr fun f hf => ?_⟩
  refine (hlegible (fun g hg => ?_) (by simp) f hf).ordered
  exact h g (List.mem_of_mem_filter hg)

end Family

/-! ## What is registered -/

namespace Descriptor

variable {d : Descriptor}

theorem isLabelName_of_variableDefect {seen names : List String}
    (h : variableDefect seen names = none) : ∀ name ∈ names, isLabelName name = true := by
  induction names generalizing seen with
  | nil => simp
  | cons name names ih =>
    unfold variableDefect at h
    split_ifs at h with hname
    exact List.forall_mem_cons.mpr ⟨by simpa using hname, ih h⟩

/-- What a descriptor without a defect is known by. -/
theorem valid_of_defect (h : d.defect = none) :
    isMetricName d.fqName = true ∧ d.help.isEmpty = false ∧
      ∀ name ∈ d.constLabels.map Prod.fst ++ d.variableLabels, isLabelName name = true := by
  unfold defect at h
  split_ifs at h with hhelp hname
  split at h
  case h_1 => cases h
  case h_2 hconst =>
    rw [constDefect, Option.map_eq_none_iff, List.find?_eq_none] at hconst
    refine ⟨by simpa using hname, Bool.eq_false_iff.mpr hhelp, fun name hmem => ?_⟩
    rcases List.mem_append.mp hmem with hmem | hmem
    · obtain ⟨p, hp, rfl⟩ := List.mem_map.mp hmem
      simpa using hconst p hp
    · exact isLabelName_of_variableDefect h name hmem

end Descriptor

namespace Telemetry

variable {t t' : Telemetry} {c : Collector} {handles : List Collector}

/-- The collector has been made: a metric, a child of one or a callback, each with a descriptor that
has no defect. -/
inductive Genuine (t : Telemetry) : Collector → Prop where
  | metric {m : Metric} {b : Blueprint} : t.Keeps m b → b.descriptor.defect = none →
      Genuine t (.metric m)
  | child {m : Metric} {b : Blueprint} {values : List String} : t.IsChild m b values →
      b.descriptor.defect = none → Genuine t (.metric m)
  | callback {c : Callback} : c.descriptor.defect = none → Genuine t (.callback c)

theorem Genuine.follows (h : t.Genuine c) (ht : t.Follows t') : t'.Genuine c := by
  cases h with
  | metric hkeeps hdefect => exact .metric (hkeeps.follows ht) hdefect
  | child hchild hdefect => exact .child (hchild.follows ht) hdefect
  | callback hdefect => exact .callback hdefect

/-- The family of a genuine collector is legible. -/
theorem Genuine.legible (h : t.Genuine c) : (t.family c).Legible := by
  cases h with
  | @metric m b hkeeps hdefect =>
    obtain ⟨hname, hhelp, hlabels⟩ := Descriptor.valid_of_defect hdefect
    rw [← hkeeps.descriptor_eq] at hname hhelp
    refine ⟨hname, hhelp, fun sample hsample p hp => hlabels _ ?_⟩
    obtain ⟨values, s, rfl, hbelongs⟩ := hkeeps.exists_series_of_mem sample hsample
    exact hbelongs.names_perm.mem_iff.mp (List.mem_map_of_mem hp)
  | @child m b values hchild hdefect =>
    obtain ⟨hname, hhelp, hlabels⟩ := Descriptor.valid_of_defect hdefect
    rw [← hchild.descriptor_eq] at hname hhelp
    obtain ⟨values', s, hsamples, hbelongs⟩ := hchild.exists_series
    refine ⟨hname, hhelp, fun sample hsample p hp => hlabels _ ?_⟩
    have hsample : sample ∈ t.samples (.metric m) := hsample
    rw [hsamples, List.mem_singleton] at hsample
    subst hsample
    exact hbelongs.names_perm.mem_iff.mp (List.mem_map_of_mem hp)
  | @callback c hdefect =>
    obtain ⟨hname, hhelp, hlabels⟩ := Descriptor.valid_of_defect hdefect
    refine ⟨hname, hhelp, fun sample hsample p hp => hlabels _ (List.mem_append_left _ ?_)⟩
    rw [List.mem_singleton.mp hsample] at hp
    exact List.mem_map_of_mem hp

/-! ## Runs -/

/-- The telemetry can be reached, and the handles are those that have been given out on the way.
What is registered are such handles; everything else may be done with whatever there is. -/
inductive Reached : List Collector → Telemetry → Prop where
  | start (now : Nat) : Reached [] { now }
  | make {handles : List Collector} {t t' : Telemetry} {r : Request} {m : Metric} :
      Reached handles t → t.make r = .ok (m, t') → Reached (.metric m :: handles) t'
  | makeCallback {handles : List Collector} {t t' : Telemetry} {kind : CallbackKind}
      {numeric : NumericType} {o : Opts} {value : Number} {c : Callback} :
      Reached handles t → t.makeCallback kind numeric o value = .ok (c, t') →
      Reached (.callback c :: handles) t'
  | child {handles : List Collector} {t t' : Telemetry} {m c : Metric} {values : List String} :
      Reached handles t → .metric m ∈ handles → t.child m values = .ok (c, t') →
      Reached (.metric c :: handles) t'
  | register {handles : List Collector} {t t' : Telemetry} {c : Collector} :
      Reached handles t → c ∈ handles → t.register c = .ok t' → Reached handles t'
  | perform {handles : List Collector} {t : Telemetry} (operation : Operation) :
      (∀ c, operation ≠ .register c) → Reached handles t → Reached handles (t.perform operation)

theorem registry_of_child {m c : Metric} {values : List String}
    (h : t.child m values = .ok (c, t')) : t'.registry = t.registry := by
  unfold child at h
  split at h
  case h_1 =>
    split at h
    case h_1 => cases h
    case h_2 =>
      obtain ⟨-, rfl⟩ := Prod.mk.inj (Except.ok.inj h)
      rfl
    case h_3 =>
      obtain ⟨s, -, hmade⟩ := exists_of_map_eq_ok h
      obtain ⟨-, rfl⟩ := Prod.mk.inj hmade
      rfl
  case h_2 =>
    obtain ⟨-, rfl⟩ := Prod.mk.inj (Except.ok.inj h)
    rfl

theorem Metered.registry_eq (h : t.Metered t') : t'.registry = t.registry := by
  rw [h.rest_eq]

/-- Only registering changes what is registered. -/
theorem registry_perform {operation : Operation} (h : ∀ c, operation ≠ .register c) :
    (t.perform operation).registry = t.registry := by
  cases operation with
  | advance | log | reset | setSource => rfl
  | make r =>
    rw [perform]
    cases hmake : t.make r with
    | ok p => exact (make_adds hmake).2.registry_eq
    | error fault => rfl
  | makeCallback kind numeric o value =>
    rw [perform]
    cases hmake : t.makeCallback kind numeric o value with
    | ok p => exact (makeCallback_adds hmake).2.registry_eq
    | error e => rfl
  | register c => exact absurd rfl (h c)
  | child m values =>
    rw [perform]
    cases hchild : t.child m values with
    | ok p => exact registry_of_child hchild
    | error fault => rfl
  | change m c => exact (change_metered m c t).registry_eq
  | remove m values =>
    rw [perform]
    unfold remove
    split
    · rfl
    · split <;> rfl
  | collect c => exact (collect_metered c t).registry_eq
  | gather => exact (gather_metered t).registry_eq

/-- What leads to a child of a genuine vector is genuine. -/
theorem Genuine.of_child {m c : Metric} {values : List String} (h : t.Genuine (.metric m))
    (hchild : t.child m values = .ok (c, t')) : t'.Genuine (.metric c) := by
  -- a handle on a single metric, or on a child, leads to itself
  have hscalar (hshape : m.shape = .scalar) : m = c := by
    simp only [Telemetry.child, hshape] at hchild
    exact (Prod.mk.inj (Except.ok.inj hchild)).1
  have hsame (hshape : m.shape = .scalar) : t'.Genuine (.metric c) :=
    hscalar hshape ▸ h.follows (follows_of_child hchild)
  cases h with
  | @metric m b hkeeps hdefect =>
    cases hshape : b.shape with
    | scalar => exact hsame (hkeeps.shape_eq.trans hshape)
    | vector => exact .child (hkeeps.isChild hshape hchild) hdefect
  | child hischild hdefect => exact hsame hischild.shape_eq

/-- **All handles that have been given out are genuine, and so is all that is registered.** -/
theorem Reached.genuine (h : Reached handles t) :
    (∀ c ∈ handles, t.Genuine c) ∧ ∀ c ∈ t.registry, t.Genuine c := by
  -- where the registry stays the same and what is there stays in its place, all stay genuine
  have hstays {t t' : Telemetry} {collectors : List Collector} (hfollows : t.Follows t')
      (hall : ∀ c ∈ collectors, t.Genuine c) : ∀ c ∈ collectors, t'.Genuine c :=
    fun c hc => (hall c hc).follows hfollows
  induction h with
  | start now => simp
  | make hreached hmake ih =>
    obtain ⟨b, hb, hkeeps⟩ := keeps_of_make hmake
    have hdefect := Descriptor.defect_of (Blueprint.descriptor_of hb)
    have hfollows := follows_of_make hmake
    rw [(make_adds hmake).2.registry_eq]
    exact ⟨List.forall_mem_cons.mpr ⟨.metric hkeeps hdefect, hstays hfollows ih.1⟩,
      hstays hfollows ih.2⟩
  | makeCallback hreached hmake ih =>
    obtain ⟨hdescriptor, hadds⟩ := makeCallback_adds hmake
    have hfollows := follows_of_makeCallback hmake
    rw [hadds.registry_eq]
    exact ⟨List.forall_mem_cons.mpr ⟨.callback (Descriptor.defect_of hdescriptor),
      hstays hfollows ih.1⟩, hstays hfollows ih.2⟩
  | child hreached hm hchild ih =>
    have hfollows := follows_of_child hchild
    rw [registry_of_child hchild]
    exact ⟨List.forall_mem_cons.mpr ⟨(ih.1 _ hm).of_child hchild, hstays hfollows ih.1⟩,
      hstays hfollows ih.2⟩
  | @register handles t t' c hreached hc hregister ih =>
    obtain ⟨-, hregistered⟩ := register_eq_ok_iff.mp hregister
    have hfollows : t.Follows t' := follows_of_eq (by rw [hregistered]) (by rw [hregistered])
    have hregistry : t'.registry = t.registry ++ [c] := by rw [hregistered]
    rw [hregistry]
    refine ⟨hstays hfollows ih.1, List.forall_mem_append.mpr ⟨hstays hfollows ih.2, ?_⟩⟩
    exact List.forall_mem_singleton.mpr ((ih.1 _ hc).follows hfollows)
  | @perform handles t operation hoperation hreached ih =>
    have hfollows := follows_perform t operation
    rw [registry_perform hoperation]
    exact ⟨hstays hfollows ih.1, hstays hfollows ih.2⟩

theorem Reached.withLogs (h : Reached handles t) (logs : List LogEntry) :
    Reached handles (t.withLogs (t.logs ++ logs)) := by
  induction logs generalizing t with
  | nil =>
    rw [List.append_nil]
    exact h
  | cons entry logs ih =>
    have hlogged := ih (.perform (.log entry) (fun c => Operation.noConfusion) h)
    have hlogs : t.logs ++ entry :: logs = (t.log entry).logs ++ logs :=
      (List.append_assoc t.logs [entry] logs).symm
    rw [hlogs]
    exact hlogged

/-- What is made for an order is made by one of the two steps that make something. -/
theorem Reached.makeOrdered (h : Reached handles t) {f : Factory} {order : Order}
    (hmade : f.makeOrdered t order = .ok (c, t')) : Reached (c :: handles) t' := by
  cases order with
  | metric r | observer r =>
    obtain ⟨⟨m, extended⟩, hm, hmade⟩ := exists_of_map_eq_ok hmade
    obtain ⟨rfl, rfl⟩ := Prod.mk.inj hmade
    exact h.make hm
  | callback kind numeric o value =>
    obtain ⟨⟨callback, extended⟩, hm, hmade⟩ := exists_of_map_eq_ok hmade
    obtain ⟨rfl, rfl⟩ := Prod.mk.inj hmade
    split at hm
    case h_1 made hcallback =>
      rw [Except.ok.inj hm] at hcallback
      exact h.makeCallback hcallback
    case h_2 => cases hm

/-- **Constructing is a run**, which ends with the handle that it gives, if it gives one. -/
theorem Reached.construct (h : Reached handles t) (f : Factory) (order : Order) :
    ∃ handles', Reached handles' (f.construct order t).2 ∧
      ∀ c, (f.construct order t).1 = .ok (.ok c) → c ∈ handles' := by
  have hconstruct := Factory.construct_eq f order t
  cases hrejection : order.rejection? with
  | some failure =>
    simp only [hrejection] at hconstruct
    rw [hconstruct]
    exact ⟨handles, h, fun c hc => nomatch hc⟩
  | none =>
    simp only [hrejection] at hconstruct
    have hwarned := h.withLogs (f.warnings order.opts)
    rcases Factory.enrol_cases id
        (f.makeOrdered (t.withLogs (t.logs ++ f.warnings order.opts)) order)
        (t.withLogs (t.logs ++ f.warnings order.opts)) with
      ⟨e, -, hend⟩ | ⟨fault, -, hend⟩ | ⟨c, extended, e, -, -, hend⟩ |
      ⟨c, extended, registered, hmade, hregister, hend⟩
    · rw [hconstruct, hend]
      exact ⟨handles, hwarned, fun c hc => nomatch hc⟩
    · rw [hconstruct, hend]
      exact ⟨handles, hwarned, fun c hc => nomatch hc⟩
    · rw [hconstruct, hend]
      exact ⟨handles, hwarned, fun c hc => nomatch hc⟩
    · rw [hconstruct, hend]
      have hregistered := (hwarned.makeOrdered hmade).register List.mem_cons_self hregister
      refine ⟨c :: handles, .perform (.log _) (fun c => Operation.noConfusion) hregistered,
        fun c' hc' => ?_⟩
      obtain rfl : c = c' := Except.ok.inj (Except.ok.inj hc')
      exact List.mem_cons_self

/-- Orders are answered one after the other. -/
def constructAll (f : Factory) (orders : List Order) (t : Telemetry) : Telemetry :=
  orders.foldl (fun t order => (f.construct order t).2) t

theorem Reached.constructAll (h : Reached handles t) (f : Factory) (orders : List Order) :
    ∃ handles', Reached handles' (Telemetry.constructAll f orders t) := by
  induction orders generalizing t handles with
  | nil => exact ⟨handles, h⟩
  | cons order orders ih =>
    obtain ⟨handles', hreached, -⟩ := h.construct f order
    exact ih hreached

/-- What the action ends in can be reached if what it starts from can. -/
def Runs {α : Type} (x : Action α) : Prop :=
  ∀ handles t, Reached handles t → ∃ handles', Reached handles' (x t).2

section Runs

variable {α β : Type}

theorem runs_pure (a : α) : Runs (pure a) := fun handles _ h => ⟨handles, h⟩

theorem runs_bind {x : Action α} {k : α → Action β} (hx : Runs x) (hk : ∀ a, Runs (k a)) :
    Runs (x >>= k) := by
  intro handles t h
  obtain ⟨handles₁, h₁⟩ := hx handles t h
  rcases hrun : x t with ⟨fault | a, t₁⟩
  · rw [Action.bind_of_error hrun]
    exact ⟨handles₁, by rwa [hrun] at h₁⟩
  · rw [Action.bind_of_ok hrun]
    rw [hrun] at h₁
    exact hk a handles₁ t₁ h₁

theorem runs_newMetric (f : Factory) (r : Request) : Runs (f.newMetric r) := by
  intro handles t h
  obtain ⟨handles', hreached, -⟩ := h.construct f (.metric r)
  have hsame : (f.construct (.metric r) t).2 = (f.newMetric r t).2 := by
    rcases hrun : f.newMetric r t with ⟨fault | answer, t'⟩
    · exact congrArg Prod.snd (Action.bind_of_error hrun _)
    · exact congrArg Prod.snd (Action.bind_of_ok hrun _)
  exact ⟨handles', hsame ▸ hreached⟩

theorem runs_consult (f : Factory) (field : Field) : Runs (f.toMetricFactory.consult field) := by
  intro handles t h
  rcases hconsult : f.toMetricFactory.consult field t with ⟨result, t'⟩
  rcases Factory.consult_cases hconsult with ⟨-, -, rfl⟩ | ⟨-, -, -, rfl⟩ |
    ⟨r, outcome, -, -, hr, -⟩
  · exact ⟨handles, h⟩
  · exact ⟨handles, h⟩
  · have hreached := runs_newMetric f r handles t h
    rwa [hr] at hreached

theorem runs_mapM {x : α → Action β} (h : ∀ a, Runs (x a)) (as : List α) : Runs (as.mapM x) := by
  induction as with
  | nil => exact runs_pure _
  | cons a as ih =>
    rw [List.mapM_cons]
    exact runs_bind (h a) fun b => runs_bind ih fun bs => runs_pure _

/-- **Populating is a run.** -/
theorem runs_populate (f : Factory) (schema : Schema) :
    Runs (schema.populate f.toMetricFactory) := by
  cases hvalid : schema.validate with
  | error e =>
    rw [Schema.populate, hvalid]
    exact runs_pure _
  | ok u =>
    rw [Schema.populate_eq f.toMetricFactory hvalid]
    exact runs_bind (runs_mapM (runs_consult f) schema.fields) fun replies => runs_pure _

end Runs

end Telemetry

/-! ## Gathered snapshots -/

namespace Snapshot

open Exposition

/-- The snapshot has been gathered from a registry that can be reached. -/
def Gathered (s : Snapshot) : Prop :=
  ∃ handles t t', Telemetry.Reached handles t ∧ gather t = (.ok s, t')

/-- The family of the name is absent from both snapshots, or present in both with the same text. -/
def AgreesOn (expected actual : Snapshot) (name : String) : Prop :=
  (expected.isRegistered name = false ∧ actual.isRegistered name = false) ∨
    ∃ f ∈ expected.families, ∃ g ∈ actual.families,
      f.name = name ∧ g.name = name ∧ familyText f = familyText g

variable {s expected actual : Snapshot} {names : List String}

/-- **The families of a gathered snapshot are in the order of their names, each of which is there
once, and they are legible.** -/
theorem Gathered.families (h : s.Gathered) :
    Family.ByName s.families ∧ ∀ f ∈ s.families, f.Legible := by
  obtain ⟨handles, t, t', hreached, hgather⟩ := h
  rw [gather_eq] at hgather
  rcases hr : Telemetry.rotateAll (t.registry.flatMap t.members) t with ⟨fault | u, t₁⟩
  · rw [Telemetry.gather_of_fault hr] at hgather
    cases hgather
  · rw [Telemetry.gather_of_rotateAll hr] at hgather
    have hs : ⟨Family.mergeAll (t₁.registry.map t₁.family)⟩ = s :=
      Except.ok.inj (Prod.mk.inj hgather).1
    have hmetered : t.Metered t₁ := by
      simpa only [hr] using Telemetry.rotateAll_metered (t.registry.flatMap t.members) t
    rw [← hs]
    refine ⟨(Family.byName_mergeAll _).1, (Family.byName_mergeAll _).2 ?_⟩
    rw [hmetered.registry_eq]
    refine List.forall_mem_map.mpr fun c hc => ?_
    exact ((hreached.genuine.2 c hc).follows hmetered.follows).legible

/-- In a gathered snapshot a name has at most one family. -/
theorem Gathered.eq_of_name_eq (h : s.Gathered) {f g : Family} (hf : f ∈ s.families)
    (hg : g ∈ s.families) (hname : f.name = g.name) : f = g := by
  have hnodup : (s.families.map Family.name).Nodup :=
    (List.pairwise_map.mpr h.families.1).imp ne_of_lt
  exact List.inj_on_of_nodup_map hnodup hf hg hname

theorem isRegistered_iff {name : String} :
    s.isRegistered name = true ↔ ∃ f ∈ s.families, f.name = name := by
  rw [isRegistered, Snapshot.names, List.contains_iff_mem, List.mem_map]

theorem AgreesOn.symm {name : String} (h : expected.AgreesOn actual name) :
    actual.AgreesOn expected name := by
  rcases h with ⟨he, ha⟩ | ⟨f, hf, g, hg, hfname, hgname, htext⟩
  · exact .inl ⟨ha, he⟩
  · exact .inr ⟨g, hg, f, hf, hgname, hfname, htext.symm⟩

theorem mem_select_iff (hnames : names ≠ []) {f : Family} :
    f ∈ s.select names ↔ f ∈ s.families ∧ f.name ∈ names := by
  rw [select, List.mem_filter]
  simp [hnames]

/-- What snapshots agree on is selected from both. -/
theorem subset_of_agreesOn (he : expected.Gathered) (hnames : names ≠ [])
    (h : ∀ name ∈ names, expected.AgreesOn actual name) :
    (expected.select names).map nameAndText ⊆ (actual.select names).map nameAndText := by
  intro p hp
  obtain ⟨f, hf, rfl⟩ := List.mem_map.mp hp
  obtain ⟨hf, hlisted⟩ := (mem_select_iff hnames).mp hf
  rcases h f.name hlisted with ⟨habsent, -⟩ | ⟨f', hf', g, hg, hfname, hgname, htext⟩
  · have hpresent : expected.isRegistered f.name = true := isRegistered_iff.mpr ⟨f, hf, rfl⟩
    rw [habsent] at hpresent
    cases hpresent
  · obtain rfl := he.eq_of_name_eq hf' hf hfname
    refine List.mem_map.mpr ⟨g, (mem_select_iff hnames).mpr ⟨hg, hgname ▸ hlisted⟩, ?_⟩
    exact Prod.ext hgname htext.symm

/-- A name that is in one of two snapshots from which the same is selected is in both. -/
theorem exists_of_select_eq (hnames : names ≠ [])
    (h : (expected.select names).map nameAndText = (actual.select names).map nameAndText)
    {f : Family} (hf : f ∈ expected.families) (hlisted : f.name ∈ names) :
    ∃ g ∈ actual.families, g.name = f.name ∧ familyText g = familyText f := by
  have hmem := List.mem_map_of_mem (f := nameAndText) ((mem_select_iff hnames).mpr ⟨hf, hlisted⟩)
  rw [h] at hmem
  obtain ⟨g, hg, hpair⟩ := List.mem_map.mp hmem
  exact ⟨g, ((mem_select_iff hnames).mp hg).1, (Prod.mk.inj hpair).1, (Prod.mk.inj hpair).2⟩

/-- **The texts of gathered snapshots are equal just if they agree on every listed name.** -/
theorem text_eq_iff (he : expected.Gathered) (ha : actual.Gathered) (hnames : names ≠ []) :
    expected.text names = actual.text names ↔
      ∀ name ∈ names, expected.AgreesOn actual name := by
  have hselected {s : Snapshot} (h : s.Gathered) :
      (∀ f ∈ s.select names, f.Legible) ∧
        ((s.select names).map nameAndText).Pairwise fun p q => p.1 < q.1 := by
    obtain ⟨hname, hlegible⟩ := h.families
    exact ⟨fun f hf => hlegible f (List.mem_of_mem_filter hf),
      List.pairwise_map.mpr (hname.sublist List.filter_sublist)⟩
  rw [text, text, Exposition.text_eq_iff (hselected he).1 (hselected ha).1]
  constructor
  · intro hsame name hname
    by_cases hpresent : ∃ f ∈ expected.families, f.name = name
    · obtain ⟨f, hf, rfl⟩ := hpresent
      obtain ⟨g, hg, hgname, htext⟩ := exists_of_select_eq hnames hsame hf hname
      exact .inr ⟨f, hf, g, hg, rfl, hgname, htext.symm⟩
    · have habsent : ¬∃ g ∈ actual.families, g.name = name := by
        rintro ⟨g, hg, rfl⟩
        obtain ⟨f, hf, hfname, -⟩ := exists_of_select_eq hnames hsame.symm hg hname
        exact hpresent ⟨f, hf, hfname⟩
      exact .inl ⟨Bool.eq_false_iff.mpr (mt isRegistered_iff.mp hpresent),
        Bool.eq_false_iff.mpr (mt isRegistered_iff.mp habsent)⟩
  · intro hagree
    have hirrefl : Std.Irrefl fun p q : String × String => p.1 < q.1 := ⟨fun p => lt_irrefl p.1⟩
    have hantisymm : Std.Antisymm fun p q : String × String => p.1 < q.1 :=
      ⟨fun p q hpq hqp => absurd hqp (lt_asymm hpq)⟩
    refine List.Pairwise.eq_of_mem_iff (hselected he).2 (hselected ha).2 fun p => ⟨?_, ?_⟩
    · exact fun hp => subset_of_agreesOn he hnames hagree hp
    · exact fun hp => subset_of_agreesOn ha hnames (fun name hname => (hagree name hname).symm) hp

/-- **A comparison that passes hides no difference.**  Two gathered snapshots compare as equal, as
far as the families of some names go, just if each of these names is absent from both or present in
both with the same text.  So the order of the names and how often each is given do not matter; nor
do families of other names, since snapshots that agree with the two on the given names are compared
to the same result; and if the snapshots compare as equal for some names, they do for any of
these. -/
theorem compare_family_by_family (he : expected.Gathered) (ha : actual.Gathered)
    (hnames : names ≠ []) :
    (expected.compare actual names = .ok () ↔ ∀ name ∈ names, expected.AgreesOn actual name) ∧
      (∀ others : List String, (∀ name, name ∈ others ↔ name ∈ names) →
        expected.compare actual others = expected.compare actual names) ∧
      (∀ expected' actual' : Snapshot, expected'.Gathered → actual'.Gathered →
        (∀ name ∈ names, expected'.AgreesOn expected name ∧ actual'.AgreesOn actual name) →
        expected'.compare actual' names = expected.compare actual names) ∧
      (expected.compare actual names = .ok () →
        ∀ fewer ⊆ names, fewer ≠ [] → expected.compare actual fewer = .ok ()) := by
  have hiff {names : List String} (hnames : names ≠ []) :
      expected.compare actual names = .ok () ↔ ∀ name ∈ names, expected.AgreesOn actual name :=
    compare_eq_ok_iff.trans (text_eq_iff he ha hnames)
  refine ⟨hiff hnames, fun others hothers => ?_, fun expected' actual' he' ha' hagree => ?_,
    fun hok fewer hsub hfewer => ?_⟩
  · have htexts (s : Snapshot) : s.text others = s.text names := by
      have hcontains (f : Family) : others.contains f.name = names.contains f.name := by
        rw [Bool.eq_iff_iff, List.contains_iff_mem, List.contains_iff_mem, hothers]
      have hempty : others.isEmpty = names.isEmpty := by
        rw [Bool.eq_iff_iff, List.isEmpty_iff, List.isEmpty_iff, List.eq_nil_iff_forall_not_mem,
          List.eq_nil_iff_forall_not_mem]
        exact forall_congr' fun name => not_congr (hothers name)
      simp only [text, select, hcontains, hempty]
    simp only [compare, htexts]
  · have hexpected : expected'.text names = expected.text names :=
      (text_eq_iff he' he hnames).mpr fun name hname => (hagree name hname).1
    have hactual : actual'.text names = actual.text names :=
      (text_eq_iff ha' ha hnames).mpr fun name hname => (hagree name hname).2
    simp only [compare, hexpected, hactual]
  · exact (hiff hfewer).mpr fun name hname => (hiff hnames).mp hok name (hsub hname)

/-- Gauges that have not been changed, under the given names. -/
def ofGauges (names : List String) : Snapshot where
  families := names.map fun name =>
    { name, help := "h", instrument := .gauge,
      samples := [{ labels := [], reading := .value Number.zero }] }

/-- A factory constructs gauges of the given names. -/
def gaugeOrders (names : List String) : List Order :=
  names.map fun name => .metric { opts := .gauge { name, help := "h" } }

/-- A snapshot of two gauges and one of the first of them: they compare as equal for the name of
that one and for a name that is in neither of them, but not for the name of the other gauge. -/
theorem compare_family_by_family_of_gauges :
    (ofGauges ["depth", "load"]).Gathered ∧ (ofGauges ["depth"]).Gathered ∧
      (ofGauges ["depth", "load"]).compare (ofGauges ["depth"]) ["latency", "depth"] = .ok () ∧
      (ofGauges ["depth", "load"]).compare (ofGauges ["depth"]) ["load"] ≠ .ok () := by
  have hgathered {names : List String}
      (h : (gather (Telemetry.constructAll ⟨"", ""⟩ (gaugeOrders names) {})).1 =
        .ok (ofGauges names)) : (ofGauges names).Gathered := by
    obtain ⟨handles, hreached⟩ :=
      (Telemetry.Reached.start Duration.clockOrigin).constructAll ⟨"", ""⟩ (gaugeOrders names)
    exact ⟨handles, _, _, hreached, Prod.ext h rfl⟩
  have he : (ofGauges ["depth", "load"]).Gathered := hgathered (by decide +kernel)
  have ha : (ofGauges ["depth"]).Gathered := hgathered (by decide +kernel)
  refine ⟨he, ha, ?_, ?_⟩
  · refine (compare_family_by_family he ha (by simp)).1.mpr ?_
    rw [List.forall_mem_cons, List.forall_mem_singleton]
    refine ⟨.inl ⟨rfl, rfl⟩, .inr ?_⟩
    exact ⟨_, List.mem_cons_self, _, List.mem_cons_self, rfl, rfl, rfl⟩
  · intro hok
    have hagree := (compare_family_by_family he ha (by simp)).1.mp hok "load" List.mem_cons_self
    rcases hagree with ⟨habsent, -⟩ | ⟨f, -, g, hg, -, hname, -⟩
    · exact absurd habsent (by decide +kernel)
    · rw [List.mem_singleton.mp hg] at hname
      exact absurd hname (by decide +kernel)

end Snapshot

end MetricBundle
