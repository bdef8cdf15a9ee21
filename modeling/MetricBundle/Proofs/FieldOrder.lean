import Mathlib.Data.List.Perm.Subperm
import MetricBundle.Proofs.DerivedSchema
import MetricBundle.Proofs.Repopulation

/-!
# The order of the fields

The fields of a bundle share a registry and a list of failures, and yet, if the metrics asked for
have different full names, none of them notices the others.  What comes of a request depends on the
clock and on what is registered under its own full name (`Factory.alone_apart`), and what it
registers has that name.  So in a run through the fields, in whatever order, the factory replies
about each of them as it would if there were no other (`Factory.mapM_consult_alone`).  Only the
numbers of the metrics tell in which order they were made.

Fields for which nothing is asked do not even take part in this: with or without them the telemetry
is the same (`MetricFactory.mapM_consult_of_filter`).

What does matter is where a run ends before its time.  A field at which populating ends in a fault
keeps those after it from being asked for, and not those before it (`reversed_stalled_registers`).
-/

namespace MetricBundle

/-! ## Metrics without their numbers -/

/-- The metric but for its number, which tells when it was made. -/
def Metric.unnumbered (m : Metric) : Metric := { m with id := 0 }

/-- The reply but for the number of a metric. -/
def Reply.unnumbered (reply : Reply) : Reply := Option.map (Except.map Metric.unnumbered) reply

theorem Field.failuresAfter_unnumbered (g : Field) (reply : Reply) :
    g.failuresAfter reply.unnumbered = g.failuresAfter reply := by
  match reply with
  | none | some (.ok _) | some (.error _) => rfl

theorem Slots.slotAfter_unnumbered (reply : Reply) :
    slotAfter none reply.unnumbered = (slotAfter none reply).map Metric.unnumbered := by
  match reply with
  | none | some (.ok _) | some (.error _) => rfl

/-! ## What a request depends on -/

namespace Telemetry

/-- What is made depends on the clock, but for its number. -/
theorem make_unnumbered {t s : Telemetry} (h : t.now = s.now) (r : Request) :
    (t.make r).map (fun p => p.1.unnumbered) = (s.make r).map fun p => p.1.unnumbered := by
  unfold make
  cases Blueprint.of r with
  | error e => rfl
  | ok b =>
    simp only [build]
    cases b.shape with
    | scalar =>
      simp only [h]
      cases b.onlySeries s.now <;> rfl
    | vector => rfl

/-- Only what has the same full name is in the way of a metric. -/
theorem registrationDefect_append {registered more : List Descriptor} {d : Descriptor}
    (h : ∀ m ∈ more, m.fqName ≠ d.fqName) :
    registrationDefect (registered ++ more) d = registrationDefect registered d := by
  have hidentity : (more.any fun r => r.identity == d.identity) = false :=
    List.any_eq_false.mpr fun m hm heq => h m hm (congrArg Prod.fst (beq_iff_eq.mp heq))
  have hdimensions :
      (more.any fun r => r.fqName == d.fqName && r.dimensions != d.dimensions) = false :=
    List.any_eq_false.mpr fun m hm heq =>
      h m hm (beq_iff_eq.mp (Bool.and_eq_true_iff.mp heq).1)
  simp only [registrationDefect, List.any_append, hidentity, hdimensions, Bool.or_false]

end Telemetry

namespace Factory

variable {f : Factory} {r : Request} {t t' s s' : Telemetry}

/-- What comes of a metric that was made, or was not, among those with the given descriptors. -/
def settle (registered : List Descriptor) :
    Except Fault Metric → Except Fault (Except Error Metric)
  | .error (.metric e) => .ok (.error (.single (.metric e)))
  | .error fault => .error fault
  | .ok m =>
    match Telemetry.registrationDefect registered m.descriptor with
    | some e => .ok (.error (.single (.metric e)))
    | none => .ok (.ok m)

theorem settle_append {registered more : List Descriptor} {made : Except Fault Metric}
    (h : ∀ m, made = .ok m → ∀ d ∈ more, d.fqName ≠ m.fqName) :
    settle (registered ++ more) made = settle registered made := by
  cases made with
  | error fault => cases fault <;> rfl
  | ok m =>
    simp only [settle, Telemetry.registrationDefect_append (h m rfl)]

theorem enrol_unnumbered (w : Telemetry) (r : Request) :
    (enrol .metric (w.make r) w).1.map (Except.map Metric.unnumbered) =
      settle (w.registry.map Collector.descriptor) ((w.make r).map fun p => p.1.unnumbered) := by
  rcases enrol_cases .metric (w.make r) w with ⟨e, hmake, hend⟩ | ⟨fault, hmake, hend⟩ |
    ⟨m, extended, e, hmake, hregister, hend⟩ | ⟨m, extended, registered, hmake, hregister, hend⟩
  · rw [hend, hmake]
    rfl
  · rw [hend, hmake]
    -- a fault of the metric would have ended with an error instead
    cases fault with
    | metric e =>
      rw [hmake] at hend
      cases hend
    | clockRange | counterFall | tagOverflow => rfl
  · have hdefect := Telemetry.register_eq_error hregister
    rw [(Telemetry.make_adds hmake).2.registry_eq] at hdefect
    rw [hend, hmake]
    show _ = settle _ (.ok m.unnumbered)
    rw [settle, show m.unnumbered.descriptor = m.descriptor from rfl,
      show Telemetry.registrationDefect _ m.descriptor = some e from hdefect]
    rfl
  · have hdefect := (Telemetry.register_eq_ok_iff.mp hregister).1
    rw [(Telemetry.make_adds hmake).2.registry_eq] at hdefect
    rw [hend, hmake]
    show _ = settle _ (.ok m.unnumbered)
    rw [settle, show m.unnumbered.descriptor = m.descriptor from rfl,
      show Telemetry.registrationDefect _ m.descriptor = none from hdefect]
    rfl

/-- What comes of a request, but for the number of a metric. -/
theorem newMetric_unnumbered (f : Factory) (r : Request) (t : Telemetry) :
    (f.newMetric r t).1.map (Except.map Metric.unnumbered) =
      if r.opts.name.isEmpty then .ok (.error (.single .noMetricName))
      else settle (t.registry.map Collector.descriptor)
        ((t.make (f.prepareRequest r)).map fun p => p.1.unnumbered) := by
  cases hname : r.opts.name.isEmpty with
  | true =>
    have hrejected : f.newMetric r t = (.ok (.error (.single .noMetricName)), t) := if_pos hname
    rw [hrejected]
    rfl
  | false =>
    have htried : f.newMetric r t =
        enrol .metric ((f.announce r.opts.common t).make (f.prepareRequest r))
          (f.announce r.opts.common t) := if_neg (Bool.eq_false_iff.mp hname)
    have hnow : (t.withLogs (t.logs ++ f.warnings r.opts.common)).now = t.now := rfl
    rw [htried, enrol_unnumbered, announce_eq hname, Telemetry.make_unnumbered hnow]
    rfl

/-- The full name of the metric that is asked for on behalf of a field, if one is. -/
def askedName? (f : Factory) (g : Field) : Option String :=
  g.call?.map fun r => (f.prepareRequest r).opts.fqName

theorem fqName_of_make {m : Metric} (h : t.make (f.prepareRequest r) = .ok (m, t')) :
    m.fqName = (f.prepareRequest r).opts.fqName :=
  (Descriptor.of_eq_ok (Telemetry.make_adds h).1).1

/-- A request does not notice metrics with other full names. -/
theorem newMetric_apart {more : List Metric} (hnow : s.now = t.now)
    (hregistry : s.registry = t.registry ++ more.map .metric)
    (hapart : (f.prepareRequest r).opts.fqName ∉ more.map Metric.fqName) :
    (f.newMetric r s).1.map (Except.map Metric.unnumbered) =
      (f.newMetric r t).1.map (Except.map Metric.unnumbered) := by
  rw [newMetric_unnumbered, newMetric_unnumbered, Telemetry.make_unnumbered hnow, hregistry,
    List.map_append, settle_append]
  intro m hm d hd heq
  obtain ⟨⟨made, extended⟩, hmake, rfl⟩ := exists_of_map_eq_ok hm
  rw [List.map_map] at hd
  obtain ⟨other, hother, rfl⟩ := List.mem_map.mp hd
  refine hapart (List.mem_map.mpr ⟨other, hother, ?_⟩)
  rw [← fqName_of_make hmake]
  exact heq

/-! ## Fields that do not notice each other -/

section Consult

variable {g : Field}

theorem consult_answer (f : Factory) (g : Field) (t : Telemetry) :
    (f.toMetricFactory.consult g t).1 =
      if g.stalls then .error .tagOverflow
      else
        match g.call? with
        | none => .ok none
        | some r => (f.newMetric r t).1.map some := by
  rcases hc : f.toMetricFactory.consult g t with ⟨result, t'⟩
  rcases consult_cases hc with ⟨hstalls, rfl, -⟩ | ⟨hstalls, hcall, rfl, -⟩ |
    ⟨r, outcome, hstalls, hcall, hr, rfl⟩
  · rw [hstalls]
    rfl
  · rw [hstalls, hcall]
    rfl
  · rw [hstalls, hcall]
    show outcome.map some = (f.newMetric r t).1.map some
    rw [hr]

/-- What the factory replies about a field that comes before all others, but for the number of a
metric. -/
def alone (f : Factory) (t : Telemetry) (g : Field) : Except Fault Reply :=
  (f.toMetricFactory.consult g t).1.map Reply.unnumbered

theorem alone_eq (f : Factory) (t : Telemetry) (g : Field) :
    f.alone t g =
      if g.stalls then .error .tagOverflow
      else
        match g.call? with
        | none => .ok none
        | some r => ((f.newMetric r t).1.map (Except.map Metric.unnumbered)).map some := by
  rw [alone, consult_answer]
  cases g.stalls with
  | true => rfl
  | false =>
    cases g.call? with
    | none => rfl
    | some r => cases hr : (f.newMetric r t).1 <;> simp [hr, Except.map, Reply.unnumbered]

/-- **A field does not notice metrics with other full names than its own.** -/
theorem alone_apart {more : List Metric} (hnow : s.now = t.now)
    (hregistry : s.registry = t.registry ++ more.map .metric)
    (hapart : ∀ name, f.askedName? g = some name → name ∉ more.map Metric.fqName) :
    f.alone s g = f.alone t g := by
  rw [alone_eq, alone_eq]
  cases hcall : g.call? with
  | none => rfl
  | some r =>
    have hname : f.askedName? g = some (f.prepareRequest r).opts.fqName := by
      rw [askedName?, hcall]
      rfl
    simp only [newMetric_apart hnow hregistry (hapart _ hname)]

/-- A metric has the full name that was asked for. -/
theorem askedName?_of_consult {m : Metric}
    (h : f.toMetricFactory.consult g t = (.ok (some (.ok m)), t')) :
    f.askedName? g = some m.fqName := by
  rcases consult_cases h with ⟨-, hfault, -⟩ | ⟨-, -, hnone, -⟩ | ⟨r, outcome, -, hcall, hr, hok⟩
  · cases hfault
  · cases hnone
  · obtain ⟨answer, rfl, hanswer⟩ := exists_of_map_eq_ok hok.symm
    obtain rfl := Option.some.inj hanswer
    cases ending_of_newMetric hr with
    | made hname hmake hdefect hnow hregistry =>
      rw [askedName?, hcall, fqName_of_make hmake]
      rfl

end Consult

variable {fields : List Field}

/-- **In a run through fields that ask for different names, the factory replies about each field as
it would if there were no other.**  The run ends in a fault if and only if it would end so at one of
the fields alone. -/
theorem mapM_consult_alone {more : List Metric} {result : Except Fault (List Reply)}
    (hnow : s.now = t.now) (hregistry : s.registry = t.registry ++ more.map .metric)
    (hnames : (fields.filterMap f.askedName?).Nodup)
    (hapart : ∀ name ∈ fields.filterMap f.askedName?, name ∉ more.map Metric.fqName)
    (h : fields.mapM f.toMetricFactory.consult s = (result, s')) :
    (∃ fault, result = .error fault ∧ ∃ g ∈ fields, f.alone t g = .error fault) ∨
    ∃ replies, result = .ok replies ∧
      List.Forall₂ (fun g reply => f.alone t g = .ok reply.unnumbered) fields replies := by
  induction fields generalizing s more result with
  | nil =>
    obtain ⟨rfl, -⟩ := Prod.mk.inj h
    exact .inr ⟨[], rfl, .nil⟩
  | cons g fields ih =>
    have halone : f.alone s g = f.alone t g := alone_apart hnow hregistry fun name hname =>
      hapart name (List.mem_filterMap.mpr ⟨g, List.mem_cons_self, hname⟩)
    rcases Action.mapM_cons_cases h with ⟨fault, hfault, rfl⟩ |
      ⟨reply, s₁, rest, hreply, hrest, rfl⟩
    · refine .inl ⟨fault, rfl, g, List.mem_cons_self, ?_⟩
      rw [← halone, alone, hfault]
      rfl
    · have hg : f.alone t g = .ok reply.unnumbered := by
        rw [← halone, alone, hreply]
        rfl
      -- the other fields find one more metric, under the name that this field asked for
      obtain ⟨created, hgains, hcreated⟩ := gains_of_consult hreply
      have hregistry' : s₁.registry = t.registry ++ (more ++ created).map .metric := by
        rw [hgains.registry_eq, hregistry, List.map_append, List.append_assoc]
      have hnames' : (fields.filterMap f.askedName?).Nodup :=
        hnames.sublist ((List.sublist_cons_self g fields).filterMap f.askedName?)
      have hapart' : ∀ name ∈ fields.filterMap f.askedName?,
          name ∉ (more ++ created).map Metric.fqName := by
        intro name hname hmem
        rw [List.map_append] at hmem
        rcases List.mem_append.mp hmem with hmem | hmem
        · exact hapart name (((List.sublist_cons_self g fields).filterMap _).subset hname) hmem
        · obtain ⟨m, hm, rfl⟩ := List.mem_map.mp hmem
          rw [hcreated reply rfl, Option.mem_toList] at hm
          obtain rfl : reply = some (.ok m) := by
            match reply, hm with
            | some (.ok _), hm => rw [Option.some.inj hm]
          rw [List.filterMap_cons_some (askedName?_of_consult hreply)] at hnames
          exact (List.nodup_cons.mp hnames).1 hname
      rcases ih (hgains.now_eq.trans hnow) hregistry' hnames' hapart' hrest with
        ⟨fault, rfl, g', hg', hfault⟩ | ⟨replies, rfl, hreplies⟩
      · exact .inl ⟨fault, rfl, g', List.mem_cons_of_mem _ hg', hfault⟩
      · exact .inr ⟨reply :: replies, rfl, .cons hg hreplies⟩

end Factory

/-! ## Fields that take no part -/

/-- Fields for which nothing is asked do not matter to a run through the others: nothing is said
about them. -/
theorem MetricFactory.mapM_consult_of_filter {m : Type → Type} [Monad m] [LawfulMonad m]
    (factory : MetricFactory m) {keep : Field → Bool} {wide : List Field}
    (hdropped : ∀ g ∈ wide, keep g = false → g.call? = none ∧ g.stalls = false) :
    ∃ pad : List Reply → List Reply,
      (∀ replies : Field → Reply, (∀ g ∈ wide, keep g = false → replies g = none) →
        pad ((wide.filter keep).map replies) = wide.map replies) ∧
      wide.mapM factory.consult = pad <$> (wide.filter keep).mapM factory.consult := by
  induction wide with
  | nil => exact ⟨id, fun _ _ => rfl, (id_map _).symm⟩
  | cons g wide ih =>
    obtain ⟨hg, hwide⟩ := List.forall_mem_cons.mp hdropped
    obtain ⟨pad, hpad, hrun⟩ := ih hwide
    rw [List.mapM_cons, hrun]
    cases hkeep : keep g with
    | false =>
      obtain ⟨hcall, hstalls⟩ := hg hkeep
      rw [List.filter_cons_of_neg (Bool.eq_false_iff.mp hkeep),
        factory.consult_of_not_stalls hstalls, hcall]
      refine ⟨fun answers => none :: pad answers, fun replies hnone => ?_, ?_⟩
      · obtain ⟨hreply, hreplies⟩ := List.forall_mem_cons.mp hnone
        rw [List.map_cons, hreply hkeep, ← hpad replies hreplies]
      · simp only [Option.mapM_none, pure_bind, map_eq_pure_bind, bind_assoc]
    | true =>
      rw [List.filter_cons_of_pos hkeep, List.mapM_cons]
      refine ⟨fun answers => answers.take 1 ++ pad (answers.drop 1), fun replies hnone => ?_, ?_⟩
      · obtain ⟨-, hreplies⟩ := List.forall_mem_cons.mp hnone
        rw [List.map_cons, List.map_cons, ← hpad replies hreplies]
        rfl
      · simp only [map_eq_pure_bind, bind_assoc, pure_bind]
        rfl

/-! ## Populating in another order -/

/-- Values given in the order of different keys are values of the keys. -/
theorem exists_map_eq {α β : Type} [DecidableEq α] [Inhabited β] {as : List α} (h : as.Nodup)
    {bs : List β} (hlength : bs.length = as.length) : ∃ value : α → β, as.map value = bs := by
  induction as generalizing bs with
  | nil => exact ⟨fun _ => default, (List.length_eq_zero_iff.mp hlength).symm⟩
  | cons a as ih =>
    obtain ⟨hnew, has⟩ := List.nodup_cons.mp h
    cases bs with
    | nil => cases hlength
    | cons b bs =>
      obtain ⟨value, hvalue⟩ := ih has (Nat.succ.inj hlength)
      refine ⟨fun x => if x = a then b else value x, ?_⟩
      rw [List.map_cons, if_pos rfl, ← hvalue]
      congr 1
      exact List.map_congr_left fun x hx => if_neg fun (heq : x = a) => hnew (heq ▸ hx)

theorem failuresAfter_map (fields : List Field) (replies : Field → Reply) :
    failuresAfter fields (fields.map replies) =
      fields.flatMap fun g => g.failuresAfter (replies g) := by
  induction fields with
  | nil => rfl
  | cons g fields ih =>
    rw [List.map_cons, List.flatMap_cons, ← ih]
    rfl

theorem Schema.nodup_fields {schema : Schema} (h : schema.validate = .ok ()) :
    schema.fields.Nodup :=
  (Schema.validate_eq_ok_iff.mp h).2.of_map Field.ident

/-- Some of the fields of a valid schema, in any order, are those of a valid one. -/
theorem Schema.validate_of_subperm {schema other : Schema} (hvalid : schema.validate = .ok ())
    (h : other.fields.Subperm schema.fields) : other.validate = .ok () := by
  obtain ⟨hnamed, hdistinct⟩ := Schema.validate_eq_ok_iff.mp hvalid
  obtain ⟨fields, hperm, hsub⟩ := h
  have hidents := hperm.map Field.ident
  have hsub := hsub.map Field.ident
  exact Schema.validate_eq_ok_iff.mpr ⟨fun hmem => hnamed (hsub.subset (hidents.mem_iff.mpr hmem)),
    hidents.nodup_iff.mp (hdistinct.sublist hsub)⟩

namespace Factory

/-- **Populating comes to its end with the given replies about the fields.**  Empty slots are filled
with the metrics of the replies, and the failures are those of the fields in order; a valid schema
is answered accordingly.  What the registry gains is the metrics of the replies. -/
structure Populates (f : Factory) (t : Telemetry) (schema : Schema) (replies : Field → Reply)
    (t' : Telemetry) : Prop where
  slots_eq : (Slots.ofSchema schema).populate f.toMetricFactory schema t =
    (.ok ((Slots.ofSchema schema).settled (schema.fields.map replies),
      ⟨schema.fields.flatMap fun g => g.failuresAfter (replies g)⟩), t')
  answer_eq : schema.populate f.toMetricFactory t =
    (.ok (schema.outcome (schema.fields.map replies)), t')
  registry_eq : t'.registry =
    t.registry ++ (schema.fields.filterMap fun g => Slots.slotAfter none (replies g)).map .metric

variable {f : Factory} {schema : Schema} {t t' : Telemetry}

/-- The replies at the end of a run through the fields of a valid schema, field by field. -/
theorem exists_replies (hvalid : schema.validate = .ok ()) {answers : List Reply}
    (h : schema.fields.mapM f.toMetricFactory.consult t = (.ok answers, t')) :
    ∃ replies : Field → Reply, schema.fields.map replies = answers :=
  exists_map_eq (Schema.nodup_fields hvalid) (Action.forall₂_of_mapM h).length_eq.symm

theorem populates_of_mapM (hvalid : schema.validate = .ok ()) {replies : Field → Reply}
    (h : schema.fields.mapM f.toMetricFactory.consult t =
      (.ok (schema.fields.map replies), t')) : f.Populates t schema replies t' where
  slots_eq := by
    have hslots : (Slots.ofSchema schema).schema = schema := rfl
    rw [Slots.populate_eq f.toMetricFactory hslots, Action.bind_of_ok h, failuresAfter_map]
    rfl
  answer_eq := by
    rw [Schema.populate_eq f.toMetricFactory hvalid, Action.bind_of_ok h]
    rfl
  registry_eq := by
    obtain ⟨created, hgains, hcreated⟩ := gains_of_mapM h
    rw [hgains.registry_eq, hcreated _ rfl, List.filterMap_map]
    rfl

/-- A schema whose fields ask for different names is populated field by field. -/
theorem populate_alone (hvalid : schema.validate = .ok ())
    (hnames : (schema.fields.filterMap f.askedName?).Nodup) (t : Telemetry) :
    (∃ fault, (schema.populate f.toMetricFactory t).1 = .error fault ∧
      ∃ g ∈ schema.fields, f.alone t g = .error fault) ∨
    ∃ replies, f.Populates t schema replies (schema.populate f.toMetricFactory t).2 ∧
      ∀ g ∈ schema.fields, f.alone t g = .ok (replies g).unnumbered := by
  have hregistry : t.registry = t.registry ++ ([] : List Metric).map .metric :=
    (List.append_nil _).symm
  obtain ⟨result, t', hrun, hpopulate⟩ := f.populate_cases hvalid t
  rcases mapM_consult_alone rfl hregistry hnames (fun _ _ => List.not_mem_nil) hrun with
    ⟨fault, rfl, hfault⟩ | ⟨replies, rfl, halone⟩
  · rw [hpopulate]
    exact .inl ⟨fault, rfl, hfault⟩
  · obtain ⟨replies, rfl⟩ := exists_replies hvalid hrun
    rw [List.forall₂_map_right_iff, List.forall₂_same] at halone
    rw [hpopulate]
    exact .inr ⟨replies, populates_of_mapM hvalid hrun, halone⟩

/-- Populating ends in a fault if and only if asking for one of the fields alone does. -/
theorem populate_fault_iff (hvalid : schema.validate = .ok ())
    (hnames : (schema.fields.filterMap f.askedName?).Nodup) (t : Telemetry) :
    (∃ fault, (schema.populate f.toMetricFactory t).1 = .error fault) ↔
      ∃ g ∈ schema.fields, ∃ fault, f.alone t g = .error fault := by
  rcases populate_alone hvalid hnames t with
    ⟨fault, hfault, g, hg, hg'⟩ | ⟨replies, hends, hreplies⟩
  · exact ⟨fun _ => ⟨g, hg, fault, hg'⟩, fun _ => ⟨fault, hfault⟩⟩
  · constructor
    · rintro ⟨fault, hfault⟩
      rw [hends.answer_eq] at hfault
      cases hfault
    · rintro ⟨g, hg, fault, hfault⟩
      rw [hreplies g hg] at hfault
      cases hfault

/-- Replies that are the same but for numbers have the same metrics, whatever the order of the
fields. -/
theorem perm_of_unnumbered {fields others : List Field} (hperm : fields.Perm others)
    {replies replies' : Field → Reply}
    (hsame : ∀ g ∈ fields, (replies' g).unnumbered = (replies g).unnumbered) :
    ((others.filterMap fun g => Slots.slotAfter none (replies' g)).map Metric.unnumbered).Perm
      ((fields.filterMap fun g => Slots.slotAfter none (replies g)).map Metric.unnumbered) := by
  rw [List.map_filterMap, List.map_filterMap]
  refine (hperm.symm.filterMap _).trans (List.Perm.of_eq ?_)
  refine List.filterMap_congr fun g hg => ?_
  rw [← Slots.slotAfter_unnumbered, ← Slots.slotAfter_unnumbered, hsame g hg]

/-- What populating a schema with its fields in another order has in common with populating it. -/
theorem populate_permuted {other : Schema} (hvalid : schema.validate = .ok ())
    (hnames : (schema.fields.filterMap f.askedName?).Nodup)
    (hperm : schema.fields.Perm other.fields) (t : Telemetry) :
    let run (s : Schema) := s.populate f.toMetricFactory t
    other.validate = .ok () ∧
    ((∃ fault, (run other).1 = .error fault) ↔ ∃ fault, (run schema).1 = .error fault) ∧
    ∀ answer, (run schema).1 = .ok answer → ∃ replies others : Field → Reply,
      f.Populates t schema replies (run schema).2 ∧ f.Populates t other others (run other).2 ∧
      ∀ g ∈ schema.fields, (others g).unnumbered = (replies g).unnumbered := by
  intro run
  have hvalid' : other.validate = .ok () := Schema.validate_of_subperm hvalid hperm.symm.subperm
  have hnames' : (other.fields.filterMap f.askedName?).Nodup :=
    (hperm.filterMap f.askedName?).nodup_iff.mp hnames
  have hfault : (∃ fault, (run other).1 = .error fault) ↔
      ∃ fault, (run schema).1 = .error fault := by
    rw [populate_fault_iff hvalid hnames, populate_fault_iff hvalid' hnames']
    simp only [hperm.mem_iff]
  refine ⟨hvalid', hfault, fun answer hanswer => ?_⟩
  have hends : ¬∃ fault, (run schema).1 = .error fault := by
    rintro ⟨fault, h⟩
    rw [hanswer] at h
    cases h
  rcases populate_alone hvalid hnames t with ⟨fault, h, -⟩ | ⟨replies, hpopulates, hreplies⟩
  · exact absurd ⟨fault, h⟩ hends
  rcases populate_alone hvalid' hnames' t with ⟨fault, h, -⟩ | ⟨others, hpopulates', hothers⟩
  · exact absurd (hfault.mp ⟨fault, h⟩) hends
  refine ⟨replies, others, hpopulates, hpopulates', fun g hg => ?_⟩
  exact Except.ok.inj ((hothers g (hperm.mem_iff.mp hg)).symm.trans (hreplies g hg))

/-- Populating with more fields, for which nothing is asked, is populating without them. -/
theorem populate_wider {wide : Schema} {keep : Field → Bool} (hvalid : wide.validate = .ok ())
    (hkept : wide.fields.filter keep = schema.fields)
    (hdropped : ∀ g ∈ wide.fields, keep g = false → g.call? = none ∧ g.stalls = false)
    (t : Telemetry) :
    let run (s : Schema) := s.populate f.toMetricFactory t
    (run wide).2 = (run schema).2 ∧
    (∀ fault, (run schema).1 = .error fault → (run wide).1 = .error fault) ∧
    ∀ answer, (run schema).1 = .ok answer → ∃ replies : Field → Reply,
      f.Populates t schema replies (run schema).2 ∧ f.Populates t wide replies (run schema).2 ∧
      ∀ g ∈ wide.fields, keep g = false → replies g = none := by
  intro run
  have hsub : schema.fields.Sublist wide.fields := hkept ▸ List.filter_sublist
  have hvalid' : schema.validate = .ok () := Schema.validate_of_subperm hvalid hsub.subperm
  obtain ⟨result, t', hrun, hpopulate⟩ := f.populate_cases hvalid' t
  have hschema : run schema = (result.map schema.outcome, t') := hpopulate
  rw [hschema]
  obtain ⟨pad, hpad, hmapM⟩ := f.toMetricFactory.mapM_consult_of_filter hdropped
  rw [hkept] at hpad hmapM
  cases result with
  | error fault =>
    have hwide : run wide = (.error fault, t') := by
      show wide.populate f.toMetricFactory t = _
      rw [Schema.populate_eq f.toMetricFactory hvalid, hmapM, map_eq_pure_bind,
        Action.bind_of_error (Action.bind_of_error hrun _)]
    rw [hwide]
    exact ⟨rfl, fun _ h => h, fun _ h => nomatch h⟩
  | ok answers =>
    obtain ⟨value, rfl⟩ := exists_replies hvalid' hrun
    let replies (g : Field) : Reply := if keep g then value g else none
    have hnone : ∀ g ∈ wide.fields, keep g = false → replies g = none := fun g _ hkeep =>
      if_neg (Bool.eq_false_iff.mp hkeep)
    have hreplies : schema.fields.map value = schema.fields.map replies := by
      refine List.map_congr_left fun g hg => (if_pos ?_).symm
      rw [← hkept] at hg
      exact (List.mem_filter.mp hg).2
    rw [hreplies] at hrun
    have hrun' : wide.fields.mapM f.toMetricFactory.consult t =
        (.ok (wide.fields.map replies), t') := by
      rw [hmapM, map_eq_pure_bind, Action.bind_of_ok hrun, hpad replies hnone]
      rfl
    have hpopulates := populates_of_mapM hvalid hrun'
    have hwide : (run wide).2 = t' := congrArg Prod.snd hpopulates.answer_eq
    exact ⟨hwide, fun _ h => (nomatch h), fun _ _ =>
      ⟨replies, populates_of_mapM hvalid' hrun, hpopulates, hnone⟩⟩

/-- **The order of the fields does not matter, unless populating ends before its time.**  Take a
valid schema, the fields of which ask for metrics with different full names, and any telemetry.

The schema with its fields in another order is valid too, and populating it comes to its end if and
only if populating the first one does, which is if asking for no field alone ends in a fault, as
when all values and windows are in range.  Then in both runs the replies about every field are the
same but for the numbers of metrics, so it has the same failures; the failures of all fields are
those of each one in order; and the metrics that are registered are the same but for their order and
their numbers.

With more fields, for which nothing is asked and at which populating does not give up, the telemetry
comes to be the same, and so do the replies about the other fields. -/
theorem populate_in_any_order (f : Factory) {schema : Schema} (hvalid : schema.validate = .ok ())
    (hnames : (schema.fields.filterMap f.askedName?).Nodup) (t : Telemetry) :
    let run (s : Schema) := s.populate f.toMetricFactory t
    (∀ other : Schema, schema.fields.Perm other.fields → other.validate = .ok () ∧
      ((∃ fault, (run other).1 = .error fault) ↔ ∃ fault, (run schema).1 = .error fault) ∧
      ∀ answer, (run schema).1 = .ok answer → ∃ replies others : Field → Reply,
        f.Populates t schema replies (run schema).2 ∧ f.Populates t other others (run other).2 ∧
        (∀ g ∈ schema.fields, (others g).unnumbered = (replies g).unnumbered ∧
          g.failuresAfter (others g) = g.failuresAfter (replies g)) ∧
        (other.fields.flatMap fun g => g.failuresAfter (others g)).Perm
          (schema.fields.flatMap fun g => g.failuresAfter (replies g)) ∧
        ((other.fields.filterMap fun g => Slots.slotAfter none (others g)).map
          Metric.unnumbered).Perm
            ((schema.fields.filterMap fun g => Slots.slotAfter none (replies g)).map
              Metric.unnumbered)) ∧
    ((∃ fault, (run schema).1 = .error fault) ↔
      ∃ g ∈ schema.fields, ∃ fault, f.alone t g = .error fault) ∧
    (schema.InRange t.now → ∃ answer, (run schema).1 = .ok answer) ∧
    ∀ (wide : Schema) (keep : Field → Bool), wide.validate = .ok () →
      wide.fields.filter keep = schema.fields →
      (∀ g ∈ wide.fields, keep g = false → g.call? = none ∧ g.stalls = false) →
      (run wide).2 = (run schema).2 ∧
      (∀ fault, (run schema).1 = .error fault → (run wide).1 = .error fault) ∧
      ∀ answer, (run schema).1 = .ok answer → ∃ replies : Field → Reply,
        f.Populates t schema replies (run schema).2 ∧
        f.Populates t wide replies (run schema).2 ∧
        ∀ g ∈ wide.fields, keep g = false → replies g = none := by
  intro run
  refine ⟨fun other hperm => ?_, populate_fault_iff hvalid hnames t, fun hrange => ?_,
    fun wide keep hwide hkept hdropped => populate_wider hwide hkept hdropped t⟩
  · obtain ⟨hvalid', hfault, hends⟩ := populate_permuted hvalid hnames hperm t
    refine ⟨hvalid', hfault, fun answer hanswer => ?_⟩
    obtain ⟨replies, others, hpopulates, hpopulates', hsame⟩ := hends answer hanswer
    have hfailures : ∀ g ∈ schema.fields,
        g.failuresAfter (others g) = g.failuresAfter (replies g) := fun g hg => by
      rw [← g.failuresAfter_unnumbered, hsame g hg, g.failuresAfter_unnumbered]
    refine ⟨replies, others, hpopulates, hpopulates',
      fun g hg => ⟨hsame g hg, hfailures g hg⟩, ?_, perm_of_unnumbered hperm hsame⟩
    exact (hperm.symm.flatMap_right _).trans (List.Perm.of_eq (List.flatMap_congr hfailures))
  · obtain ⟨replies, t', hreplies⟩ := mapM_of_inRange (f := f) hrange
    obtain ⟨result, t'', hrun, hpopulate⟩ := f.populate_cases hvalid t
    obtain ⟨rfl, rfl⟩ := Prod.mk.inj (hreplies.symm.trans hrun)
    exact ⟨schema.outcome replies, congrArg Prod.fst hpopulate⟩

end Factory

/-- The schema with its fields in reverse. -/
def Schema.reversed (schema : Schema) : Schema := { schema with fields := schema.fields.reverse }

/-- A gauge, a counter, and another counter with a tag that is not allowed. -/
def mixedSchema : Schema where
  typeName := "Mixed"
  fields :=
    [Field.ofKind "level" (.metric .gauge .scalar), Field.ofKind "hits" (.metric .counter .scalar),
      (Field.ofKind "misses" (.metric .counter .scalar)).withTag .buckets "1"]

theorem populate_in_any_order_of_reversed :
    let run (s : Schema) := s.populate (Factory.toMetricFactory ⟨"", ""⟩) {}
    mixedSchema.validate = .ok () ∧
      (mixedSchema.fields.filterMap (Factory.askedName? ⟨"", ""⟩)).Nodup ∧
      (run mixedSchema.reversed).2.registry.length = 2 ∧
      ∃ replies others : Field → Reply,
        Factory.Populates ⟨"", ""⟩ {} mixedSchema replies (run mixedSchema).2 ∧
        Factory.Populates ⟨"", ""⟩ {} mixedSchema.reversed others (run mixedSchema.reversed).2 ∧
        ∀ g ∈ mixedSchema.fields, (others g).unnumbered = (replies g).unnumbered := by
  have hvalid : mixedSchema.validate = .ok () := rfl
  have hnames : (mixedSchema.fields.filterMap (Factory.askedName? ⟨"", ""⟩)).Nodup := by
    decide +kernel
  have hperm : mixedSchema.fields.Perm mixedSchema.reversed.fields := (List.reverse_perm _).symm
  obtain ⟨hpermuted, -⟩ := Factory.populate_in_any_order ⟨"", ""⟩ hvalid hnames {}
  obtain ⟨-, -, hends⟩ := hpermuted mixedSchema.reversed hperm
  obtain ⟨replies, others, hpopulates, hpopulates', hsame, -⟩ := hends _ rfl
  exact ⟨hvalid, hnames, rfl, replies, others, hpopulates, hpopulates', fun g hg => (hsame g hg).1⟩

/-- A counter is not registered behind a field at which populating gives up, and is in front of
it. -/
theorem reversed_stalled_registers :
    let run (s : Schema) := s.populate (Factory.toMetricFactory ⟨"", ""⟩) {}
    stalled.validate = .ok () ∧ (stalled.fields.filterMap (Factory.askedName? ⟨"", ""⟩)).Nodup ∧
      stalled.fields.Perm stalled.reversed.fields ∧ (run stalled).2.registry = [] ∧
      (run stalled.reversed).2.registry.map (fun c => c.descriptor.fqName) = ["requests"] :=
  ⟨rfl, by decide +kernel, (List.reverse_perm _).symm, rfl, rfl⟩

end MetricBundle
