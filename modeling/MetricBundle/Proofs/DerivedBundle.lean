import MetricBundle.Proofs.DerivedSchema
import MetricBundle.Proofs.KindAgreement

/-!
# Derived bundles populate

When the schema of a derived bundle has been populated, the bundle is assembled: no initializer
finds its slot empty, or with a metric that its member cannot be a handle on.  Three facts come
together.  A populated schema has a metric of the field's own kind in the slot of every metric field
that is not skipped (`Factory.filled_of_populate`); a derived bundle takes a metric from just these
slots, as the handle type of the kind, optional or not (`DerivedSchema`); and what is taken from one
slot does not change what can be taken from another (`Slots.take_take_of_ne`), so one slot after the
other gives its metric (`Member.fillAll_isOk`).
-/

namespace MetricBundle

/-! ## One slot after the other -/

namespace Slots

theorem metric?_emptied_of_ne {s : Slots} {i j : Nat} (h : i ≠ j) :
    (s.emptied i).metric? j = s.metric? j := by
  rw [metric?, metric?, emptied, put, List.getElem?_set_ne h]

/-- Taking leaves the slots as they are, or without the metric that was taken. -/
theorem take_slots (s : Slots) (type : HandleType) (i : Nat) :
    (s.take type i).2 = s ∨ (s.take type i).2 = s.emptied i := by
  unfold take
  split
  case h_1 => exact .inl rfl
  case h_2 f hf =>
    split
    case h_1 => split <;> exact .inr rfl
    case h_2 => split <;> exact .inl rfl

/-- What is taken depends on the field and the content of the one slot only. -/
theorem take_congr {s s' : Slots} (hschema : s'.schema = s.schema) {i : Nat}
    (hslot : s'.metric? i = s.metric? i) (type : HandleType) :
    (s'.take type i).1 = (s.take type i).1 := by
  simp only [take, hschema, hslot, noSuchField]
  cases s.schema.fields[i]? with
  | none => rfl
  | some f =>
    cases s.metric? i with
    | none =>
      dsimp only
      cases type.allowsAbsence <;> rfl
    | some m =>
      dsimp only
      cases type.accept m <;> rfl

theorem take_take_of_ne {s : Slots} {i j : Nat} (h : i ≠ j) (type other : HandleType) :
    ((s.take type i).2.take other j).1 = (s.take other j).1 := by
  rcases s.take_slots type i with heq | heq
  · rw [heq]
  · rw [heq]
    have hschema : (s.emptied i).schema = s.schema := rfl
    exact take_congr hschema (metric?_emptied_of_ne h) other

end Slots

namespace Member

/-- The initializer, if it takes anything, takes from the slot with its own index, where it finds
what it needs. -/
def Finds (s : Slots) (i : Nat) (init : Initializer) : Prop :=
  ∀ index type, init = .take index type → index = i ∧ ∃ taken, (s.take type i).1 = .ok taken

theorem fill_of_finds {s : Slots} {i : Nat} {init : Initializer} (h : Finds s i init) :
    ∃ member s', fill s init = (.ok member, s') ∧
      ∀ j other, i ≠ j → Finds s j other → Finds s' j other := by
  cases init with
  | take index type =>
    obtain ⟨rfl, taken, htaken⟩ := h index type rfl
    refine ⟨ofTaken taken, (s.take type index).2, ?_, ?_⟩
    · simp only [fill, htaken]
      rfl
    · intro j other hne hother index' type' heq
      obtain ⟨rfl, found⟩ := hother index' type' heq
      exact ⟨rfl, by rwa [Slots.take_take_of_ne hne]⟩
  | none => exact ⟨.absent, s, rfl, fun _ _ _ hother => hother⟩
  | default => exact ⟨.default, s, rfl, fun _ _ _ hother => hother⟩

/-- **Initializers that each find what they need in a slot of their own give all members their
values.** -/
theorem fillAll_isOk {k : Nat} {s : Slots} {is : List Initializer}
    (h : ∀ j init, is[j]? = some init → Finds s (k + j) init) :
    ∃ members, fillAll s is = .ok members := by
  induction is generalizing k s with
  | nil => exact ⟨[], rfl⟩
  | cons init is ih =>
    obtain ⟨member, s', hfill, hothers⟩ := fill_of_finds (h 0 init rfl)
    -- the other members have slots of their own, so they still find what they need
    have hrest (j : Nat) (other : Initializer) (hj : is[j]? = some other) :
        Finds s' (k + 1 + j) other := by
      have hfound : Finds s (k + (j + 1)) other := h (j + 1) other hj
      rw [Nat.add_assoc, Nat.add_comm 1 j]
      exact hothers _ other (by omega) hfound
    obtain ⟨members, hmembers⟩ := ih hrest
    refine ⟨member :: members, ?_⟩
    simp only [fillAll, hfill, hmembers]
    rfl

end Member

/-! ## Populated schemas -/

namespace Field

theorem faults_of_observer {f : Field} {s : Shape} (h : f.kind = .observer s) :
    ∃ others, f.resolve.faults = f.observerOpts.faults ++ others := by
  cases s <;> simp only [resolve, resolveNoted, h] <;> exact ⟨_, rfl⟩

/-- Nothing is wrong with a metric field only if there are options: an observer that has none has a
type that is unknown. -/
theorem exists_opts_of_no_faults {f : Field} (hkind : f.kind.isMetric = true)
    (hfaults : f.resolve.faults = []) : ∃ opts, f.resolve.opts = some opts := by
  cases hk : f.kind with
  | metric i s => exact ⟨_, (resolve_of_metric hk).1⟩
  | observer s =>
    obtain ⟨others, hothers⟩ := faults_of_observer hk
    rw [hfaults] at hothers
    have hobserver : f.observerOpts.faults = [] := (List.nil_eq_append_iff.mp hothers).1
    rw [(resolve_of_observer hk).1]
    unfold observerOpts at hobserver ⊢
    split
    case h_1 hnone =>
      simp only [hnone] at hobserver
      cases hobserver
    case h_2 => exact ⟨_, rfl⟩
  | other =>
    rw [hk] at hkind
    cases hkind

/-- There is a request for every metric field that is not skipped and has nothing wrong with it. -/
theorem exists_call? {f : Field} (hkind : f.kind.isMetric = true) (hskip : f.skip = false)
    (hfaults : f.resolve.faults = []) : ∃ r, f.call? = some r := by
  obtain ⟨opts, hopts⟩ := exists_opts_of_no_faults hkind hfaults
  exact ⟨{ opts, labels := if f.resolve.labelNames = [] then none else some f.resolve.labelNames },
    call?_eq_some_iff.mpr ⟨hskip, hopts, hfaults, rfl⟩⟩

end Field

namespace Factory

variable {factory : Factory} {t t' : Telemetry}

/-- A metric field that is not skipped and has not failed got its metric. -/
theorem Replied.got_of_no_failures {f : Field} {reply : Reply} (h : factory.Replied f reply)
    (hkind : f.kind.isMetric = true) (hskip : f.skip = false)
    (hfailures : f.failuresAfter reply = []) : ∃ m, reply = some (.ok m) ∧ f.Got factory m := by
  cases h with
  | unasked hnone =>
    rw [Field.failuresAfter_none hskip] at hfailures
    have hfaults : f.resolve.faults = [] := List.map_eq_nil_iff.mp hfailures
    obtain ⟨r, hcall⟩ := Field.exists_call? hkind hskip hfaults
    rw [hnone] at hcall
    cases hcall
  | @answered r answer t t' hcall hanswer =>
    cases answer with
    | ok m => exact ⟨m, rfl, Replied.got (.answered hcall hanswer)⟩
    | error e =>
      obtain ⟨failure, rfl⟩ := newMetric_eq_error hanswer
      rw [Field.failuresAfter_error hskip] at hfailures
      cases hfailures

/-- A schema is populated if nothing has failed. -/
theorem populate_slots_of_schema {schema : Schema} {slots : Slots}
    (h : schema.populate factory.toMetricFactory t = (.ok (.ok slots), t')) :
    (Slots.ofSchema schema).populate factory.toMetricFactory schema t =
      (.ok (slots, ⟨[]⟩), t') := by
  unfold Schema.populate at h
  cases hvalid : schema.validate with
  | error e =>
    simp only [hvalid] at h
    obtain ⟨hanswer, -⟩ := Action.pure_eq_ok h
    cases hanswer
  | ok =>
    simp only [hvalid] at h
    obtain ⟨⟨slots₁, errors⟩, t₁, hrun, h⟩ := Action.bind_eq_ok h
    cases hok : errors.toExcept with
    | ok =>
      simp only [hok] at h
      obtain ⟨hslots, rfl⟩ := Action.pure_eq_ok h
      obtain rfl := Except.ok.inj hslots
      obtain ⟨failures⟩ := errors
      obtain rfl : failures = [] := (Errors.toExcept_eq_ok_iff ⟨failures⟩).mp hok
      exact hrun
    | error errors =>
      simp only [hok] at h
      obtain ⟨hanswer, -⟩ := Action.pure_eq_ok h
      cases hanswer

/-- **The slots of a populated schema hold a metric of the field's own kind for every metric field
that is not skipped.** -/
theorem filled_of_populate {schema : Schema} {slots : Slots}
    (h : schema.populate factory.toMetricFactory t = (.ok (.ok slots), t')) :
    slots.schema = schema ∧
      ∀ i f, schema.fields[i]? = some f → f.kind.isMetric = true → f.skip = false →
        ∃ m, slots.metric? i = some m ∧ f.Got factory m := by
  obtain ⟨replies, hreplied, rfl, hfailures⟩ := populate_eq_ok rfl (populate_slots_of_schema h)
  refine ⟨rfl, fun i f hf hkind hskip => ?_⟩
  obtain ⟨reply, hreplies, hreply⟩ := replied_getElem? hreplied hf
  have hlt : i < (Slots.ofSchema schema).metrics.length := by
    rw [(Slots.ofSchema schema).aligned]
    exact (List.getElem?_eq_some_iff.mp hf).1
  -- since nothing has failed at all, nothing has failed about this field
  have hnone : f.failuresAfter reply = [] := by
    have hall : failuresAfter schema.fields replies = [] := (congrArg Errors.toList hfailures).symm
    rw [failuresAfter, List.flatMap_eq_nil_iff] at hall
    refine hall (f, reply) (List.mem_iff_getElem?.mpr ⟨i, ?_⟩)
    simp [List.getElem?_zip_eq_some, hf, hreplies]
  obtain ⟨m, hm, hgot⟩ := hreply.got_of_no_failures hkind hskip hnone
  have hslot := Slots.metric?_settled hlt hreplies
  rw [hm] at hslot
  exact ⟨m, hslot, hgot⟩

end Factory

/-! ## Assembling a derived bundle -/

namespace Derivation

variable {factory : Factory} {fields : List DeclaredField} {d : Derivation} {t t' : Telemetry}

/-- Each initializer of a derived bundle finds in its slot of a populated schema what it takes. -/
theorem finds_initializer (hreads : List.Forall₂ Reads fields d.fields) {slots : Slots}
    (h : d.schema.populate factory.toMetricFactory t = (.ok (.ok slots), t')) {i : Nat}
    {init : Initializer} (hinit : d.initializers[i]? = some init) : Member.Finds slots i init := by
  obtain ⟨hschema, hfilled⟩ := Factory.filled_of_populate h
  rw [getElem?_initializers, Option.map_eq_some_iff] at hinit
  obtain ⟨g, hg, rfl⟩ := hinit
  obtain ⟨f, -, hf⟩ := exists_reads hreads hg
  intro index type htake
  obtain ⟨hskipped, rfl, htype⟩ := DerivedField.initializer_eq_take_iff.mp htake
  obtain ⟨known, hknown, rfl⟩ := DerivedField.handleType?_eq_some_iff.mp htype
  have hfield : d.schema.fields[index]? = some g.toField := by
    rw [getElem?_schema, hg]
    rfl
  have hkind : g.toField.kind = g.kind := by rw [DerivedField.toField_eq hf.distinct]
  have hmetric : g.toField.kind.isMetric = true :=
    hkind ▸ DerivedField.exists_handleType?_iff.mp ⟨_, htype⟩
  have hskip : g.toField.skip = false := by rw [DerivedField.skip_toField hf.distinct, hskipped]
  obtain ⟨m, hm, hgot⟩ := hfilled index g.toField hfield hmetric hskip
  have hcovered : m.variant ∈ known.covered := by
    rw [HandleType.covered_ofKind hknown, ← hkind]
    exact hgot.variant_mem
  -- an option covers what its type covers
  have hmember : m.variant ∈ HandleType.covered (if g.optional then .option known else known) := by
    split
    · exact hcovered
    · exact hcovered
  rw [← hschema] at hfield
  obtain ⟨handle, hhandle, -⟩ := Slots.yields_of_covered hfield hm hmember
  exact ⟨rfl, some handle, hhandle⟩

/-- **A derived bundle is assembled from a populated schema without fail.** -/
theorem assemble_isOk (hreads : List.Forall₂ Reads fields d.fields) {slots : Slots}
    (h : d.schema.populate factory.toMetricFactory t = (.ok (.ok slots), t')) :
    ∃ members, d.bundle.assemble slots = .ok members := by
  have hfinds (i : Nat) (init : Initializer) (hinit : d.initializers[i]? = some init) :
      Member.Finds slots (0 + i) init := by
    rw [Nat.zero_add]
    exact finds_initializer hreads h hinit
  obtain ⟨members, hmembers⟩ := Member.fillAll_isOk hfinds
  refine ⟨members, ?_⟩
  simp only [bundle, Bundle.ofInitializers, hmembers]

/-- The bundle is populated whenever its schema is, and leaves the telemetry as that does. -/
theorem populate_isOk_iff (hreads : List.Forall₂ Reads fields d.fields) :
    (∃ members, d.bundle.populate factory.toMetricFactory t = (.ok (.ok members), t')) ↔
      ∃ slots, d.schema.populate factory.toMetricFactory t = (.ok (.ok slots), t') := by
  constructor
  · rintro ⟨members, h⟩
    obtain ⟨answer, t₁, hschema, h⟩ := Action.bind_eq_ok h
    cases answer with
    | ok slots =>
      obtain ⟨-, rfl⟩ := Action.pure_eq_ok h
      exact ⟨slots, hschema⟩
    | error e =>
      obtain ⟨herror, -⟩ := Action.pure_eq_ok h
      cases herror
  · rintro ⟨slots, h⟩
    obtain ⟨members, hmembers⟩ := assemble_isOk hreads h
    have hschema : d.bundle.schema.populate factory.toMetricFactory t = (.ok (.ok slots), t') := h
    refine ⟨members, ?_⟩
    rw [Bundle.populate, Action.bind_of_ok hschema]
    simp only [hmembers]
    rfl

/-- **A derivation and populating agree on every bundle.**  Suppose that an item derives a bundle
and that its fields have different names, none of them empty.  The schema of the bundle is valid,
and has the declared fields in their order, each with just the tags that were read.  It skips the
fields that the declaration ignores.  A member takes a metric, the one with its own index and as the
handle type of its kind, if and only if the field is a metric that is not skipped; it gets nothing
only if it is optional, and a default only if it is no metric.  So, for every factory and whatever
has been registered, the bundle is populated if and only if its schema is: nothing fails when the
members are assembled. -/
theorem agrees_with_populate {item : Item} {d : Derivation} (h : ofItem item = .ok d)
    (hnamed : "" ∉ item.fields.map fun f => plainName f.ident)
    (hdistinct : (item.fields.map fun f => plainName f.ident).Nodup) :
    d.schema.validate = .ok () ∧
    List.Forall₂ (fun f field => ∃ tags, Attribute.readAll [] f.attributes = .ok tags ∧
      field =
        { ident := plainName f.ident
          typeName := Token.denseSource f.type.tokens
          kind := f.type.form.kind.1
          tags := ⟨tags⟩ }) item.fields d.schema.fields ∧
    (∀ (i : Nat) (g : DerivedField), d.fields[i]? = some g →
      d.schema.fields[i]? = some g.toField ∧ g.toField.skip = g.skipped ∧
      ∃ init : Initializer, d.initializers[i]? = some init ∧
        ((∃ index type, init = .take index type) ↔
          g.kind.isMetric = true ∧ g.toField.skip = false) ∧
        (∀ index type, init = .take index type → index = i ∧
          ∃ known, HandleType.ofKind g.kind = some known ∧
            type = if g.optional then .option known else known) ∧
        (init = .none → g.optional = true) ∧
        (init = .default → g.kind.isMetric = false)) ∧
    ∀ (factory : Factory) (t t' : Telemetry),
      ((∃ members, d.bundle.populate factory.toMetricFactory t = (.ok (.ok members), t')) ↔
        ∃ slots, d.schema.populate factory.toMetricFactory t = (.ok (.ok slots), t')) ∧
      ∀ slots, d.schema.populate factory.toMetricFactory t = (.ok (.ok slots), t') →
        ∃ members, d.bundle.assemble slots = .ok members := by
  have hreads := reads_of_ofItem h
  refine ⟨validate_schema hreads hnamed hdistinct, ?_, ?_, fun factory t t' =>
    ⟨populate_isOk_iff hreads, fun slots => assemble_isOk hreads⟩⟩
  · exact List.forall₂_map_right_iff.mpr (hreads.imp fun f g hfg => ⟨g.tags, hfg.tags, hfg.toField⟩)
  · intro i g hg
    obtain ⟨f, -, hfg⟩ := exists_reads hreads hg
    refine ⟨by rw [getElem?_schema, hg]; rfl, DerivedField.skip_toField hfg.distinct,
      g.initializer i, by rw [getElem?_initializers, hg]; rfl, hfg.exists_take_iff i, ?_, ?_, ?_⟩
    · intro index type htake
      obtain ⟨-, hindex, htype⟩ := DerivedField.initializer_eq_take_iff.mp htake
      exact ⟨hindex, DerivedField.handleType?_eq_some_iff.mp htype⟩
    · intro hnone
      rcases hfg.initializer_cases i with ⟨_, _, htake⟩ | ⟨-, hoptional⟩ | ⟨hdefault, -⟩
      · cases hnone.symm.trans htake
      · exact hoptional
      · cases hnone.symm.trans hdefault
    · intro hdefault
      rcases hfg.initializer_cases i with ⟨_, _, htake⟩ | ⟨hnone, -⟩ | ⟨-, hkind⟩
      · cases hdefault.symm.trans htake
      · cases hdefault.symm.trans hnone
      · exact hkind

end Derivation

/-- The type that is a path of one name, with arguments if there are some. -/
def simpleType (name : String) (arguments : LastArguments) (tokens : List Token) : Phrase where
  tokens := .ident name.toList :: tokens
  form := .path
    { qualified := false
      rooted := false
      names := [name.toList]
      plain := arguments == .none
      arguments }

/-- A counter, and a gauge that is an option and skipped, with an identifier that is marked. -/
def serverItem : Item where
  form := .namedStruct
  name := "Server"
  fields :=
    [{ ident := "requests", type := simpleType "Counter" .none [], attributes := [] },
      { ident := "r#type"
        type := simpleType "Option" (.angle [.type (some "Gauge".toList)])
          [.punct '<' false, .ident "Gauge".toList, .punct '>' false]
        attributes := [⟨Attribute.metricPath, .list [.ident Attribute.skipKey]⟩] }]

/-- The bundle that the item derives. -/
def serverDerivation : Derivation where
  typeName := "Server"
  fields :=
    [⟨"requests", "Counter", .metric .counter .scalar, false, []⟩,
      ⟨"type", "Option<Gauge>", .metric .gauge .scalar, true, [(.ignore, Tag.ignored)]⟩]

theorem agrees_with_populate_for_server :
    Derivation.ofItem serverItem = .ok serverDerivation ∧
      serverDerivation.schema.validate = .ok () ∧
      ∀ (factory : Factory) (t t' : Telemetry),
        (∃ members,
            serverDerivation.bundle.populate factory.toMetricFactory t = (.ok (.ok members), t')) ↔
          ∃ slots,
            serverDerivation.schema.populate factory.toMetricFactory t = (.ok (.ok slots), t') := by
  have h : Derivation.ofItem serverItem = .ok serverDerivation := by rfl
  obtain ⟨hvalid, -, -, hpopulate⟩ := Derivation.agrees_with_populate h (by decide) (by decide)
  exact ⟨h, hvalid, fun factory t t' => (hpopulate factory t t').1⟩

end MetricBundle
