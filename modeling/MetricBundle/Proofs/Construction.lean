import MetricBundle.Proofs.FactoryRun

/-!
# Constructing is all or nothing

A factory has a constructor for each instrument and shape, for observers and for callbacks.  All of
them prepare the options, make the collector without registering it, and register it; each of these
may fail.  An `Order` is what a constructor is called with, and `Factory.construct` answers it with
the collector.

What is made is made beside what is registered (`Telemetry.Adds`), and of what is refused nothing is
kept.  So after a call either the registry has one more collector, the one that was answered with,
or all that has changed is the log (`Factory.construct_eq`).  The first is the case just if what
is ordered can be made and can join what is registered (`Factory.construct_eq_ok_iff`).  The log
is not collected (`Telemetry.gather_withLogs`), so in the second case everything is collected as
before.
-/

namespace MetricBundle

/-- Actions that do the same, perhaps from different states, do the same if something follows. -/
theorem Action.bind_congr {α β : Type} {x y : Action α} {t s : Telemetry} (h : x t = y s)
    (k : α → Action β) : (x >>= k) t = (y >>= k) s := by
  show (let p := x t; ExceptT.bindCont k p.1 p.2) = _
  rw [h]
  rfl

namespace Telemetry

/-- The telemetry with another log. -/
def withLogs (logs : List LogEntry) (t : Telemetry) : Telemetry := { t with logs }

/-- The second telemetry is the first one with something made in it, to which nothing refers. -/
structure Adds (t t' : Telemetry) : Prop where
  now_eq : t'.now = t.now
  registry_eq : t'.registry = t.registry
  logs_eq : t'.logs = t.logs

/-! ## What is not collected

The log is not collected, and of the rest only the clock and the series matter to the meters. -/

/-- The change is of something beside the clock and the series, and has nothing to do with them. -/
structure Beside (change : Telemetry → Telemetry) : Prop where
  now_eq (t : Telemetry) : (change t).now = t.now
  series_eq (t : Telemetry) : (change t).series = t.series
  put_eq (t : Telemetry) (series : List Series) :
    change { t with series } = { change t with series }

theorem beside_withLogs (logs : List LogEntry) : Beside (withLogs logs) :=
  ⟨fun _ => rfl, fun _ => rfl, fun _ _ => rfl⟩

theorem Beside.stepMeter_eq {change : Telemetry → Telemetry} (h : Beside change) (id : Nat)
    (step : Meter → Except Meter Meter) (t : Telemetry) :
    stepMeter id step (change t) = ((stepMeter id step t).1, change (stepMeter id step t).2) := by
  unfold stepMeter
  rw [h.series_eq]
  cases t.series[id]? with
  | none => rfl
  | some s =>
    simp only
    cases step s.meter <;> exact congrArg (Prod.mk _) (h.put_eq t _).symm

theorem rotateAll_cons (id : Nat) (ids : List Nat) (t : Telemetry) :
    rotateAll (id :: ids) t =
      (stepMeter id (Meter.rotate t.now) >>= fun _ => rotateAll ids) t := rfl

theorem Beside.rotateAll_eq {change : Telemetry → Telemetry} (h : Beside change) (ids : List Nat)
    (t : Telemetry) :
    rotateAll ids (change t) = ((rotateAll ids t).1, change (rotateAll ids t).2) := by
  induction ids generalizing t with
  | nil => rfl
  | cons id ids ih =>
    have hstep := h.stepMeter_eq id (Meter.rotate t.now) t
    rw [rotateAll_cons, rotateAll_cons, h.now_eq]
    rcases hs : stepMeter id (Meter.rotate t.now) t with ⟨result, t₁⟩
    rw [hs] at hstep
    cases result with
    | ok u =>
      rw [Action.bind_of_ok hstep, Action.bind_of_ok hs]
      exact ih t₁
    | error fault => rw [Action.bind_of_error hstep, Action.bind_of_error hs]

/-- What is collected from a registry is read off when all of its series are up to the present. -/
theorem gather_of_rotateAll {t t' : Telemetry}
    (h : rotateAll (t.registry.flatMap t.members) t = (.ok (), t')) :
    gather t = (.ok (Family.mergeAll (t'.registry.map t'.family)), t') :=
  Action.bind_of_ok h _

theorem gather_of_fault {t t' : Telemetry} {fault : Fault}
    (h : rotateAll (t.registry.flatMap t.members) t = (.error fault, t')) :
    gather t = (.error fault, t') :=
  Action.bind_of_error h _

/-- Telemetry with another log gathers the same. -/
theorem gather_withLogs (logs : List LogEntry) (t : Telemetry) :
    gather (t.withLogs logs) = ((gather t).1, (gather t).2.withLogs logs) := by
  have hrotate := (beside_withLogs logs).rotateAll_eq (t.registry.flatMap t.members) t
  rcases hr : rotateAll (t.registry.flatMap t.members) t with ⟨result, t'⟩
  rw [hr] at hrotate
  cases result with
  | ok u => rw [gather_of_rotateAll hrotate, gather_of_rotateAll hr]; rfl
  | error fault => rw [gather_of_fault hrotate, gather_of_fault hr]

end Telemetry

/-! ## Making beside what is registered -/

theorem exists_of_map_eq_ok {ε α β : Type} {x : Except ε α} {f : α → β} {b : β}
    (h : x.map f = .ok b) : ∃ a, x = .ok a ∧ f a = b := by
  cases x with
  | error e => cases h
  | ok a => exact ⟨a, rfl, Except.ok.inj h⟩

theorem eq_error_of_map_eq_error {ε α β : Type} {x : Except ε α} {f : α → β} {e : ε}
    (h : x.map f = .error e) : x = .error e := by
  cases x with
  | error e' => rw [Except.error.inj h]
  | ok a => cases h

theorem Descriptor.of_eq_ok {o : Opts} {labels : List String} {d : Descriptor}
    (h : Descriptor.of o labels = .ok d) :
    d.fqName = o.fqName ∧ d.help = o.help ∧ d.constLabels = orderLabels o.constLabels := by
  simp only [Descriptor.of] at h
  split at h
  · cases h
  · injection h with h
    subst h
    exact ⟨rfl, rfl, rfl⟩

theorem Blueprint.descriptor_of {r : Request} {b : Blueprint} (h : Blueprint.of r = .ok b) :
    Descriptor.of r.opts.common r.variableLabels = .ok b.descriptor := by
  unfold Blueprint.of at h
  split at h
  case h_1 => cases h
  case h_2 =>
    obtain ⟨d, hd, rfl⟩ := exists_of_map_eq_ok h
    exact hd

namespace Telemetry

variable {t t' : Telemetry}

theorem build_adds {b : Blueprint} {m : Metric} (h : t.build b = .ok (m, t')) :
    m.descriptor = b.descriptor ∧ t.Adds t' := by
  unfold build at h
  split at h
  case h_1 =>
    obtain ⟨s, -, hmade⟩ := exists_of_map_eq_ok h
    obtain ⟨rfl, rfl⟩ := Prod.mk.inj hmade
    exact ⟨rfl, rfl, rfl, rfl⟩
  case h_2 =>
    obtain ⟨rfl, rfl⟩ := Prod.mk.inj (Except.ok.inj h)
    exact ⟨rfl, rfl, rfl, rfl⟩

theorem make_adds {r : Request} {m : Metric} (h : t.make r = .ok (m, t')) :
    Descriptor.of r.opts.common r.variableLabels = .ok m.descriptor ∧ t.Adds t' := by
  unfold make at h
  split at h
  case h_1 b hb =>
    obtain ⟨hdescriptor, hadds⟩ := build_adds h
    rw [hdescriptor]
    exact ⟨Blueprint.descriptor_of hb, hadds⟩
  case h_2 => cases h

theorem makeCallback_adds {kind : CallbackKind} {numeric : NumericType} {o : Opts} {value : Number}
    {c : Callback} (h : t.makeCallback kind numeric o value = .ok (c, t')) :
    Descriptor.of o o.variableLabels = .ok c.descriptor ∧ t.Adds t' := by
  unfold makeCallback at h
  split at h
  case h_1 => cases h
  case h_2 d hd =>
    split at h
    case isTrue =>
      obtain ⟨rfl, rfl⟩ := Prod.mk.inj (Except.ok.inj h)
      exact ⟨hd, rfl, rfl, rfl⟩
    case isFalse => cases h

/-- Registering adds a collector that can join what is registered to the registry, and changes
nothing else. -/
theorem register_eq_ok_iff {c : Collector} :
    t.register c = .ok t' ↔
      registrationDefect (t.registry.map Collector.descriptor) c.descriptor = none ∧
        t' = { t with registry := t.registry ++ [c] } := by
  unfold register
  cases registrationDefect (t.registry.map Collector.descriptor) c.descriptor with
  | some e =>
    constructor
    · intro h
      cases h
    · rintro ⟨h, -⟩
      cases h
  | none =>
    constructor
    · intro h
      exact ⟨rfl, (Except.ok.inj h).symm⟩
    · rintro ⟨-, rfl⟩
      rfl

theorem register_eq_error {c : Collector} {e : MetricError} (h : t.register c = .error e) :
    registrationDefect (t.registry.map Collector.descriptor) c.descriptor = some e := by
  unfold register at h
  split at h
  case h_1 hsome => rw [hsome, Except.error.inj h]
  case h_2 => cases h

end Telemetry

/-! ## Orders -/

/-- What a factory is asked to construct. -/
inductive Order where
  /-- A metric of the instrument of its options, a vector if there are label names. -/
  | metric (r : Request)
  /-- A histogram or a summary, as the options have it. -/
  | observer (r : Request)
  | callback (kind : CallbackKind) (numeric : NumericType) (o : Opts) (value : Number)
deriving DecidableEq

namespace Order

/-- The options that all orders share. -/
def opts : Order → Opts
  | .metric r | .observer r => r.opts.common
  | .callback _ _ o _ => o

/-- The options of an order for an observer are not those of one. -/
def misfit? : Order → Option Failure
  | .observer r =>
    if r.opts.instrument.isObserver then none else some (.notAnObserver r.opts.instrument)
  | _ => none

/-- Why nothing is even tried for an order. -/
def rejection? (order : Order) : Option Failure :=
  order.misfit?.or (if order.opts.name.isEmpty then some .noMetricName else none)

theorem named_of_rejection? {order : Order} (h : order.rejection? = none) :
    order.opts.name.isEmpty = false := by
  rw [rejection?, Option.or_eq_none_iff] at h
  cases hname : order.opts.name.isEmpty with
  | false => rfl
  | true =>
    rw [hname] at h
    cases h.2

end Order

namespace Factory

/-- Answers an order with the collector that has been constructed for it. -/
def construct (f : Factory) : Order → Action (Except Error Collector)
  | .metric r => do return (← f.newMetric r).map .metric
  | .observer r => do return (← f.newObserver r).map .metric
  | .callback kind numeric o value => do
    return (← f.newCallback kind numeric o value).map .callback

/-- The full name that options get: what there is of namespace, subsystem and name, the first two
being the factory's where the options have none. -/
def fullName (f : Factory) (o : Opts) : String :=
  let space := if o.space.isEmpty then f.space else o.space
  let subsystem := if o.subsystem.isEmpty then f.subsystem else o.subsystem
  "_".intercalate ([space, subsystem, o.name].filter fun part => !part.isEmpty)

/-- The help text that options get. -/
def helpText (o : Opts) : String := if o.help.isEmpty then o.name else o.help

/-- What is reported about options before anything is made. -/
def warnings (f : Factory) (o : Opts) : List LogEntry :=
  if o.help.isEmpty then [.helpMissing (f.fullName o)] else []

variable {f : Factory} {o : Opts} {t : Telemetry}

theorem fqName_prepare (h : o.name.isEmpty = false) : (f.prepare o).fqName = f.fullName o := by
  have hfilled : (o.withDefaults f.space f.subsystem).fqName = f.fullName o := by
    rw [Opts.fqName, if_neg (by rw [Opts.withDefaults, h]; exact Bool.false_ne_true)]
    rfl
  unfold prepare
  by_cases hhelp : (o.withDefaults f.space f.subsystem).help.isEmpty = true
  · simp only [hhelp, if_true]
    exact hfilled
  · simp only [hhelp]
    exact hfilled

theorem help_prepare (f : Factory) (o : Opts) : (f.prepare o).help = helpText o := by
  unfold prepare helpText
  by_cases hhelp : o.help.isEmpty = true
  · simp [Opts.withDefaults, hhelp]
  · simp [Opts.withDefaults, hhelp]

theorem announce_eq (h : o.name.isEmpty = false) :
    f.announce o t = t.withLogs (t.logs ++ f.warnings o) := by
  unfold announce warnings
  split
  · rw [fqName_prepare h]
    rfl
  · rw [List.append_nil]
    rfl

/-! ## All constructors alike -/

/-- Makes what is ordered, without registering it. -/
def makeOrdered (f : Factory) (t : Telemetry) : Order → Except Fault (Collector × Telemetry)
  | .metric r | .observer r => (t.make (f.prepareRequest r)).map fun p => (.metric p.1, p.2)
  | .callback kind numeric o value =>
    let made : Except Fault (Callback × Telemetry) :=
      match t.makeCallback kind numeric (f.prepare o) value with
      | .ok made => .ok made
      | .error e => .error (.metric e)
    made.map fun p => (.callback p.1, p.2)

/-- What is made for an order has the full name and the help text of the options, and is made beside
what is registered. -/
theorem makeOrdered_adds {order : Order} {c : Collector} {t' : Telemetry}
    (hname : order.opts.name.isEmpty = false) (h : f.makeOrdered t order = .ok (c, t')) :
    c.descriptor.fqName = f.fullName order.opts ∧ c.descriptor.help = helpText order.opts ∧
      t.Adds t' := by
  -- the descriptor is that of the prepared options, whatever the labels are
  have hof {labels : List String}
      (hd : Descriptor.of (f.prepare order.opts) labels = .ok c.descriptor) :
      c.descriptor.fqName = f.fullName order.opts ∧
        c.descriptor.help = helpText order.opts := by
    obtain ⟨hfqName, hhelp, -⟩ := Descriptor.of_eq_ok hd
    exact ⟨by rw [hfqName, fqName_prepare hname], by rw [hhelp, help_prepare]⟩
  cases order with
  | metric r | observer r =>
    have h : (t.make (f.prepareRequest r)).map (fun p => (Collector.metric p.1, p.2)) =
        .ok (c, t') := h
    obtain ⟨⟨m, extended⟩, hm, hmade⟩ := exists_of_map_eq_ok h
    obtain ⟨rfl, rfl⟩ := Prod.mk.inj hmade
    obtain ⟨hd, hadds⟩ := Telemetry.make_adds hm
    rw [prepareRequest, MetricOpts.common_withCommon] at hd
    obtain ⟨hfqName, hhelp⟩ := hof hd
    exact ⟨hfqName, hhelp, hadds⟩
  | callback kind numeric o value =>
    obtain ⟨⟨callback, extended⟩, hm, hmade⟩ := exists_of_map_eq_ok h
    obtain ⟨rfl, rfl⟩ := Prod.mk.inj hmade
    split at hm
    case h_1 made hcallback =>
      rw [Except.ok.inj hm] at hcallback
      obtain ⟨hd, hadds⟩ := Telemetry.makeCallback_adds hcallback
      obtain ⟨hfqName, hhelp⟩ := hof hd
      exact ⟨hfqName, hhelp, hadds⟩
    case h_2 => cases hm

/-- Enrolling something and answering with its collector is enrolling the collector. -/
theorem enrol_map {α : Type} (collector : α → Collector) (made : Except Fault (α × Telemetry)) :
    (do return (← enrol collector made).map collector : Action (Except Error Collector)) t =
      enrol id (made.map fun p => (collector p.1, p.2)) t := by
  rcases enrol_cases collector made t with ⟨e, rfl, h⟩ | ⟨fault, rfl, h⟩ |
    ⟨a, extended, e, rfl, hregister, h⟩ | ⟨a, extended, registered, rfl, hregister, h⟩
  · rw [Action.bind_of_ok h]
    rfl
  · rw [Action.bind_of_error h]
    -- a fault of the metric would have ended with an error instead
    cases fault with
    | metric e => cases h
    | clockRange | counterFall | tagOverflow => rfl
  · rw [Action.bind_of_ok h]
    simp only [enrol, Except.map, id_eq, hregister]
    rfl
  · rw [Action.bind_of_ok h]
    simp only [enrol, Except.map, id_eq, hregister]
    rfl

/-- A constructor that rejects options without a name, and else announces them and enrols what it
makes, works like all the others. -/
theorem construct_of_work {α : Type} (collector : α → Collector) (order : Order)
    (work : Action (Except Error α)) (make : Telemetry → Except Fault (α × Telemetry))
    (hconstruct : f.construct order = do return (← work).map collector)
    (hmake : ∀ t, f.makeOrdered t order = (make t).map fun p => (collector p.1, p.2))
    (hwork : work t =
      if order.opts.name.isEmpty then (.ok (.error (.single .noMetricName)), t)
      else enrol collector (make (f.announce order.opts t)) (f.announce order.opts t)) :
    f.construct order t =
      if order.opts.name.isEmpty then (.ok (.error (.single .noMetricName)), t)
      else
        let warned := t.withLogs (t.logs ++ f.warnings order.opts)
        enrol id (f.makeOrdered warned order) warned := by
  rw [hconstruct]
  cases hname : order.opts.name.isEmpty with
  | true =>
    rw [hname] at hwork
    exact Action.bind_of_ok hwork _
  | false =>
    have henrol := hwork.trans (if_neg (Bool.eq_false_iff.mp hname))
    rw [Action.bind_congr henrol, enrol_map, ← hmake, announce_eq hname]
    rfl

/-- Every constructor rejects what it cannot even try, and else gives the warnings, makes what is
ordered and enrols it. -/
theorem construct_eq (f : Factory) (order : Order) (t : Telemetry) :
    f.construct order t =
      match order.rejection? with
      | some failure => (.ok (.error (.single failure)), t)
      | none =>
        let warned := t.withLogs (t.logs ++ f.warnings order.opts)
        enrol id (f.makeOrdered warned order) warned := by
  have hnamed {order : Order} (hmisfit : order.misfit? = none) :
      order.rejection? = if order.opts.name.isEmpty then some .noMetricName else none := by
    rw [Order.rejection?, hmisfit, Option.none_or]
  cases order with
  | metric r =>
    rw [construct_of_work .metric (.metric r) (f.newMetric r)
      (fun t => t.make (f.prepareRequest r)) rfl (fun _ => rfl) rfl, hnamed rfl]
    cases (Order.metric r).opts.name.isEmpty <;> rfl
  | observer r =>
    cases hobserver : r.opts.instrument.isObserver with
    | false =>
      have hmisfit : (Order.observer r).rejection? = some (.notAnObserver r.opts.instrument) := by
        rw [Order.rejection?, Order.misfit?, hobserver]
        rfl
      have hrefused : f.newObserver r t =
          (.ok (.error (.single (.notAnObserver r.opts.instrument))), t) :=
        if_neg (Bool.eq_false_iff.mp hobserver)
      rw [hmisfit]
      exact Action.bind_of_ok hrefused _
    | true =>
      have hmetric : f.newObserver r t = f.newMetric r t := if_pos hobserver
      have hfits : (Order.observer r).misfit? = none := if_pos hobserver
      rw [construct_of_work .metric (.observer r) (f.newObserver r)
        (fun t => t.make (f.prepareRequest r)) rfl (fun _ => rfl) (hmetric.trans rfl),
        hnamed hfits]
      cases (Order.observer r).opts.name.isEmpty <;> rfl
  | callback kind numeric o value =>
    let make (t : Telemetry) : Except Fault (Callback × Telemetry) :=
      match t.makeCallback kind numeric (f.prepare o) value with
      | .ok made => .ok made
      | .error e => .error (.metric e)
    rw [construct_of_work .callback (.callback kind numeric o value)
      (f.newCallback kind numeric o value) make rfl (fun _ => rfl) rfl, hnamed rfl]
    cases (Order.callback kind numeric o value).opts.name.isEmpty <;> rfl

/-- **A constructor gives a collector** just if the order is not rejected, what is ordered can be
made, and what is made can join what is registered. -/
theorem construct_eq_ok_iff {order : Order} {c : Collector} {t' : Telemetry} :
    f.construct order t = (.ok (.ok c), t') ↔
      order.rejection? = none ∧
      ∃ extended,
        f.makeOrdered (t.withLogs (t.logs ++ f.warnings order.opts)) order = .ok (c, extended) ∧
        Telemetry.registrationDefect (t.registry.map Collector.descriptor) c.descriptor = none ∧
        t' = { extended with
          registry := t.registry ++ [c]
          logs := t.logs ++ f.warnings order.opts ++ [.registered (f.fullName order.opts)] } := by
  rw [construct_eq]
  cases hrejection : order.rejection? with
  | some failure =>
    constructor
    · intro h
      cases h
    · rintro ⟨h, -⟩
      cases h
  | none =>
    have hname : order.opts.name.isEmpty = false := Order.named_of_rejection? hrejection
    simp only [enrol_eq_ok_iff, Telemetry.register_eq_ok_iff, id_eq, exists_and_left, true_and]
    refine exists_congr fun extended => and_congr_right fun hmade => ?_
    obtain ⟨hfqName, -, hadds⟩ := makeOrdered_adds hname hmade
    -- making has changed neither the registry nor the log
    have hregistry : extended.registry = t.registry := hadds.registry_eq
    have hlogs : extended.logs = t.logs ++ f.warnings order.opts := hadds.logs_eq
    simp only [and_assoc, exists_and_left, exists_eq_left, Telemetry.log, hregistry, hlogs, hfqName]

/-- In telemetry with nothing in it, a counter is constructed. -/
example : ∃ c t', (⟨"app", ""⟩ : Factory).construct
    (.metric { opts := .counter { name := "hits", help := "Hits." } }) {} = (.ok (.ok c), t') ∧
    c.descriptor.fqName = "app_hits" :=
  ⟨_, _, rfl, rfl⟩

/-- **Constructing is all or nothing.**  A call of any constructor that gives a collector has added
just this collector to the registry, under the full name and with the help text that its options
get.  One that gives an error has changed nothing but the log, so that what is registered is
collected as before.  Nothing is reported about an order that is rejected: first one for an observer
whose options are not those of one, then one without a name.  About all others missing help is
reported before anything is made, and at last what has been registered.  A call that gives nothing,
since it left the range of the clock, has registered nothing. -/
theorem construct_all_or_nothing (f : Factory) (order : Order) (t : Telemetry) :
    match f.construct order t with
    | (.ok (.ok c), t') =>
      order.rejection? = none ∧ t'.registry = t.registry ++ [c] ∧
      c.descriptor.fqName = f.fullName order.opts ∧ c.descriptor.help = helpText order.opts ∧
      t'.logs = t.logs ++ f.warnings order.opts ++ [.registered (f.fullName order.opts)]
    | (.ok (.error e), t') =>
      t' = t.withLogs t'.logs ∧ (Telemetry.gather t').1 = (Telemetry.gather t).1 ∧
      match order.rejection? with
      | some failure => e = .single failure ∧ t'.logs = t.logs
      | none => (∃ cause, e = .single (.metric cause)) ∧ t'.logs = t.logs ++ f.warnings order.opts
    | (.error _, t') => order.rejection? = none ∧ t'.registry = t.registry := by
  rw [construct_eq]
  cases hrejection : order.rejection? with
  | some failure => exact ⟨rfl, rfl, by simp⟩
  | none =>
    have hname : order.opts.name.isEmpty = false := Order.named_of_rejection? hrejection
    have hgather := Telemetry.gather_withLogs (t.logs ++ f.warnings order.opts) t
    rcases enrol_cases id (f.makeOrdered (t.withLogs (t.logs ++ f.warnings order.opts)) order)
        (t.withLogs (t.logs ++ f.warnings order.opts)) with
      ⟨e, -, h⟩ | ⟨fault, -, h⟩ | ⟨c, extended, e, -, -, h⟩ |
      ⟨c, extended, registered, hmade, hregister, h⟩
    · simp only [h, hgather]
      exact ⟨rfl, trivial, ⟨e, rfl⟩, rfl⟩
    · simp only [h]
      exact ⟨trivial, rfl⟩
    · simp only [h, hgather]
      exact ⟨rfl, trivial, ⟨e, rfl⟩, rfl⟩
    · obtain ⟨hfqName, hhelp, hadds⟩ := makeOrdered_adds hname hmade
      obtain ⟨-, rfl⟩ := Telemetry.register_eq_ok_iff.mp hregister
      simp only [h]
      refine ⟨trivial, congrArg (· ++ [c]) hadds.registry_eq, hfqName, hhelp, ?_⟩
      show extended.logs ++ [.registered c.descriptor.fqName] = _
      rw [hadds.logs_eq, hfqName]
      rfl

end Factory

end MetricBundle
