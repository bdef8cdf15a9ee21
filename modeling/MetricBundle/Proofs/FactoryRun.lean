import MetricBundle.Proofs.FailSoft
import Mathlib.Data.List.Forall2

/-!
# Runs of a factory

A factory acts on telemetry, and what it does may end in a fault.  This module reads off a run that
ended well what each of its parts gave: a run of several actions is a run of each, from where the
one before it ended (`Action.bind_eq_ok`, `Action.forall₂_of_mapM`).

Enrolling what has been made can end in four ways (`Factory.enrol_cases`).  A request that is
answered with a metric is answered with what it asks for (`Factory.newMetric_eq_ok`): the options
decide the instrument, and a vector is made if and only if there are label names.  A request that is
refused is refused with one failure.  So when populating ends well, the reply about each field is
what that field's own request was answered with, in some state of the telemetry
(`Factory.Replied`).
-/

namespace MetricBundle

namespace Action

variable {α β : Type} {t t' : Telemetry}

theorem pure_eq_ok {a b : α} (h : (pure a : Action α) t = (.ok b, t')) : a = b ∧ t = t' := by
  injection h with hvalue ht
  exact ⟨Except.ok.inj hvalue, ht⟩

/-- After an action that ended well comes what it is followed by. -/
theorem bind_of_ok {x : Action α} {a : α} {t₁ : Telemetry} (h : x t = (.ok a, t₁))
    (k : α → Action β) : (x >>= k) t = k a t₁ := by
  show (let p := x t; ExceptT.bindCont k p.1 p.2) = _
  rw [h]
  rfl

theorem bind_of_error {x : Action α} {fault : Fault} {t₁ : Telemetry}
    (h : x t = (.error fault, t₁)) (k : α → Action β) : (x >>= k) t = (.error fault, t₁) := by
  show (let p := x t; ExceptT.bindCont k p.1 p.2) = _
  rw [h]
  rfl

/-- Two actions end well if the first ends well and the second does from there. -/
theorem bind_eq_ok {x : Action α} {k : α → Action β} {b : β}
    (h : (x >>= k) t = (.ok b, t')) :
    ∃ a t₁, x t = (.ok a, t₁) ∧ k a t₁ = (.ok b, t') := by
  rcases hx : x t with ⟨result, t₁⟩
  cases result with
  | ok a => exact ⟨a, t₁, rfl, by rw [← h, bind_of_ok hx]⟩
  | error fault =>
    rw [bind_of_error hx] at h
    cases h

/-- Actions that are taken in order and all end well have each ended well, from some state. -/
theorem forall₂_of_mapM {f : α → Action β} {as : List α} {bs : List β}
    (h : as.mapM f t = (.ok bs, t')) :
    List.Forall₂ (fun a b => ∃ t₁ t₂, f a t₁ = (.ok b, t₂)) as bs := by
  induction as generalizing bs t t' with
  | nil =>
    obtain ⟨rfl, -⟩ := pure_eq_ok h
    exact .nil
  | cons a as ih =>
    rw [List.mapM_cons] at h
    obtain ⟨b, t₁, hb, h⟩ := bind_eq_ok h
    obtain ⟨rest, t₂, hrest, h⟩ := bind_eq_ok h
    obtain ⟨rfl, -⟩ := pure_eq_ok h
    exact .cons ⟨t, t₁, hb⟩ (ih hrest)

end Action

/-! ## What a request is answered with -/

theorem Blueprint.of_eq_ok {r : Request} {b : Blueprint} (h : Blueprint.of r = .ok b) :
    b.opts = r.opts ∧ b.shape = r.shape := by
  unfold Blueprint.of at h
  split at h
  case h_1 => cases h
  case h_2 =>
    cases hd : Descriptor.of r.opts.common r.variableLabels with
    | error e =>
      rw [hd] at h
      cases h
    | ok d =>
      rw [hd] at h
      obtain rfl := Except.ok.inj h
      exact ⟨rfl, rfl⟩

theorem Telemetry.build_eq_ok {b : Blueprint} {t t' : Telemetry} {m : Metric}
    (h : t.build b = .ok (m, t')) : m.instrument = b.instrument ∧ m.shape = b.shape := by
  unfold build at h
  split at h
  case h_1 hshape =>
    cases hs : b.onlySeries t.now with
    | error e =>
      rw [hs] at h
      cases h
    | ok s =>
      rw [hs] at h
      obtain ⟨rfl, -⟩ := Prod.mk.inj (Except.ok.inj h)
      exact ⟨rfl, rfl⟩
  case h_2 hshape =>
    obtain ⟨rfl, -⟩ := Prod.mk.inj (Except.ok.inj h)
    exact ⟨rfl, rfl⟩

theorem Telemetry.make_eq_ok {r : Request} {t t' : Telemetry} {m : Metric}
    (h : t.make r = .ok (m, t')) : m.instrument = r.opts.instrument ∧ m.shape = r.shape := by
  unfold make at h
  split at h
  case h_1 b hb =>
    obtain ⟨hopts, hshape⟩ := Blueprint.of_eq_ok hb
    rw [← hopts, ← hshape]
    exact build_eq_ok h
  case h_2 => cases h

namespace Factory

variable {α : Type} {collector : α → Collector} {made : Except Fault (α × Telemetry)}
  {t t' : Telemetry}

/-- What `enrol` comes to, in each of the four ways it can end. -/
theorem enrol_cases (collector : α → Collector) (made : Except Fault (α × Telemetry))
    (t : Telemetry) :
    (∃ e, made = .error (.metric e) ∧
      enrol collector made t = (.ok (.error (.single (.metric e))), t)) ∨
    (∃ fault, made = .error fault ∧ enrol collector made t = (.error fault, t)) ∨
    (∃ a extended e, made = .ok (a, extended) ∧ extended.register (collector a) = .error e ∧
      enrol collector made t = (.ok (.error (.single (.metric e))), t)) ∨
    (∃ a extended registered, made = .ok (a, extended) ∧
      extended.register (collector a) = .ok registered ∧
      enrol collector made t =
        (.ok (.ok a), registered.log (.registered (collector a).descriptor.fqName))) := by
  cases made with
  | error fault =>
    cases fault with
    | metric e => exact .inl ⟨e, rfl, rfl⟩
    | clockRange | counterFall | tagOverflow => exact .inr (.inl ⟨_, rfl, rfl⟩)
  | ok p =>
    obtain ⟨a, extended⟩ := p
    cases hregister : extended.register (collector a) with
    | error e =>
      refine .inr (.inr (.inl ⟨a, extended, e, rfl, hregister, ?_⟩))
      simp only [enrol, hregister]
    | ok registered =>
      refine .inr (.inr (.inr ⟨a, extended, registered, rfl, hregister, ?_⟩))
      simp only [enrol, hregister]

/-- Something is enrolled just if it was made and could be registered. -/
theorem enrol_eq_ok_iff {a : α} :
    enrol collector made t = (.ok (.ok a), t') ↔
      ∃ extended registered, made = .ok (a, extended) ∧
        extended.register (collector a) = .ok registered ∧
        t' = registered.log (.registered (collector a).descriptor.fqName) := by
  constructor
  · intro h
    rcases enrol_cases collector made t with ⟨e, -, hend⟩ | ⟨fault, -, hend⟩ |
      ⟨b, extended, e, -, -, hend⟩ | ⟨b, extended, registered, hmade, hregister, hend⟩
    · cases hend.symm.trans h
    · cases hend.symm.trans h
    · cases hend.symm.trans h
    · obtain ⟨hanswer, rfl⟩ := Prod.mk.inj (hend.symm.trans h)
      obtain rfl := Except.ok.inj (Except.ok.inj hanswer)
      exact ⟨extended, registered, hmade, hregister, rfl⟩
  · rintro ⟨extended, registered, rfl, hregister, rfl⟩
    simp only [enrol, hregister]

theorem enrol_eq_error {e : Error} (h : enrol collector made t = (.ok (.error e), t')) :
    ∃ cause, e = .single (.metric cause) := by
  rcases enrol_cases collector made t with ⟨cause, -, hend⟩ | ⟨fault, -, hend⟩ |
    ⟨a, extended, cause, -, -, hend⟩ | ⟨a, extended, registered, -, -, hend⟩
  · obtain ⟨hanswer, -⟩ := Prod.mk.inj (hend.symm.trans h)
    exact ⟨cause, (Except.error.inj (Except.ok.inj hanswer)).symm⟩
  · cases hend.symm.trans h
  · obtain ⟨hanswer, -⟩ := Prod.mk.inj (hend.symm.trans h)
    exact ⟨cause, (Except.error.inj (Except.ok.inj hanswer)).symm⟩
  · cases hend.symm.trans h

variable {f : Factory} {r : Request}

@[simp] theorem shape_prepareRequest : (f.prepareRequest r).shape = r.shape := rfl

@[simp] theorem instrument_prepareRequest :
    (f.prepareRequest r).opts.instrument = r.opts.instrument :=
  r.opts.instrument_withCommon _

/-- **The metric that answers a request is of the instrument of its options, and a vector if the
request has label names.** -/
theorem newMetric_eq_ok {m : Metric} (h : f.newMetric r t = (.ok (.ok m), t')) :
    m.instrument = r.opts.instrument ∧ m.shape = r.shape := by
  unfold newMetric at h
  split at h
  case isTrue => cases h
  case isFalse =>
    obtain ⟨_, _, hmade, -, -⟩ := enrol_eq_ok_iff.mp h
    rw [← f.instrument_prepareRequest, ← f.shape_prepareRequest]
    exact Telemetry.make_eq_ok hmade

/-- A request is refused for want of a name, or since its metric cannot be made or registered. -/
theorem newMetric_error_cases {e : Error} (h : f.newMetric r t = (.ok (.error e), t')) :
    e = .single .noMetricName ∨ ∃ cause, e = .single (.metric cause) := by
  unfold newMetric at h
  split at h
  case isTrue =>
    obtain ⟨hanswer, -⟩ := Prod.mk.inj h
    exact .inl (Except.error.inj (Except.ok.inj hanswer)).symm
  case isFalse => exact .inr (enrol_eq_error h)

theorem newMetric_eq_error {e : Error} (h : f.newMetric r t = (.ok (.error e), t')) :
    ∃ failure, e = .single failure := by
  rcases newMetric_error_cases h with he | ⟨cause, he⟩
  · exact ⟨_, he⟩
  · exact ⟨_, he⟩

/-! ## Populating with a factory -/

/-- **What the factory says about a field**: nothing if there is no request for the field, or else
what the request is answered with, in some state of the telemetry. -/
inductive Replied (factory : Factory) (field : Field) : Reply → Prop where
  | unasked : field.call? = none → Replied factory field none
  | answered {r : Request} {answer : Except Error Metric} {t t' : Telemetry} :
    field.call? = some r → factory.newMetric r t = (.ok answer, t') →
      Replied factory field (some answer)

/-- A factory that gives up never ends well, so a field about which it was consulted with success
does not stall. -/
theorem replied_of_consult {field : Field} {reply : Reply}
    (h : f.toMetricFactory.consult field t = (.ok reply, t')) : f.Replied field reply := by
  cases hstalls : field.stalls with
  | true =>
    -- giving up is a fault, after which there is no reply
    rw [MetricFactory.consult_of_stalls _ hstalls] at h
    obtain ⟨_, _, hfault, -⟩ := Action.bind_eq_ok h
    cases hfault
  | false =>
    rw [MetricFactory.consult_of_not_stalls _ hstalls] at h
    cases hcall : field.call? with
    | none =>
      rw [hcall] at h
      obtain ⟨rfl, -⟩ := Action.pure_eq_ok h
      exact .unasked hcall
    | some r =>
      rw [hcall, Option.mapM_some, map_eq_pure_bind] at h
      obtain ⟨answer, _, hanswer, h⟩ := Action.bind_eq_ok h
      obtain ⟨rfl, -⟩ := Action.pure_eq_ok h
      exact .answered hcall hanswer

/-- **When populating ends well, the factory has replied about every field, and the replies settle
the slots and the failures.** -/
theorem populate_eq_ok {schema : Schema} {s s' : Slots} {errors : Errors}
    (hs : s.schema = schema)
    (h : s.populate f.toMetricFactory schema t = (.ok (s', errors), t')) :
    ∃ replies : List Reply, List.Forall₂ f.Replied schema.fields replies ∧
      s' = s.settled replies ∧ errors = ⟨failuresAfter schema.fields replies⟩ := by
  rw [Slots.populate_eq f.toMetricFactory hs] at h
  obtain ⟨replies, t₁, hreplies, h⟩ := Action.bind_eq_ok h
  obtain ⟨hresult, -⟩ := Action.pure_eq_ok h
  obtain ⟨rfl, rfl⟩ := Prod.mk.inj hresult
  exact ⟨replies, (Action.forall₂_of_mapM hreplies).imp
    fun _ _ ⟨_, _, hconsult⟩ => replied_of_consult hconsult, rfl, rfl⟩

/-- The reply about the field of an index. -/
theorem replied_getElem? {fields : List Field} {replies : List Reply}
    (h : List.Forall₂ f.Replied fields replies) {i : Nat} {field : Field}
    (hfield : fields[i]? = some field) :
    ∃ reply, replies[i]? = some reply ∧ f.Replied field reply := by
  obtain ⟨hlt, rfl⟩ := List.getElem?_eq_some_iff.mp hfield
  have hlt' : i < replies.length := h.length_eq ▸ hlt
  exact ⟨replies[i], List.getElem?_eq_getElem hlt', h.get hlt hlt'⟩

end Factory

end MetricBundle
