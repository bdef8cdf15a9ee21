import MetricBundle.Population

/-!
# Populating is fail-soft

Populating goes through the fields of a schema with three things in hand: a factory, which works in
a monad of its own and answers as it likes; the slots; and the failures so far.  The three come
apart (`populateFields_eq`).  What a field is asked for (`Field.call?`) depends on no answer, so the
factory is consulted about every field first, in order.  The answers then settle everything else:
the metrics in the slots (`Slots.settled`) and the failures (`failuresAfter`).

There is one way for a field to keep the others from their metrics.  At a field that is not skipped
and has a value that overflows (`Field.stalls`) the factory is told to give up, and what follows is
up to its monad.  So a schema is populated in full by all factories (`Schema.PopulatedInFull`) if
and only if none of its fields stalls.
-/

namespace MetricBundle

/-- What a factory says about a field; nothing if it was not asked. -/
abbrev Reply := Option (Except Error Metric)

namespace Field

/-- The request that is made for a field, if one is made. -/
def call? (f : Field) : Option Request := if f.skip then none else f.request?

/-- Populating gives up at the field. -/
def stalls (f : Field) : Bool := !f.skip && f.overflows

/-- The failures of a field about which the factory said something: those of its resolution if the
factory was not asked, or else those of the answer. -/
def failuresAfter (f : Field) (answer : Reply) : List Failure :=
  if f.skip then []
  else
    match answer with
    | none => f.resolutionFailures
    | some (.ok _) => []
    | some (.error e) => e.failures

end Field

/-- The failures of fields, each with its answer, in order. -/
def failuresAfter (fields : List Field) (answers : List Reply) : List Failure :=
  (fields.zip answers).flatMap fun p => p.1.failuresAfter p.2

/-- Asks a factory about a field.  It gives up first if the field stalls. -/
def MetricFactory.consult {m : Type → Type} [Monad m] (factory : MetricFactory m) (f : Field) :
    m Reply := do
  if f.stalls then factory.abandon
  f.call?.mapM factory.request

namespace Slots

/-- What a slot holds after an answer: the metric of the answer if there is one. -/
def slotAfter (old : Option Metric) : Reply → Option Metric
  | some (.ok metric) => some metric
  | _ => old

/-- The slots after answers, given in the order of the fields. -/
def settled (s : Slots) (answers : List Reply) : Slots where
  schema := s.schema
  metrics := s.metrics.mapIdx fun i old => slotAfter old (answers[i]?).join
  aligned := by rw [List.length_mapIdx, s.aligned]

end Slots

/-- **The schema is populated in full by every factory.**  Slots laid out for it are populated by
making the request of each field that has one, in order and whatever is answered.  The answers
settle the slots and the failures. -/
def Schema.PopulatedInFull (schema : Schema) : Prop :=
  ∀ {m : Type → Type} [Monad m] [LawfulMonad m] (factory : MetricFactory m) (s : Slots),
    s.schema = schema →
      s.populate factory schema = do
        let answers ← schema.fields.mapM fun f => f.call?.mapM factory.request
        pure (s.settled answers, ⟨failuresAfter schema.fields answers⟩)

/-! ## Requests -/

theorem Resolved.usable?_eq_some_iff {r : Resolved} {opts : MetricOpts} :
    r.usable? = some opts ↔ r.opts = some opts ∧ r.faults = [] := by
  simp only [usable?, List.isEmpty_iff, Option.ite_none_right_eq_some]
  exact And.comm

namespace Field

theorem request?_eq_some_iff {f : Field} {r : Request} :
    f.request? = some r ↔
      f.resolve.opts = some r.opts ∧ f.resolve.faults = [] ∧
        r.labels = if f.resolve.labelNames = [] then none else some f.resolve.labelNames := by
  obtain ⟨opts, labels⟩ := r
  simp only [request?, Option.map_eq_some_iff, Resolved.usable?_eq_some_iff, List.isEmpty_iff,
    Request.mk.injEq]
  constructor
  · rintro ⟨_, ⟨ho, hf⟩, rfl, rfl⟩
    exact ⟨ho, hf, rfl⟩
  · rintro ⟨ho, hf, rfl⟩
    exact ⟨opts, ⟨ho, hf⟩, rfl, rfl⟩

/-- A request is made for a field that is not skipped and resolves to options without a fault.  It
is for a vector if there are label names. -/
theorem call?_eq_some_iff {f : Field} {r : Request} :
    f.call? = some r ↔
      f.skip = false ∧ f.resolve.opts = some r.opts ∧ f.resolve.faults = [] ∧
        r.labels = if f.resolve.labelNames = [] then none else some f.resolve.labelNames := by
  rw [call?, Option.ite_none_left_eq_some, request?_eq_some_iff, Bool.not_eq_true]

/-- Nothing is wrong with a field for which there is a request. -/
theorem resolutionFailures_of_request? {f : Field} {r : Request} (h : f.request? = some r) :
    f.resolutionFailures = [] := by
  rw [resolutionFailures, (request?_eq_some_iff.mp h).2.1, List.map_nil]

theorem failuresAfter_of_skip {f : Field} (h : f.skip = true) (reply : Reply) :
    f.failuresAfter reply = [] := if_pos h

section NotSkipped

variable {f : Field} (h : f.skip = false)
include h

theorem failuresAfter_none : f.failuresAfter none = f.resolutionFailures := by
  rw [failuresAfter, h]
  rfl

theorem failuresAfter_ok (metric : Metric) : f.failuresAfter (some (.ok metric)) = [] := by
  rw [failuresAfter, h]
  rfl

theorem failuresAfter_error (e : Error) : f.failuresAfter (some (.error e)) = e.failures := by
  rw [failuresAfter, h]
  rfl

end NotSkipped

theorem call?_of_skip {f : Field} (h : f.skip = true) : f.call? = none := if_pos h

theorem call?_of_not_skip {f : Field} (h : f.skip = false) : f.call? = f.request? := by
  rw [call?, h]
  rfl

end Field

theorem Errors.push_eq_append (es : Errors) (e : Error) : es.push e = es.append ⟨e.failures⟩ := by
  cases e <;> rfl

/-! ## Settling the slots -/

namespace Slots

theorem ext_metrics {s t : Slots} (hschema : s.schema = t.schema)
    (hmetrics : ∀ i : Nat, s.metrics[i]? = t.metrics[i]?) : s = t := by
  obtain ⟨schema, metrics, aligned⟩ := s
  obtain rfl : schema = t.schema := hschema
  obtain rfl : metrics = t.metrics := List.ext_getElem? hmetrics
  rfl

theorem getElem?_settled (s : Slots) (answers : List Reply) (i : Nat) :
    (s.settled answers).metrics[i]? =
      s.metrics[i]?.map fun old => slotAfter old (answers[i]?).join :=
  List.getElem?_mapIdx

/-- Answers beginning with the one about the field of the given index, as answers about all
fields. -/
def answersFrom (index : Nat) (answers : List Reply) : List Reply :=
  List.replicate index none ++ answers

theorem join_answersFrom (k : Nat) (answers : List Reply) (i : Nat) :
    (answersFrom k answers)[i]?.join = if i < k then none else (answers[i - k]?).join := by
  rw [answersFrom, List.getElem?_append, List.length_replicate]
  split
  case isTrue h => rw [List.getElem?_replicate, if_pos h, Option.join_some]
  case isFalse h => rfl

/-- An answer without a metric leaves the slots as they are. -/
theorem settled_singleton_of_no_metric (s : Slots) (k : Nat) {answer : Reply}
    (h : ∀ metric, answer ≠ some (.ok metric)) : s.settled (answersFrom k [answer]) = s := by
  have hkeep (old : Option Metric) : slotAfter old answer = old := by
    match answer, h with
    | none, _ => rfl
    | some (.error _), _ => rfl
    | some (.ok metric), h => exact absurd rfl (h metric)
  refine ext_metrics rfl fun i => ?_
  rw [getElem?_settled, join_answersFrom]
  split
  case isTrue => exact Option.map_id'
  case isFalse =>
    match i - k with
    | 0 => simp only [List.getElem?_cons_zero, Option.join_some, hkeep, Option.map_id']
    | _ + 1 => exact Option.map_id'

theorem settled_singleton_none (s : Slots) (k : Nat) : s.settled (answersFrom k [none]) = s :=
  settled_singleton_of_no_metric s k fun _ h => nomatch h

theorem settled_singleton_of_metric (s : Slots) (k : Nat) (metric : Metric) :
    s.settled (answersFrom k [some (.ok metric)]) = s.put k (some metric) := by
  refine ext_metrics rfl fun i => ?_
  rw [getElem?_settled, join_answersFrom, put, List.getElem?_set]
  rcases Nat.lt_trichotomy i k with hlt | rfl | hgt
  · rw [if_pos hlt, if_neg (by omega)]
    exact Option.map_id'
  · rw [if_neg (Nat.lt_irrefl i), Nat.sub_self, if_pos rfl]
    cases hi : s.metrics[i]? with
    | none => rw [if_neg (by rwa [List.getElem?_eq_none_iff, ← Nat.not_lt] at hi)]; rfl
    | some old => rw [if_pos (List.getElem?_eq_some_iff.mp hi).1]; rfl
  · rw [if_neg (by omega), if_neg (by omega)]
    obtain ⟨j, hj⟩ : ∃ j, i - k = j + 1 := ⟨i - k - 1, by omega⟩
    rw [hj]
    exact Option.map_id'

theorem length_settled (s : Slots) (answers : List Reply) :
    (s.settled answers).metrics.length = s.metrics.length :=
  List.length_mapIdx

/-- Slots stay as they are as long as there are no answers. -/
theorem settled_answersFrom_nil (s : Slots) (k : Nat) : s.settled (answersFrom k []) = s := by
  refine ext_metrics rfl fun i => ?_
  rw [getElem?_settled, join_answersFrom, List.getElem?_nil, Option.join_none, ite_self]
  exact Option.map_id'

/-- Answers settle the slots one after the other. -/
theorem settled_cons (s : Slots) (k : Nat) (answer : Reply) (answers : List Reply) :
    (s.settled (answersFrom k [answer])).settled (answersFrom (k + 1) answers) =
      s.settled (answersFrom k (answer :: answers)) := by
  refine ext_metrics rfl fun i => ?_
  simp only [getElem?_settled, join_answersFrom, Option.map_map]
  congr 1
  funext old
  -- the answer is about slot `k`, the answers after it about the slots after that
  rcases Nat.lt_trichotomy i k with hlt | rfl | hgt
  · simp only [Function.comp_apply, hlt, Nat.lt_succ_of_lt hlt, ↓reduceIte]
    rfl
  · simp only [Function.comp_apply, Nat.lt_irrefl, Nat.lt_succ_self, ↓reduceIte, Nat.sub_self]
    rfl
  · obtain ⟨j, rfl⟩ : ∃ j, i = k + 1 + j := ⟨i - (k + 1), by omega⟩
    have hj : k + 1 + j - k = j + 1 := by omega
    simp only [Function.comp_apply, hj, show ¬k + 1 + j < k by omega,
      show ¬k + 1 + j < k + 1 by omega, ↓reduceIte, Nat.add_sub_cancel_left]
    rfl

/-! ## Populating as consulting -/

variable {m : Type → Type} [Monad m]

theorem receive_eq {s : Slots} {k : Nat} (hk : k < s.metrics.length)
    (answer : Except Error Metric) (es : Errors) :
    s.receive k answer es =
      (s.settled (answersFrom k [some answer]),
        match answer with
        | .ok _ => es
        | .error e => es.push e) := by
  cases answer with
  | error e =>
    rw [settled_singleton_of_no_metric s k (by simp)]
    rfl
  | ok metric =>
    rw [settled_singleton_of_metric]
    simp only [receive, set, if_pos hk]

theorem populate_foreign (factory : MetricFactory m) {schema : Schema} {s : Slots}
    (hs : s.schema ≠ schema) :
    s.populate factory schema =
      pure (s, ⟨[.invalidBundle schema.typeName (.foreignSlots s.schema.typeName)]⟩) := by
  rw [populate, if_neg hs]
  rfl

variable [LawfulMonad m]

/-- What populating does at a field once it is known not to be skipped and not to stall. -/
theorem request_receive_eq (factory : MetricFactory m) {k : Nat} {f : Field} {s : Slots}
    (es : Errors) (hk : k < s.metrics.length) (hskip : f.skip = false) :
    (match f.request? with
      | none => pure (s, es.append ⟨f.resolutionFailures⟩)
      | some r => do
        let answer ← factory.request r
        pure (s.receive k answer (es.append ⟨f.resolutionFailures⟩))) = (do
      let answer ← f.request?.mapM factory.request
      pure (s.settled (answersFrom k [answer]), es.append ⟨f.failuresAfter answer⟩)) := by
  have hempty : es.append ⟨[]⟩ = es := by simp only [Errors.append, List.append_nil]
  cases hrequest : f.request? with
  | none =>
    rw [Option.mapM_none, pure_bind, settled_singleton_none, Field.failuresAfter_none hskip]
  | some r =>
    simp only [Option.mapM_some, map_eq_pure_bind, bind_assoc, pure_bind]
    congr 1
    funext answer
    rw [Field.resolutionFailures_of_request? hrequest, hempty, receive_eq hk]
    cases answer with
    | ok metric => rw [Field.failuresAfter_ok hskip, hempty]
    | error e => rw [Field.failuresAfter_error hskip, ← Errors.push_eq_append]

/-- Populating the slot of a field is consulting the factory about it and settling the slot and the
failures by the answer. -/
theorem populateField_eq (factory : MetricFactory m) {k : Nat} (f : Field) {s : Slots}
    (es : Errors) (hk : k < s.metrics.length) :
    populateField factory k f s es = (do
      let answer ← factory.consult f
      pure (s.settled (answersFrom k [answer]), es.append ⟨f.failuresAfter answer⟩)) := by
  cases hskip : f.skip with
  | true =>
    simp only [populateField, MetricFactory.consult, Field.stalls, Field.call?_of_skip hskip,
      Field.failuresAfter_of_skip hskip, hskip, ↓reduceIte, Bool.not_true, Bool.false_and,
      Bool.false_eq_true, Option.mapM_none, pure_bind]
    rw [settled_singleton_none]
    simp only [Errors.append, List.append_nil]
  | false =>
    have hasked := request_receive_eq factory es hk hskip
    simp only [populateField, MetricFactory.consult, Field.stalls, Field.call?_of_not_skip hskip,
      hskip, Bool.not_false, Bool.true_and, Bool.false_eq_true, ↓reduceIte]
    -- a factory that gave up is treated as if it might go on
    split
    case isTrue =>
      rw [bind_assoc]
      congr 1
      funext
      exact hasked
    case isFalse => exact hasked

theorem populateFields_eq (factory : MetricFactory m) (fs : List Field) {k : Nat} {s : Slots}
    (es : Errors) (hk : k + fs.length ≤ s.metrics.length) :
    populateFields factory k fs s es = (do
      let answers ← fs.mapM factory.consult
      pure (s.settled (answersFrom k answers), es.append ⟨failuresAfter fs answers⟩)) := by
  induction fs generalizing k s es with
  | nil =>
    rw [List.mapM_nil, pure_bind, settled_answersFrom_nil]
    simp only [populateFields, failuresAfter, List.zip_nil_right, List.flatMap_nil, Errors.append,
      List.append_nil]
  | cons f fs ih =>
    rw [List.length_cons] at hk
    rw [populateFields, populateField_eq factory f es (by omega), List.mapM_cons]
    simp only [bind_assoc, pure_bind]
    congr 1
    funext answer
    -- the fields that follow are asked for the same whatever the answer was
    rw [ih (es.append ⟨f.failuresAfter answer⟩) (by rw [length_settled]; omega)]
    congr 1
    funext answers
    simp only [settled_cons, failuresAfter, List.zip_cons_cons, List.flatMap_cons, Errors.append,
      List.append_assoc]

/-- **Populating consults the factory about every field in order, and then the answers alone decide
what the slots hold and what has failed.** -/
theorem populate_eq (factory : MetricFactory m) {schema : Schema} {s : Slots}
    (hs : s.schema = schema) :
    s.populate factory schema = (do
      let answers ← schema.fields.mapM factory.consult
      pure (s.settled answers, ⟨failuresAfter schema.fields answers⟩)) := by
  have hlength : 0 + schema.fields.length ≤ s.metrics.length := by
    rw [s.aligned, hs]
    omega
  rw [populate, if_pos hs, populateFields_eq factory schema.fields Errors.empty hlength]
  rfl

end Slots

/-! ## Fields at which populating gives up -/

theorem Field.stalls_eq_false_iff {f : Field} :
    f.stalls = false ↔ (f.skip = false → f.overflows = false) := by
  cases hskip : f.skip <;> simp [stalls, hskip]

section Stalls

variable {m : Type → Type} [Monad m] (factory : MetricFactory m) {f : Field}

/-- A value that overflows is a fault, so nothing is asked for. -/
theorem Field.call?_of_stalls (h : f.stalls = true) : f.call? = none := by
  simp only [stalls, Bool.and_eq_true, Bool.not_eq_true', overflows, Noted.overflows,
    List.any_eq_true] at h
  obtain ⟨-, fault, hmem, -⟩ := h
  refine Option.eq_none_iff_forall_ne_some.mpr fun r hr => ?_
  have hfaults : f.resolveNoted.faults = [] := (call?_eq_some_iff.mp hr).2.2.1
  rw [hfaults] at hmem
  exact List.not_mem_nil hmem

theorem MetricFactory.consult_of_stalls (h : f.stalls = true) :
    factory.consult f = (do
      factory.abandon
      pure none) := by
  rw [consult, if_pos h, Field.call?_of_stalls h]
  rfl

theorem MetricFactory.consult_of_not_stalls (h : f.stalls = false) :
    factory.consult f = f.call?.mapM factory.request := by
  rw [consult, if_neg (Bool.eq_false_iff.mp h)]

variable [LawfulMonad m]

theorem MetricFactory.mapM_consult {fields : List Field} (h : ∀ f ∈ fields, f.stalls = false) :
    fields.mapM factory.consult = fields.mapM fun f => f.call?.mapM factory.request := by
  induction fields with
  | nil => rfl
  | cons f fields ih =>
    obtain ⟨hf, hfields⟩ := List.forall_mem_cons.mp h
    rw [List.mapM_cons, List.mapM_cons, factory.consult_of_not_stalls hf, ih hfields]

/-- The first field that stalls makes the factory give up, when the fields before it have been
asked for. -/
theorem Slots.populate_stalled {schema : Schema} {s : Slots} (hs : s.schema = schema)
    {before after : List Field} (hfields : schema.fields = before ++ f :: after)
    (hbefore : ∀ g ∈ before, g.stalls = false) (hf : f.stalls = true) :
    s.populate factory schema = (do
      let answers ← before.mapM fun g => g.call?.mapM factory.request
      factory.abandon
      let others ← after.mapM factory.consult
      let answers := answers ++ none :: others
      pure (s.settled answers, ⟨failuresAfter schema.fields answers⟩)) := by
  rw [populate_eq factory hs, hfields, List.mapM_append, List.mapM_cons,
    factory.mapM_consult hbefore, factory.consult_of_stalls hf]
  simp only [bind_assoc, pure_bind]

end Stalls

namespace Schema

theorem populatedInFull_of_no_stall {schema : Schema}
    (h : ∀ f ∈ schema.fields, f.stalls = false) : schema.PopulatedInFull := by
  intro m _ _ factory s hs
  rw [Slots.populate_eq factory hs, factory.mapM_consult h]

/-- A factory in which everything ends once it gives up. -/
def quitter : MetricFactory Option where
  request _ := some (.error (.single .noMetricName))
  abandon := none

/-- No request ends the quitter. -/
theorem mapM_quitter (fields : List Field) :
    (fields.mapM fun f : Field => f.call?.mapM quitter.request) =
      some (fields.map fun f => f.call?.map fun _ => .error (.single .noMetricName)) := by
  have hasked : (fun f : Field => f.call?.mapM quitter.request) =
      fun f => pure (f.call?.map fun _ => .error (.single .noMetricName)) := by
    funext f
    cases f.call? <;> rfl
  rw [hasked, List.mapM_pure]
  rfl

theorem not_populatedInFull_of_stall {schema : Schema} {f : Field} (hmem : f ∈ schema.fields)
    (hf : f.stalls = true) : ¬schema.PopulatedInFull := by
  intro hfull
  -- the first field that stalls ends the quitter, which the requests alone would not
  obtain ⟨g, hg⟩ := Option.isSome_iff_exists.mp (List.find?_isSome.mpr ⟨f, hmem, hf⟩)
  obtain ⟨hstalls, before, after, hfields, hbefore⟩ := List.find?_eq_some_iff_append.mp hg
  have hbefore : ∀ a ∈ before, a.stalls = false := by simpa using hbefore
  let s := Slots.ofSchema schema
  have hs : s.schema = schema := rfl
  have hstop : s.populate quitter schema = none := by
    rw [Slots.populate_stalled quitter hs hfields hbefore hstalls, mapM_quitter]
    rfl
  rw [hfull quitter s hs, mapM_quitter] at hstop
  cases hstop

theorem populatedInFull_iff {schema : Schema} :
    schema.PopulatedInFull ↔ ∀ f ∈ schema.fields, f.stalls = false := by
  constructor
  · intro hfull f hmem
    rw [← Bool.not_eq_true]
    exact fun hf => not_populatedInFull_of_stall hmem hf hfull
  · exact populatedInFull_of_no_stall

/-! ## What a factory notices -/

section Recorded

variable {σ : Type} (answer : Request → StateM σ (Except Error Metric))

/-- A factory that answers by some state of its own and keeps a record of the requests it got. -/
def recording : MetricFactory (StateM (List Request × σ)) where
  request r := fun (calls, state) =>
    let (given, state) := answer r state
    (given, calls ++ [r], state)
  abandon := pure ()

theorem calls_mapM_recording (fields : List Field) (calls : List Request) (state : σ) :
    ((fields.mapM fun f : Field => f.call?.mapM (recording answer).request) (calls, state)).2.1 =
      calls ++ fields.filterMap Field.call? := by
  induction fields generalizing calls state with
  | nil => exact (List.append_nil calls).symm
  | cons f fields ih =>
    rw [List.mapM_cons]
    cases hcall : f.call? with
    | none =>
      rw [List.filterMap_cons_none hcall]
      exact ih calls state
    | some r =>
      rw [List.filterMap_cons_some hcall, List.append_cons]
      exact ih (calls ++ [r]) (answer r state).2

/-- A schema that is populated in full has one request for each field that has one, in order,
however the factory answers. -/
theorem PopulatedInFull.calls {schema : Schema} (h : schema.PopulatedInFull) {s : Slots}
    (hs : s.schema = schema) (calls : List Request) (state : σ) :
    (s.populate (recording answer) schema (calls, state)).2.1 =
      calls ++ schema.fields.filterMap Field.call? := by
  rw [h (recording answer) s hs]
  exact calls_mapM_recording answer schema.fields calls state

end Recorded

end Schema

theorem Errors.toExcept_eq_ok_iff (es : Errors) : es.toExcept = .ok () ↔ es.toList = [] := by
  simp only [toExcept, isEmpty, List.isEmpty_iff]
  split
  case isTrue h => simp only [h]
  case isFalse h => simp only [h, reduceCtorEq]

/-- **Populating is fail-soft, up to overflows.**  Slots that were laid out for another schema stay
as they are and the factory is not asked.  Otherwise a schema is populated in full by every factory
if and only if no value overflows in a field that is not skipped; the first such field makes the
factory give up, when the requests of the fields before it have been made.  A request is made for
just the fields that are not skipped and resolve to options without a fault, and populating succeeds
if nothing has failed. -/
theorem Schema.populated_unless_overflow (schema : Schema) :
    (∀ {m : Type → Type} [Monad m] (factory : MetricFactory m) (s : Slots), s.schema ≠ schema →
      s.populate factory schema =
        pure (s, ⟨[.invalidBundle schema.typeName (.foreignSlots s.schema.typeName)]⟩)) ∧
    (schema.PopulatedInFull ↔ ∀ f ∈ schema.fields, f.skip = false → f.overflows = false) ∧
    (∀ before f after, schema.fields = before ++ f :: after →
      (∀ g ∈ before, g.skip = false → g.overflows = false) →
      f.skip = false → f.overflows = true →
      ∀ {m : Type → Type} [Monad m] [LawfulMonad m] (factory : MetricFactory m) (s : Slots),
        s.schema = schema →
          ∃ rest : List Reply → m (Slots × Errors),
            s.populate factory schema = do
              let answers ← before.mapM fun g => g.call?.mapM factory.request
              factory.abandon
              rest answers) ∧
    (∀ (f : Field) (r : Request), f.call? = some r ↔
      f.skip = false ∧ f.resolve.opts = some r.opts ∧ f.resolve.faults = [] ∧
        r.labels = if f.resolve.labelNames = [] then none else some f.resolve.labelNames) ∧
    ∀ es : Errors, es.toExcept = .ok () ↔ es.toList = [] := by
  refine ⟨fun factory s hs => Slots.populate_foreign factory hs, ?_, ?_,
    fun f r => Field.call?_eq_some_iff, Errors.toExcept_eq_ok_iff⟩
  · simp only [populatedInFull_iff, Field.stalls_eq_false_iff]
  · intro before f after hfields hbefore hskip hover m _ _ factory s hs
    have hstalls : f.stalls = true := by rw [Field.stalls, hskip, hover]; rfl
    have hnone : ∀ g ∈ before, g.stalls = false := fun g hg =>
      Field.stalls_eq_false_iff.mpr (hbefore g hg)
    exact ⟨_, Slots.populate_stalled factory hs hfields hnone hstalls⟩

/-- A summary whose window is longer than any length of time. -/
def endless : Field :=
  (Field.ofKind "latency" (.metric .summary .scalar)).withTag .maxAge "18446744073709551615s 1000ms"

/-- A field that stalls, and then a counter. -/
def stalled : Schema where
  typeName := "Stalled"
  fields := [endless, Field.ofKind "requests" (.metric .counter .scalar)]

/-- There is a request for the counter, but populating fails before it is made. -/
theorem stalled_not_populatedInFull :
    ¬stalled.PopulatedInFull ∧ (stalled.fields.filterMap Field.call?).length = 1 ∧
      ∀ (factory : Factory) (t : Telemetry),
        (Slots.ofSchema stalled).populate factory.toMetricFactory stalled t =
          (.error .tagOverflow, t) := by
  have hstalls : endless.stalls = true := by decide
  have hfields : stalled.fields = [] ++ endless :: _ := rfl
  have hbefore : ∀ g ∈ ([] : List Field), g.stalls = false := fun _ h => nomatch h
  refine ⟨Schema.not_populatedInFull_of_stall List.mem_cons_self hstalls, by decide, ?_⟩
  intro factory t
  have hs : (Slots.ofSchema stalled).schema = stalled := rfl
  exact congrFun (Slots.populate_stalled factory.toMetricFactory hs hfields hbefore hstalls) t

end MetricBundle
