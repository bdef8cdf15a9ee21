import MetricBundle.Proofs.DerivedBundle
import MetricBundle.Proofs.ErrorCollection

/-!
# Errors that leave nothing behind

A collection of errors is a success as long as nothing is in it.  What is put into it are the
failures of an error, and there is one error without any: the bundle of no failures
(`Error.hollow`), which comes about whenever bundles of successes are put together
(`Errors.Item.error_eq_hollow_iff`).  So this error, and no other, is lost when it is added to a
collection (`Errors.toExcept_push_eq_ok_iff`).

The same holds for populating.  Whatever a factory does, it answers about just the fields it is
asked about (`Slots.populate_answered`).  Populating is a success if and only if no field has a
fault and every answer is a metric or hollow (`Field.toExcept_failuresAfter_iff`).  A metric is then
in its slot; after a hollow answer the slot is as it was.  The answers of a `Factory` are never
hollow.
-/

namespace MetricBundle

/-- The error without a failure. -/
def Error.hollow : Error := .bundle .empty

/-! ## Collections -/

theorem Error.failures_eq_nil_iff {e : Error} : e.failures = [] ↔ e = .hollow := by
  cases e with
  | single failure => simp [failures, hollow]
  | bundle errors =>
    constructor
    · intro hfailures
      have herrors : errors = .empty := congrArg Errors.mk hfailures
      rw [herrors, hollow]
    · intro hhollow
      rw [hhollow]
      rfl

namespace Errors

variable {α : Type} (es : Errors)

theorem toExcept_push_eq_ok_iff (e : Error) :
    (es.push e).toExcept = .ok () ↔ es.toList = [] ∧ e = .hollow := by
  rw [toExcept_eq_ok_iff, toList_push, List.append_eq_nil_iff, Error.failures_eq_nil_iff]

theorem toExcept_extend_eq_ok_iff (added : List Error) :
    (es.extend added).toExcept = .ok () ↔ es.toList = [] ∧ ∀ e ∈ added, e = .hollow := by
  rw [toExcept_eq_ok_iff, toList_extend, List.append_eq_nil_iff, List.flatMap_eq_nil_iff]
  simp only [Error.failures_eq_nil_iff]

/-- Checking a step that succeeded changes nothing. -/
theorem toExcept_check_eq_ok_iff (result : Except Error α) :
    (es.check result).1.toExcept = .ok () ↔
      es.toList = [] ∧ ∀ e, result = .error e → e = .hollow := by
  cases result with
  | ok value => simp [check, toExcept_eq_ok_iff]
  | error e => simp [check, toExcept_push_eq_ok_iff]

/-- An error is hollow if and only if nothing is in it, to any depth. -/
theorem Item.error_eq_hollow_iff (item : Item) : item.error = .hollow ↔ item.leaves = [] := by
  rw [← Error.failures_eq_nil_iff, item.failures_error]

end Errors

/-! ## Answers -/

namespace Field

/-- The reply about a field is an answer if and only if the factory is asked. -/
def Answered (f : Field) (reply : Reply) : Prop := reply.isSome = f.call?.isSome

variable {f : Field} {reply : Reply}

theorem Answered.eq_none (h : f.Answered reply) (hcall : f.call? = none) : reply = none := by
  simpa [Answered, hcall] using h

theorem Answered.exists_call? {answer : Except Error Metric} (h : f.Answered (some answer)) :
    ∃ r, f.call? = some r :=
  Option.isSome_iff_exists.mp h.symm

/-- A field has not failed if and only if it is skipped, or nothing is wrong with it and there is
nothing in the error that was answered. -/
theorem failuresAfter_eq_nil_iff (h : f.Answered reply) :
    f.failuresAfter reply = [] ↔
      (f.skip = false → f.resolutionFailures = []) ∧
        ∀ e, reply = some (.error e) → e = .hollow := by
  cases hskip : f.skip with
  | true =>
    have hnone : reply = none := h.eq_none (call?_of_skip hskip)
    simp [failuresAfter_of_skip hskip, hnone]
  | false =>
    match reply, h with
    | none, _ => simp [failuresAfter_none hskip]
    | some answer, h =>
      -- a field about which there is an answer has resolved without a fault
      obtain ⟨r, hcall⟩ := h.exists_call?
      rw [call?_of_not_skip hskip] at hcall
      have hresolved := resolutionFailures_of_request? hcall
      cases answer with
      | ok metric => simp [failuresAfter_ok hskip, hresolved]
      | error e => simp [failuresAfter_error hskip, hresolved, Error.failures_eq_nil_iff]

end Field

/-- The replies about fields, of which just those about the fields to ask about are answers. -/
abbrev AnsweredAll (fields : List Field) (replies : List Reply) : Prop :=
  List.Forall₂ Field.Answered fields replies

/-- **Nothing has failed if and only if no field has a fault and no error that was answered has
anything in it.** -/
theorem failuresAfter_eq_nil_iff {fields : List Field} {replies : List Reply}
    (h : AnsweredAll fields replies) :
    failuresAfter fields replies = [] ↔
      (∀ f ∈ fields, f.skip = false → f.resolutionFailures = []) ∧
        ∀ e, some (.error e) ∈ replies → e = .hollow := by
  induction h with
  | nil => simp [failuresAfter]
  | @cons f reply fields replies hanswered _ ih =>
    have hcons : failuresAfter (f :: fields) (reply :: replies) =
        f.failuresAfter reply ++ failuresAfter fields replies := rfl
    rw [hcons, List.append_eq_nil_iff, Field.failuresAfter_eq_nil_iff hanswered, ih]
    constructor
    · rintro ⟨⟨hresolved, hhollow⟩, hfields, hreplies⟩
      refine ⟨List.forall_mem_cons.mpr ⟨hresolved, hfields⟩, fun e he => ?_⟩
      rcases List.mem_cons.mp he with he | he
      · exact hhollow e he.symm
      · exact hreplies e he
    · rintro ⟨hfields, hreplies⟩
      obtain ⟨hresolved, hfields⟩ := List.forall_mem_cons.mp hfields
      exact ⟨⟨hresolved, fun e he => hreplies e (by simp [he])⟩, hfields,
        fun e he => hreplies e (List.mem_cons_of_mem _ he)⟩

/-! ## Populating -/

section Populating

variable {m : Type → Type} [Monad m] [LawfulMonad m] (factory : MetricFactory m)

/-- Consulting a factory about a field always gives an answer if the factory is asked. -/
theorem MetricFactory.answered_consult (f : Field) :
    ∃ run : m {reply // f.Answered reply}, Subtype.val <$> run = factory.consult f := by
  cases hstalls : f.stalls with
  | true =>
    have hnone : f.Answered none := by
      rw [Field.Answered, Field.call?_of_stalls hstalls]
      rfl
    refine ⟨factory.abandon >>= fun _ => pure ⟨none, hnone⟩, ?_⟩
    rw [factory.consult_of_stalls hstalls, map_bind]
    simp only [map_pure]
  | false =>
    rw [factory.consult_of_not_stalls hstalls]
    cases hcall : f.call? with
    | none =>
      have hnone : f.Answered none := by
        rw [Field.Answered, hcall]
        rfl
      exact ⟨pure ⟨none, hnone⟩, by rw [map_pure, Option.mapM_none]⟩
    | some r =>
      have hsome (answer : Except Error Metric) : f.Answered (some answer) := by
        rw [Field.Answered, hcall]
        rfl
      refine ⟨(fun answer => ⟨some answer, hsome answer⟩) <$> factory.request r, ?_⟩
      rw [Functor.map_map, Option.mapM_some]

theorem MetricFactory.answered_mapM_consult (fields : List Field) :
    ∃ run : m {replies // AnsweredAll fields replies},
      Subtype.val <$> run = fields.mapM factory.consult := by
  induction fields with
  | nil => exact ⟨pure ⟨[], .nil⟩, by rw [map_pure, List.mapM_nil]⟩
  | cons f fields ih =>
    obtain ⟨first, hfirst⟩ := factory.answered_consult f
    obtain ⟨rest, hrest⟩ := ih
    refine ⟨do
      let reply ← first
      let replies ← rest
      pure ⟨reply.1 :: replies.1, .cons reply.2 replies.2⟩, ?_⟩
    rw [List.mapM_cons, ← hfirst, ← hrest]
    simp only [map_bind, map_pure, bind_map_left]

/-- **However the factory works, populating ends with replies of which just those about the fields
to ask about are answers.**  They settle the slots and the failures. -/
theorem Slots.populate_answered {schema : Schema} {s : Slots} (hs : s.schema = schema) :
    ∃ run : m {replies // AnsweredAll schema.fields replies},
      Subtype.val <$> run = schema.fields.mapM factory.consult ∧
        s.populate factory schema =
          (fun replies => (s.settled replies, ⟨failuresAfter schema.fields replies⟩)) <$> run := by
  obtain ⟨run, hrun⟩ := factory.answered_mapM_consult schema.fields
  refine ⟨run, hrun, ?_⟩
  rw [populate_eq factory hs, ← hrun]
  simp only [map_eq_pure_bind, bind_assoc, pure_bind]

end Populating

/-- **When nothing has failed, a field to ask about has its metric, unless the answer was hollow.**
The slot is then as it was. -/
theorem Slots.metric?_settled_of_no_failures {schema : Schema} {s : Slots} (hs : s.schema = schema)
    {replies : List Reply} (h : AnsweredAll schema.fields replies)
    (hnone : failuresAfter schema.fields replies = []) {i : Nat} {f : Field}
    (hf : schema.fields[i]? = some f) (hskip : f.skip = false) (hkind : f.kind.isMetric = true) :
    (∃ metric, replies[i]? = some (some (.ok metric)) ∧
      (s.settled replies).metric? i = some metric) ∨
    (replies[i]? = some (some (.error .hollow)) ∧
      (s.settled replies).metric? i = s.metric? i) := by
  obtain ⟨hresolved, hhollow⟩ := (failuresAfter_eq_nil_iff h).mp hnone
  obtain ⟨hlt, rfl⟩ := List.getElem?_eq_some_iff.mp hf
  have hlt' : i < replies.length := h.length_eq ▸ hlt
  have hslot : i < s.metrics.length := by rwa [s.aligned, hs]
  -- nothing is wrong with the field, so the factory was asked and has answered
  have hfaults : schema.fields[i].resolve.faults = [] :=
    List.map_eq_nil_iff.mp (hresolved _ (List.getElem_mem hlt) hskip)
  obtain ⟨r, hcall⟩ := Field.exists_call? hkind hskip hfaults
  have hanswered : schema.fields[i].Answered replies[i] := h.get hlt hlt'
  rw [Field.Answered, hcall] at hanswered
  obtain ⟨answer, hanswer⟩ := Option.isSome_iff_exists.mp hanswered
  have hreply : replies[i]? = some (some answer) := by rw [List.getElem?_eq_getElem hlt', hanswer]
  have hsettled := metric?_settled hslot hreply
  cases answer with
  | ok metric => exact .inl ⟨metric, hreply, hsettled⟩
  | error e =>
    obtain rfl := hhollow e (List.mem_of_getElem? hreply)
    exact .inr ⟨hreply, hsettled⟩

/-- **A failure is swallowed if and only if its error is hollow.**  A collection that was empty is a
success after errors were pushed, checked or added in a row just when they were all hollow; and an
error is hollow if there is nothing in it to any depth.  Every factory answers about just the
fields it is asked about.  Populating then succeeds if and only if the fields have no faults and all
answers are metrics or hollow; a field to ask about has its metric, unless the answer was hollow and
the slot is as it was.  No answer of a `Factory` is hollow. -/
theorem Errors.swallowed_iff_hollow (es : Errors) (s : Slots) :
    (∀ e : Error, (es.push e).toExcept = .ok () ↔ es.toList = [] ∧ e = .hollow) ∧
    (∀ added : List Error,
      (es.extend added).toExcept = .ok () ↔ es.toList = [] ∧ ∀ e ∈ added, e = .hollow) ∧
    (∀ {α : Type} (result : Except Error α),
      (es.check result).1.toExcept = .ok () ↔
        es.toList = [] ∧ ∀ e, result = .error e → e = .hollow) ∧
    (∀ item : Item, item.error = .hollow ↔ item.leaves = []) ∧
    (∀ {m : Type → Type} [Monad m] [LawfulMonad m] (factory : MetricFactory m),
      ∃ run : m {replies // AnsweredAll s.schema.fields replies},
        Subtype.val <$> run = s.schema.fields.mapM factory.consult ∧
          s.populate factory s.schema =
            (fun replies => (s.settled replies, ⟨failuresAfter s.schema.fields replies⟩)) <$>
              run) ∧
    (∀ {m : Type → Type} [Monad m] (factory : MetricFactory m) (schema : Schema),
      s.schema ≠ schema → ∃ failure, s.populate factory schema = pure (s, ⟨[failure]⟩)) ∧
    (∀ replies : List Reply, AnsweredAll s.schema.fields replies →
      let errors : Errors := ⟨failuresAfter s.schema.fields replies⟩
      (errors.toExcept = .ok () ↔
        (∀ f ∈ s.schema.fields, f.skip = false → f.resolutionFailures = []) ∧
          ∀ e, some (.error e) ∈ replies → e = .hollow) ∧
      (errors.toExcept = .ok () → ∀ i f, s.schema.fields[i]? = some f → f.skip = false →
        f.kind.isMetric = true →
          (∃ metric, replies[i]? = some (some (.ok metric)) ∧
            (s.settled replies).metric? i = some metric) ∨
          (replies[i]? = some (some (.error .hollow)) ∧
            (s.settled replies).metric? i = s.metric? i))) ∧
    ∀ (factory : Factory) (r : Request) (t t' : Telemetry) (e : Error),
      factory.newMetric r t = (.ok (.error e), t') → e ≠ .hollow := by
  refine ⟨es.toExcept_push_eq_ok_iff, es.toExcept_extend_eq_ok_iff, es.toExcept_check_eq_ok_iff,
    Item.error_eq_hollow_iff, fun factory => Slots.populate_answered factory rfl,
    fun factory schema hs => ⟨_, Slots.populate_foreign factory hs⟩,
    fun replies hanswered => ?_, fun factory r t t' e h => ?_⟩
  · intro errors
    have hok : errors.toExcept = .ok () ↔ failuresAfter s.schema.fields replies = [] :=
      toExcept_eq_ok_iff errors
    rw [hok]
    exact ⟨failuresAfter_eq_nil_iff hanswered, fun hnone i f hf hskip hkind =>
      Slots.metric?_settled_of_no_failures rfl hanswered hnone hf hskip hkind⟩
  · obtain ⟨failure, rfl⟩ := Factory.newMetric_eq_error h
    exact fun hhollow => nomatch hhollow

/-- A factory that refuses every request without a reason, and keeps a record of the requests. -/
def refusing : MetricFactory (StateM (List Request × Unit)) :=
  Schema.recording fun _ => pure (.error .hollow)

/-- A schema with a counter. -/
def counted : Schema where
  typeName := "Counted"
  fields := [Field.ofKind "requests" (.metric .counter .scalar)]

/-- A hollow error leaves a collection empty.  When it refuses the only request, populating succeeds
all the same, and the slot stays empty. -/
theorem hollow_error_swallowed :
    (Errors.empty.push .hollow).toExcept = .ok () ∧
      let run := (Slots.ofSchema counted).populate refusing counted ([], ())
      run.1.2.toExcept = .ok () ∧ run.2.1.length = 1 ∧ run.1.1.metric? 0 = none :=
  ⟨rfl, rfl, rfl, rfl⟩

end MetricBundle
