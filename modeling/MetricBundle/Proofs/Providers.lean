import Mathlib.Data.List.Induction
import MetricBundle.Proofs.DerivedSchema
import MetricBundle.Proofs.Repopulation

/-!
# Defects of a schema come first

A schema is checked before anything is done with it, and the first of its fields that has no name,
or the name of one before it, is what is wrong with it (`Schema.validate_eq_error_iff`).  Populating
then ends before the factory is asked about any field, whatever monad it works in, and no provider
is given out, whatever the bundles are to be held in.

A provider checks again each time it constructs a bundle, and never finds anything.  So constructing
is populating (`Bundle.populate_eq`): the factory is consulted about every field, and the replies
settle the slots, which are those of the schema.  All that can be wrong then is wrong with a field,
or comes with the reply of the factory, or of the bundle's own type that is assembled.
-/

namespace MetricBundle

/-! ## The first defect -/

/-- There is something wrong with a field that comes after others. -/
inductive Field.Offends (before : List Field) (f : Field) : BundleDefect → Prop
  | unnamed : f.ident = "" → Offends before f (.unnamedField before.length)
  | repeated : f.ident ≠ "" → f.ident ∈ before.map Field.ident →
    Offends before f (.repeatedField f.ident)

/-- Fields with different names, none of them empty. -/
def Sound (fields : List Field) : Prop :=
  "" ∉ fields.map Field.ident ∧ (fields.map Field.ident).Nodup

theorem Sound.concat {fields : List Field} {f : Field} (h : Sound fields)
    (hsound : ∀ defect, ¬f.Offends fields defect) : Sound (fields ++ [f]) := by
  have hnamed : f.ident ≠ "" := fun hempty => hsound _ (.unnamed hempty)
  have hnew : f.ident ∉ fields.map Field.ident := fun hmem => hsound _ (.repeated hnamed hmem)
  constructor
  · rw [List.map_append, List.mem_append]
    rintro (hmem | hmem)
    · exact h.1 hmem
    · exact hnamed (List.mem_singleton.mp hmem).symm
  · rw [List.map_append]
    exact h.2.append (List.nodup_singleton _) (List.disjoint_singleton.mpr hnew)

/-- **There is nothing wrong with fields, or there is a first one with which there is.** -/
theorem sound_or_offends (fields : List Field) :
    Sound fields ∨ ∃ before f after defect,
      fields = before ++ f :: after ∧ Sound before ∧ f.Offends before defect := by
  induction fields using List.reverseRecOn with
  | nil => exact .inl ⟨List.not_mem_nil, List.nodup_nil⟩
  | append_singleton fields f ih =>
    rcases ih with hsound | ⟨before, g, after, defect, rfl, hsound, hoffends⟩
    · by_cases hoffends : ∃ defect, f.Offends fields defect
      · obtain ⟨defect, hoffends⟩ := hoffends
        exact .inr ⟨fields, f, [], defect, rfl, hsound, hoffends⟩
      · exact .inl (hsound.concat (not_exists.mp hoffends))
    · exact .inr ⟨before, g, after ++ [f], defect, by simp, hsound, hoffends⟩

namespace Schema

variable {s : Schema} {before after : List Field} {f : Field} {defect : BundleDefect} {e : Failure}

/-- The check goes through the fields in order. -/
theorem firstDefect_append (seen : List String) (before after : List Field) :
    firstDefect seen (before ++ after) =
      (firstDefect seen before).or (firstDefect (seen ++ before.map Field.ident) after) := by
  induction before generalizing seen with
  | nil => rw [List.map_nil, List.append_nil]; rfl
  | cons f before ih =>
    rw [List.cons_append, firstDefect, firstDefect]
    split
    · rfl
    · split
      · rfl
      · rw [ih, List.map_cons, List.append_assoc]
        rfl

theorem firstDefect_cons_of_offends (h : f.Offends before defect) (after : List Field) :
    firstDefect (before.map Field.ident) (f :: after) = some defect := by
  cases h with
  | unnamed hempty => rw [firstDefect, if_pos (by simpa using hempty), List.length_map]
  | repeated hnamed hmem =>
    rw [firstDefect, if_neg (by simpa using hnamed), if_pos (by simpa using hmem)]

/-- What is wrong with a field is found if nothing is wrong with those before it. -/
theorem firstDefect_of_offends (hsound : Sound before) (h : f.Offends before defect) :
    firstDefect [] (before ++ f :: after) = some defect := by
  have hnone : firstDefect [] before = none :=
    firstDefect_eq_none_iff.mpr ⟨hsound.1, hsound.2, fun _ _ => List.not_mem_nil⟩
  rw [firstDefect_append, hnone, Option.none_or, List.nil_append]
  exact firstDefect_cons_of_offends h after

/-- **The check finds the first field with which something is wrong.** -/
theorem validate_eq_error_iff :
    s.validate = .error e ↔ ∃ before f after defect, s.fields = before ++ f :: after ∧
      Sound before ∧ f.Offends before defect ∧ e = .invalidBundle s.typeName defect := by
  constructor
  · intro h
    rcases sound_or_offends s.fields with hsound | ⟨before, f, after, defect, hs, hsound, hf⟩
    · rw [validate_eq_ok_iff.mpr hsound] at h
      cases h
    · refine ⟨before, f, after, defect, hs, hsound, hf, ?_⟩
      rw [validate, hs, firstDefect_of_offends hsound hf] at h
      exact (Except.error.inj h).symm
  · rintro ⟨before, f, after, defect, hs, hsound, hf, rfl⟩
    rw [validate, hs, firstDefect_of_offends hsound hf]

theorem populate_of_defect {m : Type → Type} [Monad m] (factory : MetricFactory m)
    (h : s.validate = .error e) : s.populate factory = pure (.error (.single e)) := by
  rw [populate, h]

/-! ## What replies come to -/

/-- The slots that replies come to are slots of the schema. -/
theorem schema_of_outcome {replies : List Reply} {slots : Slots}
    (h : s.outcome replies = .ok slots) : slots.schema = s := by
  unfold outcome at h
  split at h
  · rw [← Except.ok.inj h]
    rfl
  · cases h

theorem outcome_eq_error {replies : List Reply} {e : Error} (h : s.outcome replies = .error e) :
    e = .bundle ⟨failuresAfter s.fields replies⟩ := by
  by_cases hnone : failuresAfter s.fields replies = []
  · rw [outcome, hnone] at h
    cases h
  · rw [outcome_of_failures hnone] at h
    exact (Except.error.inj h).symm

end Schema

/-- What has failed about a field is a fault of it, or is part of the reply. -/
theorem Field.mem_failuresAfter {f : Field} {reply : Reply} {failure : Failure}
    (h : failure ∈ f.failuresAfter reply) :
    (∃ fault, failure = .field fault) ∨
      ∃ answer, reply = some (.error answer) ∧ failure ∈ answer.failures := by
  unfold failuresAfter at h
  split at h
  case isTrue => cases h
  case isFalse =>
    match reply, h with
    | none, h =>
      obtain ⟨fault, -, rfl⟩ := List.mem_map.mp h
      exact .inl ⟨_, rfl⟩
    | some (.error answer), h => exact .inr ⟨answer, rfl, h⟩

theorem mem_failuresAfter {fields : List Field} {replies : List Reply} {failure : Failure}
    (h : failure ∈ failuresAfter fields replies) :
    (∃ fault, failure = .field fault) ∨
      ∃ answer, some (.error answer) ∈ replies ∧ failure ∈ answer.failures := by
  obtain ⟨⟨f, reply⟩, hmem, hfailure⟩ := List.mem_flatMap.mp h
  rcases Field.mem_failuresAfter hfailure with hfault | ⟨answer, hanswer, hpart⟩
  · exact .inl hfault
  · obtain rfl : reply = some (.error answer) := hanswer
    exact .inr ⟨answer, (List.of_mem_zip hmem).2, hpart⟩

/-- No answer of a `Factory` calls the bundle invalid. -/
theorem Factory.Replied.ne_invalidBundle {factory : Factory} {f : Field} {answer : Error}
    (h : factory.Replied f (some (.error answer))) {typeName : String} {defect : BundleDefect} :
    .invalidBundle typeName defect ∉ answer.failures := by
  cases h with
  | answered _ hanswer =>
    intro hmem
    rcases newMetric_error_cases hanswer with rfl | ⟨cause, rfl⟩
    · cases List.mem_singleton.mp hmem
    · cases List.mem_singleton.mp hmem

/-- When populating a valid schema ends well, the factory was consulted about every field. -/
theorem Factory.consulted_of_populate {factory : Factory} {schema : Schema} {t t' : Telemetry}
    {result : Except Error Slots} (hvalid : schema.validate = .ok ())
    (h : schema.populate factory.toMetricFactory t = (.ok result, t')) :
    ∃ replies, schema.fields.mapM factory.toMetricFactory.consult t = (.ok replies, t') ∧
      schema.outcome replies = result := by
  rw [Schema.populate_eq factory.toMetricFactory hvalid] at h
  obtain ⟨replies, t₁, hreplies, h⟩ := Action.bind_eq_ok h
  obtain ⟨houtcome, rfl⟩ := Action.pure_eq_ok h
  exact ⟨replies, hreplies, houtcome⟩

/-- **What a `Factory` has failed in is never the bundle's fault**, once the schema has been found
to be valid. -/
theorem Factory.populate_eq_error {factory : Factory} {schema : Schema} {t t' : Telemetry}
    {e : Error} (hvalid : schema.validate = .ok ())
    (h : schema.populate factory.toMetricFactory t = (.ok (.error e), t')) :
    ∃ errors : Errors, e = .bundle errors ∧
      ∀ typeName defect, .invalidBundle typeName defect ∉ errors.toList := by
  obtain ⟨replies, hreplies, houtcome⟩ := consulted_of_populate hvalid h
  obtain rfl := Schema.outcome_eq_error houtcome
  refine ⟨_, rfl, fun typeName defect hmem => ?_⟩
  rcases mem_failuresAfter hmem with ⟨_, hfault⟩ | ⟨answer, hanswer, hmem⟩
  · cases hfault
  · obtain ⟨i, hi, hreply⟩ := List.getElem_of_mem hanswer
    have hconsulted := Action.forall₂_of_mapM hreplies
    have hlt : i < schema.fields.length := hconsulted.length_eq ▸ hi
    obtain ⟨t₂, t₃, hconsult⟩ := hconsulted.get hlt hi
    rw [List.get_eq_getElem, List.get_eq_getElem, hreply] at hconsult
    exact (replied_of_consult hconsult).ne_invalidBundle hmem

/-! ## Bundles and their providers -/

namespace Bundle

variable {β γ : Type} {b : Bundle β} {e : Failure} {m : Type → Type} [Monad m] [LawfulMonad m]

/-- The bundle, once it is assembled, put into something that holds it. -/
def held (hold : β → γ) (b : Bundle β) : Bundle γ where
  schema := b.schema
  assemble slots := (b.assemble slots).map hold

/-- It may be held as it is. -/
theorem held_id (b : Bundle β) : b.held id = b := by
  obtain ⟨schema, assemble⟩ := b
  simp only [held, mk.injEq, true_and]
  funext slots
  cases assemble slots <;> rfl

/-- Holding a bundle cannot fail. -/
theorem assemble_held_eq_error {hold : β → γ} {slots : Slots} {cause : Error} :
    (b.held hold).assemble slots = .error cause ↔ b.assemble slots = .error cause := by
  show (b.assemble slots).map hold = .error cause ↔ b.assemble slots = .error cause
  cases b.assemble slots with
  | ok value => simp [Except.map]
  | error e => simp [Except.map]

theorem populate_held (factory : MetricFactory m) (hold : β → γ) (b : Bundle β) :
    (b.held hold).populate factory = Except.map hold <$> b.populate factory := by
  rw [populate, populate, map_bind]
  refine bind_congr fun result => ?_
  cases result with
  | ok slots => exact (map_pure (Except.map hold) (b.assemble slots)).symm
  | error e => exact (map_pure (Except.map hold) (.error e)).symm

theorem populate_of_defect (factory : MetricFactory m) (h : b.schema.validate = .error e) :
    b.populate factory = pure (.error (.single e)) := by
  rw [populate, Schema.populate_of_defect factory h, pure_bind]

/-- A bundle with a valid schema is populated by consulting the factory about every field. -/
theorem populate_eq (factory : MetricFactory m) (hvalid : b.schema.validate = .ok ()) :
    b.populate factory = (do
      let replies ← b.schema.fields.mapM factory.consult
      pure ((b.schema.outcome replies).bind b.assemble)) := by
  rw [populate, Schema.populate_eq factory hvalid, bind_assoc]
  refine bind_congr fun replies => ?_
  rw [pure_bind]
  cases b.schema.outcome replies <;> rfl

end Bundle

namespace Provider

variable {β : Type} {b : Bundle β} {p : Provider β}

/-- A provider is given out for just the bundles with a valid schema. -/
theorem of_eq_ok_iff : of b = .ok p ↔ b.schema.validate = .ok () ∧ p = ⟨b⟩ := by
  unfold of
  cases b.schema.validate with
  | ok => simp [eq_comm]
  | error e => simp

theorem of_of_defect {e : Failure} (h : b.schema.validate = .error e) : of b = .error e := by
  rw [of, h]

end Provider

/-- **When constructing with a `Factory` fails, it is the fault of fields or of what was asked for**,
unless the bundle's own type cannot be assembled from the slots. -/
theorem Factory.bundle_populate_eq_error {β : Type} {factory : Factory} {b : Bundle β}
    {t t' : Telemetry} {e : Error} (hvalid : b.schema.validate = .ok ())
    (h : b.populate factory.toMetricFactory t = (.ok (.error e), t')) :
    (∃ slots, slots.schema = b.schema ∧
      b.schema.populate factory.toMetricFactory t = (.ok (.ok slots), t') ∧
      b.assemble slots = .error e) ∨
    ∃ errors : Errors, e = .bundle errors ∧
      ∀ typeName defect, .invalidBundle typeName defect ∉ errors.toList := by
  obtain ⟨result, t₁, hschema, h⟩ := Action.bind_eq_ok h
  cases result with
  | ok slots =>
    obtain ⟨hassemble, rfl⟩ := Action.pure_eq_ok h
    obtain ⟨replies, -, houtcome⟩ := consulted_of_populate hvalid hschema
    exact .inl ⟨slots, Schema.schema_of_outcome houtcome, hschema, hassemble⟩
  | error cause =>
    obtain ⟨hcause, -⟩ := Action.pure_eq_ok h
    obtain rfl := Except.error.inj hcause
    exact .inr (populate_eq_error hvalid hschema)

/-- **Defects of a schema come first, and only once.**  A schema is valid if and only if its fields
are sound, and otherwise the first field with which something is wrong is reported.  Then populating
has this failure as its result, and does nothing else in whatever monad the factory works, and no
provider is given out, whatever holds the bundles that it would construct.

A provider that is given out populates its bundle each time, with whatever factories, one after the
other: each is consulted about every field, and the replies come to slots of the schema or to
failures, of which each is a fault of a field or part of a reply.  So with a `Factory` no failure
calls the bundle invalid, unless the bundle's own type does. -/
theorem Bundle.defects_come_first {β : Type} (b : Bundle β) :
    (b.schema.validate = .ok () ↔ Sound b.schema.fields) ∧
    (∀ e, b.schema.validate = .error e ↔
      ∃ before f after defect, b.schema.fields = before ++ f :: after ∧ Sound before ∧
        f.Offends before defect ∧ e = .invalidBundle b.schema.typeName defect) ∧
    (∀ e, b.schema.validate = .error e →
      (∀ {m : Type → Type} [Monad m] [LawfulMonad m] (factory : MetricFactory m),
        b.schema.populate factory = pure (.error (.single e)) ∧
        b.populate factory = pure (.error (.single e))) ∧
      (∀ (factory : Factory) (t : Telemetry),
        b.schema.populate factory.toMetricFactory t = (.ok (.error (.single e)), t)) ∧
      ∀ {γ : Type} (hold : β → γ), Provider.of (b.held hold) = .error e) ∧
    b.held id = b ∧
    ∀ {γ : Type} (hold : β → γ) (p : Provider γ),
      (Provider.of (b.held hold) = .ok p ↔
        b.schema.validate = .ok () ∧ p = ⟨b.held hold⟩) ∧
      (Provider.of (b.held hold) = .ok p →
        p.typeName = b.schema.typeName ∧
        (∀ {m : Type → Type} [Monad m] [LawfulMonad m] (factories : List (MetricFactory m)),
          factories.mapM (fun factory => p.construct factory) =
            factories.mapM (fun factory => Except.map hold <$> b.populate factory) ∧
          ∀ factory ∈ factories, b.populate factory = (do
            let replies ← b.schema.fields.mapM factory.consult
            pure ((b.schema.outcome replies).bind b.assemble))) ∧
        (∀ replies,
          (∀ slots, b.schema.outcome replies = .ok slots → slots.schema = b.schema) ∧
          ∀ e, b.schema.outcome replies = .error e → ∃ errors : Errors, e = .bundle errors ∧
            ∀ failure ∈ errors.toList, (∃ fault, failure = .field fault) ∨
              ∃ answer, some (.error answer) ∈ replies ∧ failure ∈ answer.failures) ∧
        ∀ (factory : Factory) (t t' : Telemetry) (e : Error),
          p.construct factory.toMetricFactory t = (.ok (.error e), t') →
          (∃ slots, slots.schema = b.schema ∧
            b.schema.populate factory.toMetricFactory t = (.ok (.ok slots), t') ∧
            b.assemble slots = .error e) ∨
          ∃ errors : Errors, e = .bundle errors ∧
            ∀ typeName defect, .invalidBundle typeName defect ∉ errors.toList) := by
  refine ⟨Schema.validate_eq_ok_iff, fun e => Schema.validate_eq_error_iff, fun e he => ?defect,
    b.held_id, fun hold p => ⟨Provider.of_eq_ok_iff, fun hp => ?provided⟩⟩
  case defect =>
    refine ⟨fun factory => ⟨Schema.populate_of_defect factory he, populate_of_defect factory he⟩,
      fun factory t => ?_, fun hold => Provider.of_of_defect he⟩
    rw [Schema.populate_of_defect factory.toMetricFactory he]
    rfl
  case provided =>
    obtain ⟨hvalid, rfl⟩ := Provider.of_eq_ok_iff.mp hp
    refine ⟨rfl, fun factories => ⟨?_, fun factory _ => populate_eq factory hvalid⟩, ?_, ?_⟩
    · exact congrArg factories.mapM (funext fun factory => populate_held factory hold b)
    · refine fun replies => ⟨fun slots => Schema.schema_of_outcome, fun e he => ?_⟩
      exact ⟨_, Schema.outcome_eq_error he, fun failure => mem_failuresAfter⟩
    · intro factory t t' e h
      rcases Factory.bundle_populate_eq_error hvalid h with ⟨slots, hslots, hschema, he⟩ | herrors
      · exact .inl ⟨slots, hslots, hschema, assemble_held_eq_error.mp he⟩
      · exact .inr herrors

end MetricBundle
