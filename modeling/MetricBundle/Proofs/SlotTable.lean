import MetricBundle.Proofs.HollowErrors

/-!
# Slots in line with their schema

Slots are filled by index, taken out by index and looked up by name, and between these they may be
populated any number of times, by any factory.  A metric may be taken out as a type that is not one
of handles: all that is used of a type is how it converts a metric, and what stands in it for no
metric (`MemberType`).

What one use can make of the slots is said once (`Slots.Next`), whatever monad the factories work
in.  No use lays out the slots for another schema, so every run ends with one slot for each field
(`Slots.InLine`); and a slot that is empty stays so as long as nothing is put into it
(`Slots.Use.Spares`).  That the name of a field leads to its own slot is what a valid schema adds.
-/

namespace MetricBundle

/-- A type that a metric is taken as. -/
structure MemberType (α : Type) where
  /-- The metric as a value of the type.  One that is none is handed back. -/
  convert : Metric → Except Metric α
  /-- The value that stands for no metric, for a type that has one. -/
  absent? : Option α

/-- What is taken from a slot that is empty. -/
def MemberType.absence {α : Type} (type : MemberType α) (f : Field) : Except Failure α :=
  match type.absent? with
  | some value => .ok value
  | none => .error (f.failure .notPopulated)

/-- What is taken from a slot that holds a metric. -/
def MemberType.converted {α : Type} (type : MemberType α) (f : Field) (metric : Metric) :
    Except Failure α :=
  match type.convert metric with
  | .ok value => .ok value
  | .error back => .error (f.failure (.typeMismatch back.instrument back.shape))

/-- A type of handles. -/
def HandleType.memberType (type : HandleType) : MemberType (Option Handle) where
  convert metric :=
    match type.accept metric with
    | some handle => .ok (some handle)
    | none => .error metric
  absent? := if type.allowsAbsence then some none else none

namespace Slots

variable {α β : Type} {s : Slots} {schema : Schema} {i : Nat} {f : Field}

/-! ## Taking as any type -/

/-- Takes the metric out of a slot, which is empty then, as a value of the given type. -/
def takeAs (s : Slots) (type : MemberType α) (index : Nat) : Except Failure α × Slots :=
  match s.schema.fields[index]? with
  | none => (.error (s.noSuchField index), s)
  | some f =>
    match s.metric? index with
    | some metric => (type.converted f metric, s.emptied index)
    | none => (type.absence f, s.emptied index)

/-- Emptying an empty slot changes nothing. -/
theorem emptied_of_empty (h : s.metric? i = none) : s.emptied i = s := by
  refine ext_metrics rfl fun j => ?_
  rw [emptied, put, List.getElem?_set]
  split
  case isFalse => rfl
  case isTrue heq =>
    subst heq
    split
    case isFalse hout => rw [List.getElem?_eq_none (Nat.not_lt.mp hout)]
    case isTrue hlt =>
      rw [metric?, List.getElem?_eq_getElem hlt, Option.join_some] at h
      rw [List.getElem?_eq_getElem hlt, h]

/-- **Taking as a type of handles is taking as the type that it is.** -/
theorem take_eq (s : Slots) (type : HandleType) (i : Nat) :
    s.take type i = s.takeAs type.memberType i := by
  unfold take takeAs
  cases s.schema.fields[i]? with
  | none => rfl
  | some f =>
    cases hm : s.metric? i with
    | some metric =>
      simp only [MemberType.converted, HandleType.memberType]
      cases type.accept metric <;> rfl
    | none =>
      simp only [MemberType.absence, HandleType.memberType, emptied_of_empty hm]
      cases type.allowsAbsence <;> rfl

theorem takeAs_of_none (h : s.schema.fields[i]? = none) (type : MemberType α) :
    s.takeAs type i = (.error (s.noSuchField i), s) := by
  simp only [takeAs, h]

/-- The slot of a field is empty when something has been taken from it. -/
theorem takeAs_slots (h : s.schema.fields[i]? = some f) (type : MemberType α) :
    (s.takeAs type i).2 = s.emptied i := by
  simp only [takeAs, h]
  split <;> rfl

theorem takeAs_of_empty (hf : s.schema.fields[i]? = some f) (h : s.metric? i = none)
    (type : MemberType α) : s.takeAs type i = (type.absence f, s) := by
  simp only [takeAs, hf, h, emptied_of_empty h]

/-- Whatever is wrong with a metric, or with there being none, is a fault of the field. -/
theorem takeAs_ne_invalidBundle (h : s.schema.fields[i]? = some f) (type : MemberType α)
    (typeName : String) (defect : BundleDefect) :
    (s.takeAs type i).1 ≠ .error (.invalidBundle typeName defect) := by
  simp only [takeAs, h]
  split
  · rw [MemberType.converted]
    split <;> exact fun heq => nomatch heq
  · rw [MemberType.absence]
    split <;> exact fun heq => nomatch heq

/-- The other slots are as they were. -/
theorem getElem?_put_of_ne {j : Nat} (h : j ≠ i) (slot : Option Metric) :
    (s.put i slot).metrics[j]? = s.metrics[j]? :=
  List.getElem?_set_ne h.symm

theorem metric?_put (hlt : i < s.metrics.length) (slot : Option Metric) :
    (s.put i slot).metric? i = slot := by
  rw [metric?, put, List.getElem?_set_self hlt, Option.join_some]

theorem metric?_emptied (hlt : i < s.metrics.length) : (s.emptied i).metric? i = none :=
  metric?_put hlt none

/-! ## Uses -/

/-- What is done with slots. -/
inductive Use (m : Type → Type) : Type 1 where
  | set (index : Nat) (metric : Metric)
  | take {α : Type} (type : MemberType α) (index : Nat)
  | populate (factory : MetricFactory m) (schema : Schema)

variable {m : Type → Type}

/-- The slots after a use.  One that fails to set leaves them as they are. -/
def use [Monad m] (s : Slots) : Use m → m Slots
  | .set index metric =>
    match s.set index metric with
    | .ok filled => pure filled
    | .error _ => pure s
  | .take type index => pure (s.takeAs type index).2
  | .populate factory schema => Prod.fst <$> s.populate factory schema

/-- The use is refused: there is no slot with its index, or the slots are not those of the schema
that they are to be populated from. -/
def Refuses (s : Slots) : Use m → Prop
  | .set index _ => s.metrics.length ≤ index
  | .take _ index => s.metrics.length ≤ index
  | .populate _ schema => s.schema ≠ schema

/-- **What one use can make of the slots.**  They stay as they are if it is refused.  Populating
settles them by answers about just the fields to ask about. -/
inductive Next (s : Slots) : Use m → Slots → Prop
  | stay {u : Use m} : s.Refuses u → Next s u s
  | set {index : Nat} (metric : Metric) : index < s.metrics.length →
    Next s (.set index metric) (s.put index (some metric))
  | take {α : Type} (type : MemberType α) {index : Nat} : index < s.metrics.length →
    Next s (.take type index) (s.emptied index)
  | populate (factory : MetricFactory m) {replies : List Reply} :
    AnsweredAll s.schema.fields replies →
      Next s (.populate factory s.schema) (s.settled replies)

section Runs

variable [Monad m] [LawfulMonad m]

theorem use_next (s : Slots) (u : Use m) :
    ∃ run : m {s' // s.Next u s'}, Subtype.val <$> run = s.use u := by
  cases u with
  | set index metric =>
    by_cases hlt : index < s.metrics.length
    · exact ⟨pure ⟨_, .set metric hlt⟩, by simp only [use, set, if_pos hlt, map_pure]⟩
    · have hout : s.metrics.length ≤ index := by omega
      exact ⟨pure ⟨s, .stay hout⟩, by simp only [use, set, if_neg hlt, map_pure]⟩
  | take type index =>
    cases hf : s.schema.fields[index]? with
    | none =>
      have hout : s.metrics.length ≤ index := s.aligned ▸ List.getElem?_eq_none_iff.mp hf
      refine ⟨pure ⟨s, .stay hout⟩, ?_⟩
      rw [map_pure, use, takeAs_of_none hf]
    | some f =>
      have hlt : index < s.metrics.length := s.aligned ▸ (List.getElem?_eq_some_iff.mp hf).1
      refine ⟨pure ⟨_, .take type hlt⟩, ?_⟩
      rw [map_pure, use, takeAs_slots hf]
  | populate factory schema =>
    by_cases hs : s.schema = schema
    · subst hs
      obtain ⟨run, -, hrun⟩ := populate_answered factory (rfl : s.schema = s.schema)
      refine ⟨(fun replies => ⟨_, .populate factory replies.2⟩) <$> run, ?_⟩
      simp only [use, hrun, bind_pure_comp, Functor.map_map]
    · refine ⟨pure ⟨s, .stay hs⟩, ?_⟩
      rw [use, populate_foreign factory hs, map_pure, map_pure]

/-- What each use keeps, a run of uses keeps. -/
theorem foldlM_use_keeps {P : Slots → Prop} {uses : List (Use m)}
    (hstep : ∀ u ∈ uses, ∀ s s', P s → s.Next u s' → P s') {s : Slots} (h : P s) :
    ∃ run : m {s' // P s'}, Subtype.val <$> run = uses.foldlM use s := by
  induction uses generalizing s with
  | nil => exact ⟨pure ⟨s, h⟩, by rw [map_pure, List.foldlM_nil]⟩
  | cons u uses ih =>
    obtain ⟨first, hfirst⟩ := s.use_next u
    have hrest (s' : {s' // s.Next u s'}) :
        ∃ run : m {s' // P s'}, Subtype.val <$> run = uses.foldlM use s'.1 :=
      ih (fun v hv => hstep v (List.mem_cons_of_mem u hv))
        (hstep u List.mem_cons_self s s'.1 h s'.2)
    choose rest hrest using hrest
    refine ⟨first >>= rest, ?_⟩
    rw [List.foldlM_cons, ← hfirst, map_bind, bind_map_left]
    exact congrArg (first >>= ·) (funext hrest)

end Runs

theorem Next.schema_eq {u : Use m} {s' : Slots} (h : s.Next u s') : s'.schema = s.schema := by
  cases h <;> rfl

/-- The use puts nothing into the slot of the given index: it does not set it, nor does it populate
from a schema that has a request there. -/
def Use.Spares (index : Nat) : Use m → Prop
  | .set other _ => other ≠ index
  | .take _ _ => True
  | .populate _ schema => ∀ f, schema.fields[index]? = some f → f.call? = none

/-- An empty slot that is spared stays empty. -/
theorem Next.metric?_eq_none {u : Use m} {s' : Slots} (h : s.Next u s') (hspares : u.Spares i)
    (hempty : s.metric? i = none) : s'.metric? i = none := by
  cases h with
  | stay => exact hempty
  | set metric _ =>
    have hne : i ≠ _ := Ne.symm hspares
    rw [metric?, getElem?_put_of_ne hne]
    exact hempty
  | @take _ _ index hlt =>
    by_cases hi : i = index
    · subst hi
      exact metric?_emptied hlt
    · rw [metric?_emptied_of_ne (Ne.symm hi)]
      exact hempty
  | @populate _ replies hanswered =>
    by_cases hlt : i < s.metrics.length
    · have hfield : i < s.schema.fields.length := s.aligned ▸ hlt
      have hreplies : i < replies.length := hanswered.length_eq ▸ hfield
      -- there is no request for the field, so it was not answered about
      have hasked : (s.schema.fields[i]).Answered replies[i] := hanswered.get hfield hreplies
      have hnone := hasked.eq_none (hspares _ (List.getElem?_eq_getElem hfield))
      rw [metric?_settled hlt (List.getElem?_eq_getElem hreplies), hnone]
      exact hempty
    · rw [metric?, List.getElem?_eq_none (by rw [length_settled]; omega)]
      rfl

/-! ## Looking up -/

/-- The first field of a name, if there is one, has a slot. -/
theorem lt_of_findIdx? {p : Field → Bool} (h : s.schema.fields.findIdx? p = some i) :
    i < s.metrics.length := by
  rw [List.findIdx?_eq_some_iff_getElem] at h
  rw [s.aligned]
  exact h.1

theorem get_of_not_mem {ident : String} (h : ident ∉ s.schema.fields.map Field.ident) :
    s.get ident = none := by
  have hnone : (s.schema.fields.findIdx? fun f => f.ident == ident) = none := by
    rw [List.findIdx?_eq_none_iff]
    intro f hf
    rw [beq_eq_false_iff_ne]
    exact fun heq => h (List.mem_map.mpr ⟨f, hf, heq⟩)
  rw [get, hnone]

/-- **A name that no other field has leads to the slot of its field.** -/
theorem get_ident (hdistinct : (s.schema.fields.map Field.ident).Nodup)
    (hf : s.schema.fields[i]? = some f) : s.get f.ident = s.metric? i := by
  obtain ⟨hlt, rfl⟩ := List.getElem?_eq_some_iff.mp hf
  have hfirst : (s.schema.fields.findIdx? fun f => f.ident == (s.schema.fields[i]).ident) =
      some i := by
    rw [List.findIdx?_eq_some_iff_getElem]
    refine ⟨hlt, beq_self_eq_true _, ?_⟩
    intro j hj heq
    have hapart := List.pairwise_iff_getElem.mp (List.pairwise_map.mp hdistinct)
    exact hapart j i (by omega) hlt hj (eq_of_beq heq)
  rw [get, hfirst]

/-- The fields and their slots go together in declaration order. -/
theorem zip_metrics (s : Slots) :
    s.schema.fields.zip s.metrics = s.schema.fields.zipIdx.map fun p => (p.1, s.metric? p.2) := by
  have hlength : (s.schema.fields.zip s.metrics).length =
      (s.schema.fields.zipIdx.map fun p => (p.1, s.metric? p.2)).length := by
    rw [List.length_zip, List.length_map, List.length_zipIdx, s.aligned, Nat.min_self]
  refine List.ext_getElem hlength fun i hi hi' => ?_
  have hlt : i < s.metrics.length := (List.lt_length_right_of_zip hi)
  rw [List.getElem_zip, List.getElem_map, List.getElem_zipIdx, Nat.zero_add, metric?,
    List.getElem?_eq_getElem hlt, Option.join_some]

/-- The filled slots are listed with their fields, in declaration order. -/
theorem filled_eq (s : Slots) :
    s.filled = s.schema.fields.zipIdx.filterMap fun p => (s.metric? p.2).map fun m => (p.1, m) := by
  rw [filled, zip_metrics, List.filterMap_map]
  rfl

/-- As many slots are filled as are listed. -/
theorem size_eq_length_filled (s : Slots) : s.size = s.filled.length := by
  calc
    s.size = ((s.schema.fields.zip s.metrics).map Prod.snd).countP Option.isSome := by
      rw [size, List.map_snd_zip (Nat.le_of_eq s.aligned)]
    _ = (s.schema.fields.zip s.metrics).countP fun p => p.2.isSome := List.countP_map
    _ = s.filled.length := by
      rw [filled, List.length_filterMap_eq_countP]
      simp only [Option.isSome_map]

theorem isEmpty_iff (s : Slots) : s.isEmpty = true ↔ s.filled = [] := by
  rw [isEmpty, size_eq_length_filled, beq_iff_eq, List.length_eq_zero_iff]

/-! ## Slots in line -/

/-- **The slots are in line with a schema.**  An index is refused if and only if it is not one of a
field, and then nothing is changed; a name leads to the slot of its field, and to no other. -/
structure InLine (schema : Schema) (s : Slots) : Prop where
  schema_eq : s.schema = schema
  /-- There is one slot for each field. -/
  length_eq : s.metrics.length = schema.fields.length
  /-- A field that is found by its name has a slot. -/
  lt_of_lookup : ∀ (ident : String) (i : Nat),
    (schema.fields.findIdx? fun f => f.ident == ident) = some i → i < s.metrics.length
  refused : ∀ i, schema.fields.length ≤ i →
    (∀ metric, s.set i metric = .error (.invalidBundle schema.typeName (.noSuchField i))) ∧
    ∀ {α : Type} (type : MemberType α),
      s.takeAs type i = (.error (.invalidBundle schema.typeName (.noSuchField i)), s)
  /-- Setting a slot changes no other. -/
  set_of_lt : ∀ i metric, i < schema.fields.length →
    ∃ s', s.set i metric = .ok s' ∧ s'.schema = schema ∧ s'.metric? i = some metric ∧
      ∀ j ≠ i, s'.metrics[j]? = s.metrics[j]?
  /-- Taking from a slot empties it and changes no other. -/
  take_of_lt : ∀ {α : Type} (type : MemberType α) (i : Nat), i < schema.fields.length →
    (∀ typeName defect, (s.takeAs type i).1 ≠ .error (.invalidBundle typeName defect)) ∧
    (s.takeAs type i).2.schema = schema ∧ (s.takeAs type i).2.metric? i = none ∧
    ∀ j ≠ i, (s.takeAs type i).2.metrics[j]? = s.metrics[j]?
  /-- All that can be taken a second time is what stands for no metric. -/
  take_again : ∀ {α β : Type} (type : MemberType α) (other : MemberType β) (i : Nat) (f : Field),
    schema.fields[i]? = some f →
      (s.takeAs type i).2.takeAs other i = (other.absence f, (s.takeAs type i).2)
  /-- Handles are taken as any other type. -/
  take_eq : ∀ (type : HandleType) (i : Nat), s.take type i = s.takeAs type.memberType i
  /-- The filled slots are listed in declaration order. -/
  filled_eq : s.filled =
    schema.fields.zipIdx.filterMap fun p => (s.metric? p.2).map fun m => (p.1, m)
  size_eq : s.size = s.filled.length
  isEmpty_iff : s.isEmpty = true ↔ s.filled = []
  /-- This takes a valid schema, since the first field of a name is found. -/
  get_ident : schema.validate = .ok () →
    ∀ (i : Nat) (f : Field), schema.fields[i]? = some f → s.get f.ident = s.metric? i
  get_other : ∀ ident ∉ schema.fields.map Field.ident, s.get ident = none

/-- Slots are in line with the schema that they are laid out for. -/
theorem inLine (s : Slots) : InLine s.schema s where
  schema_eq := rfl
  length_eq := s.aligned
  lt_of_lookup _ _ := lt_of_findIdx?
  refused i hi := by
    refine ⟨fun metric => ?_, fun type => takeAs_of_none (List.getElem?_eq_none hi) type⟩
    rw [set, if_neg (by rw [s.aligned]; omega)]
    rfl
  set_of_lt i metric hi := by
    rw [← s.aligned] at hi
    exact ⟨s.put i (some metric), if_pos hi, rfl, metric?_put hi _, fun j hj =>
      getElem?_put_of_ne hj _⟩
  take_of_lt type i hi := by
    have hf := List.getElem?_eq_getElem hi
    rw [← s.aligned] at hi
    rw [takeAs_slots hf]
    exact ⟨takeAs_ne_invalidBundle hf type, rfl, metric?_emptied hi, fun j hj =>
      getElem?_put_of_ne hj none⟩
  take_again type other i f hf := by
    have hlt : i < s.metrics.length := s.aligned ▸ (List.getElem?_eq_some_iff.mp hf).1
    have hfield : (s.emptied i).schema.fields[i]? = some f := hf
    rw [takeAs_slots hf]
    exact takeAs_of_empty hfield (metric?_emptied hlt) other
  take_eq := s.take_eq
  filled_eq := s.filled_eq
  size_eq := s.size_eq_length_filled
  isEmpty_iff := s.isEmpty_iff
  get_ident hvalid _ _ := get_ident (Schema.validate_eq_ok_iff.mp hvalid).2
  get_other _ := get_of_not_mem

/-- **Slots stay in line with the schema that they were laid out for**, whatever they are used for,
and however the factories work that they are populated by.  A slot that is empty stays empty as long
as no use puts anything into it. -/
theorem in_line_after_uses [Monad m] [LawfulMonad m] (schema : Schema) (uses : List (Use m)) :
    (∃ run : m {s // InLine schema s}, Subtype.val <$> run = uses.foldlM use (ofSchema schema)) ∧
    ∀ (s : Slots) (i : Nat), InLine schema s → s.metric? i = none → (∀ u ∈ uses, u.Spares i) →
      ∃ run : m {s' // InLine schema s' ∧ s'.metric? i = none},
        Subtype.val <$> run = uses.foldlM use s := by
  have hkeeps : ∀ (u : Use m) (s s' : Slots), InLine schema s → s.Next u s' →
      InLine schema s' := by
    intro u s s' hs hnext
    have hschema : s'.schema = schema := hnext.schema_eq.trans hs.schema_eq
    exact hschema ▸ s'.inLine
  refine ⟨foldlM_use_keeps (fun u _ => hkeeps u) (ofSchema schema).inLine, ?_⟩
  intro s i hs hempty hspares
  refine foldlM_use_keeps (fun u hu s s' hs hnext => ?_) ⟨hs, hempty⟩
  exact ⟨hkeeps u s s' hs.1 hnext, hnext.metric?_eq_none (hspares u hu) hs.2⟩

/-- The only slot is set and taken from, a second one that there is not is set, and the only one is
taken from again; then the slots are populated, which fills none. -/
theorem in_line_after_uses_of_counter :
    let uses : List (Use (StateM (List Request × Unit))) :=
      [.set 0 observedMetric, .take (HandleType.memberType .any) 0, .set 1 observedMetric,
        .take (HandleType.memberType (.option .any)) 0, .populate refusing counted]
    let s := (uses.foldlM use (ofSchema counted) ([], ())).1
    InLine counted s ∧ s.filled = [] := by
  intro uses s
  obtain ⟨⟨run, hrun⟩, -⟩ := in_line_after_uses counted uses
  have hs : s = (run ([], ())).1.1 := congrArg (fun action => (action ([], ())).1) hrun.symm
  exact ⟨hs ▸ (run ([], ())).1.2, rfl⟩

end Slots

end MetricBundle
