import MetricBundle.Derivation
import Mathlib.Data.List.Nodup

/-!
# The schema of a derived bundle

A declaration says twice what is to be done about a field: by the schema, whose fields populating
goes through, and by the initializers, which take the metrics out again.  This module shows that
both say the same.

Everything rests on the tags of a declared field being given once each
(`Attribute.distinct_readAll`).  Then they are the tags of the schema's field, in their order
(`DerivedField.toField_eq`), and the field is skipped if and only if the declaration ignores it
(`DerivedField.skip_toField`).  A schema is valid if its fields have different names, none of them
empty (`Schema.validate_eq_ok_iff`).
-/

namespace MetricBundle

/-! ## Tags that are given once -/

/-- No tag is given twice. -/
abbrev Distinct (tags : List (Tag × String)) : Prop := (tags.map Prod.fst).Nodup

theorem any_tag_iff {tags : List (Tag × String)} {tag : Tag} :
    tags.any (·.1 == tag) = true ↔ tag ∈ tags.map Prod.fst := by
  simp only [List.any_eq_true, beq_iff_eq, List.mem_map]

theorem distinct_concat {tags : List (Tag × String)} {entry : Tag × String} (h : Distinct tags)
    (hnew : entry.1 ∉ tags.map Prod.fst) : Distinct (tags ++ [entry]) := by
  rw [Distinct, List.map_append, List.nodup_append]
  refine ⟨h, List.nodup_singleton _, ?_⟩
  rintro tag htag _ (_ | ⟨_, hnil⟩) rfl
  · exact hnew htag
  · cases hnil

namespace Attribute

/-- Each item that is read gives a tag that was not given before. -/
theorem distinct_readItems {items : List (List Token)} {tags tags' : List (Tag × String)}
    (h : readItems tags items = .ok tags') (hd : Distinct tags) : Distinct tags' := by
  induction items generalizing tags with
  | nil =>
    obtain rfl := Except.ok.inj h
    exact hd
  | cons item others ih =>
    unfold readItems at h
    split at h
    case isTrue =>
      obtain rfl := Except.ok.inj h
      exact hd
    case isFalse =>
      split at h
      case h_1 => cases h
      case h_2 entry rest _ =>
        split at h
        case isTrue => cases h
        case isFalse hnew =>
          split at h
          case isTrue => exact ih h (distinct_concat hd fun hmem => hnew (any_tag_iff.mpr hmem))
          case isFalse => cases h

theorem distinct_readAll {attributes : List Attribute} {tags tags' : List (Tag × String)}
    (h : readAll tags attributes = .ok tags') (hd : Distinct tags) : Distinct tags' := by
  induction attributes generalizing tags with
  | nil =>
    obtain rfl := Except.ok.inj h
    exact hd
  | cons a others ih =>
    unfold readAll at h
    split at h
    case isTrue =>
      split at h
      case h_1 => cases h
      case h_2 => cases h
      case h_3 items _ =>
        split at h
        case h_1 => cases h
        case h_2 hitems => exact ih h (distinct_readItems hitems hd)
    case isFalse => exact ih h hd

end Attribute

namespace Tags

/-- A tag that was not given before is put last. -/
theorem entries_insert_of_not_mem {ts : Tags} {tag : Tag} (h : tag ∉ ts.entries.map Prod.fst)
    (value : String) : (ts.insert tag value).entries = ts.entries ++ [(tag, value)] := by
  rw [insert, if_neg fun hany => h (any_tag_iff.mp hany)]

theorem lookup_eq_some_iff {ts : Tags} (h : Distinct ts.entries) {tag : Tag} {value : String} :
    ts.lookup tag = some value ↔ (tag, value) ∈ ts.entries := by
  obtain ⟨entries⟩ := ts
  simp only [lookup]
  induction entries with
  | nil => simp
  | cons e rest ih =>
    obtain ⟨hnew, hrest⟩ := List.nodup_cons.mp h
    obtain ⟨key, v⟩ := e
    by_cases hkey : key = tag
    · subst hkey
      have hnot : (key, value) ∉ rest := fun hmem =>
        hnew (List.mem_map.mpr ⟨(key, value), hmem, rfl⟩)
      simp [hnot, eq_comm]
    · rw [List.find?_cons_of_neg (by simpa using hkey), ih hrest, List.mem_cons]
      refine ⟨.inr, fun hmem => hmem.resolve_left fun heq => hkey ?_⟩
      exact (Prod.mk.inj heq).1.symm

end Tags

namespace DerivedField

theorem foldl_withTag {tags : List (Tag × String)} {f : Field}
    (h : Distinct (f.tags.entries ++ tags)) :
    tags.foldl (fun field e => field.withTag e.1 e.2) f =
      { f with tags := ⟨f.tags.entries ++ tags⟩ } := by
  induction tags generalizing f with
  | nil => simp
  | cons e tags ih =>
    -- no tag was given before, so inserting never replaces
    have hnew : e.1 ∉ f.tags.entries.map Prod.fst := by
      rw [Distinct, List.map_append, List.map_cons] at h
      exact fun hmem => List.disjoint_of_nodup_append h hmem List.mem_cons_self
    have hentries : (f.withTag e.1 e.2).tags.entries = f.tags.entries ++ [e] :=
      Tags.entries_insert_of_not_mem hnew e.2
    rw [List.foldl_cons, ih (by rwa [hentries, List.append_assoc]), hentries, List.append_assoc]
    rfl

/-- The field of the schema has just the tags that were read, in their order. -/
theorem toField_eq {g : DerivedField} (h : Distinct g.tags) :
    g.toField = { ident := g.ident, typeName := g.typeName, kind := g.kind, tags := ⟨g.tags⟩ } :=
  foldl_withTag h

/-- The field is skipped if and only if the declaration ignores it. -/
theorem skip_toField {g : DerivedField} (h : Distinct g.tags) : g.toField.skip = g.skipped := by
  rw [Bool.eq_iff_iff, toField_eq h]
  have hskipped : g.skipped = true ↔ (.ignore, Tag.ignored) ∈ g.tags := by
    simp [skipped, List.any_eq_true]
  have hget (value : Option String) : value.getD "" = Tag.ignored ↔ value = some Tag.ignored := by
    cases value <;> simp [Tag.ignored]
  simp only [Field.skip, Bool.not_true, Bool.false_or, beq_iff_eq, Tags.get, hget]
  rw [Tags.lookup_eq_some_iff h, hskipped]

/-- A member takes the metric with its own index if the field is a metric that is not ignored. -/
theorem initializer_eq_take_iff {g : DerivedField} {i index : Nat} {type : HandleType} :
    g.initializer i = .take index type ↔
      g.skipped = false ∧ index = i ∧ g.handleType? = some type := by
  have hvacant : g.vacant ≠ .take index type := by
    unfold vacant
    split <;> exact fun h => nomatch h
  unfold initializer
  cases htype : g.handleType? with
  | none => simp [hvacant]
  | some known =>
    cases g.skipped with
    | true => simp [hvacant]
    | false => simp [eq_comm]

theorem initializer_eq_vacant {g : DerivedField} {i : Nat}
    (h : ∀ index type, g.initializer i ≠ .take index type) : g.initializer i = g.vacant := by
  unfold initializer at h ⊢
  cases htype : g.handleType? with
  | none => rfl
  | some type =>
    simp only [htype] at h ⊢
    by_cases hskipped : g.skipped = true
    · exact if_pos hskipped
    · exact absurd (if_neg hskipped) (h i type)

theorem handleType?_eq_some_iff {g : DerivedField} {type : HandleType} :
    g.handleType? = some type ↔
      ∃ known, HandleType.ofKind g.kind = some known ∧
        type = if g.optional then .option known else known := by
  rw [handleType?, Option.map_eq_some_iff]
  exact exists_congr fun known => and_congr_right fun _ => eq_comm

theorem exists_handleType?_iff {g : DerivedField} :
    (∃ type, g.handleType? = some type) ↔ g.kind.isMetric = true := by
  rw [← Option.isSome_iff_exists, handleType?, Option.isSome_map]
  cases g.kind <;> simp [HandleType.ofKind, FieldKind.isMetric]

end DerivedField

/-! ## Valid schemas -/

namespace Schema

/-- The identifiers of fields that follow others: none is empty, no two are the same, and none is
one of those before. -/
theorem firstDefect_eq_none_iff {seen : List String} {fields : List Field} :
    firstDefect seen fields = none ↔
      "" ∉ fields.map Field.ident ∧ (fields.map Field.ident).Nodup ∧
        ∀ ident ∈ fields.map Field.ident, ident ∉ seen := by
  induction fields generalizing seen with
  | nil => simp [firstDefect]
  | cons f fs ih =>
    rw [firstDefect, List.map_cons, List.nodup_cons]
    by_cases hempty : f.ident = ""
    · simp [hempty]
    · by_cases hseen : f.ident ∈ seen
      · simp [hempty, hseen]
      · rw [if_neg (by simpa using hempty), if_neg (by simpa using hseen), ih]
        simp only [List.mem_cons, List.mem_append, List.not_mem_nil, or_false, not_or,
          forall_eq_or_imp]
        constructor
        · rintro ⟨hnames, hdistinct, hbefore⟩
          refine ⟨⟨fun h => hempty h.symm, hnames⟩, ⟨fun hmem => ?_, hdistinct⟩, hseen,
            fun ident hmem => (hbefore ident hmem).1⟩
          exact (hbefore f.ident hmem).2 rfl
        · rintro ⟨⟨-, hnames⟩, ⟨hnew, hdistinct⟩, -, hbefore⟩
          exact ⟨hnames, hdistinct, fun ident hmem =>
            ⟨hbefore ident hmem, fun heq => hnew (heq ▸ hmem)⟩⟩

/-- A schema is valid if its fields have different names, none of them empty. -/
theorem validate_eq_ok_iff {s : Schema} :
    s.validate = .ok () ↔ "" ∉ s.fields.map Field.ident ∧ (s.fields.map Field.ident).Nodup := by
  have hnone : s.validate = .ok () ↔ firstDefect [] s.fields = none := by
    unfold validate
    cases firstDefect [] s.fields <;> simp
  simp [hnone, firstDefect_eq_none_iff]

end Schema

/-! ## Reading the fields of a declaration -/

namespace Derivation

/-- **A declared field and the field derived from it.**  The name is taken without its marker, the
kind and the option from the declared type, and the tags from the attributes.  A field that is
ignored is an option, unless it is no metric. -/
structure Reads (f : DeclaredField) (g : DerivedField) : Prop where
  ident : g.ident = plainName f.ident
  typeName : g.typeName = Token.denseSource f.type.tokens
  kind : (g.kind, g.optional) = f.type.form.kind
  tags : Attribute.readAll [] f.attributes = .ok g.tags
  vacant : g.kind.isMetric = true → g.skipped = true → g.optional = true

theorem reads_of_readField {f : DeclaredField} {g : DerivedField} (h : readField f = .ok g) :
    Reads f g := by
  unfold readField at h
  split at h
  case h_1 => cases h
  case h_2 tags htags =>
    simp only at h
    split at h
    case isTrue => cases h
    case isFalse hvacant =>
      obtain rfl := Except.ok.inj h
      exact ⟨rfl, rfl, rfl, htags, by simpa using hvacant⟩

theorem reads_of_readFields {fs : List DeclaredField} {gs : List DerivedField}
    (h : readFields fs = .ok gs) : List.Forall₂ Reads fs gs := by
  induction fs generalizing gs with
  | nil =>
    obtain rfl := Except.ok.inj h
    exact .nil
  | cons f fs ih =>
    unfold readFields at h
    split at h
    case h_1 => cases h
    case h_2 g hg =>
      split at h
      case h_1 => cases h
      case h_2 others hothers =>
        obtain rfl := Except.ok.inj h
        exact .cons (reads_of_readField hg) (ih hothers)

theorem reads_of_ofItem {item : Item} {d : Derivation} (h : ofItem item = .ok d) :
    List.Forall₂ Reads item.fields d.fields := by
  unfold ofItem at h
  split at h
  case h_1 =>
    split at h
    case h_1 => cases h
    case h_2 fields hfields =>
      obtain rfl := Except.ok.inj h
      exact reads_of_readFields hfields
  all_goals cases h

/-- The tags of a derived field are given once each. -/
theorem Reads.distinct {f : DeclaredField} {g : DerivedField} (h : Reads f g) : Distinct g.tags :=
  Attribute.distinct_readAll h.tags .nil

/-- The field of the schema is the declared one, with the tags that were read. -/
theorem Reads.toField {f : DeclaredField} {g : DerivedField} (h : Reads f g) :
    g.toField =
      { ident := plainName f.ident
        typeName := Token.denseSource f.type.tokens
        kind := f.type.form.kind.1
        tags := ⟨g.tags⟩ } := by
  rw [DerivedField.toField_eq h.distinct, h.ident, h.typeName, ← h.kind]

/-- A member takes a metric if and only if populating goes for one. -/
theorem Reads.exists_take_iff {f : DeclaredField} {g : DerivedField} (h : Reads f g) (i : Nat) :
    (∃ index type, g.initializer i = .take index type) ↔
      g.kind.isMetric = true ∧ g.toField.skip = false := by
  rw [DerivedField.skip_toField h.distinct, ← DerivedField.exists_handleType?_iff]
  simp only [DerivedField.initializer_eq_take_iff]
  constructor
  · rintro ⟨_, type, hskipped, rfl, htype⟩
    exact ⟨⟨type, htype⟩, hskipped⟩
  · rintro ⟨⟨type, htype⟩, hskipped⟩
    exact ⟨i, type, hskipped, rfl, htype⟩

/-- A member that takes no metric is absent if it is optional, and otherwise no metric. -/
theorem Reads.initializer_cases {f : DeclaredField} {g : DerivedField} (h : Reads f g) (i : Nat) :
    (∃ index type, g.initializer i = .take index type) ∨
      (g.initializer i = .none ∧ g.optional = true) ∨
      (g.initializer i = .default ∧ g.kind.isMetric = false) := by
  by_cases htake : ∃ index type, g.initializer i = .take index type
  · exact .inl htake
  · rw [DerivedField.initializer_eq_vacant fun index type heq => htake ⟨index, type, heq⟩,
      DerivedField.vacant]
    by_cases hoptional : g.optional = true
    · exact .inr (.inl ⟨if_pos hoptional, hoptional⟩)
    · refine .inr (.inr ⟨if_neg hoptional, ?_⟩)
      rw [h.exists_take_iff, DerivedField.skip_toField h.distinct] at htake
      by_cases hmetric : g.kind.isMetric = true
      · -- a metric that takes nothing is skipped, which only an option may be
        have hskipped : g.skipped = true := by
          simpa using fun hskipped => htake ⟨hmetric, hskipped⟩
        exact absurd (h.vacant hmetric hskipped) hoptional
      · exact Bool.not_eq_true _ ▸ hmetric

theorem idents_schema {fs : List DeclaredField} {d : Derivation}
    (h : List.Forall₂ Reads fs d.fields) :
    d.schema.fields.map Field.ident = fs.map fun f => plainName f.ident := by
  obtain ⟨typeName, gs⟩ := d
  simp only [schema, List.map_map] at h ⊢
  induction h with
  | nil => rfl
  | cons hreads _ ih =>
    rw [List.map_cons, List.map_cons, ih, Function.comp_apply, hreads.toField]

/-- The schema is valid if the declared fields have different names, none of them empty. -/
theorem validate_schema {fs : List DeclaredField} {d : Derivation}
    (h : List.Forall₂ Reads fs d.fields)
    (hnamed : "" ∉ fs.map fun f => plainName f.ident)
    (hdistinct : (fs.map fun f => plainName f.ident).Nodup) : d.schema.validate = .ok () := by
  rw [Schema.validate_eq_ok_iff, idents_schema h]
  exact ⟨hnamed, hdistinct⟩

theorem getElem?_initializers {d : Derivation} {i : Nat} :
    d.initializers[i]? = d.fields[i]?.map fun g => g.initializer i :=
  List.getElem?_mapIdx

theorem getElem?_schema {d : Derivation} {i : Nat} :
    d.schema.fields[i]? = d.fields[i]?.map DerivedField.toField :=
  List.getElem?_map

/-- Every derived field was read from a declared one. -/
theorem exists_reads {fs : List DeclaredField} {d : Derivation}
    (h : List.Forall₂ Reads fs d.fields) {i : Nat} {g : DerivedField}
    (hg : d.fields[i]? = some g) : ∃ f, fs[i]? = some f ∧ Reads f g := by
  obtain ⟨hlt, rfl⟩ := List.getElem?_eq_some_iff.mp hg
  have hlt' : i < fs.length := h.length_eq ▸ hlt
  exact ⟨fs[i], List.getElem?_eq_getElem hlt', h.get hlt' hlt⟩

end Derivation

end MetricBundle
