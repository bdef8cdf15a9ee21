import MetricBundle.Proofs.KeptCharacters
import MetricBundle.Proofs.Repopulation
import Mathlib.Tactic.SplitIfs

/-!
# Metrics that are named after their fields

The identifier of a field can begin with an underscore, which snake case leaves out.  What comes to
the front then may be a digit, with which no metric name begins, so not every identifier gives a
metric name: those do that have a letter as the first of their characters other than underscores
(`Field.metricName_of_identifier`, `metricName_of_digit`).

A digit at the front does no harm if there is a namespace or a subsystem before it.  Whatever comes
after these is in a metric name as long as it has no other characters than names have
(`Factory.isMetricName_fullName_iff`).  So a field without a name tag is refused for its name only
because of the namespace and the subsystem, or if it has neither and its identifier has a digit at
the front.
-/

namespace MetricBundle

/-! ## Metric names -/

/-- A character that names of metrics go on with. -/
def isNamePart (c : Char) : Bool := isNameStart c || c.isDigit

theorem isWord_iff {start : Char → Bool} {cs : List Char} :
    isWord start cs = true ↔
      (∃ c ∈ cs.head?, start c = true) ∧ ∀ c ∈ cs, (start c || c.isDigit) = true := by
  cases cs with
  | nil => simp [isWord]
  | cons c cs =>
    rw [isWord, Bool.and_eq_true, List.all_eq_true, List.forall_mem_cons]
    constructor
    · rintro ⟨hstart, hrest⟩
      exact ⟨⟨c, rfl, hstart⟩, by rw [hstart, Bool.true_or], hrest⟩
    · rintro ⟨⟨d, hd, hstart⟩, -, hrest⟩
      obtain rfl := Option.some.inj hd
      exact ⟨hstart, hrest⟩

/-- What a metric name goes on with does not matter, as long as it has the right characters. -/
theorem isWord_append_iff {cs rest : List Char} (hne : cs ≠ [])
    (hrest : ∀ c ∈ rest, isNamePart c = true) :
    isWord isNameStart (cs ++ rest) = true ↔ isWord isNameStart cs = true := by
  rw [isWord_iff, isWord_iff, List.head?_append_of_ne_nil cs hne, List.forall_mem_append]
  exact and_congr_right fun _ => ⟨And.left, fun hcs => ⟨hcs, hrest⟩⟩

/-! ## Identifiers -/

/-- A legal identifier: letters, digits and underscores, of which the first is no digit, and not all
are underscores. -/
structure IsIdentifier (cs : List Char) : Prop where
  all : ∀ c ∈ cs, c.isAlphanum = true ∨ c = '_'
  head : ∀ c ∈ cs.head?, c.isDigit = false
  exists_alphanum : ∃ c ∈ cs, c.isAlphanum = true

theorem isIdentifier_iff {cs : List Char} :
    IsIdentifier cs ↔ (cs.all fun c => c.isAlphanum || c == '_') = true ∧
      cs.head?.any Char.isDigit = false ∧ cs.any Char.isAlphanum = true := by
  have hall : (cs.all fun c => c.isAlphanum || c == '_') = true ↔
      ∀ c ∈ cs, c.isAlphanum = true ∨ c = '_' := by
    simp only [List.all_eq_true, Bool.or_eq_true, beq_iff_eq]
  have hhead : cs.head?.any Char.isDigit = false ↔ ∀ c ∈ cs.head?, c.isDigit = false := by
    cases cs.head? <;> simp
  rw [hall, hhead, List.any_eq_true]
  exact ⟨fun ⟨h₁, h₂, h₃⟩ => ⟨h₁, h₂, h₃⟩, fun ⟨h₁, h₂, h₃⟩ => ⟨h₁, h₂, h₃⟩⟩

instance (cs : List Char) : Decidable (IsIdentifier cs) := decidable_of_iff' _ isIdentifier_iff

/-- The first character other than underscores is a letter. -/
def LetterFirst (cs : List Char) : Prop := ∃ c ∈ (withoutUnderscores cs).head?, c.isAlpha = true

theorem letterFirst_iff {cs : List Char} :
    LetterFirst cs ↔ (withoutUnderscores cs).head?.any Char.isAlpha = true :=
  (Option.any_eq_true _ _).symm

instance (cs : List Char) : Decidable (LetterFirst cs) := decidable_of_iff' _ letterFirst_iff

/-- Letters and digits are those of ASCII. -/
theorem toNat_lt_of_isAlphanum {c : Char} (h : c.isAlphanum = true) : c.toNat < 0x80 := by
  have hle {last : Char} (hlast : c.val ≤ last.val) : c.toNat ≤ last.toNat :=
    UInt32.le_iff_toNat_le.mp hlast
  rcases Bool.or_eq_true_iff.mp h with halpha | hdigit
  · rcases Bool.or_eq_true_iff.mp halpha with hupper | hlower
    · have hZ : c.val ≤ 'Z'.val := (of_decide_eq_true hupper).2
      exact Nat.lt_of_le_of_lt (hle hZ) (by decide)
    · have hz : c.val ≤ 'z'.val := of_decide_eq_true (Bool.and_eq_true_iff.mp hlower).2
      exact Nat.lt_of_le_of_lt (hle hz) (by decide)
  · have hnine : c.val ≤ '9'.val := of_decide_eq_true (Bool.and_eq_true_iff.mp hdigit).2
    exact Nat.lt_of_le_of_lt (hle hnine) (by decide)

/-- A lowered letter or digit can be in a metric name, and a letter can be in front of it. -/
theorem toLower_of_isAlphanum {c : Char} (h : c.isAlphanum = true) :
    isNamePart c.toLower = true ∧ isNameStart c.toLower = c.isAlpha := by
  have hall : ∀ d : Char, d.toNat < 0x80 → d.isAlphanum = true →
      isNamePart d.toLower = true ∧ isNameStart d.toLower = d.isAlpha :=
    forall_ascii (by decide +kernel)
  exact hall c (toNat_lt_of_isAlphanum h) h

namespace IsIdentifier

variable {cs : List Char}

theorem isAscii (h : IsIdentifier cs) : IsAscii cs := by
  intro c hc
  rcases h.all c hc with halphanum | rfl
  · exact toNat_lt_of_isAlphanum halphanum
  · decide

theorem isAlphanum_of_mem (h : IsIdentifier cs) {c : Char} (hc : c ∈ withoutUnderscores cs) :
    c.isAlphanum = true := by
  obtain ⟨hmem, hne⟩ := List.mem_filter.mp hc
  exact (h.all c hmem).resolve_right (bne_iff_ne.mp hne)

/-- Something is left without the underscores. -/
theorem withoutUnderscores_ne_nil (h : IsIdentifier cs) : withoutUnderscores cs ≠ [] := by
  obtain ⟨c, hc, halphanum⟩ := h.exists_alphanum
  refine List.ne_nil_of_mem (List.mem_filter.mpr ⟨hc, bne_iff_ne.mpr ?_⟩)
  rintro rfl
  revert halphanum
  decide

end IsIdentifier

/-- What has no underscore at the front begins as without its underscores. -/
theorem head?_withoutUnderscores {cs : List Char} (h : Separated cs) :
    (withoutUnderscores cs).head? = cs.head? := by
  cases cs with
  | nil => rfl
  | cons c cs =>
    have hc : c ≠ '_' := by
      rintro rfl
      exact h.not_leading ⟨cs, rfl⟩
    rw [withoutUnderscores, List.filter_cons_of_pos (by simpa using hc), List.head?_cons,
      List.head?_cons]

section SnakeCase

variable {cs : List Char} (h : IsIdentifier cs)
include h

/-- The first character in snake case. -/
theorem head?_snakeCase :
    (snakeCase cs).head? = (withoutUnderscores cs).head?.map Char.toLower := by
  have hseparated : Separated (snakeCase cs) := Separated.intercalate (tidy_snakeWords cs)
  rw [← head?_withoutUnderscores hseparated, withoutUnderscores_snakeCase_of_ascii h.isAscii,
    List.head?_map]

/-- An identifier in snake case has only characters that a metric name can have. -/
theorem isNamePart_of_mem_snakeCase : ∀ c ∈ snakeCase cs, isNamePart c = true := by
  intro c hc
  rcases mem_snakeCase_of_ascii h.isAscii hc with rfl | ⟨d, hd, rfl⟩
  · decide
  · exact (toLower_of_isAlphanum (h.isAlphanum_of_mem hd)).1

theorem snakeCase_ne_nil : snakeCase cs ≠ [] := by
  intro hnil
  have hhead := head?_snakeCase h
  rw [hnil, List.head?_nil] at hhead
  have hnone := Option.map_eq_none_iff.mp hhead.symm
  exact h.withoutUnderscores_ne_nil (List.head?_eq_none_iff.mp hnone)

/-- Which identifiers are metric names in snake case. -/
theorem isWord_snakeCase_iff : isWord isNameStart (snakeCase cs) = true ↔ LetterFirst cs := by
  have hparts := isNamePart_of_mem_snakeCase h
  have hstart {d : Char} (hd : d ∈ (withoutUnderscores cs).head?) :
      isNameStart d.toLower = d.isAlpha :=
    (toLower_of_isAlphanum (h.isAlphanum_of_mem (List.mem_of_mem_head? hd))).2
  rw [isWord_iff, head?_snakeCase h]
  constructor
  · rintro ⟨⟨c, hc, hname⟩, -⟩
    obtain ⟨d, hd, rfl⟩ := Option.map_eq_some_iff.mp hc
    exact ⟨d, hd, hstart hd ▸ hname⟩
  · rintro ⟨d, hd, halpha⟩
    exact ⟨⟨d.toLower, Option.map_eq_some_iff.mpr ⟨d, hd, rfl⟩, (hstart hd).trans halpha⟩, hparts⟩

end SnakeCase

/-! ## Full names -/

namespace Factory

variable {f : Factory} {o : Opts}

/-- What there is of the namespace and the subsystem in front of a name. -/
def scopeParts (f : Factory) (o : Opts) : List String :=
  [if o.space.isEmpty then f.space else o.space,
    if o.subsystem.isEmpty then f.subsystem else o.subsystem].filter fun part => !part.isEmpty

/-- What stands in front of a name. -/
def scope (f : Factory) (o : Opts) : String := "_".intercalate (f.scopeParts o)

theorem toList_scope :
    (f.scope o).toList = ['_'].intercalate ((f.scopeParts o).map String.toList) := by
  rw [scope, String.toList_intercalate]
  rfl

theorem scope_eq_empty_iff : f.scope o = "" ↔ f.scopeParts o = [] := by
  have hparts : ∀ part ∈ (f.scopeParts o).map String.toList, part ≠ [] := by
    intro part hpart
    obtain ⟨text, htext, rfl⟩ := List.mem_map.mp hpart
    have := (List.mem_filter.mp htext).2
    simpa using this
  rw [← String.toList_eq_nil_iff, toList_scope, intercalate_eq_nil_iff hparts, List.map_eq_nil_iff]

theorem fullName_eq (hname : o.name.isEmpty = false) :
    f.fullName o = "_".intercalate (f.scopeParts o ++ [o.name]) := by
  have hlast : ([o.name].filter fun part => !part.isEmpty) = [o.name] :=
    List.filter_cons_of_pos (by rw [hname]; rfl)
  have hparts (space subsystem : String) :
      ([space, subsystem, o.name].filter fun part => !part.isEmpty) =
        ([space, subsystem].filter fun part => !part.isEmpty) ++ [o.name] := by
    have hsplit := List.filter_append (p := fun part => !part.isEmpty) [space, subsystem] [o.name]
    rwa [hlast] at hsplit
  rw [fullName, hparts, scopeParts]

theorem toList_fullName (hname : o.name.isEmpty = false) :
    (f.fullName o).toList =
      if f.scope o = "" then o.name.toList else (f.scope o).toList ++ '_' :: o.name.toList := by
  rw [fullName_eq hname, String.toList_intercalate, List.map_append, List.map_singleton]
  split
  case isTrue hempty =>
    rw [scope_eq_empty_iff.mp hempty, List.map_nil, List.nil_append, List.intercalate_singleton]
  case isFalse hscope =>
    have hparts : (f.scopeParts o).map String.toList ≠ [] :=
      mt (fun h => scope_eq_empty_iff.mpr (List.map_eq_nil_iff.mp h)) hscope
    rw [intercalate_append hparts (List.cons_ne_nil _ []), List.intercalate_singleton, toList_scope,
      List.append_assoc]
    rfl

/-- **What is in front of a name decides whether the full name is one**, if the name has only
characters that names have: the namespace and the subsystem, or the name itself if it has
neither. -/
theorem isMetricName_fullName_iff (hname : o.name.isEmpty = false)
    (hparts : ∀ c ∈ o.name.toList, isNamePart c = true) :
    isMetricName (f.fullName o) = true ↔
      isMetricName (if f.scope o = "" then o.name else f.scope o) = true := by
  rw [isMetricName, isMetricName, toList_fullName hname]
  split
  case isTrue => rfl
  case isFalse hscope =>
    refine isWord_append_iff (mt String.toList_eq_nil_iff.mp hscope) ?_
    rw [List.forall_mem_cons]
    exact ⟨by decide, hparts⟩

end Factory

/-! ## What is refused for its name -/

/-- What is wrong with labels is never the name of the metric. -/
theorem Descriptor.variableDefect_ne_invalidMetricName {seen names : List String} {name : String} :
    variableDefect seen names ≠ some (.invalidMetricName name) := by
  induction names generalizing seen with
  | nil => nofun
  | cons label names ih =>
    unfold variableDefect
    split_ifs
    · nofun
    · nofun
    · exact ih

theorem Descriptor.defect_eq_invalidMetricName {d : Descriptor} {name : String}
    (h : d.defect = some (.invalidMetricName name)) :
    name = d.fqName ∧ isMetricName d.fqName = false := by
  unfold defect at h
  split_ifs at h with hhelp hname
  · cases h
  · obtain rfl := MetricError.invalidMetricName.inj (Option.some.inj h)
    exact ⟨rfl, by simpa using hname⟩
  · split at h
    case h_1 e hconst =>
      obtain ⟨label, -, hlabel⟩ := Option.map_eq_some_iff.mp hconst
      rw [← hlabel] at h
      cases h
    case h_2 => exact absurd h variableDefect_ne_invalidMetricName

theorem Descriptor.of_eq_invalidMetricName {o : Opts} {labels : List String} {name : String}
    (h : Descriptor.of o labels = .error (.invalidMetricName name)) :
    name = o.fqName ∧ isMetricName o.fqName = false := by
  simp only [Descriptor.of] at h
  split at h
  case h_1 e hdefect =>
    obtain rfl := Except.error.inj h
    exact defect_eq_invalidMetricName hdefect
  case h_2 => cases h

theorem Blueprint.requestDefect_ne_invalidMetricName {r : Request} {name : String} :
    requestDefect r ≠ some (.invalidMetricName name) := by
  unfold requestDefect SummaryOpts.defect
  split
  · split
    · nofun
    · split_ifs <;> nofun
  · nofun

theorem Blueprint.newMeter_ne_invalidMetricName {b : Blueprint} {now : Nat} {name : String} :
    b.newMeter now ≠ .error (.metric (.invalidMetricName name)) := by
  intro h
  unfold newMeter at h
  split at h
  case h_1 | h_2 => cases h
  case h_3 o ho =>
    split at h
    case h_1 => cases h
    case h_2 e hbounds =>
      obtain rfl := Fault.metric.inj (Except.error.inj h)
      unfold bucketBounds at hbounds
      simp only at hbounds
      split at hbounds <;> cases hbounds
  case h_4 => split at h <;> cases h

/-- Nor is it the reason why a series is not started. -/
theorem Blueprint.onlySeries_ne_invalidMetricName {b : Blueprint} {now : Nat} {name : String} :
    b.onlySeries now ≠ .error (.metric (.invalidMetricName name)) := by
  intro h
  unfold onlySeries newSeries labelDefect arityDefect at h
  split_ifs at h
  · cases h
  · cases h
  · cases h
  · exact newMeter_ne_invalidMetricName (eq_error_of_map_eq_error h)
  · cases h

/-- The name is why a metric is not made only if it is not valid. -/
theorem Telemetry.make_eq_invalidMetricName {t : Telemetry} {r : Request} {name : String}
    (h : t.make r = .error (.metric (.invalidMetricName name))) :
    name = r.opts.common.fqName ∧ isMetricName r.opts.common.fqName = false := by
  unfold make at h
  split at h
  case h_1 b hb =>
    unfold build at h
    split at h
    case h_1 => exact absurd (eq_error_of_map_eq_error h) Blueprint.onlySeries_ne_invalidMetricName
    case h_2 => cases h
  case h_2 e he =>
    obtain rfl := Fault.metric.inj (Except.error.inj h)
    unfold Blueprint.of at he
    split at he
    case h_1 e hdefect =>
      obtain rfl := Except.error.inj he
      exact absurd hdefect Blueprint.requestDefect_ne_invalidMetricName
    case h_2 => exact Descriptor.of_eq_invalidMetricName (eq_error_of_map_eq_error he)

/-- It is why a request is refused only if the full name is not valid. -/
theorem Factory.invalidMetricName_of_newMetric {f : Factory} {r : Request} {t t' : Telemetry}
    {name : String}
    (h : f.newMetric r t = (.ok (.error (.single (.metric (.invalidMetricName name)))), t')) :
    name = f.fullName r.opts.common ∧ isMetricName (f.fullName r.opts.common) = false := by
  cases ending_of_newMetric h with
  | unmade hname hmake =>
    have hinvalid := Telemetry.make_eq_invalidMetricName hmake
    rwa [prepareRequest, MetricOpts.common_withCommon, fqName_prepare hname] at hinvalid
  | unregistered _ _ _ hdefect =>
    unfold Telemetry.registrationDefect at hdefect
    split_ifs at hdefect <;> cases hdefect

namespace Field

variable {field : Field}

/-- What a factory refuses for its name on behalf of a field. -/
theorem consult_refused_for_name {f : Factory} {t t' : Telemetry} {reply : Reply}
    (hconsult : f.toMetricFactory.consult field t = (.ok reply, t')) {failure : Failure}
    (hfailure : failure ∈ field.failuresAfter reply) :
    (failure = .noMetricName → field.metricName.isEmpty = true) ∧
    ∀ name, failure = .metric (.invalidMetricName name) →
      name = f.fullName field.commonOpts ∧ isMetricName (f.fullName field.commonOpts) = false := by
  rcases Factory.consult_cases hconsult with ⟨-, hfault, -⟩ | ⟨-, -, hnone, -⟩ |
    ⟨r, outcome, -, hcall, hr, hanswer⟩
  · cases hfault
  · obtain rfl := Except.ok.inj hnone
    -- the field was not asked about, so all failures are its own
    unfold failuresAfter at hfailure
    split_ifs at hfailure
    · cases hfailure
    · obtain ⟨fault, -, rfl⟩ := List.mem_map.mp hfailure
      exact ⟨nofun, nofun⟩
  · obtain ⟨answer, rfl, rfl⟩ := exists_of_map_eq_ok hanswer.symm
    have hskip := (call?_eq_some_iff.mp hcall).1
    cases answer with
    | ok metric =>
      rw [failuresAfter_ok hskip] at hfailure
      cases hfailure
    | error e =>
      rw [failuresAfter_error hskip] at hfailure
      have hcommon := common_of_call? hcall
      cases Factory.ending_of_newMetric hr with
      | unnamed hempty =>
        obtain rfl := List.mem_singleton.mp hfailure
        rw [hcommon] at hempty
        exact ⟨fun _ => hempty, nofun⟩
      | unmade | unregistered =>
        obtain rfl := List.mem_singleton.mp hfailure
        refine ⟨nofun, fun name hname => ?_⟩
        rw [hname] at hr
        rw [← hcommon]
        exact Factory.invalidMetricName_of_newMetric hr

theorem toList_metricName (hname : field.tags.lookup .name = none) :
    field.metricName.toList = snakeCase field.ident.toList := by
  unfold metricName MetricBundle.metricName
  rw [hname, String.toList_ofList]

/-- **Metrics that are named after their fields.**  Let a field with a legal identifier have no name
tag.  Its metric name is valid if and only if the first character of the identifier other than
underscores is a letter.  A factory that is consulted about the field never finds it without a name.
It refuses the full name only if the namespace and the subsystem in front are not a metric name
themselves, or if there are none and the identifier has a digit in place of that letter. -/
theorem metricName_of_identifier (hident : IsIdentifier field.ident.toList)
    (hname : field.tags.lookup .name = none) :
    (isMetricName field.metricName = true ↔ LetterFirst field.ident.toList) ∧
    ∀ (f : Factory) (t t' : Telemetry) (reply : Reply),
      f.toMetricFactory.consult field t = (.ok reply, t') →
      ∀ failure ∈ field.failuresAfter reply, failure ≠ .noMetricName ∧
        ∀ name, failure = .metric (.invalidMetricName name) →
          name = f.fullName field.commonOpts ∧
          if f.scope field.commonOpts = "" then ¬LetterFirst field.ident.toList
          else isMetricName (f.scope field.commonOpts) = false := by
  have hchars : field.metricName.toList = snakeCase field.ident.toList := toList_metricName hname
  have hvalid : isMetricName field.metricName = true ↔ LetterFirst field.ident.toList := by
    rw [isMetricName, hchars]
    exact isWord_snakeCase_iff hident
  have hnamed : field.commonOpts.name.isEmpty = false := by
    show field.metricName.isEmpty = false
    rw [← Bool.not_eq_true, String.isEmpty_iff, ← String.toList_eq_nil_iff, hchars]
    exact snakeCase_ne_nil hident
  have hparts : ∀ c ∈ field.commonOpts.name.toList, isNamePart c = true := by
    show ∀ c ∈ field.metricName.toList, isNamePart c = true
    rw [hchars]
    exact isNamePart_of_mem_snakeCase hident
  refine ⟨hvalid, fun f t t' reply hconsult failure hfailure => ?_⟩
  obtain ⟨hempty, hinvalid⟩ := consult_refused_for_name hconsult hfailure
  refine ⟨fun hnone => ?_, fun name hrefused => ?_⟩
  · exact absurd (hempty hnone) (Bool.eq_false_iff.mp hnamed)
  · obtain ⟨hfull, hnot⟩ := hinvalid name hrefused
    refine ⟨hfull, ?_⟩
    rw [← Bool.not_eq_true, Factory.isMetricName_fullName_iff hnamed hparts] at hnot
    by_cases hscope : f.scope field.commonOpts = ""
    · rw [if_pos hscope] at hnot ⊢
      exact mt hvalid.mpr hnot
    · rw [if_neg hscope] at hnot ⊢
      exact Bool.eq_false_iff.mpr hnot

/-- A namespace can be the reason for refusing a name. -/
theorem metricName_of_identifier_in_digits :
    let field := Field.ofKind "_RequestCount" (.metric .counter .scalar)
    let f : Factory := ⟨"9", ""⟩
    let reply : Reply := some (.error (.single (.metric (.invalidMetricName "9_request_count"))))
    IsIdentifier field.ident.toList ∧ field.tags.lookup .name = none ∧
      isMetricName field.metricName = true ∧
      (∃ t', f.toMetricFactory.consult field {} = (.ok reply, t')) ∧
      f.scope field.commonOpts = "9" ∧ isMetricName (f.scope field.commonOpts) = false := by
  intro field f reply
  have hident : IsIdentifier field.ident.toList := by decide +kernel
  have hletter : LetterFirst field.ident.toList := by decide +kernel
  have hscope : f.scope field.commonOpts = "9" := by decide +kernel
  obtain ⟨hvalid, hreason⟩ := metricName_of_identifier hident rfl
  have hreply : (f.toMetricFactory.consult field {}).1 = .ok reply := by decide +kernel
  rcases hconsult : f.toMetricFactory.consult field {} with ⟨result, t'⟩
  rw [hconsult] at hreply
  obtain rfl : result = .ok reply := hreply
  obtain ⟨-, hrefused⟩ := hreason f {} t' reply hconsult _ List.mem_cons_self
  have hblame := (hrefused _ rfl).2
  rw [if_neg (by rw [hscope]; decide)] at hblame
  exact ⟨hident, rfl, hvalid.mpr hletter, ⟨t', rfl⟩, hscope, hblame⟩

/-- Nothing is left in front of a digit that underscores make legal. -/
theorem metricName_of_digit :
    let field := Field.ofKind "_1" (.metric .counter .scalar)
    IsIdentifier field.ident.toList ∧ field.tags.lookup .name = none ∧
      field.metricName = "1" ∧ isMetricName field.metricName = false ∧
      ((Factory.toMetricFactory ⟨"", ""⟩).consult field {}).1 =
        .ok (some (.error (.single (.metric (.invalidMetricName "1"))))) := by
  intro field
  have hident : IsIdentifier field.ident.toList := by decide +kernel
  have hsnake : field.metricName = "1" := by decide +kernel
  have hinvalid : isMetricName field.metricName = false := by
    rw [hsnake]
    decide
  have hreply : ((Factory.toMetricFactory ⟨"", ""⟩).consult field {}).1 =
      .ok (some (.error (.single (.metric (.invalidMetricName "1"))))) := by
    decide +kernel
  exact ⟨hident, rfl, hsnake, hinvalid, hreply⟩

end Field

end MetricBundle
