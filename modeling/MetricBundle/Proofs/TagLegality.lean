import MetricBundle.Proofs.KindAgreement
import Mathlib.Algebra.GroupWithZero.Nat
import Mathlib.Data.List.TakeWhile

/-!
# Which tags a field may have

Each arm of the resolver checks tags in an order of its own.  All of them come to the same rule: a
tag is legal or not (`Tag.legal`) by the kind of the field and by the instrument that its metric
will be, and a legal tag with a value has some number of misreadings (`Tag.misreadings`).  The
faults of a field are, in some order, one for each illegal tag that it has, those of reading the
legal ones, and one for a vector without label names (`Field.faults_perm`).  A value that overflows
is one that cannot be read; there is nothing to be had from such a field at all.
-/

namespace MetricBundle

/-! ## Misreadings -/

/-- The entry, white space around it aside, is not a number. -/
def isUnreadable (entry : List Char) : Bool := !(Number.read (trimBlank entry)).isOk

/-- The misreadings of an objective: one if it has not two sides, or else one for each side that is
not a number. -/
def misreadObjective (entry : List Char) : Nat :=
  match splitOn ':' entry with
  | [quantile, error] => [quantile, error].countP isUnreadable
  | _ => 1

/-- Fields whose tags decide between a histogram and a summary. -/
def FieldKind.isObserver : FieldKind → Bool
  | .observer _ => true
  | _ => false

namespace Tag

/-- In how many places the value of a tag cannot be read.  An empty value is read as none at all. -/
def misreadings (t : Tag) (value : String) : Nat :=
  if value.isEmpty then 0
  else
    match t with
    | .buckets => (splitOn ',' value.toList).countP isUnreadable
    | .objectives => ((splitOn ',' value.toList).map misreadObjective).sum
    | .maxAge => if (Duration.read value.toList).isOk then 0 else 1
    | .ageBuckets | .bufCap => if (readCount value.toList).isOk then 0 else 1
    | _ => 0

/-- A field of the given kind may have the tag when its metric is to be of the given instrument. -/
def legal (k : FieldKind) (i : Instrument) : Tag → Bool
  | .ignore | .space | .subsystem | .name | .help => true
  | .labelNames => k.isVector
  | .kind => k.isObserver
  | .buckets => i == .histogram
  | .objectives | .maxAge | .ageBuckets | .bufCap => i == .summary

/-- The fault of having a tag that is not legal.  An observer might have had the tags of the other
instrument. -/
def misfit (k : FieldKind) (t : Tag) : FieldFault :=
  match k, t with
  | .observer _, .labelNames => .notAllowed t
  | .observer _, _ => .ambiguous t
  | _, _ => .notAllowed t

theorem misfit_observer (s : Shape) {t : Tag} (h : t ≠ .labelNames) :
    misfit (.observer s) t = .ambiguous t := by
  cases t with
  | labelNames => exact absurd rfl h
  | _ => rfl

end Tag

/-- The instrument of the metric that the field gets, unless its type is unknown. -/
def Field.instrument? (f : Field) : Option Instrument :=
  match f.kind with
  | .metric i _ => some i
  | .observer _ => f.observerInstrument?
  | .other => none

/-! ## Readers -/

namespace Field

variable {f : Field}

theorem readNumber_cases (entry : List Char) :
    (isUnreadable entry = false ∧ ∃ x, readNumber entry = .ok x) ∨
      (isUnreadable entry = true ∧
        ∃ fault, readNumber entry = .error (.unreadable (.numeral fault))) := by
  unfold isUnreadable readNumber
  cases Number.read (trimBlank entry) with
  | ok x => exact .inl ⟨rfl, x, rfl⟩
  | error fault => exact .inr ⟨rfl, fault, rfl⟩

/-- A fault is noted for each bound that is not a number, and none of them is an overflow. -/
theorem faults_readBuckets (entries : List (List Char)) :
    (readBuckets entries).faults.length = entries.countP isUnreadable ∧
      ∀ fault ∈ (readBuckets entries).faults, fault.isOverflow = false := by
  induction entries with
  | nil => exact ⟨rfl, fun _ h => absurd h List.not_mem_nil⟩
  | cons entry entries ih =>
    obtain ⟨hlength, hfaults⟩ := ih
    rcases readNumber_cases entry with ⟨hreadable, x, hx⟩ | ⟨hunreadable, fault, hfault⟩
    · simp only [readBuckets, hx]
      rw [List.countP_cons_of_neg (by simp [hreadable])]
      exact ⟨hlength, hfaults⟩
    · simp only [readBuckets, hfault]
      rw [List.countP_cons_of_pos hunreadable, List.length_cons, hlength]
      exact ⟨rfl, List.forall_mem_cons.mpr ⟨rfl, hfaults⟩⟩

theorem readObjective_cases (entry : List Char) :
    (misreadObjective entry = 0 ∧ ∃ p, readObjective entry = .ok p) ∨
      ∃ faults, readObjective entry = .error faults ∧ faults.length = misreadObjective entry ∧
        ∀ fault ∈ faults, fault.isOverflow = false := by
  unfold misreadObjective readObjective
  rcases splitOn ':' entry with _ | ⟨quantile, _ | ⟨error, _ | ⟨other, others⟩⟩⟩
  case cons.cons.nil =>
    rcases readNumber_cases quantile with ⟨hq, q, hquantile⟩ | ⟨hq, fault, hquantile⟩
    · rcases readNumber_cases error with ⟨he, e, herror⟩ | ⟨he, fault, herror⟩
      · exact .inl ⟨by simp [hq, he], (q, e), by simp only [hquantile, herror]⟩
      · refine .inr ⟨[.unreadable (.numeral fault)], by simp only [hquantile, herror],
          by simp [hq, he], ?_⟩
        exact List.forall_mem_singleton.mpr rfl
    · rcases readNumber_cases error with ⟨he, e, herror⟩ | ⟨he, other, herror⟩
      · refine .inr ⟨[.unreadable (.numeral fault)], by simp only [hquantile, herror],
          by simp [hq, he], ?_⟩
        exact List.forall_mem_singleton.mpr rfl
      · refine .inr ⟨[.unreadable (.numeral fault), .unreadable (.numeral other)],
          by simp only [hquantile, herror], by simp [hq, he], ?_⟩
        exact List.forall_mem_cons.mpr ⟨rfl, List.forall_mem_singleton.mpr rfl⟩
  -- an entry that has not two sides is one fault
  all_goals exact .inr ⟨_, rfl, rfl, List.forall_mem_singleton.mpr rfl⟩

theorem faults_readObjectives (entries : List (List Char)) (objectives : List (Number × Number)) :
    (readObjectives objectives entries).faults.length = (entries.map misreadObjective).sum ∧
      ∀ fault ∈ (readObjectives objectives entries).faults, fault.isOverflow = false := by
  induction entries generalizing objectives with
  | nil => exact ⟨rfl, fun _ h => absurd h List.not_mem_nil⟩
  | cons entry entries ih =>
    rw [List.map_cons, List.sum_cons]
    rcases readObjective_cases entry with ⟨hzero, ⟨q, e⟩, hp⟩ | ⟨faults, herror, hlength, hfaults⟩
    · simp only [readObjectives, hp, hzero, Nat.zero_add]
      exact ih _
    · obtain ⟨hrest, hothers⟩ := ih objectives
      simp only [readObjectives, herror, List.length_append, hlength, hrest, true_and]
      intro fault hmem
      rcases List.mem_append.mp hmem with hmem | hmem
      · exact hfaults fault hmem
      · exact hothers fault hmem

/-- The faults of reading the value of a tag. -/
def readFaults (f : Field) : Tag → List FieldFault
  | .buckets => f.buckets.faults
  | .objectives => f.objectives.faults
  | .maxAge => f.maxAge.faults
  | .ageBuckets => f.ageBuckets.faults
  | .bufCap => f.bufCap.faults
  | _ => []

theorem length_faults_count (f : Field) (t : Tag) :
    (f.count t).faults.length =
      if (f.tags.get t).isEmpty then 0
      else if (readCount (f.tags.get t).toList).isOk then 0 else 1 := by
  unfold count
  by_cases hempty : (f.tags.get t).isEmpty = true
  · simp [hempty]
  · cases hread : readCount (f.tags.get t).toList with
    | ok n => simp [hempty, hread, Except.isOk, Except.toBool]
    | error fault => simp [hempty, hread, Except.isOk, Except.toBool]

/-- **Each place of a value that cannot be read is a fault.** -/
theorem length_readFaults (f : Field) (t : Tag) :
    (f.readFaults t).length = t.misreadings (f.tags.get t) := by
  unfold Tag.misreadings
  cases t with
  | ignore | space | subsystem | name | help | labelNames | kind => simp [readFaults]
  | buckets =>
    simp only [readFaults, buckets]
    by_cases hempty : (f.tags.get .buckets).isEmpty = true
    · simp [hempty]
    · simp only [hempty]
      exact (faults_readBuckets _).1
  | objectives =>
    simp only [readFaults, objectives]
    by_cases hempty : (f.tags.get .objectives).isEmpty = true
    · simp [hempty]
    · simp only [hempty]
      exact (faults_readObjectives _ _).1
  | maxAge =>
    simp only [readFaults, maxAge]
    by_cases hempty : (f.tags.get .maxAge).isEmpty = true
    · simp [hempty]
    · cases hread : Duration.read (f.tags.get .maxAge).toList with
      | ok d => simp [hempty, Except.isOk, Except.toBool]
      | error fault => simp [hempty, Except.isOk, Except.toBool]
  | ageBuckets => exact f.length_faults_count .ageBuckets
  | bufCap => exact f.length_faults_count .bufCap

/-- Only the length of a window can overflow. -/
theorem overflow_mem_readFaults_iff {t : Tag} :
    (∃ fault ∈ f.readFaults t, fault.isOverflow = true) ↔
      t = .maxAge ∧ Duration.read (f.tags.get .maxAge).toList = .error .overflow := by
  have hnone {faults : List FieldFault} (h : ∀ fault ∈ faults, fault.isOverflow = false) :
      ¬∃ fault ∈ faults, fault.isOverflow = true := by
    rintro ⟨fault, hmem, hover⟩
    rw [h fault hmem] at hover
    cases hover
  cases t with
  | ignore | space | subsystem | name | help | labelNames | kind => simp [readFaults]
  | buckets =>
    simp only [readFaults, buckets, reduceCtorEq, false_and, iff_false]
    split
    · exact hnone fun _ h => absurd h List.not_mem_nil
    · exact hnone (faults_readBuckets _).2
  | objectives =>
    simp only [readFaults, objectives, reduceCtorEq, false_and, iff_false]
    split
    · exact hnone fun _ h => absurd h List.not_mem_nil
    · exact hnone (faults_readObjectives _ _).2
  | ageBuckets | bufCap =>
    simp only [readFaults, ageBuckets, bufCap, count, reduceCtorEq, false_and, iff_false]
    split
    · exact hnone fun _ h => absurd h List.not_mem_nil
    · split
      · exact hnone fun _ h => absurd h List.not_mem_nil
      · exact hnone (List.forall_mem_singleton.mpr rfl)
  | maxAge =>
    simp only [readFaults, maxAge, true_and]
    by_cases hempty : (f.tags.get .maxAge).isEmpty = true
    · have hvalue : f.tags.get .maxAge = "" := String.isEmpty_iff.mp hempty
      have hblank : Duration.read [] = .error .blank := rfl
      simp [hvalue, hblank]
    · rw [if_neg hempty]
      cases Duration.read (f.tags.get .maxAge).toList with
      | ok d => simp
      | error fault => cases fault <;> simp [FieldFault.isOverflow]

/-! ## Label names -/

end Field

theorem splitOn_of_not_mem {separator : Char} {cs : List Char} (h : separator ∉ cs) :
    splitOn separator cs = [cs] := by
  induction cs with
  | nil => rfl
  | cons c cs ih =>
    obtain ⟨hc, hcs⟩ := not_or.mp (mt List.mem_cons.mpr h)
    simp only [splitOn, if_neg (Ne.symm hc), ih hcs]

/-- Only white space is trimmed away altogether. -/
theorem trimBlank_eq_nil_iff {cs : List Char} :
    trimBlank cs = [] ↔ cs.all isBlank = true := by
  rw [trimBlank, List.reverse_eq_nil_iff, List.dropWhile_eq_nil_iff, List.all_eq_true]
  simp only [List.mem_reverse]
  constructor
  · intro h
    have hrest : cs.dropWhile isBlank = [] := by
      cases hcs : cs.dropWhile isBlank with
      | nil => rfl
      | cons c rest =>
        -- the first character that is left is not white space
        have hfirst := List.head?_dropWhile_not isBlank cs
        rw [hcs] at hfirst h
        simp [h c List.mem_cons_self] at hfirst
    exact List.dropWhile_eq_nil_iff.mp hrest
  · intro h c hc
    exact h c ((List.dropWhile_sublist isBlank).subset hc)

namespace Field

/-- There are no label names in a tag of white space. -/
theorem faults_labelNames (f : Field) :
    f.labelNames.faults =
      if (f.tags.get .labelNames).toList.all isBlank then [.labelNamesRequired] else [] := by
  generalize hvalue : (f.tags.get .labelNames).toList = cs
  have hiff : (splitOn ',' cs).map trimBlank = [[]] ↔ cs.all isBlank = true := by
    by_cases hcomma : ',' ∈ cs
    · -- a comma is not white space, and makes for two names
      have hcount : 0 < cs.count ',' := List.count_pos_iff.mpr hcomma
      constructor
      · intro hnames
        have hlength := congrArg List.length hnames
        rw [List.length_map, length_splitOn, List.length_singleton] at hlength
        omega
      · intro hblank
        have hnot : isBlank ',' = true := List.all_eq_true.mp hblank ',' hcomma
        cases hnot
    · rw [splitOn_of_not_mem hcomma, List.map_singleton, ← trimBlank_eq_nil_iff]
      simp
  simp only [labelNames, hvalue, hiff]

/-- The faults of the label names of a field that is for a vector. -/
def labelFaults (f : Field) : List FieldFault := if f.kind.isVector then f.labelNames.faults else []

/-! ## Checks -/

/-- The tags about samples, which an instrument that has none must not have. -/
def plainTags : Instrument → List Tag
  | .counter | .gauge => Tag.observerOnly
  | .histogram | .summary => []

/-- The tags that are read for an instrument. -/
def ownTags : Instrument → List Tag
  | .histogram => Tag.histogramOnly
  | .summary => Tag.summaryOnly
  | .counter | .gauge => []

/-- The tags that are checked for a field of a kind, in order, when its metric is to be of an
instrument. -/
def checkedTags : FieldKind → Instrument → List Tag
  | .metric i s, _ => plainTags i ++ (misplacedTags s ++ foreignTags i)
  | .observer .scalar, i => foreignTags i ++ [.labelNames]
  | .observer .vector, i => foreignTags i
  | .other, _ => []

variable {f : Field} {i : Instrument}

theorem instrument?_cases (h : f.instrument? = some i) :
    (∃ s, f.kind = .metric i s) ∨
      ∃ s, f.kind = .observer s ∧ f.observerInstrument? = some i ∧ i.isObserver = true := by
  unfold instrument? at h
  cases hkind : f.kind with
  | metric j s =>
    rw [hkind] at h
    obtain rfl : j = i := Option.some.inj h
    exact .inl ⟨s, rfl⟩
  | observer s =>
    rw [hkind] at h
    exact .inr ⟨s, rfl, h, isObserver_of_observerInstrument? h⟩
  | other =>
    rw [hkind] at h
    cases h

/-- **The tags that are checked are just those that are not legal**, each of them once. -/
theorem checkedTags_perm (h : f.instrument? = some i) :
    (checkedTags f.kind i).Perm (Tag.all.filter fun t => !t.legal f.kind i) := by
  rcases instrument?_cases h with ⟨s, hkind⟩ | ⟨s, hkind, -, hobserver⟩
  · rw [hkind]
    cases i <;> cases s <;> decide
  · rw [hkind]
    cases i with
    | counter | gauge => cases hobserver
    | histogram | summary => cases s <;> decide

/-- Of the legal tags only the instrument's own can be misread. -/
theorem flatMap_readFaults_ownTags (h : f.instrument? = some i) :
    (ownTags i).flatMap f.readFaults =
      (Tag.all.filter fun t => t.legal f.kind i).flatMap f.readFaults := by
  rcases instrument?_cases h with ⟨s, hkind⟩ | ⟨s, hkind, -, hobserver⟩
  · rw [hkind]
    cases i <;> cases s <;> rfl
  · rw [hkind]
    cases i with
    | counter | gauge => cases hobserver
    | histogram | summary => cases s <;> rfl

theorem faults_optsFor (f : Field) (i : Instrument) :
    (f.optsFor i).faults =
      f.forbid .notAllowed (plainTags i) ++ (ownTags i).flatMap f.readFaults := by
  cases i <;> simp [optsFor, plainTags, ownTags, Noted.faulty, histogramOpts, summaryOpts,
    Tag.histogramOnly, Tag.summaryOnly, readFaults, forbid]

theorem forbid_nil (f : Field) (fault : Tag → FieldFault) : f.forbid fault [] = [] := rfl

theorem forbid_append (f : Field) (fault : Tag → FieldFault) (tags more : List Tag) :
    f.forbid fault (tags ++ more) = f.forbid fault tags ++ f.forbid fault more := by
  simp only [forbid, List.filter_append, List.map_append]

theorem forbid_congr (f : Field) {fault other : Tag → FieldFault} {tags : List Tag}
    (h : ∀ t ∈ tags, fault t = other t) : f.forbid fault tags = f.forbid other tags :=
  List.map_congr_left fun t ht => h t (List.mem_of_mem_filter ht)

theorem labelNames_not_foreign (i : Instrument) : Tag.labelNames ∉ foreignTags i := by
  cases i <;> decide

/-- The faults of a metric field, by the checks and the readings. -/
theorem faults_perm_of_metric {s : Shape} (hkind : f.kind = .metric i s) :
    f.resolve.faults.Perm
      (f.forbid (Tag.misfit f.kind) (checkedTags f.kind i) ++
        ((ownTags i).flatMap f.readFaults ++ f.labelFaults)) := by
  have hmisfit : Tag.misfit (.metric i s) = FieldFault.notAllowed := rfl
  have hlabels : (f.shapeLabels s).faults = f.labelFaults := by
    cases s <;> simp [labelFaults, hkind, FieldKind.isVector, shapeLabels]
  simp only [resolve, resolveNoted, hkind, Noted.faults_bind, Noted.faults_pure,
    Noted.faulty, faults_optsFor, hlabels, checkedTags, hmisfit, forbid_append]
  refine List.perm_iff_count.mpr fun fault => ?_
  simp only [List.count_append, List.count_nil]
  omega

/-- An observer has its own tags read, and then those of the other instrument are checked. -/
theorem faults_observerOpts (s : Shape) (hi : f.observerInstrument? = some i) :
    f.observerOpts.faults =
      (ownTags i).flatMap f.readFaults ++
        f.forbid (Tag.misfit (.observer s)) (foreignTags i) := by
  have hforeign : f.forbid .ambiguous (foreignTags i) =
      f.forbid (Tag.misfit (.observer s)) (foreignTags i) :=
    f.forbid_congr fun t ht =>
      (Tag.misfit_observer s fun hlabel => labelNames_not_foreign i (hlabel ▸ ht)).symm
  have hplain : plainTags i = [] := by
    have hobserver := isObserver_of_observerInstrument? hi
    cases i with
    | counter | gauge => cases hobserver
    | histogram | summary => rfl
  simp only [observerOpts, hi, Noted.faults_bind, Noted.faults_pure, Noted.faulty,
    faults_optsFor, hplain, forbid_nil, hforeign, List.nil_append, List.append_nil]

/-- The faults of an observer whose type is known, by the checks and the readings. -/
theorem faults_perm_of_observer {s : Shape} (hkind : f.kind = .observer s)
    (hi : f.observerInstrument? = some i) :
    f.resolve.faults.Perm
      (f.forbid (Tag.misfit f.kind) (checkedTags f.kind i) ++
        ((ownTags i).flatMap f.readFaults ++ f.labelFaults)) := by
  cases s with
  | scalar =>
    have hlabel : f.forbid .notAllowed [.labelNames] =
        f.forbid (Tag.misfit (.observer .scalar)) [.labelNames] :=
      f.forbid_congr (List.forall_mem_singleton.mpr rfl)
    have hnone : f.labelFaults = [] := by rw [labelFaults, hkind]; rfl
    simp only [resolve, resolveNoted, hkind, Noted.faults_bind, Noted.faults_pure, Noted.faulty,
      faults_observerOpts .scalar hi, hlabel, hnone, checkedTags, forbid_append]
    refine List.perm_iff_count.mpr fun fault => ?_
    simp only [List.count_append, List.count_nil]
    omega
  | vector =>
    have hlabels : f.labelNames.faults = f.labelFaults := by rw [labelFaults, hkind]; rfl
    simp only [resolve, resolveNoted, hkind, Noted.faults_bind, Noted.faults_pure,
      faults_observerOpts .vector hi, hlabels, checkedTags]
    refine List.perm_iff_count.mpr fun fault => ?_
    simp only [List.count_append, List.count_nil]
    omega

/-- The illegal tags that the field has, when its metric is to be of the given instrument. -/
def illegalTags (f : Field) (i : Instrument) : List Tag :=
  Tag.all.filter fun t => f.tags.contains t && !t.legal f.kind i

/-- **The faults of a field whose instrument is known** are one for each illegal tag that it has,
those of reading the legal tags, and one for a vector without label names. -/
theorem faults_perm (h : f.instrument? = some i) :
    f.resolve.faults.Perm
      ((f.illegalTags i).map (Tag.misfit f.kind) ++
        ((Tag.all.filter fun t => t.legal f.kind i).flatMap f.readFaults ++ f.labelFaults)) := by
  have hchecks : (f.forbid (Tag.misfit f.kind) (checkedTags f.kind i)).Perm
      ((f.illegalTags i).map (Tag.misfit f.kind)) := by
    have hfilter := ((checkedTags_perm h).filter f.tags.contains).map (Tag.misfit f.kind)
    rwa [List.filter_filter] at hfilter
  have hread : f.resolve.faults.Perm
      (f.forbid (Tag.misfit f.kind) (checkedTags f.kind i) ++
        ((ownTags i).flatMap f.readFaults ++ f.labelFaults)) := by
    rcases instrument?_cases h with ⟨s, hkind⟩ | ⟨s, hkind, hi, -⟩
    · exact faults_perm_of_metric hkind
    · exact faults_perm_of_observer hkind hi
  rw [← flatMap_readFaults_ownTags h]
  exact hread.trans (hchecks.append_right _)

/-! ## What a field resolves to -/

/-- The field is for a vector, and its label names are blank. -/
def lacksLabels (f : Field) : Bool :=
  f.kind.isVector && (f.tags.get .labelNames).toList.all isBlank

theorem labelFaults_eq (f : Field) :
    f.labelFaults = if f.lacksLabels then [.labelNamesRequired] else [] := by
  unfold labelFaults lacksLabels
  cases f.kind.isVector with
  | true => simp [faults_labelNames]
  | false => simp

/-- The number of places in the values of the legal tags that cannot be read. -/
def misreadings (f : Field) (i : Instrument) : Nat :=
  ((Tag.all.filter fun t => t.legal f.kind i).map fun t => t.misreadings (f.tags.get t)).sum

/-- **There is a fault for each illegal tag, one for each misreading of a legal one, and one for
missing label names.** -/
theorem length_faults (h : f.instrument? = some i) :
    f.resolve.faults.length =
      (f.illegalTags i).length + f.misreadings i + if f.lacksLabels then 1 else 0 := by
  have hlabels : f.labelFaults.length = if f.lacksLabels then 1 else 0 := by
    rw [labelFaults_eq]
    split <;> rfl
  rw [(faults_perm h).length_eq, List.length_append, List.length_append, List.length_map,
    List.length_flatMap, hlabels, misreadings, Nat.add_assoc]
  simp only [length_readFaults]

theorem opts_of_instrument? (h : f.instrument? = some i) :
    ∃ opts, f.resolve.opts = some opts ∧ opts.instrument = i := by
  refine ⟨(f.optsFor i).value, ?_, f.instrument_optsFor i⟩
  rcases instrument?_cases h with ⟨s, hkind⟩ | ⟨s, hkind, hi, -⟩
  · exact (resolve_of_metric hkind).1
  · rw [(resolve_of_observer hkind).1]
    simp only [observerOpts, hi]
    rfl

/-- What an observer of an unknown type resolves to: its tags are neither read nor checked, but for
the label names. -/
theorem resolve_of_unknown {s : Shape} (hkind : f.kind = .observer s)
    (h : f.instrument? = none) :
    f.resolve.opts = none ∧
      f.resolve.faults = .unknownObserver (f.tags.get .kind) ::
        match s with
        | .scalar => if f.tags.contains .labelNames then [.notAllowed .labelNames] else []
        | .vector => if f.lacksLabels then [.labelNamesRequired] else [] := by
  have hnone : f.observerInstrument? = none := by rwa [instrument?, hkind] at h
  have hobserver : f.observerOpts = ⟨none, [.unknownObserver (f.tags.get .kind)]⟩ := by
    simp only [observerOpts, hnone]
  refine ⟨by rw [(resolve_of_observer hkind).1, hobserver], ?_⟩
  cases s with
  | scalar =>
    have hforbid : f.forbid .notAllowed [.labelNames] =
        if f.tags.contains .labelNames then [.notAllowed .labelNames] else [] := by
      by_cases hpresent : f.tags.contains .labelNames = true
      · simp [forbid, hpresent]
      · simp [forbid, hpresent]
    simp only [resolve, resolveNoted, hkind, Noted.faults_bind, Noted.faults_pure, Noted.faulty,
      hobserver, hforbid, List.append_nil, List.singleton_append]
  | vector =>
    have hlabels : f.labelNames.faults = f.labelFaults := by rw [labelFaults, hkind]; rfl
    simp only [resolve, resolveNoted, hkind, Noted.faults_bind, Noted.faults_pure, hobserver,
      hlabels, labelFaults_eq, List.append_nil, List.singleton_append]

/-- There are options just if the instrument is known. -/
theorem opts_eq_none_iff : f.resolve.opts = none ↔ f.instrument? = none := by
  cases h : f.instrument? with
  | some i =>
    obtain ⟨opts, hopts, -⟩ := opts_of_instrument? h
    simp [hopts]
  | none =>
    cases hkind : f.kind with
    | metric i s => simp [instrument?, hkind] at h
    | observer s => simp [(resolve_of_unknown hkind h).1]
    | other => simp [resolve_of_other hkind]

theorem isUsable_iff :
    f.resolve.isUsable = true ↔ f.resolve.opts ≠ none ∧ f.resolve.faults = [] := by
  rw [Resolved.isUsable, Option.isSome_iff_exists, Option.ne_none_iff_exists']
  simp only [Resolved.usable?_eq_some_iff, exists_and_right]

/-- **A field is usable just if its instrument is known, it has no illegal tag, every legal one can
be read, and it does not lack label names.** -/
theorem isUsable_iff_legal :
    f.resolve.isUsable = true ↔
      ∃ i, f.instrument? = some i ∧ (∀ t, f.tags.contains t = true → t.legal f.kind i = true) ∧
        (∀ t : Tag, t.legal f.kind i = true → t.misreadings (f.tags.get t) = 0) ∧
        f.lacksLabels = false := by
  rw [isUsable_iff, Ne, opts_eq_none_iff]
  cases h : f.instrument? with
  | none => simp
  | some i =>
    have hlegal : (f.illegalTags i).length = 0 ↔
        ∀ t, f.tags.contains t = true → t.legal f.kind i = true := by
      rw [List.length_eq_zero_iff, illegalTags, List.filter_eq_nil_iff]
      simp [Tag.mem_all]
    have hread : f.misreadings i = 0 ↔
        ∀ t : Tag, t.legal f.kind i = true → t.misreadings (f.tags.get t) = 0 := by
      rw [misreadings, List.sum_eq_zero_iff_forall_eq_nat]
      simp [Tag.mem_all]
    rw [← List.length_eq_zero_iff, length_faults h, Nat.add_eq_zero_iff, Nat.add_eq_zero_iff,
      hlegal, hread]
    simp [and_assoc]

/-! ## Observers -/

/-- What an observer becomes by its type. -/
theorem observerInstrument?_cases (f : Field) :
    (f.tags.get .kind = "histogram" ∧ f.observerInstrument? = some .histogram) ∨
      (f.tags.get .kind = "summary" ∧ f.observerInstrument? = some .summary) ∨
      (f.tags.get .kind = "" ∧ f.observerInstrument? =
        some (if f.hasAny Tag.summaryOnly then .summary else .histogram)) ∨
      (f.tags.get .kind ∉ ["", "histogram", "summary"] ∧ f.observerInstrument? = none) := by
  simp only [observerInstrument?, Instrument.name, String.isEmpty_iff]
  by_cases hhistogram : f.tags.get .kind = "histogram"
  · exact .inl ⟨hhistogram, if_pos hhistogram⟩
  · rw [if_neg hhistogram]
    by_cases hsummary : f.tags.get .kind = "summary"
    · exact .inr (.inl ⟨hsummary, if_pos hsummary⟩)
    · rw [if_neg hsummary]
      by_cases hempty : f.tags.get .kind = ""
      · exact .inr (.inr (.inl ⟨hempty, if_pos hempty⟩))
      · refine .inr (.inr (.inr ⟨?_, if_neg hempty⟩))
        simp [hhistogram, hsummary, hempty]

theorem observerInstrument?_eq_summary_iff :
    f.observerInstrument? = some .summary ↔
      f.tags.get .kind = "summary" ∨
        f.tags.get .kind = "" ∧ ∃ t ∈ Tag.summaryOnly, f.tags.contains t = true := by
  have hany : f.hasAny Tag.summaryOnly = true ↔
      ∃ t ∈ Tag.summaryOnly, f.tags.contains t = true := List.any_eq_true
  rw [← hany]
  rcases f.observerInstrument?_cases with ⟨hk, hi⟩ | ⟨hk, hi⟩ | ⟨hk, hi⟩ | ⟨hk, hi⟩
  · simp [hk, hi]
  · simp [hk, hi]
  · cases hpresent : f.hasAny Tag.summaryOnly <;> simp [hk, hi, hpresent]
  · simp only [List.mem_cons, List.not_mem_nil, or_false, not_or] at hk
    simp [hk, hi]

theorem observerInstrument?_eq_none_iff :
    f.observerInstrument? = none ↔ f.tags.get .kind ∉ ["", "histogram", "summary"] := by
  rcases f.observerInstrument?_cases with ⟨hk, hi⟩ | ⟨hk, hi⟩ | ⟨hk, hi⟩ | ⟨hk, hi⟩
  · simp [hk, hi]
  · simp [hk, hi]
  · simp [hk, hi]
  · exact ⟨fun _ => hk, fun _ => hi⟩

/-! ## Overflows -/

theorem isOverflow_misfit (k : FieldKind) (t : Tag) : (Tag.misfit k t).isOverflow = false := by
  cases k with
  | metric | other => rfl
  | observer s => cases t <;> rfl

theorem not_isOverflow_of_mem_labelFaults {fault : FieldFault} (h : fault ∈ f.labelFaults) :
    fault.isOverflow = false := by
  rw [labelFaults_eq] at h
  split at h
  · rw [List.mem_singleton.mp h]
    rfl
  · exact absurd h List.not_mem_nil

theorem not_isOverflow_of_unknown {s : Shape} (hkind : f.kind = .observer s)
    (h : f.instrument? = none) {fault : FieldFault} (hmem : fault ∈ f.resolve.faults) :
    fault.isOverflow = false := by
  rw [(resolve_of_unknown hkind h).2] at hmem
  rcases List.mem_cons.mp hmem with rfl | hmem
  · rfl
  · cases s with
    | scalar | vector =>
      simp only at hmem
      split at hmem
      · rw [List.mem_singleton.mp hmem]
        rfl
      · exact absurd hmem List.not_mem_nil

/-- **There is nothing to be had from a field just if it is for a summary and the length of its
window overflows.** -/
theorem overflows_iff :
    f.overflows = true ↔
      f.instrument? = some .summary ∧
        Duration.read (f.tags.get .maxAge).toList = .error .overflow := by
  have hany : f.overflows = true ↔ ∃ fault ∈ f.resolve.faults, fault.isOverflow = true :=
    List.any_eq_true
  rw [hany]
  cases h : f.instrument? with
  | none =>
    refine ⟨?_, fun h => nomatch h.1⟩
    rintro ⟨fault, hmem, hover⟩
    cases hkind : f.kind with
    | metric i s => simp [instrument?, hkind] at h
    | observer s =>
      rw [not_isOverflow_of_unknown hkind h hmem] at hover
      cases hover
    | other =>
      rw [resolve_of_other hkind] at hmem
      exact absurd hmem List.not_mem_nil
  | some i =>
    simp only [(faults_perm h).mem_iff, List.mem_append, List.mem_map, List.mem_flatMap]
    constructor
    · rintro ⟨fault, ⟨t, -, rfl⟩ | ⟨t, ht, hmem⟩ | hmem, hover⟩
      · rw [isOverflow_misfit] at hover
        cases hover
      · obtain ⟨rfl, hread⟩ := overflow_mem_readFaults_iff.mp ⟨fault, hmem, hover⟩
        have hsummary : i = .summary := by simpa [Tag.legal] using (List.mem_filter.mp ht).2
        exact ⟨congrArg some hsummary, hread⟩
      · rw [not_isOverflow_of_mem_labelFaults hmem] at hover
        cases hover
    · rintro ⟨hsummary, hread⟩
      obtain rfl := Option.some.inj hsummary
      obtain ⟨fault, hmem, hover⟩ := overflow_mem_readFaults_iff.mpr ⟨rfl, hread⟩
      exact ⟨fault, .inr (.inl ⟨.maxAge, List.mem_filter.mpr ⟨Tag.mem_all _, rfl⟩, hmem⟩), hover⟩

/-- **The resolver accepts just the legal tags, and ignores nothing.**  A field is usable just if
its instrument is known, it has legal tags only, each of which can be read, and it does not lack
label names.  The instrument is that of the kind; an observer is for a summary just if its type says
so, or says nothing while there is a tag of summaries, and its type is unknown if it is none of the
three.  When the instrument is known, the options are for it, each illegal tag is named by a fault,
and the faults are as many as the illegal tags, the misreadings of the legal ones and a lack of
label names.  When it is not, there are no options and no other faults but those of the label names.
There is nothing to be had at all just if the length of a summary's window overflows, which is not
reported like other misreadings. -/
theorem accepts_legal_tags (f : Field) :
    (f.resolve.isUsable = true ↔
      ∃ i, f.instrument? = some i ∧ (∀ t, f.tags.contains t = true → t.legal f.kind i = true) ∧
        (∀ t : Tag, t.legal f.kind i = true → t.misreadings (f.tags.get t) = 0) ∧
        f.lacksLabels = false) ∧
    (∀ s, f.kind = .observer s →
      (f.instrument? = some .summary ↔
        f.tags.get .kind = "summary" ∨
          f.tags.get .kind = "" ∧ ∃ t ∈ Tag.summaryOnly, f.tags.contains t = true) ∧
      (f.instrument? = none ↔ f.tags.get .kind ∉ ["", "histogram", "summary"]) ∧
      ∀ i, f.instrument? = some i → i.isObserver = true) ∧
    (∀ i, f.instrument? = some i →
      (∃ opts, f.resolve.opts = some opts ∧ opts.instrument = i) ∧
      (∀ t ∈ f.illegalTags i, Tag.misfit f.kind t ∈ f.resolve.faults) ∧
      f.resolve.faults.length =
        (f.illegalTags i).length + f.misreadings i + if f.lacksLabels then 1 else 0) ∧
    (∀ s, f.kind = .observer s → f.instrument? = none →
      f.resolve.opts = none ∧
        f.resolve.faults = .unknownObserver (f.tags.get .kind) ::
          match s with
          | .scalar => if f.tags.contains .labelNames then [.notAllowed .labelNames] else []
          | .vector => if f.lacksLabels then [.labelNamesRequired] else []) ∧
    (f.overflows = true ↔
      f.instrument? = some .summary ∧
        Duration.read (f.tags.get .maxAge).toList = .error .overflow) := by
  refine ⟨isUsable_iff_legal, fun s hkind => ?_, fun i h => ⟨opts_of_instrument? h, fun t ht => ?_,
    length_faults h⟩, fun s hkind h => resolve_of_unknown hkind h, overflows_iff⟩
  · have hinstrument : f.instrument? = f.observerInstrument? := by rw [instrument?, hkind]
    rw [hinstrument]
    exact ⟨observerInstrument?_eq_summary_iff, observerInstrument?_eq_none_iff,
      fun i hi => isObserver_of_observerInstrument? hi⟩
  · exact (faults_perm h).mem_iff.mpr (List.mem_append_left _ (List.mem_map_of_mem ht))

/-- The length of the window is the only thing that cannot be read, so it should be the only fault;
but whoever populates the field comes to an end. -/
theorem overflow_ends_populating :
    endless.illegalTags .summary = [] ∧ endless.misreadings .summary = 1 ∧
      endless.overflows = true ∧
      ∀ (factory : Factory) (t : Telemetry),
        let schema : Schema := ⟨"Endless", [endless]⟩
        (Slots.ofSchema schema).populate factory.toMetricFactory schema t =
          (.error .tagOverflow, t) := by
  refine ⟨by decide, by decide, by decide, fun factory t => ?_⟩
  intro schema
  have hstalls : endless.stalls = true := by decide
  have hbefore : ∀ g ∈ ([] : List Field), g.stalls = false := fun _ h => nomatch h
  exact congrFun (Slots.populate_stalled factory.toMetricFactory (s := Slots.ofSchema schema) rfl
    rfl hbefore hstalls) t

end Field

end MetricBundle
