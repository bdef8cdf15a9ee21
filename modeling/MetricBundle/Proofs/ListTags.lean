import MetricBundle.Field
import MetricBundle.Proofs.LastWins

/-!
# Tags that hold lists

The bounds of a histogram and the objectives of a summary are given as lists of entries with commas
between them.  Every entry is accounted for: it gives what it denotes, or the faults of denoting
nothing, and neither depends on the other entries (`Field.readBuckets_eq`,
`Field.readObjectives_eq`).

Objectives with the same quantile are one objective, in the place of the first and with the error of
the last.  Both zeros are the same quantile here, and what is not a number is not even the same as
itself.
-/

namespace MetricBundle

/-! ## Entries -/

/-- The entries of the list in a tag.  An empty value has none. -/
def Tags.listed (ts : Tags) (tag : Tag) : List (List Char) :=
  if (ts.get tag).isEmpty then [] else splitOn ',' (ts.get tag).toList

/-- The number that an entry denotes, white space around it aside. -/
def number? (entry : List Char) : Option Number := (Number.read (trimBlank entry)).toOption

/-- The fault of an entry that does not denote a number. -/
def numeralFault? (entry : List Char) : Option FieldFault :=
  match Number.read (trimBlank entry) with
  | .ok _ => none
  | .error fault => some (.unreadable (.numeral fault))

/-- The quantile and error of an entry with two sides that both denote numbers. -/
def objective? (entry : List Char) : Option (Number × Number) :=
  match splitOn ':' entry with
  | [quantile, error] =>
    match number? quantile, number? error with
    | some q, some e => some (q, e)
    | _, _ => none
  | _ => none

/-- The faults of an objective entry: one if it has not two sides, or else one for each side that
does not denote a number. -/
def objectiveFaults (entry : List Char) : List FieldFault :=
  match splitOn ':' entry with
  | [quantile, error] => [quantile, error].filterMap numeralFault?
  | _ => [.malformedObjective (String.ofList entry)]

/-- An entry denotes a number or has a fault, and not both. -/
theorem number?_cases (entry : List Char) :
    (∃ x, number? entry = some x ∧ numeralFault? entry = none ∧
      Field.readNumber entry = .ok x) ∨
    ∃ fault, number? entry = none ∧ numeralFault? entry = some fault ∧
      Field.readNumber entry = .error fault := by
  unfold number? numeralFault? Field.readNumber
  cases Number.read (trimBlank entry) with
  | ok x => exact .inl ⟨x, rfl, rfl, rfl⟩
  | error fault => exact .inr ⟨_, rfl, rfl, rfl⟩

/-- An entry denotes an objective or has faults, and not both. -/
theorem objective?_cases (entry : List Char) :
    (∃ p, objective? entry = some p ∧ objectiveFaults entry = [] ∧
      Field.readObjective entry = .ok p) ∨
    (objective? entry = none ∧ objectiveFaults entry ≠ [] ∧
      Field.readObjective entry = .error (objectiveFaults entry)) := by
  unfold objective? objectiveFaults Field.readObjective
  rcases splitOn ':' entry with _ | ⟨quantile, _ | ⟨error, _ | ⟨other, others⟩⟩⟩
  case cons.cons.nil =>
    rcases number?_cases quantile with ⟨q, hq, hqf, hqr⟩ | ⟨qf, hq, hqf, hqr⟩
    · rcases number?_cases error with ⟨e, he, hef, her⟩ | ⟨ef, he, hef, her⟩
      · exact .inl ⟨(q, e), by simp [hq, he], by simp [hqf, hef], by simp [hqr, her]⟩
      · exact .inr ⟨by simp [he], by simp [hef], by simp [hqr, her, hqf, hef]⟩
    · rcases number?_cases error with ⟨e, he, hef, her⟩ | ⟨ef, he, hef, her⟩
      · exact .inr ⟨by simp [hq], by simp [hqf], by simp [hqr, her, hqf, hef]⟩
      · exact .inr ⟨by simp [hq], by simp [hqf], by simp [hqr, her, hqf, hef]⟩
  -- an entry that has not two sides is one fault
  all_goals exact .inr ⟨rfl, List.cons_ne_nil _ _, rfl⟩

/-- Whether two quantiles are the same depends on their values alone, so the last error wins. -/
theorem lastWins_same_concat (pairs : List (Number × Number)) (p : Number × Number) :
    lastWins Number.same (pairs ++ [p]) = putValue Number.same (lastWins Number.same pairs) p := by
  have htrans : ∀ x y z : Number, x.same y = true → y.same z = true → x.same z = true :=
    fun _ _ _ hxy hyz => Number.same_trans hxy hyz
  exact lastWins_concat htrans Number.same_comm pairs p

namespace Field

/-! ## Reading the lists -/

theorem readBuckets_eq (entries : List (List Char)) :
    readBuckets entries = ⟨entries.filterMap number?, entries.filterMap numeralFault?⟩ := by
  induction entries with
  | nil => rfl
  | cons entry entries ih =>
    rw [readBuckets, ih]
    rcases number?_cases entry with ⟨x, hx, hfault, hread⟩ | ⟨fault, hx, hfault, hread⟩
    · rw [hread, List.filterMap_cons_some hx, List.filterMap_cons_none hfault]
    · rw [hread, List.filterMap_cons_none hx, List.filterMap_cons_some hfault]

theorem readObjectives_eq (objectives : List (Number × Number)) (entries : List (List Char)) :
    readObjectives objectives entries =
      ⟨(entries.filterMap objective?).foldl (fun os p => putObjective os p.1 p.2) objectives,
        entries.flatMap objectiveFaults⟩ := by
  induction entries generalizing objectives with
  | nil => rfl
  | cons entry entries ih =>
    rw [readObjectives]
    rcases objective?_cases entry with ⟨p, hp, hfaults, hread⟩ | ⟨hp, -, hread⟩
    · rw [hread, List.filterMap_cons_some hp, List.flatMap_cons, hfaults]
      exact ih _
    · rw [hread, List.filterMap_cons_none hp, List.flatMap_cons, ih objectives]

/-- While no two quantiles are the same, an objective is put in the place of the one that has its
quantile. -/
theorem putObjective_eq {objectives : List (Number × Number)}
    (h : objectives.Pairwise fun p o => o.1.same p.1 = false) (p : Number × Number) :
    putObjective objectives p.1 p.2 = putValue Number.same objectives p := by
  induction objectives with
  | nil => rfl
  | cons o rest ih =>
    obtain ⟨hnew, hrest⟩ := List.pairwise_cons.mp h
    obtain ⟨q, e⟩ := o
    rw [putObjective, Number.same_comm q p.1]
    cases hsame : p.1.same q with
    | true =>
      -- no other objective has this quantile
      have hunlike : ∀ o ∈ rest, p.1.same o.1 = false := fun o ho => by
        rw [← Bool.not_eq_true]
        intro hlike
        rw [Number.same_comm] at hlike
        exact Bool.eq_false_iff.mp (hnew o ho) (Number.same_trans hlike hsame)
      have hothers : (rest.map fun o => if p.1.same o.1 then (o.1, p.2) else o) = rest := by
        refine (List.map_congr_left fun o ho => ?_).trans (List.map_id rest)
        rw [hunlike o ho]
        rfl
      simp [putValue, hsame, hothers]
    | false =>
      simp only [Bool.false_eq_true, if_false, ih hrest, putValue, List.any_cons, hsame,
        Bool.false_or, List.map_cons]
      split <;> rfl

/-- Objectives that are put one after the other are in the order of their quantiles' first
occurrences, each with the error of its last one. -/
theorem foldl_putObjective (pairs : List (Number × Number)) :
    pairs.foldl (fun os p => putObjective os p.1 p.2) [] = lastWins Number.same pairs := by
  induction pairs using List.reverseRecOn with
  | nil => rfl
  | append_singleton pairs p ih =>
    rw [List.foldl_append, ih, lastWins_same_concat]
    exact putObjective_eq (pairwise_lastWins Number.same pairs) p

theorem buckets_eq (f : Field) :
    f.buckets =
      ⟨(f.tags.listed .buckets).filterMap number?,
        (f.tags.listed .buckets).filterMap numeralFault?⟩ := by
  unfold buckets Tags.listed
  simp only
  split
  case isTrue => rfl
  case isFalse => exact readBuckets_eq _

/-- The objectives that the entries of the tag denote, in order. -/
def givenObjectives (f : Field) : List (Number × Number) :=
  (f.tags.listed .objectives).filterMap objective?

theorem objectives_eq (f : Field) :
    f.objectives =
      ⟨lastWins Number.same f.givenObjectives,
        (f.tags.listed .objectives).flatMap objectiveFaults⟩ := by
  unfold objectives givenObjectives Tags.listed
  simp only
  split
  case isTrue => rfl
  case isFalse => rw [readObjectives_eq, foldl_putObjective]

/-- As many entries as commas, and one more, unless the value is empty. -/
theorem length_listed (ts : Tags) (tag : Tag) :
    (ts.listed tag).length =
      if ts.get tag = "" then 0 else (ts.get tag).toList.count ',' + 1 := by
  unfold Tags.listed
  by_cases hempty : ts.get tag = ""
  · simp [hempty]
  · rw [if_neg hempty, if_neg (by simpa using hempty), length_splitOn]

/-- Each entry denotes a number or has one fault. -/
theorem length_numbers_add_length_faults (entries : List (List Char)) :
    (entries.filterMap number?).length + (entries.filterMap numeralFault?).length =
      entries.length := by
  induction entries with
  | nil => rfl
  | cons entry entries ih =>
    rcases number?_cases entry with ⟨x, hx, hfault, -⟩ | ⟨fault, hx, hfault, -⟩
    · rw [List.filterMap_cons_some hx, List.filterMap_cons_none hfault, List.length_cons,
        List.length_cons]
      omega
    · rw [List.filterMap_cons_none hx, List.filterMap_cons_some hfault, List.length_cons,
        List.length_cons]
      omega

/-- **Every entry of a list is accounted for.**  The buckets are the numbers that the entries
denote, and there is a fault for each other entry, so that together they are as many as the entries.
An objective entry has one fault if it has not two sides, or else one for each side that is not a
number, or else it denotes an objective.  The objectives are those denoted, no two with the same
quantile: each quantile has the place of its first occurrence and the error of its last one.  All
faults are in the order of the entries, and an entry with faults changes nothing about the others:
without it the same values are read, and the same other faults found. -/
theorem lists_account_for_entries (f : Field) :
    (let entries := f.tags.listed .buckets
     f.buckets.value = entries.filterMap number? ∧
     f.buckets.faults = entries.filterMap numeralFault? ∧
     f.buckets.value.length + f.buckets.faults.length = entries.length) ∧
    (let entries := f.tags.listed .objectives
     let given := entries.filterMap objective?
     f.objectives.faults = entries.flatMap objectiveFaults ∧
     f.objectives.value = lastWins Number.same given ∧
     f.objectives.value.map Prod.fst = (given.map Prod.fst).eraseDupsBy Number.same ∧
     f.objectives.value.Pairwise fun p o => p.1.same o.1 = false) ∧
    (∀ tag, (f.tags.listed tag).length =
      if f.tags.get tag = "" then 0 else (f.tags.get tag).toList.count ',' + 1) ∧
    (∀ entry, (number? entry).isSome = (numeralFault? entry).isNone ∧
      (objective? entry).isSome = (objectiveFaults entry).isEmpty) ∧
    ∀ before bad after,
      (number? bad = none →
        (readBuckets (before ++ bad :: after)).value = (readBuckets (before ++ after)).value ∧
        (readBuckets (before ++ bad :: after)).faults =
          (readBuckets before).faults ++ (numeralFault? bad).toList ++
            (readBuckets after).faults) ∧
      (objective? bad = none →
        (readObjectives [] (before ++ bad :: after)).value =
          (readObjectives [] (before ++ after)).value ∧
        (readObjectives [] (before ++ bad :: after)).faults =
          (readObjectives [] before).faults ++ objectiveFaults bad ++
            (readObjectives [] after).faults) := by
  refine ⟨?_, ?_, length_listed f.tags, fun entry => ⟨?_, ?_⟩, fun before bad after =>
    ⟨fun hbad => ?_, fun hbad => ?_⟩⟩
  · rw [buckets_eq]
    exact ⟨rfl, rfl, length_numbers_add_length_faults _⟩
  · rw [objectives_eq]
    refine ⟨rfl, rfl, map_fst_lastWins _ _, ?_⟩
    refine (pairwise_lastWins Number.same _).imp fun hunlike => ?_
    rwa [Number.same_comm]
  · rcases number?_cases entry with ⟨x, hx, hfault, -⟩ | ⟨fault, hx, hfault, -⟩
    · rw [hx, hfault]
      rfl
    · rw [hx, hfault]
      rfl
  · rcases objective?_cases entry with ⟨p, hp, hfaults, -⟩ | ⟨hp, hfaults, -⟩
    · rw [hp, hfaults]
      rfl
    · rw [hp, Option.isSome_none, eq_comm, List.isEmpty_eq_false_iff]
      exact hfaults
  · simp only [readBuckets_eq, List.filterMap_append, List.filterMap_cons, hbad]
    cases numeralFault? bad <;> simp
  · simp only [readObjectives_eq, List.filterMap_append, List.filterMap_cons_none hbad,
      List.flatMap_append, List.flatMap_cons, List.append_assoc, true_and]

theorem lists_account_for_entries_of_bad_side :
    let f := (ofKind "latency" (.metric .summary .scalar)).withTag .objectives "1:2, a:b, 1:3"
    objective? " a:b".toList = none ∧ f.objectives.faults.length = 2 ∧
      f.objectives.value.map Prod.fst = [Number.one] ∧
      (readObjectives [] ["1:2".toList, " a:b".toList, " 1:3".toList]).value =
        (readObjectives [] ["1:2".toList, " 1:3".toList]).value := by
  intro f
  have hbad : objective? " a:b".toList = none := by decide +kernel
  obtain ⟨-, -, -, -, hothers⟩ := lists_account_for_entries f
  exact ⟨hbad, by decide +kernel, by decide +kernel,
    ((hothers ["1:2".toList] " a:b".toList [" 1:3".toList]).2 hbad).1⟩

end Field

end MetricBundle
