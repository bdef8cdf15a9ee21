import MetricBundle.Resolution
import MetricBundle.Proofs.LastWins

/-!
# Tags as a map

The tags of a field come about by giving them one after the other.  What is stored is each tag that
was given, once, in the place of its first giving, with the value of its last one
(`Tags.entries_ofList`); and a look-up finds that value (`Tags.lookup_ofList`).

The place is seen by nobody.  Every reader of a tag and every check goes by the look-ups, so a field
resolves to the same when its tags are given in another order, or more often
(`Tags.SameValues.resolveNoted_eq`).
-/

namespace MetricBundle

/-! ## What is stored -/

namespace Tags

theorem ofList_concat (pairs : List (Tag × String)) (p : Tag × String) :
    ofList (pairs ++ [p]) = (ofList pairs).insert p.1 p.2 := by
  rw [ofList, List.foldl_append]
  rfl

theorem entries_insert (ts : Tags) (p : Tag × String) :
    (ts.insert p.1 p.2).entries = putValue (· == ·) ts.entries p := by
  have hany : (ts.entries.any fun e => e.1 == p.1) = ts.entries.any fun e => p.1 == e.1 := by
    simp only [BEq.comm (a := p.1)]
  rw [insert, putValue, hany]
  split
  case isTrue =>
    refine List.map_congr_left fun e _ => ?_
    by_cases h : e.1 = p.1
    · simp [h]
    · simp [h, Ne.symm h]
  case isFalse => rfl

/-- **The tags are stored in the order in which each was first given, each with the value that it
was given last.** -/
theorem entries_ofList (pairs : List (Tag × String)) :
    (ofList pairs).entries = lastWins (· == ·) pairs := by
  have hsymm : ∀ a b : Tag, (a == b) = (b == a) := fun _ _ => BEq.comm
  have htrans : ∀ a b c : Tag, (a == b) = true → (b == c) = true → (a == c) = true :=
    fun _ _ _ hab hbc => BEq.trans hab hbc
  induction pairs using List.reverseRecOn with
  | nil => rfl
  | append_singleton pairs p ih =>
    rw [ofList_concat, entries_insert, ih, lastWins_concat htrans hsymm]

/-- Each tag that was given is stored once, in the place of its first giving. -/
theorem map_fst_ofList (pairs : List (Tag × String)) :
    (ofList pairs).entries.map Prod.fst = (pairs.map Prod.fst).eraseDups := by
  rw [entries_ofList, map_fst_lastWins]
  rfl

theorem nodup_ofList (pairs : List (Tag × String)) :
    ((ofList pairs).entries.map Prod.fst).Nodup := by
  rw [entries_ofList]
  refine List.pairwise_map.mpr ((pairwise_lastWins _ pairs).imp fun hunlike heq => ?_)
  rw [heq, beq_self_eq_true] at hunlike
  cases hunlike

/-- Giving a tag changes the look-up of this tag and of no other. -/
theorem lookup_insert (ts : Tags) (tag : Tag) (value : String) (t : Tag) :
    (ts.insert tag value).lookup t = if tag = t then some value else ts.lookup t := by
  unfold insert
  split
  case isTrue hgiven =>
    -- replacing a value moves no key
    have hkeys : ((fun e : Tag × String => e.1 == t) ∘
        fun e => if e.1 = tag then (tag, value) else e) = fun e => e.1 == t := by
      funext e
      by_cases h : e.1 = tag <;> simp [h]
    rw [lookup, List.find?_map, hkeys, Option.map_map, lookup]
    by_cases h : tag = t
    · subst h
      obtain ⟨e, he⟩ := Option.isSome_iff_exists.mp
        (List.find?_isSome.mpr (List.any_eq_true.mp hgiven))
      have hkey : (e.1 == tag) = true :=
        List.find?_some (p := fun e : Tag × String => e.1 == tag) he
      simp [he, beq_iff_eq.mp hkey]
    · rw [if_neg h]
      cases hfound : ts.entries.find? fun e => e.1 == t with
      | none => rfl
      | some e =>
        have hkey : (e.1 == t) = true :=
          List.find?_some (p := fun e : Tag × String => e.1 == t) hfound
        simp [beq_iff_eq.mp hkey, Ne.symm h]
  case isFalse hnew =>
    rw [lookup, List.find?_append, lookup]
    by_cases h : tag = t
    · subst h
      have hnone : ts.entries.find? (fun e => e.1 == tag) = none := by
        rw [List.find?_eq_none]
        exact fun e he hkey => hnew (List.any_eq_true.mpr ⟨e, he, hkey⟩)
      simp [hnone]
    · simp [h]

/-- **A look-up finds the value that was given last.** -/
theorem lookup_ofList (pairs : List (Tag × String)) (tag : Tag) :
    (ofList pairs).lookup tag = lastGiven pairs tag := by
  induction pairs using List.reverseRecOn with
  | nil => rfl
  | append_singleton pairs p ih => rw [ofList_concat, lookup_insert, lastGiven_concat, ih]

/-! ## What is seen -/

/-- Every tag has the same value in both, or is in neither of them. -/
def SameValues (a b : Tags) : Prop := ∀ tag, a.lookup tag = b.lookup tag

end Tags

/-- The field with other tags. -/
def Field.tagged (f : Field) (ts : Tags) : Field := { f with tags := ts }

theorem Field.tags_tagged (f : Field) (ts : Tags) : (f.tagged ts).tags = ts := rfl

namespace Tags.SameValues

variable {a b : Tags} (h : a.SameValues b)
include h

theorem get_eq : a.get = b.get := by
  funext tag
  rw [get, get, h tag]

theorem contains_eq : a.contains = b.contains := by
  funext tag
  rw [contains, contains, h tag]

theorem containsAny_eq : a.containsAny = b.containsAny := by
  funext tags
  rw [containsAny, containsAny, h.contains_eq]

/-! Every reader of a field goes by these. -/

variable (f : Field)

theorem skip_eq : (f.tagged a).skip = (f.tagged b).skip := by
  show (!f.exported || f.embedded || a.get .ignore == Tag.ignored) = _
  rw [h.get_eq]
  rfl

theorem metricName_eq : (f.tagged a).metricName = (f.tagged b).metricName :=
  congrArg (MetricBundle.metricName f.ident) (h .name)

theorem commonOpts_eq : (f.tagged a).commonOpts = (f.tagged b).commonOpts := by
  rw [Field.commonOpts, Field.commonOpts, h.metricName_eq f]
  simp only [Field.help, Field.space, Field.subsystem, Field.tags_tagged, h.get_eq]

theorem buckets_eq : (f.tagged a).buckets = (f.tagged b).buckets := by
  rw [Field.buckets, Field.buckets, f.tags_tagged, f.tags_tagged, h.get_eq]

theorem objectives_eq : (f.tagged a).objectives = (f.tagged b).objectives := by
  rw [Field.objectives, Field.objectives, f.tags_tagged, f.tags_tagged, h.get_eq]

theorem maxAge_eq : (f.tagged a).maxAge = (f.tagged b).maxAge := by
  rw [Field.maxAge, Field.maxAge, f.tags_tagged, f.tags_tagged, h.get_eq]

theorem count_eq : (f.tagged a).count = (f.tagged b).count := by
  funext tag
  rw [Field.count, Field.count, f.tags_tagged, f.tags_tagged, h.get_eq]

theorem labelNames_eq : (f.tagged a).labelNames = (f.tagged b).labelNames := by
  rw [Field.labelNames, Field.labelNames, f.tags_tagged, f.tags_tagged, h.get_eq]

theorem forbid_eq : (f.tagged a).forbid = (f.tagged b).forbid := by
  funext fault tags
  rw [Field.forbid, Field.forbid, f.tags_tagged, f.tags_tagged, h.contains_eq]

theorem observerInstrument?_eq :
    (f.tagged a).observerInstrument? = (f.tagged b).observerInstrument? := by
  rw [Field.observerInstrument?, Field.observerInstrument?, Field.hasAny, Field.hasAny,
    f.tags_tagged, f.tags_tagged, h.get_eq, h.containsAny_eq]

/-! The options and the labels are put together from what has been read. -/

theorem optsFor_eq : (f.tagged a).optsFor = (f.tagged b).optsFor := by
  funext i
  cases i with
  | counter | gauge => simp only [Field.optsFor, h.commonOpts_eq f, h.forbid_eq f]
  | histogram =>
    simp only [Field.optsFor, Field.histogramOpts, h.commonOpts_eq f, h.buckets_eq f]
  | summary =>
    simp only [Field.optsFor, Field.summaryOpts, Field.ageBuckets, Field.bufCap,
      h.commonOpts_eq f, h.objectives_eq f, h.maxAge_eq f, h.count_eq f]

theorem observerOpts_eq : (f.tagged a).observerOpts = (f.tagged b).observerOpts := by
  have hkind : (f.tagged a).tags.get .kind = (f.tagged b).tags.get .kind := congrFun h.get_eq .kind
  simp only [Field.observerOpts, h.observerInstrument?_eq f, h.optsFor_eq f, h.forbid_eq f, hkind]

theorem shapeLabels_eq : (f.tagged a).shapeLabels = (f.tagged b).shapeLabels := by
  funext s
  cases s with
  | scalar => rfl
  | vector => exact h.labelNames_eq f

/-- **Fields whose tags have the same values resolve to the same**, with the same faults in the same
order. -/
theorem resolveNoted_eq : (f.tagged a).resolveNoted = (f.tagged b).resolveNoted := by
  have hkind (ts : Tags) : (f.tagged ts).kind = f.kind := rfl
  simp only [Field.resolveNoted, hkind, h.optsFor_eq f, h.observerOpts_eq f, h.forbid_eq f,
    h.shapeLabels_eq f, h.labelNames_eq f]

theorem resolve_eq : (f.tagged a).resolve = (f.tagged b).resolve := by
  simp only [Field.resolve, h.resolveNoted_eq f]

theorem overflows_eq : (f.tagged a).overflows = (f.tagged b).overflows := by
  simp only [Field.overflows, h.resolveNoted_eq f]

/-- The failures are of the same field. -/
theorem resolutionFailures_eq :
    (f.tagged a).resolutionFailures = (f.tagged b).resolutionFailures := by
  have hfailure : (f.tagged a).failure = (f.tagged b).failure := rfl
  simp only [Field.resolutionFailures, h.resolve_eq f, hfailure]

end Tags.SameValues

namespace Tags

/-- **The last value of a tag wins, and the order of the tags is not seen.**  Take two ways to give
tags one after the other, by which every tag gets the same value last, or none.  Then look-ups and
checks find the same in both, and a field is skipped, named and resolved in the same way with
either: to the same options and label names, with the same failures in the same order, or to nothing
at all.  What is stored is each tag once, in the place of its first giving, with its last value. -/
theorem order_unseen {given other : List (Tag × String)}
    (h : ∀ tag, lastGiven given tag = lastGiven other tag) :
    let a := ofList given
    let b := ofList other
    (∀ tag, a.lookup tag = b.lookup tag ∧ a.get tag = b.get tag ∧
      a.contains tag = b.contains tag) ∧
    (∀ tags, a.containsAny tags = b.containsAny tags) ∧
    (∀ f : Field, (f.tagged a).skip = (f.tagged b).skip ∧
      (f.tagged a).metricName = (f.tagged b).metricName ∧
      (f.tagged a).resolve = (f.tagged b).resolve ∧
      (f.tagged a).resolutionFailures = (f.tagged b).resolutionFailures ∧
      (f.tagged a).overflows = (f.tagged b).overflows) ∧
    ∀ pairs, ((ofList pairs).entries.map Prod.fst) = (pairs.map Prod.fst).eraseDups ∧
      ((ofList pairs).entries.map Prod.fst).Nodup ∧
      ∀ tag, (ofList pairs).lookup tag = lastGiven pairs tag := by
  intro a b
  have hsame : a.SameValues b := fun tag => by rw [lookup_ofList, lookup_ofList, h tag]
  refine ⟨fun tag => ⟨hsame tag, congrFun hsame.get_eq tag, congrFun hsame.contains_eq tag⟩,
    fun tags => congrFun hsame.containsAny_eq tags, fun f => ?_, fun pairs => ?_⟩
  · exact ⟨hsame.skip_eq f, hsame.metricName_eq f, hsame.resolve_eq f,
      hsame.resolutionFailures_eq f, hsame.overflows_eq f⟩
  · exact ⟨map_fst_ofList pairs, nodup_ofList pairs, lookup_ofList pairs⟩

theorem order_unseen_of_repeated_name :
    let given := [(Tag.name, "first"), (Tag.help, "help"), (Tag.name, "second")]
    let other := [(Tag.help, "help"), (Tag.name, "second")]
    (∀ tag, lastGiven given tag = lastGiven other tag) ∧ ofList given ≠ ofList other ∧
      (ofList given).get .name = "second" ∧
      ∀ f : Field, (f.tagged (ofList given)).resolve = (f.tagged (ofList other)).resolve := by
  intro given other
  have hlast : ∀ tag, lastGiven given tag = lastGiven other tag := fun tag => by
    cases tag <;> rfl
  obtain ⟨-, -, hfields, -⟩ := order_unseen hlast
  exact ⟨hlast, by decide, rfl, fun f => (hfields f).2.2.1⟩

end Tags

end MetricBundle
