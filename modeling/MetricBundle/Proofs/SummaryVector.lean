import MetricBundle.Proofs.Construction
import MetricBundle.Proofs.LabelOrder
import MetricBundle.Proofs.SummaryMap
import MetricBundle.Session

/-!
# A vector of summaries refines a map

In telemetry a vector of summaries is a list of keys with numbers of series, and its children are
series among all others.  `Represents` says that the telemetry stands for a `SummaryMap`: the
children that the map has ever had are the last series, in order, and the keys in the vector are
those from which the map leads, each to the number of its child (`Leads`).

Every use of the vector keeps this and gives the answer that a step of the map gives
(`perform_refines`): looking up and inserting, removing and resetting change the keys (`Leads`),
observing changes one series (`stepMeter_child`), and collecting turns those of the children that
are present, one after the other (`rotateAll_cases`), and lists them in the order of their keys
(`exists_family`).  So whatever is done with a vector from its making on is a run of the map
(`refines_map`).

A use may overrun the clock, and then it answers with no result.  For a window that is long enough
this is so from the beginning, though the options are accepted
(`child_overruns_longest_window`).
-/

namespace MetricBundle

namespace SummaryVector

open SummaryMap

variable (v : SummaryVector)

/-! ## Uses of telemetry -/

/-- What a use of the vector does to telemetry. -/
def perform : Use → Telemetry → Answer × Telemetry
  | .get values, t =>
    match t.child v.metric values with
    | .ok (m, t) => (.handle m, t)
    | .error (.metric e) => (.refused e, t)
    | .error _ => (.overrun, t)
  | .observe k x, t =>
    match Telemetry.change (v.handle k) (.observe x) t with
    | (.ok (), t) => (.done, t)
    | (.error _, t) => (.overrun, t)
  | .remove values, t =>
    match t.remove v.metric values with
    | .ok t => (.done, t)
    | .error e => (.refused e, t)
  | .reset, t => (.done, t.reset v.metric)
  | .advance span, t => (.done, t.advance span)
  | .collect, t =>
    match Telemetry.collect (.metric v.metric) t with
    | (.ok families, t) => (.collected families, t)
    | (.error _, t) => (.overrun, t)

/-- Uses one after the other. -/
def performAll : List Use → Telemetry → List Answer × Telemetry
  | [], t => ([], t)
  | use :: uses, t =>
    let (answer, t) := v.perform use t
    let (answers, t) := performAll uses t
    (answer :: answers, t)

/-- The series of a child. -/
def series (child : List String × AgeWindow) : Series where
  labels := v.blueprint.labelPairs child.1
  meter := .window v.opts.objectives child.2

/-- The children in the vector are those to which the map leads. -/
structure Leads (children : List (List String × Nat)) (current : List String → Option Nat) :
    Prop where
  nodup : (children.map Prod.fst).Nodup
  mem_iff : ∀ values id, (values, id) ∈ children ↔
    ∃ k, current values = some k ∧ id = v.earlier.length + k

/-- The telemetry has the children of the map as its last series, and its vector leads to those to
which the map does. -/
structure Represents (s : SummaryMap) (t : Telemetry) : Prop where
  now_eq : t.now = s.now
  series_eq : t.series = v.earlier ++ s.made.map v.series
  leads : ∃ children, t.vectors[v.metric.id]? = some { blueprint := v.blueprint, children } ∧
    v.Leads children s.current

variable {v : SummaryVector} {s s' : SummaryMap} {t t' : Telemetry} {values : List String}
  {children : List (List String × Nat)} {current : List String → Option Nat} {k : Nat}
  {w w' : AgeWindow}

/-! ## The children of the vector -/

theorem instrument_blueprint : v.blueprint.instrument = .summary := by
  rw [Blueprint.instrument, v.opts_eq]
  rfl

theorem childKey_eq : v.blueprint.childKey values = values := by
  rw [Blueprint.childKey, instrument_blueprint]

/-- The vector finds the children to which the map leads. -/
theorem Leads.lookup_eq (h : v.Leads children current) (values : List String) :
    MetricVector.lookup { blueprint := v.blueprint, children } values =
      (current values).map (v.earlier.length + ·) := by
  rw [MetricVector.lookup]
  simp only [childKey_eq]
  cases hfind : children.find? fun c => c.1 == values with
  | some c =>
    obtain ⟨key, id⟩ := c
    obtain rfl : key = values := by simpa using List.find?_some hfind
    obtain ⟨k, hk, rfl⟩ := (h.mem_iff key id).mp (List.mem_of_find?_eq_some hfind)
    rw [hk]
    rfl
  | none =>
    cases hk : current values with
    | none => rfl
    | some k =>
      have hmem := (h.mem_iff values _).mpr ⟨k, hk, rfl⟩
      have hne := List.find?_eq_none.mp hfind _ hmem
      exact absurd (beq_self_eq_true values) hne

theorem leads_nil : v.Leads [] fun _ => none where
  nodup := List.nodup_nil
  mem_iff _ _ := ⟨fun h => absurd h List.not_mem_nil, fun ⟨_, h, _⟩ => nomatch h⟩

/-- A new child comes after the others. -/
theorem Leads.insert (h : v.Leads children current) (hnone : current values = none) (k : Nat) :
    v.Leads (children ++ [(values, v.earlier.length + k)])
      (Function.update current values (some k)) where
  nodup := by
    rw [List.map_append, List.nodup_append]
    refine ⟨h.nodup, List.pairwise_singleton _ _, ?_⟩
    -- a key of the vector leads to a child, and this one did not
    rintro _ hkey _ hvalues rfl
    obtain ⟨⟨key, id⟩, hmem, rfl⟩ := List.mem_map.mp hkey
    obtain rfl : key = values := List.mem_singleton.mp hvalues
    obtain ⟨j, hj, -⟩ := (h.mem_iff key id).mp hmem
    rw [hnone] at hj
    cases hj
  mem_iff key id := by
    rw [List.mem_append, List.mem_singleton, h.mem_iff]
    by_cases hkey : key = values
    · subst hkey
      rw [Function.update_self, hnone]
      simp
    · rw [Function.update_of_ne hkey]
      simp [hkey]

theorem Leads.erase (h : v.Leads children current) (values : List String) :
    v.Leads (children.filter fun c => c.1 != values) (Function.update current values none) where
  nodup := (List.filter_sublist.map Prod.fst).nodup h.nodup
  mem_iff key id := by
    rw [List.mem_filter, h.mem_iff]
    by_cases hkey : key = values
    · subst hkey
      simp
    · rw [Function.update_of_ne hkey]
      simp [hkey]

/-! ## The series of the children -/

theorem Represents.getElem?_series (h : v.Represents s t) (k : Nat) :
    t.series[v.earlier.length + k]? = s.made[k]?.map v.series := by
  rw [h.series_eq, List.getElem?_append_right (Nat.le_add_right _ _), Nat.add_sub_cancel_left,
    List.getElem?_map]

theorem Represents.length_series (h : v.Represents s t) :
    t.series.length = v.earlier.length + s.made.length := by
  rw [h.series_eq, List.length_append, List.length_map]

/-- Putting another window into the series of a child. -/
theorem Represents.put (h : v.Represents s t) (child : List String × AgeWindow) :
    v.Represents (s.put k child)
      { t with series := t.series.set (v.earlier.length + k) (v.series child) } where
  now_eq := h.now_eq
  series_eq := by
    show t.series.set _ _ = v.earlier ++ (s.made.set k child).map v.series
    rw [h.series_eq, List.set_append_right _ _ (Nat.le_add_right _ _), Nat.add_sub_cancel_left,
      List.map_set]
  leads := h.leads

/-! ## Each use -/

/-- The telemetry after a use is represented by a map to which a step leads that gives the same
answer. -/
def Refines (v : SummaryVector) (s : SummaryMap) (use : Use) (result : Answer × Telemetry) : Prop :=
  ∃ s', v.Step s use result.1 s' ∧ v.Represents s' result.2

theorem newSeries_eq (hlength : values.length = v.arity) (now : Nat) :
    v.blueprint.newSeries values now =
      if now + v.opts.window.span < Duration.clockLimit then
        .ok (v.series (values, .fresh v.opts.window now))
      else .error .clockRange := by
  have hlabel : v.blueprint.labelDefect = none := by
    unfold Blueprint.labelDefect
    rw [instrument_blueprint]
    exact if_neg fun h => nomatch h.1
  have harity : v.blueprint.arityDefect values = none := if_pos hlength
  simp only [Blueprint.newSeries, hlabel, harity, Blueprint.newMeter, v.opts_eq, AgeWindow.start?]
  by_cases hin : now + v.opts.window.span < Duration.clockLimit
  · simp only [hin, ↓reduceIte, Except.map]
    rfl
  · simp only [hin, ↓reduceIte, Except.map]

section Child

variable (hvector : t.vectors[v.metric.id]? = some { blueprint := v.blueprint, children })
include hvector

theorem child_of_miscounted (hlength : values.length ≠ v.arity) :
    t.child v.metric values = .error (.metric (.cardinality v.arity values.length)) := by
  have harity : v.blueprint.arityDefect values =
      some (.cardinality v.arity values.length) := if_neg hlength
  simp only [Telemetry.child, v.shape_eq, hvector, harity]

theorem child_of_found (hleads : v.Leads children current) (hlength : values.length = v.arity)
    (hk : current values = some k) : t.child v.metric values = .ok (v.handle k, t) := by
  have harity : v.blueprint.arityDefect values = none := if_pos hlength
  simp only [Telemetry.child, v.shape_eq, hvector, harity, hleads.lookup_eq, hk, Option.map_some]
  rfl

theorem child_of_none (hleads : v.Leads children current) (hlength : values.length = v.arity)
    (hk : current values = none) :
    t.child v.metric values = (v.blueprint.newSeries values t.now).map fun s =>
      ({ v.metric with shape := .scalar, id := t.series.length },
        { t.addSeries s with
          vectors := t.vectors.set v.metric.id
            { blueprint := v.blueprint,
              children := children ++ [(values, t.series.length)] } }) := by
  have harity : v.blueprint.arityDefect values = none := if_pos hlength
  simp only [Telemetry.child, v.shape_eq, hvector, harity, hleads.lookup_eq, hk, Option.map_none,
    MetricVector.insert, childKey_eq]

end Child

theorem perform_get (h : v.Represents s t) (values : List String) :
    v.Refines s (.get values) (v.perform (.get values) t) := by
  obtain ⟨children, hvector, hleads⟩ := h.leads
  rw [perform]
  by_cases hlength : values.length = v.arity
  · cases hk : s.current values with
    | some k =>
      rw [child_of_found hvector hleads hlength hk]
      exact ⟨s, .found hlength hk, h⟩
    | none =>
      rw [child_of_none hvector hleads hlength hk, newSeries_eq hlength, h.now_eq, h.length_series]
      by_cases hin : s.now + v.opts.window.span < Duration.clockLimit
      · rw [if_pos hin]
        refine ⟨_, .made hlength hk hin, ⟨h.now_eq, ?_, _, ?_, hleads.insert hk s.made.length⟩⟩
        · show t.series ++ [_] = v.earlier ++ (s.made ++ [_]).map v.series
          rw [h.series_eq, List.map_append, List.append_assoc]
          rfl
        · exact List.getElem?_set_self (List.getElem?_eq_some_iff.mp hvector).1
      · rw [if_neg hin]
        exact ⟨s, .unmade hlength hk (Nat.le_of_not_lt hin), h⟩
  · rw [child_of_miscounted hvector hlength]
    exact ⟨s, .miscounted hlength, h⟩

/-- A step on the window of a child. -/
theorem stepMeter_child (h : v.Represents s t) {step : Meter → Except Meter Meter}
    {turn : AgeWindow → Except AgeWindow AgeWindow}
    (hstep : ∀ os w, step (.window os w) = Meter.onWindow turn (.window os w))
    (hk : s.made[k]? = some (values, w)) :
    (∃ w' t', turn w = .ok w' ∧
      Telemetry.stepMeter (v.earlier.length + k) step t = (.ok (), t') ∧
      v.Represents (s.put k (values, w')) t') ∨
    ∃ w' t', turn w = .error w' ∧
      Telemetry.stepMeter (v.earlier.length + k) step t = (.error .clockRange, t') ∧
      v.Represents (s.put k (values, w')) t' := by
  have hseries : t.series[v.earlier.length + k]? = some (v.series (values, w)) := by
    rw [h.getElem?_series, hk]
    rfl
  have hmeter : step (v.series (values, w)).meter =
      Meter.onWindow turn (.window v.opts.objectives w) := hstep _ w
  cases hturn : turn w with
  | ok w' =>
    refine .inl ⟨w', _, rfl, ?_, h.put (values, w')⟩
    simp only [Telemetry.stepMeter, hseries, hmeter, Meter.onWindow, hturn]
    rfl
  | error w' =>
    refine .inr ⟨w', _, rfl, ?_, h.put (values, w')⟩
    simp only [Telemetry.stepMeter, hseries, hmeter, Meter.onWindow, hturn]
    rfl

theorem perform_observe (h : v.Represents s t) (k : Nat) (x : Number) :
    v.Refines s (.observe k x) (v.perform (.observe k x) t) := by
  have hchange : Telemetry.change (v.handle k) (.observe x) t =
      Telemetry.stepMeter (v.earlier.length + k) (Meter.apply t.now (.observe x)) t := by
    have hinstrument : ¬((v.handle k).instrument = .counter ∧ (Change.observe x).isFall = true) :=
      fun hfall => nomatch hfall.2
    simp only [Telemetry.change, if_neg hinstrument]
    rfl
  have happly (os : List (Number × Number)) (w : AgeWindow) :
      Meter.apply t.now (.observe x) (.window os w) =
        Meter.onWindow (AgeWindow.observe t.now x) (.window os w) := rfl
  rw [perform, hchange]
  cases hk : s.made[k]? with
  | none =>
    have hseries : t.series[v.earlier.length + k]? = none := by
      rw [h.getElem?_series, hk]
      rfl
    simp only [Telemetry.stepMeter, hseries]
    exact ⟨s, .unknown hk, h⟩
  | some child =>
    obtain ⟨values, w⟩ := child
    rcases stepMeter_child h happly hk with
      ⟨w', t', hw', hstep, ht'⟩ | ⟨w', t', hw', hstep, ht'⟩
    · rw [hstep]
      exact ⟨_, .observed hk (h.now_eq ▸ hw'), ht'⟩
    · rw [hstep]
      exact ⟨_, .unobserved hk (h.now_eq ▸ hw'), ht'⟩

theorem perform_remove (h : v.Represents s t) (values : List String) :
    v.Refines s (.remove values) (v.perform (.remove values) t) := by
  obtain ⟨children, hvector, hleads⟩ := h.leads
  have hlookup := hleads.lookup_eq values
  rw [perform]
  cases hk : s.current values with
  | none =>
    rw [hk] at hlookup
    have hremove : t.remove v.metric values = .error (.missingLabelValues values) := by
      simp only [Telemetry.remove, hvector, MetricVector.eraseDefect, instrument_blueprint, hlookup,
        Option.map_none]
    rw [hremove]
    exact ⟨s, .missing hk, h⟩
  | some k =>
    rw [hk] at hlookup
    have hremove : t.remove v.metric values =
        .ok { t with
          vectors := t.vectors.set v.metric.id
            { blueprint := v.blueprint, children := children.filter fun c => c.1 != values } } := by
      simp only [Telemetry.remove, hvector, MetricVector.eraseDefect, instrument_blueprint, hlookup,
        Option.map_some, MetricVector.erase, childKey_eq]
    rw [hremove]
    refine ⟨_, .removed hk, ⟨h.now_eq, h.series_eq, _, ?_, hleads.erase values⟩⟩
    exact List.getElem?_set_self (List.getElem?_eq_some_iff.mp hvector).1

theorem perform_reset (h : v.Represents s t) : v.Refines s .reset (v.perform .reset t) := by
  obtain ⟨children, hvector, hleads⟩ := h.leads
  refine ⟨s.clear, .reset, ⟨h.now_eq, h.series_eq, [], ?_, leads_nil⟩⟩
  show (t.vectors.modify v.metric.id _)[v.metric.id]? = _
  rw [List.getElem?_modify_eq, hvector]
  rfl

theorem perform_advance (h : v.Represents s t) (span : Nat) :
    v.Refines s (.advance span) (v.perform (.advance span) t) := by
  refine ⟨_, .advanced, ⟨?_, h.series_eq, h.leads⟩⟩
  show (t.now + span) % Duration.clockLimit = _
  rw [h.now_eq]

/-! ## Collecting -/

/-- The series of some children are brought up to the present, unless one of them cannot be. -/
theorem rotateAll_cases (h : v.Represents s t) {ks : List Nat} (hnodup : ks.Nodup)
    (hlt : ∀ k ∈ ks, k < s.made.length) :
    ∃ s' t', v.Represents s' t' ∧
      ((Telemetry.rotateAll (ks.map (v.earlier.length + ·)) t = (.ok (), t') ∧
          Turned (· ∈ ks) (UpToDate s.now) s s') ∨
        Telemetry.rotateAll (ks.map (v.earlier.length + ·)) t = (.error .clockRange, t') ∧
          Turned (· ∈ ks) (Interrupted s.now) s s' ∧ ∃ k ∈ ks, s.Overruns k) := by
  induction ks generalizing s t with
  | nil =>
    refine ⟨s, t, h, .inl ⟨rfl, ⟨rfl, rfl, rfl, fun _ _ _ hk => ?_, fun _ _ => rfl⟩⟩⟩
    exact absurd hk List.not_mem_nil
  | cons k ks ih =>
    obtain ⟨hk, hnodup⟩ := List.nodup_cons.mp hnodup
    obtain ⟨hklt, hlt⟩ := List.forall_mem_cons.mp hlt
    have hmade : s.made[k]? = some (s.made[k].1, s.made[k].2) := List.getElem?_eq_getElem hklt
    have hrotate (os : List (Number × Number)) (w : AgeWindow) :
        Meter.rotate t.now (.window os w) =
          Meter.onWindow (AgeWindow.rotate t.now) (.window os w) := rfl
    rw [List.map_cons, Telemetry.rotateAll_cons]
    rcases stepMeter_child h hrotate hmade with
      ⟨w', t₁, hw', hstep, h₁⟩ | ⟨w', t₁, hw', hstep, h₁⟩
    · rw [h.now_eq] at hw'
      rw [Action.bind_of_ok hstep]
      have hturned : Turned (· = k) (UpToDate s.now) s (s.put k (s.made[k].1, w')) :=
        turned_put hmade hw'
      obtain ⟨s', t', h', hcases⟩ := ih h₁ hnodup fun j hj => by
        rw [hturned.length_eq]
        exact hlt j hj
      refine ⟨s', t', h', ?_⟩
      rcases hcases with ⟨hrun, hrest⟩ | ⟨hrun, hrest, j, hj, values, w, r, hw, herror⟩
      · exact .inl ⟨hrun, hturned.cons hk hrest⟩
      · -- the child that could not be turned is another one, so it is as it was
        have hne : j ≠ k := fun heq => hk (heq ▸ hj)
        have hinterrupted : Turned (· = k) (Interrupted s.now) s (s.put k (s.made[k].1, w')) :=
          hturned.imp (fun _ => Iff.rfl) fun _ _ hw => .inr (.inl hw)
        refine .inr ⟨hrun, hinterrupted.cons hk hrest, j, List.mem_cons_of_mem _ hj, values, w, r,
          (hturned.kept j hne).symm.trans hw, herror⟩
    · rw [h.now_eq] at hw'
      rw [Action.bind_of_error hstep]
      have hturned : Turned (· = k) (Interrupted s.now) s (s.put k (s.made[k].1, w')) :=
        turned_put hmade (.inr (.inr hw'))
      have hrest : Turned (· ∈ ks) (Interrupted s.now) (s.put k (s.made[k].1, w'))
          (s.put k (s.made[k].1, w')) :=
        turned_refl fun _ => .inl rfl
      exact ⟨_, t₁, h₁, .inr ⟨rfl, hturned.cons hk hrest, k, List.mem_cons_self, _, _, w', hmade,
        hw'⟩⟩

/-- The numbers of the children in the vector, in any order of these. -/
theorem Leads.exists_numbers (hs : v.Sound s) (h : v.Leads children s.current)
    {listed : List (List String × Nat)} (hperm : listed.Perm children) :
    ∃ ks : List Nat, listed.map Prod.snd = ks.map (v.earlier.length + ·) ∧ ks.Nodup ∧
      ∀ k, k ∈ ks ↔ s.Present k := by
  have hmem (values : List String) (id : Nat) : (values, id) ∈ listed ↔
      ∃ k, s.current values = some k ∧ id = v.earlier.length + k :=
    hperm.mem_iff.trans (h.mem_iff values id)
  refine ⟨listed.map fun c => c.2 - v.earlier.length, ?_, ?_, fun k => ?_⟩
  · rw [List.map_map]
    refine List.map_congr_left fun c hc => ?_
    obtain ⟨k, -, hk⟩ := (hmem c.1 c.2).mp hc
    rw [Function.comp_apply, hk, Nat.add_sub_cancel_left]
  · refine List.pairwise_map.mpr ?_
    have hkeys := List.pairwise_map.mp ((hperm.map Prod.fst).nodup_iff.mpr h.nodup)
    -- keys with the same number lead to the same child, so they are the same
    refine hkeys.imp_of_mem fun {c d} hc hd hne heq => hne ?_
    obtain ⟨k, hk, hck⟩ := (hmem c.1 c.2).mp hc
    obtain ⟨j, hj, hdj⟩ := (hmem d.1 d.2).mp hd
    rw [hck, hdj, Nat.add_sub_cancel_left, Nat.add_sub_cancel_left] at heq
    exact hs.values_eq hk (heq ▸ hj)
  · constructor
    · intro hk
      obtain ⟨c, hc, rfl⟩ := List.mem_map.mp hk
      obtain ⟨j, hj, hcj⟩ := (hmem c.1 c.2).mp hc
      rw [hcj, Nat.add_sub_cancel_left]
      exact ⟨c.1, hj⟩
    · rintro ⟨values, hvalues⟩
      refine List.mem_map.mpr ⟨_, (hmem values _).mpr ⟨k, hvalues, rfl⟩, ?_⟩
      exact Nat.add_sub_cancel_left _ _

theorem members_eq
    (hvector : t.vectors[v.metric.id]? = some { blueprint := v.blueprint, children }) :
    t.members (.metric v.metric) =
      (children.mergeSort fun a b => textsLE a.1 b.1).map Prod.snd := by
  simp only [Telemetry.members, v.shape_eq, hvector, MetricVector.members, instrument_blueprint]

theorem Represents.sample?_eq (h : v.Represents s t) (k : Nat) :
    t.sample? (v.earlier.length + k) = s.made[k]?.map v.sample := by
  rw [Telemetry.sample?, h.getElem?_series, Option.map_map]
  rfl

/-- The samples of the vector are those of the children that are present, in strict order of their
label values. -/
theorem exists_family (hs : v.Sound s) (h : v.Represents s t) :
    ∃ cs : List (List String × AgeWindow),
      t.family (.metric v.metric) = v.family (cs.map v.sample) ∧
      (cs.map Prod.fst).Pairwise (· < ·) ∧
      ∀ values w, (values, w) ∈ cs ↔ s.child? values = some w := by
  obtain ⟨children, hvector, hleads⟩ := h.leads
  let listed := children.mergeSort fun a b => textsLE a.1 b.1
  have hmem (values : List String) (id : Nat) : (values, id) ∈ listed ↔
      ∃ k, s.current values = some k ∧ id = v.earlier.length + k :=
    (List.mergeSort_perm children _).mem_iff.trans (hleads.mem_iff values id)
  -- what stands at the number of a listed child are its label values and its window
  let child (c : List String × Nat) : Option (List String × AgeWindow) :=
    s.made[c.2 - v.earlier.length]?
  have hchild (c : List String × Nat) (hc : c ∈ listed) :
      ∃ w, child c = some (c.1, w) ∧ t.sample? c.2 = some (v.sample (c.1, w)) := by
    obtain ⟨k, hk, hck⟩ := (hmem c.1 c.2).mp hc
    obtain ⟨w, hw⟩ := hs.made_of_current c.1 k hk
    refine ⟨w, ?_, ?_⟩
    · show s.made[c.2 - v.earlier.length]? = _
      rw [hck, Nat.add_sub_cancel_left, hw]
    · rw [hck, h.sample?_eq, hw]
      rfl
  refine ⟨listed.filterMap child, ?_, ?_, fun values w => ?_⟩
  · have hsamples : (listed.map Prod.snd).filterMap t.sample? =
        (listed.filterMap child).map v.sample := by
      rw [List.filterMap_map, List.map_filterMap]
      refine List.filterMap_congr fun c hc => ?_
      obtain ⟨w, hw, hsample⟩ := hchild c hc
      rw [Function.comp_apply, hsample, hw]
      rfl
    have hmembers : t.samples (.metric v.metric) =
        (t.members (.metric v.metric)).filterMap t.sample? := rfl
    rw [Telemetry.family, hmembers, members_eq hvector, hsamples, family]
    exact congrArg (fun i => Family.mk _ _ i _) v.instrument_eq
  · have hkeys : (listed.filterMap child).map Prod.fst = listed.map Prod.fst := by
      rw [List.map_filterMap, ← List.filterMap_eq_map]
      refine List.filterMap_congr fun c hc => ?_
      obtain ⟨w, hw, -⟩ := hchild c hc
      rw [hw]
      rfl
    rw [hkeys]
    exact pairwise_lt_mergeSort hleads.nodup
  · rw [hs.child?_eq_some_iff, List.mem_filterMap]
    constructor
    · rintro ⟨c, hc, hvalues⟩
      obtain ⟨k, hk, hck⟩ := (hmem c.1 c.2).mp hc
      have hmade : s.made[k]? = some (values, w) := by
        rw [← hvalues]
        show _ = s.made[c.2 - v.earlier.length]?
        rw [hck, Nat.add_sub_cancel_left]
      obtain ⟨w', hw'⟩ := hs.made_of_current c.1 k hk
      obtain ⟨hkey, -⟩ := Prod.mk.inj (Option.some.inj (hw'.symm.trans hmade))
      exact ⟨k, hkey ▸ hk, hmade⟩
    · rintro ⟨k, hk, hmade⟩
      refine ⟨(values, v.earlier.length + k), (hmem _ _).mpr ⟨k, hk, rfl⟩, ?_⟩
      show s.made[v.earlier.length + k - v.earlier.length]? = _
      rw [Nat.add_sub_cancel_left, hmade]

theorem perform_collect (hs : v.Sound s) (h : v.Represents s t) :
    v.Refines s .collect (v.perform .collect t) := by
  obtain ⟨children, hvector, hleads⟩ := h.leads
  obtain ⟨ks, hids, hnodup, hpresent⟩ := hleads.exists_numbers hs (List.mergeSort_perm children _)
  have hlt (k : Nat) (hk : k ∈ ks) : k < s.made.length := hs.lt_of_present ((hpresent k).mp hk)
  have hmembers := (members_eq hvector).trans hids
  rw [perform]
  obtain ⟨s', t', h', ⟨hrun, hturned⟩ | ⟨hrun, hturned, k, hk, hoverruns⟩⟩ :=
    rotateAll_cases h hnodup hlt
  · have hturned := hturned.imp (fun k => (hpresent k).symm) fun _ _ hw => hw
    rw [← hmembers] at hrun
    have hcollect : Telemetry.collect (.metric v.metric) t =
        (.ok (Family.inhabited [t'.family (.metric v.metric)]), t') := Action.bind_of_ok hrun _
    have hs' : v.Sound s' := sound_turned hs hturned fun _ _ => AgeWindow.shape_rotate
    obtain ⟨cs, hfamily, hsorted, hcs⟩ := exists_family hs' h'
    rw [hcollect, hfamily]
    exact ⟨s', .collected hturned hsorted hcs, h'⟩
  · have hturned := hturned.imp (fun k => (hpresent k).symm) fun _ _ hw => hw
    rw [← hmembers] at hrun
    have hcollect : Telemetry.collect (.metric v.metric) t = (.error .clockRange, t') :=
      Action.bind_of_error hrun _
    rw [hcollect]
    exact ⟨s', .uncollected ((hpresent k).mp hk) hoverruns hturned, h'⟩

/-- **Every use of the vector is a step of the map.** -/
theorem perform_refines (hs : v.Sound s) (h : v.Represents s t) (use : Use) :
    v.Refines s use (v.perform use t) := by
  cases use with
  | get values => exact perform_get h values
  | observe k x => exact perform_observe h k x
  | remove values => exact perform_remove h values
  | reset => exact perform_reset h
  | advance span => exact perform_advance h span
  | collect => exact perform_collect hs h

/-- One use after the other is a run of the map. -/
theorem performAll_refines (hs : v.Sound s) (h : v.Represents s t) (uses : List Use) :
    ∃ s', v.Run s uses (v.performAll uses t).1 s' ∧ v.Represents s' (v.performAll uses t).2 := by
  induction uses generalizing s t with
  | nil => exact ⟨s, .nil, h⟩
  | cons use uses ih =>
    obtain ⟨s₁, hstep, h₁⟩ := perform_refines hs h use
    obtain ⟨s', hrun, h'⟩ := ih (hstep.sound hs) h₁
    exact ⟨s', .cons hstep hrun, h'⟩

/-! ## The whole life of a vector -/

/-- A vector that has been made has no children. -/
theorem exists_of_make {o : SummaryOpts} {names : List String} {m : Metric}
    (h : t.make { opts := .summary o, labels := some names } = .ok (m, t')) :
    ∃ v : SummaryVector, v.metric = m ∧ v.opts = o ∧ v.earlier = t.series ∧
      v.blueprint.descriptor = m.descriptor ∧
      m.descriptor.variableLabels = o.common.variableLabels ++ names ∧
      v.Represents (empty t'.now) t' := by
  unfold Telemetry.make at h
  split at h
  case h_1 b hb =>
    obtain ⟨hopts, hshape⟩ := Blueprint.of_eq_ok hb
    have hinstrument : b.instrument = .summary := congrArg MetricOpts.instrument hopts
    unfold Telemetry.build at h
    split at h
    case h_1 hscalar => exact nomatch hscalar.symm.trans hshape
    case h_2 hvector =>
      obtain ⟨rfl, rfl⟩ := Prod.mk.inj (Except.ok.inj h)
      let v : SummaryVector :=
        { metric := ⟨b.instrument, b.shape, b.descriptor, t.vectors.length⟩
          blueprint := b, opts := o, earlier := t.series
          opts_eq := hopts, instrument_eq := hinstrument, shape_eq := hvector }
      refine ⟨v, rfl, rfl, rfl, rfl, Descriptor.variableLabels_of (Blueprint.descriptor_of hb),
        ⟨rfl, (List.append_nil _).symm, [], List.getElem?_concat_length, leads_nil⟩⟩
  case h_2 => cases h

/-- The labels of a sample are all constant labels and all label values with their names. -/
theorem labels_sample_perm (v : SummaryVector) (child : List String × AgeWindow) :
    (v.sample child).labels.Perm (v.blueprint.descriptor.constLabels ++
      v.blueprint.descriptor.variableLabels.zip child.1) :=
  v.blueprint.labelPairs_perm child.1

/-- Every key of the vector has a label value for each label. -/
theorem length_of_mem_children (hs : v.Sound s) (h : v.Represents s t) {vector : MetricVector}
    (hvector : t.vectors[v.metric.id]? = some vector) :
    ∀ c ∈ vector.children, c.1.length = v.arity := by
  obtain ⟨children, hchildren, hleads⟩ := h.leads
  obtain rfl := Option.some.inj (hchildren.symm.trans hvector)
  intro c hc
  obtain ⟨k, hk, -⟩ := (hleads.mem_iff c.1 c.2).mp hc
  obtain ⟨w, hw⟩ := hs.made_of_current c.1 k hk
  exact hs.length_eq (c.1, w) (List.mem_of_getElem? hw)

/-- With a wrong number of label values a call through the vector halts if it is strict, and is
refused if it is not; nothing is changed. -/
theorem useMetric_of_miscounted (h : v.Represents s t) (hlength : values.length ≠ v.arity)
    {session : Session} (ht : session.telemetry = t) (call : Call) (x : Number)
    (xs : List Number) :
    session.useMetric v.metric call x xs values true = (.halted, session) ∧
      session.useMetric v.metric call x xs values false =
        (.refusal (.cardinality v.arity values.length), session) := by
  obtain ⟨children, hvector, -⟩ := h.leads
  have hchild := child_of_miscounted hvector hlength
  rw [← ht] at hchild
  simp only [Session.useMetric, hchild, ↓reduceIte, Bool.false_eq_true, and_self]

/-- **A vector of summaries refines a map from label values to summaries.**  Whatever is done with a
vector from its making on, its answers are those of a run of the map, and the telemetry goes on
representing the map: all keys of the vector have a value for each label, and so has what is
collected.  A use leaves the children of all other label values alone, and what has been dropped is
never reached through the vector again.  Label values of a wrong number change nothing, and halt a
strict call.  Only when the clock is within a span of the end of its range can a use overrun it. -/
theorem refines_map {o : SummaryOpts} {names : List String} {m : Metric}
    (hmake : t.make { opts := .summary o, labels := some names } = .ok (m, t')) :
    ∃ v : SummaryVector, v.metric = m ∧ v.opts = o ∧ v.earlier = t.series ∧
      v.arity = (o.common.variableLabels ++ names).length ∧
      ∀ uses : List Use, let run := v.performAll uses t'
        ∃ s, v.Run (empty t'.now) uses run.1 s ∧ v.Represents s run.2 ∧ v.Sound s ∧
          (∀ vector, run.2.vectors[m.id]? = some vector →
            ∀ c ∈ vector.children, c.1.length = v.arity) ∧
          (∀ c ∈ s.made, (v.sample c).labels.Perm
              (m.descriptor.constLabels ++ m.descriptor.variableLabels.zip c.1) ∧
            (v.sample c).labels.length = m.descriptor.constLabels.length + v.arity) ∧
          (∀ use, let result := v.perform use run.2
            ∃ s', v.Step s use result.1 s' ∧ v.Represents s' result.2 ∧ Spares s use s' ∧
              (s.now + o.window.span < Duration.clockLimit → result.1 ≠ .overrun)) ∧
          ∀ session : Session, session.telemetry = run.2 → ∀ values call x xs,
            values.length ≠ v.arity →
              session.useMetric m call x xs values true = (.halted, session) ∧
              session.useMetric m call x xs values false =
                (.refusal (.cardinality v.arity values.length), session) := by
  obtain ⟨v, rfl, rfl, hearlier, hdescriptor, hlabels, h⟩ := exists_of_make hmake
  have harity : v.arity = v.metric.descriptor.variableLabels.length := by
    rw [← hdescriptor]
    rfl
  refine ⟨v, rfl, rfl, hearlier, by rw [harity, hlabels], fun uses => ?_⟩
  have hempty := sound_empty v t'.now
  obtain ⟨s, hrun, hs⟩ := performAll_refines hempty h uses
  have hsound := hrun.sound hempty
  refine ⟨s, hrun, hs, hsound, fun vector => length_of_mem_children hsound hs, fun c hc => ?_,
    fun use => ?_, fun session ht values call x xs hlength =>
      useMetric_of_miscounted hs hlength ht call x xs⟩
  · have hperm := v.labels_sample_perm c
    rw [hdescriptor] at hperm
    refine ⟨hperm, ?_⟩
    rw [hperm.length_eq, List.length_append, List.length_zip, ← harity, hsound.length_eq c hc,
      Nat.min_self]
  · obtain ⟨s', hstep, hs'⟩ := perform_refines hsound hs use
    refine ⟨s', hstep, hs', hstep.spares hsound, fun hin hoverrun => ?_⟩
    rw [hoverrun] at hstep
    exact absurd (hstep.overruns hsound) (Nat.not_le_of_lt hin)

/-- Summaries by route, whose windows are as long as the given span. -/
def byRoute (maxAge : Nat) : Request where
  opts := .summary { common := { name := "latency", help := "h" }, maxAge, ageBuckets := 1 }
  labels := some ["route"]

theorem refines_map_by_route :
    ∃ m t, Telemetry.make (byRoute 10) {} = .ok (m, t) ∧
      ∃ v : SummaryVector, v.metric = m ∧ v.arity = 1 ∧
        ∀ uses, ∃ s, v.Run (empty t.now) uses (v.performAll uses t).1 s := by
  have hmake : Telemetry.make (byRoute 10) {} = .ok (_, _) := rfl
  refine ⟨_, _, hmake, ?_⟩
  obtain ⟨v, hmetric, -, -, harity, hruns⟩ := refines_map hmake
  refine ⟨v, hmetric, harity, fun uses => ?_⟩
  obtain ⟨s, hrun, -⟩ := hruns uses
  exact ⟨s, hrun⟩

/-- A vector of summaries with the longest window there is can be made, but none of its children. -/
theorem child_overruns_longest_window :
    ∃ m t, Telemetry.make (byRoute (Duration.of 0xFFFFFFFFFFFFFFFF 0)) {} = .ok (m, t) ∧
      t.child m ["index"] = .error .clockRange :=
  ⟨_, _, rfl, rfl⟩

end SummaryVector

end MetricBundle
