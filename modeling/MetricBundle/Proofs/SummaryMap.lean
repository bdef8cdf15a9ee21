import MetricBundle.Proofs.WindowRun
import MetricBundle.Telemetry
import Mathlib.Data.List.Lex
import Mathlib.Data.String.Basic
import Mathlib.Logic.Function.Basic

/-!
# A map from label values to summaries

What a vector of summaries is for: a finite map from tuples of label values to summaries, each with
an age window of its own.  A `SummaryMap` keeps the map apart from the children to which it leads.
Children are numbered in the order in which they are made and are never given up, so that a handle
taken earlier can still be used.

`SummaryVector.Step` says of each use of the vector what it answers and what it leaves behind, and
`SummaryVector.Run` of one use after the other.  The map leads from label values to a child made for
them (`Sound`).  A use that is about some label values leaves the children of all others alone
(`Step.child?_eq`).  And a child to which the map has ceased to lead is never reached through it
again (`Step.stale`).
-/

namespace MetricBundle

/-- The children of a vector and the map that leads to those it has at the moment. -/
structure SummaryMap where
  /-- The reading of the clock. -/
  now : Nat
  /-- Every child that was made, in order, with its label values. -/
  made : List (List String × AgeWindow)
  /-- The number of the child for label values. -/
  current : List String → Option Nat

namespace SummaryMap

/-- No child has been made. -/
def empty (now : Nat) : SummaryMap := { now, made := [], current := fun _ => none }

/-- The window of the child for label values. -/
def child? (s : SummaryMap) (values : List String) : Option AgeWindow :=
  (s.current values).bind fun k => s.made[k]?.map Prod.snd

/-- Puts something in the place of a child. -/
def put (s : SummaryMap) (k : Nat) (child : List String × AgeWindow) : SummaryMap :=
  { s with made := s.made.set k child }

/-- Makes a child for label values and leads to it. -/
def insert (s : SummaryMap) (values : List String) (w : AgeWindow) : SummaryMap :=
  { s with
    made := s.made ++ [(values, w)]
    current := Function.update s.current values (some s.made.length) }

/-- Leads to no child for label values. -/
def erase (s : SummaryMap) (values : List String) : SummaryMap :=
  { s with current := Function.update s.current values none }

/-- Leads to no child at all. -/
def clear (s : SummaryMap) : SummaryMap := { s with current := fun _ => none }

/-- The map leads to the child. -/
def Present (s : SummaryMap) (k : Nat) : Prop := ∃ values, s.current values = some k

/-- The child was made, but the map does not lead to it any more. -/
def Stale (s : SummaryMap) (k : Nat) : Prop := k < s.made.length ∧ ¬s.Present k

/-- The windows of certain children have changed in a certain way, and all else has stayed. -/
structure Turned (which : Nat → Prop) (turn : AgeWindow → AgeWindow → Prop) (s s' : SummaryMap) :
    Prop where
  now_eq : s'.now = s.now
  current_eq : s'.current = s.current
  length_eq : s'.made.length = s.made.length
  turned : ∀ k values w, which k → s.made[k]? = some (values, w) →
    ∃ w', turn w w' ∧ s'.made[k]? = some (values, w')
  kept : ∀ k, ¬which k → s'.made[k]? = s.made[k]?

/-- The window has been brought up to the present. -/
def UpToDate (now : Nat) (w w' : AgeWindow) : Prop := w.rotate now = .ok w'

/-- The window has been left as it was, or bringing it up to the present was at least begun. -/
def Interrupted (now : Nat) (w w' : AgeWindow) : Prop :=
  w' = w ∨ w.rotate now = .ok w' ∨ w.rotate now = .error w'

/-- The window of the child cannot be brought up to the present. -/
def Overruns (s : SummaryMap) (k : Nat) : Prop :=
  ∃ values w w', s.made[k]? = some (values, w) ∧ w.rotate s.now = .error w'

end SummaryMap

/-- A vector of summaries, among the series that were there before any of its children. -/
structure SummaryVector where
  /-- The handle on the vector. -/
  metric : Metric
  blueprint : Blueprint
  opts : SummaryOpts
  /-- The series of other metrics. -/
  earlier : List Series
  opts_eq : blueprint.opts = .summary opts
  instrument_eq : metric.instrument = .summary
  shape_eq : metric.shape = .vector

namespace SummaryVector

open SummaryMap

/-- A use of a vector. -/
inductive Use where
  /-- The child for label values is asked for. -/
  | get (values : List String)
  /-- A sample is observed through the handle on a child. -/
  | observe (k : Nat) (sample : Number)
  | remove (values : List String)
  | reset
  /-- The clock moves on. -/
  | advance (span : Nat)
  | collect
deriving DecidableEq

/-- What a use comes to. -/
inductive Answer where
  /-- A handle on a child. -/
  | handle (m : Metric)
  | done
  | refused (e : MetricError)
  | collected (families : List Family)
  /-- A time is out of the clock's range. -/
  | overrun
deriving DecidableEq

variable (v : SummaryVector)

/-- The number of label values that lead to a child. -/
def arity : Nat := v.blueprint.arity

/-- The handle on a child. -/
def handle (k : Nat) : Metric := { v.metric with shape := .scalar, id := v.earlier.length + k }

/-- What is collected from a child. -/
def sample (child : List String × AgeWindow) : Sample where
  labels := v.blueprint.labelPairs child.1
  reading := .summary (child.2.quantiles v.opts.objectives) child.2.sum child.2.count

def family (samples : List Sample) : Family where
  name := v.metric.descriptor.fqName
  help := v.metric.descriptor.help
  instrument := .summary
  samples := samples

/-- **What a use of the vector answers and leaves behind.** -/
inductive Step : SummaryMap → Use → Answer → SummaryMap → Prop where
  | miscounted {s : SummaryMap} {values : List String} : values.length ≠ v.arity →
      Step s (.get values) (.refused (.cardinality v.arity values.length)) s
  | found {s : SummaryMap} {values : List String} {k : Nat} : values.length = v.arity →
      s.current values = some k → Step s (.get values) (.handle (v.handle k)) s
  /-- A child that is not there is made, with a window that begins now. -/
  | made {s : SummaryMap} {values : List String} : values.length = v.arity →
      s.current values = none → s.now + v.opts.window.span < Duration.clockLimit →
      Step s (.get values) (.handle (v.handle s.made.length))
        (s.insert values (.fresh v.opts.window s.now))
  | unmade {s : SummaryMap} {values : List String} : values.length = v.arity →
      s.current values = none → Duration.clockLimit ≤ s.now + v.opts.window.span →
      Step s (.get values) .overrun s
  | observed {s : SummaryMap} {k : Nat} {x : Number} {values : List String} {w w' : AgeWindow} :
      s.made[k]? = some (values, w) → w.observe s.now x = .ok w' →
      Step s (.observe k x) .done (s.put k (values, w'))
  | unobserved {s : SummaryMap} {k : Nat} {x : Number} {values : List String}
      {w w' : AgeWindow} :
      s.made[k]? = some (values, w) → w.observe s.now x = .error w' →
      Step s (.observe k x) .overrun (s.put k (values, w'))
  /-- There is no such handle. -/
  | unknown {s : SummaryMap} {k : Nat} {x : Number} : s.made[k]? = none →
      Step s (.observe k x) .done s
  | removed {s : SummaryMap} {values : List String} {k : Nat} : s.current values = some k →
      Step s (.remove values) .done (s.erase values)
  | missing {s : SummaryMap} {values : List String} : s.current values = none →
      Step s (.remove values) (.refused (.missingLabelValues values)) s
  | reset {s : SummaryMap} : Step s .reset .done s.clear
  | advanced {s : SummaryMap} {span : Nat} :
      Step s (.advance span) .done { s with now := (s.now + span) % Duration.clockLimit }
  /-- All children that are present are brought up to the present, and listed once each in the
  order of their label values. -/
  | collected {s s' : SummaryMap} {children : List (List String × AgeWindow)} :
      Turned s.Present (UpToDate s.now) s s' →
      (children.map Prod.fst).Pairwise (· < ·) →
      (∀ values w, (values, w) ∈ children ↔ s'.child? values = some w) →
      Step s .collect (.collected (Family.inhabited [v.family (children.map v.sample)])) s'
  /-- The window of some child cannot be brought up to the present; then those of others may or may
  not have been. -/
  | uncollected {s s' : SummaryMap} {k : Nat} : s.Present k → s.Overruns k →
      Turned s.Present (Interrupted s.now) s s' →
      Step s .collect .overrun s'

/-- One use after the other. -/
inductive Run : SummaryMap → List Use → List Answer → SummaryMap → Prop where
  | nil {s : SummaryMap} : Run s [] [] s
  | cons {s s₁ s' : SummaryMap} {use : Use} {uses : List Use} {answer : Answer}
      {answers : List Answer} : v.Step s use answer s₁ → Run s₁ uses answers s' →
      Run s (use :: uses) (answer :: answers) s'

/-! ## What always holds -/

/-- Every child has a label value for each label and a window of the vector's shape, and the map
leads from label values only to a child that was made for them. -/
structure Sound (s : SummaryMap) : Prop where
  length_eq : ∀ c ∈ s.made, c.1.length = v.arity
  shape_eq : ∀ c ∈ s.made, c.2.shape = v.opts.window
  made_of_current : ∀ values k, s.current values = some k → ∃ w, s.made[k]? = some (values, w)

end SummaryVector

namespace SummaryMap

variable {s s' : SummaryMap} {which : Nat → Prop} {turn : AgeWindow → AgeWindow → Prop} {k : Nat}

theorem current_insert_self (s : SummaryMap) (values : List String) (w : AgeWindow) :
    (s.insert values w).current values = some s.made.length :=
  Function.update_self ..

theorem current_insert_of_ne {values other : List String} (h : other ≠ values) (w : AgeWindow) :
    (s.insert values w).current other = s.current other :=
  Function.update_of_ne h ..

theorem current_erase_self (s : SummaryMap) (values : List String) :
    (s.erase values).current values = none :=
  Function.update_self ..

theorem current_erase_of_ne {values other : List String} (h : other ≠ values) :
    (s.erase values).current other = s.current other :=
  Function.update_of_ne h ..

/-- Erasing leaves the map leading where it led, if anywhere. -/
theorem current_of_erase {values other : List String}
    (h : (s.erase values).current other = some k) : other ≠ values ∧ s.current other = some k := by
  by_cases hother : other = values
  · rw [hother, current_erase_self] at h
    cases h
  · rw [current_erase_of_ne hother] at h
    exact ⟨hother, h⟩

/-- Where a child of a turned map comes from. -/
theorem Turned.exists_of_getElem? (h : Turned which turn s s') {values : List String}
    {w' : AgeWindow} (hk : s'.made[k]? = some (values, w')) :
    ∃ w, s.made[k]? = some (values, w) ∧ (w' = w ∨ turn w w') := by
  by_cases hwhich : which k
  · have hlt : k < s.made.length := h.length_eq ▸ (List.getElem?_eq_some_iff.mp hk).1
    obtain ⟨w₁, hturn, hmade⟩ :=
      h.turned k s.made[k].1 s.made[k].2 hwhich (List.getElem?_eq_getElem hlt)
    obtain ⟨rfl, rfl⟩ := Prod.mk.inj (Option.some.inj (hk.symm.trans hmade))
    exact ⟨_, List.getElem?_eq_getElem hlt, .inr hturn⟩
  · exact ⟨w', (h.kept k hwhich).symm.trans hk, .inl rfl⟩

theorem turned_refl (h : ∀ w, turn w w) : Turned which turn s s where
  now_eq := rfl
  current_eq := rfl
  length_eq := rfl
  turned _ _ w _ hw := ⟨w, h w, hw⟩
  kept _ _ := rfl

/-- Putting the window of a child turns just that child. -/
theorem turned_put {values : List String} {w w' : AgeWindow} (hk : s.made[k]? = some (values, w))
    (hturn : turn w w') : Turned (· = k) turn s (s.put k (values, w')) where
  now_eq := rfl
  current_eq := rfl
  length_eq := List.length_set
  turned := by
    rintro j other w₁ rfl hj
    obtain ⟨rfl, rfl⟩ := Prod.mk.inj (Option.some.inj (hk.symm.trans hj))
    exact ⟨w', hturn, List.getElem?_set_self (List.getElem?_eq_some_iff.mp hk).1⟩
  kept j hj := List.getElem?_set_ne (Ne.symm hj)

/-- Turning one child and then others is turning all of them. -/
theorem Turned.cons {s₁ : SummaryMap} {ks : List Nat}
    (hk : k ∉ ks) (h : Turned (· = k) turn s s₁) (h' : Turned (· ∈ ks) turn s₁ s') :
    Turned (· ∈ k :: ks) turn s s' where
  now_eq := h'.now_eq.trans h.now_eq
  current_eq := h'.current_eq.trans h.current_eq
  length_eq := h'.length_eq.trans h.length_eq
  turned j other w hj hmade := by
    rcases List.mem_cons.mp hj with rfl | hj
    · -- the first child is none of the others, which leave it as it is
      obtain ⟨w', hturn, hw'⟩ := h.turned j other w rfl hmade
      exact ⟨w', hturn, (h'.kept j hk).trans hw'⟩
    · have hne : j ≠ k := fun heq => hk (heq ▸ hj)
      exact h'.turned j other w hj ((h.kept j hne).trans hmade)
  kept j hj := by
    obtain ⟨hne, hmem⟩ := not_or.mp (mt List.mem_cons.mpr hj)
    exact (h'.kept j hmem).trans (h.kept j hne)

theorem Turned.imp {which' : Nat → Prop} {turn' : AgeWindow → AgeWindow → Prop}
    (h : Turned which turn s s') (hwhich : ∀ k, which' k ↔ which k)
    (hturn : ∀ w w', turn w w' → turn' w w') : Turned which' turn' s s' where
  now_eq := h.now_eq
  current_eq := h.current_eq
  length_eq := h.length_eq
  turned k values w hk hmade := by
    obtain ⟨w', hw', hmade'⟩ := h.turned k values w ((hwhich k).mp hk) hmade
    exact ⟨w', hturn w w' hw', hmade'⟩
  kept k hk := h.kept k (mt (hwhich k).mpr hk)

theorem Turned.present_iff (h : Turned which turn s s') : s'.Present k ↔ s.Present k := by
  unfold Present
  rw [h.current_eq]

end SummaryMap

namespace SummaryVector

open SummaryMap

variable {v : SummaryVector} {s s' : SummaryMap} {use : Use} {answer : Answer} {k : Nat}
  {values : List String} {w : AgeWindow}

theorem Sound.lt_of_present (hs : v.Sound s) (h : s.Present k) : k < s.made.length := by
  obtain ⟨values, hvalues⟩ := h
  obtain ⟨w, hw⟩ := hs.made_of_current values k hvalues
  exact (List.getElem?_eq_some_iff.mp hw).1

/-- No two tuples of label values lead to the same child. -/
theorem Sound.values_eq (hs : v.Sound s) {other : List String} (h : s.current values = some k)
    (h' : s.current other = some k) : values = other := by
  obtain ⟨w, hw⟩ := hs.made_of_current values k h
  obtain ⟨w', hw'⟩ := hs.made_of_current other k h'
  exact (Prod.mk.inj (Option.some.inj (hw.symm.trans hw'))).1

theorem Sound.child?_eq_some_iff (hs : v.Sound s) :
    s.child? values = some w ↔ ∃ k, s.current values = some k ∧ s.made[k]? = some (values, w) := by
  simp only [child?, Option.bind_eq_some_iff, Option.map_eq_some_iff]
  constructor
  · rintro ⟨k, hk, ⟨values', w'⟩, hmade, rfl⟩
    obtain ⟨w, hw⟩ := hs.made_of_current values k hk
    obtain ⟨rfl, rfl⟩ := Prod.mk.inj (Option.some.inj (hw.symm.trans hmade))
    exact ⟨k, hk, hw⟩
  · rintro ⟨k, hk, hmade⟩
    exact ⟨k, hk, (values, w), hmade, rfl⟩

theorem sound_empty (v : SummaryVector) (now : Nat) : v.Sound (empty now) where
  length_eq _ hc := absurd hc List.not_mem_nil
  shape_eq _ hc := absurd hc List.not_mem_nil
  made_of_current _ _ h := nomatch h

theorem sound_insert (hs : v.Sound s) (hlength : values.length = v.arity)
    (hshape : w.shape = v.opts.window) : v.Sound (s.insert values w) where
  length_eq c hc := by
    rcases List.mem_append.mp hc with hc | hc
    · exact hs.length_eq c hc
    · rw [List.mem_singleton.mp hc]
      exact hlength
  shape_eq c hc := by
    rcases List.mem_append.mp hc with hc | hc
    · exact hs.shape_eq c hc
    · rw [List.mem_singleton.mp hc]
      exact hshape
  made_of_current other k hk := by
    by_cases hother : other = values
    · rw [hother, current_insert_self] at hk
      obtain rfl := Option.some.inj hk
      rw [hother]
      exact ⟨w, List.getElem?_concat_length⟩
    · rw [current_insert_of_ne hother] at hk
      obtain ⟨w', hw'⟩ := hs.made_of_current other k hk
      have hlt := (List.getElem?_eq_some_iff.mp hw').1
      exact ⟨w', (List.getElem?_append_left hlt).trans hw'⟩

/-- Another window of the same shape may take the place of a child's. -/
theorem sound_put (hs : v.Sound s) {w' : AgeWindow} (hk : s.made[k]? = some (values, w))
    (hshape : w'.shape = w.shape) : v.Sound (s.put k (values, w')) where
  length_eq c hc := by
    rcases List.mem_or_eq_of_mem_set hc with hc | rfl
    · exact hs.length_eq c hc
    · exact hs.length_eq (values, w) (List.mem_of_getElem? hk)
  shape_eq c hc := by
    rcases List.mem_or_eq_of_mem_set hc with hc | rfl
    · exact hs.shape_eq c hc
    · exact hshape.trans (hs.shape_eq (values, w) (List.mem_of_getElem? hk))
  made_of_current other j hj := by
    obtain ⟨w₁, hw₁⟩ := hs.made_of_current other j hj
    by_cases hjk : k = j
    · subst hjk
      obtain ⟨rfl, rfl⟩ := Prod.mk.inj (Option.some.inj (hk.symm.trans hw₁))
      exact ⟨w', List.getElem?_set_self (List.getElem?_eq_some_iff.mp hk).1⟩
    · exact ⟨w₁, (List.getElem?_set_ne hjk).trans hw₁⟩

/-- Leading to fewer children does no harm. -/
theorem Sound.of_current_le (hs : v.Sound s) (hmade : s'.made = s.made)
    (h : ∀ values k, s'.current values = some k → s.current values = some k) : v.Sound s' where
  length_eq := hmade ▸ hs.length_eq
  shape_eq := hmade ▸ hs.shape_eq
  made_of_current values k hk := hmade ▸ hs.made_of_current values k (h values k hk)

theorem sound_turned {turn : AgeWindow → AgeWindow → Prop} (hs : v.Sound s)
    (ht : Turned s.Present turn s s') (hturn : ∀ w w', turn w w' → w'.shape = w.shape) :
    v.Sound s' where
  length_eq c hc := by
    obtain ⟨k, hk⟩ := List.mem_iff_getElem?.mp hc
    obtain ⟨w, hw, -⟩ := ht.exists_of_getElem? hk
    exact hs.length_eq (c.1, w) (List.mem_of_getElem? hw)
  shape_eq c hc := by
    obtain ⟨k, hk⟩ := List.mem_iff_getElem?.mp hc
    obtain ⟨w, hw, hc⟩ := ht.exists_of_getElem? hk
    have hshape := hs.shape_eq (c.1, w) (List.mem_of_getElem? hw)
    rcases hc with hc | hc
    · rw [hc, hshape]
    · rw [hturn w c.2 hc, hshape]
  made_of_current values k hk := by
    rw [ht.current_eq] at hk
    obtain ⟨w, hw⟩ := hs.made_of_current values k hk
    obtain ⟨w', -, hw'⟩ := ht.turned k values w ⟨values, hk⟩ hw
    exact ⟨w', hw'⟩

/-- Every use keeps what is sound. -/
theorem Step.sound (hs : v.Sound s) (h : v.Step s use answer s') : v.Sound s' := by
  cases h with
  | miscounted | found | unmade | unknown | missing => exact hs
  | made hlength hnone hin => exact sound_insert hs hlength rfl
  | observed hk hobserve =>
    obtain ⟨r, hr, rfl⟩ := AgeWindow.observe_eq_ok hobserve
    exact sound_put hs hk ((AgeWindow.shape_record _ r).trans (AgeWindow.shape_rotate hr))
  | unobserved hk hobserve => exact sound_put hs hk (AgeWindow.shape_of_observe_error hobserve)
  | removed hk => exact hs.of_current_le rfl fun _ _ h => (current_of_erase h).2
  | reset => exact hs.of_current_le rfl fun _ _ h => nomatch h
  | advanced => exact hs.of_current_le rfl fun _ _ h => h
  | collected ht => exact sound_turned hs ht fun _ _ => AgeWindow.shape_rotate
  | uncollected _ _ ht =>
    refine sound_turned hs ht fun w w' hturn => ?_
    rcases hturn with rfl | hok | herror
    · rfl
    · exact AgeWindow.shape_rotate hok
    · exact AgeWindow.shape_of_rotate_error herror

/-! ## What a use leaves alone -/

/-- The use is about the child that the map has for the label values. -/
def Use.About (s : SummaryMap) (values : List String) : Use → Prop
  | .get key | .remove key => key = values
  | .observe k _ => s.current values = some k
  | .reset | .collect => True
  | .advance _ => False

theorem child?_congr (hcurrent : s'.current values = s.current values)
    (hmade : ∀ k, s.current values = some k → s'.made[k]? = s.made[k]?) :
    s'.child? values = s.child? values := by
  rw [child?, child?, hcurrent]
  cases hk : s.current values with
  | none => rfl
  | some k => rw [Option.bind_some, Option.bind_some, hmade k hk]

/-- **A use leaves alone the children of all label values that it is not about.** -/
theorem Step.child?_eq (hs : v.Sound s) (h : v.Step s use answer s')
    (hother : ¬use.About s values) : s'.child? values = s.child? values := by
  cases h with
  | miscounted | found | unmade | unknown | missing => rfl
  | @made key =>
    refine child?_congr (current_insert_of_ne (Ne.symm hother) _) fun k hk => ?_
    exact List.getElem?_append_left (hs.lt_of_present ⟨values, hk⟩)
  | observed | unobserved =>
    refine child?_congr rfl fun j hj => List.getElem?_set_ne fun hkj => ?_
    exact hother (hkj ▸ hj)
  | removed => exact child?_congr (current_erase_of_ne (Ne.symm hother)) fun _ _ => rfl
  | reset | collected | uncollected => exact absurd trivial hother
  | advanced => rfl

/-- **A stale child stays stale**, so that no observation through its handle is about any label
values. -/
theorem Step.stale (h : v.Step s use answer s') (hk : s.Stale k) : s'.Stale k := by
  obtain ⟨hlt, hstale⟩ := hk
  cases h with
  | miscounted | found | unmade | unknown | missing | advanced => exact ⟨hlt, hstale⟩
  | @made key =>
    refine ⟨?_, ?_⟩
    · show k < (s.made ++ [_]).length
      rw [List.length_append]
      omega
    · -- the new child has a number of its own
      rintro ⟨other, hother⟩
      by_cases heq : other = key
      · rw [heq, current_insert_self] at hother
        exact Nat.lt_irrefl k (Option.some.inj hother ▸ hlt)
      · rw [current_insert_of_ne heq] at hother
        exact hstale ⟨other, hother⟩
  | observed | unobserved => exact ⟨by rwa [put, List.length_set], hstale⟩
  | removed => exact ⟨hlt, fun ⟨other, hother⟩ => hstale ⟨other, (current_of_erase hother).2⟩⟩
  | reset => exact ⟨hlt, fun ⟨_, hother⟩ => nomatch hother⟩
  | collected ht => exact ⟨ht.length_eq ▸ hlt, fun hp => hstale (ht.present_iff.mp hp)⟩
  | uncollected _ _ ht => exact ⟨ht.length_eq ▸ hlt, fun hp => hstale (ht.present_iff.mp hp)⟩

theorem not_about_of_stale (hk : s.Stale k) (x : Number) (values : List String) :
    ¬(Use.observe k x).About s values :=
  fun h => hk.2 ⟨values, h⟩

/-- A child becomes stale when it is removed. -/
theorem stale_of_erase (hs : v.Sound s) (hk : s.current values = some k) :
    (s.erase values).Stale k := by
  refine ⟨hs.lt_of_present ⟨values, hk⟩, fun ⟨other, hother⟩ => ?_⟩
  obtain ⟨hne, hother⟩ := current_of_erase hother
  exact hne (hs.values_eq hother hk)

theorem stale_of_clear (hk : k < s.made.length) : s.clear.Stale k :=
  ⟨hk, fun ⟨_, h⟩ => nomatch h⟩

/-- What a use leaves alone. -/
structure Spares (s : SummaryMap) (use : Use) (s' : SummaryMap) : Prop where
  others : ∀ values, ¬use.About s values → s'.child? values = s.child? values
  stale : ∀ k, s.Stale k → s'.Stale k
  /-- A child that has been dropped is stale. -/
  dropped : ∀ values k, use = .remove values ∨ use = .reset → s.current values = some k → s'.Stale k
  /-- What is observed through the handle on a stale child reaches no other one. -/
  unreached : ∀ k x, use = .observe k x → s.Stale k →
    ∀ values, s'.child? values = s.child? values

theorem Step.spares (hs : v.Sound s) (h : v.Step s use answer s') : Spares s use s' where
  others _ hother := h.child?_eq hs hother
  stale _ hk := h.stale hk
  dropped values k huse hk := by
    rcases huse with rfl | rfl
    · cases h with
      | removed => exact stale_of_erase hs hk
      | missing hnone =>
        rw [hk] at hnone
        cases hnone
    · cases h with
      | reset => exact stale_of_clear (hs.lt_of_present ⟨values, hk⟩)
  unreached k x huse hk values := by
    rw [huse] at h
    exact h.child?_eq hs (not_about_of_stale hk x values)

/-! ## The range of the clock -/

/-- Only close to the end of its range can the clock be overrun. -/
theorem Step.overruns (hs : v.Sound s) (h : v.Step s use .overrun s') :
    Duration.clockLimit ≤ s.now + v.opts.window.span := by
  by_contra hin
  -- all windows have the vector's span, so they can be brought up to the present
  have hrotate {k : Nat} {values : List String} {w : AgeWindow}
      (hk : s.made[k]? = some (values, w)) : ∃ r, w.rotate s.now = .ok r := by
    refine AgeWindow.rotate_isOk ?_
    rw [hs.shape_eq (values, w) (List.mem_of_getElem? hk)]
    omega
  cases h with
  | unmade _ _ hout => exact hin hout
  | unobserved hk hobserve =>
    obtain ⟨r, hr⟩ := hrotate hk
    rw [AgeWindow.observe, hr] at hobserve
    cases hobserve
  | uncollected _ hoverruns =>
    obtain ⟨_, _, _, hk, herror⟩ := hoverruns
    obtain ⟨r, hr⟩ := hrotate hk
    rw [hr] at herror
    cases herror

/-! ## One use after the other -/

theorem Run.sound {uses : List Use} {answers : List Answer} (hs : v.Sound s)
    (h : v.Run s uses answers s') : v.Sound s' := by
  induction h with
  | nil => exact hs
  | cons hstep _ ih => exact ih (hstep.sound hs)

end SummaryVector

end MetricBundle
