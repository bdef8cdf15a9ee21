import MetricBundle.Proofs.TelemetryRun
import MetricBundle.Proofs.WindowCoverage

/-!
# The range of the clock

The clock is finite, and the end of a span is computed ahead of the present.  Options of a summary
are accepted however long their window is, so the end can leave the range of the clock.  This module
tells when.

The ends of the spans depend on the readings of the clock and on nothing else.  A window whose span
has ended is given the next end after the present (`WindowShape.renewed`), which is at most one span
ahead.  Ends never go back, so a run overflows just if the last of them is out of range
(`AgeWindow.after?_eq_none_iff`).  A handle meets the overflow when the series is started, and
later when it changes or collects a series whose window is overrun (`Telemetry.Overruns`).
-/

namespace MetricBundle

open Duration

/-! ## The ends of the spans -/

namespace WindowShape

/-- When the span ends that is under way at the given time, of a window whose oldest stream is to be
emptied at the given expiry.  One span follows the other, up to a break as long as the window; after
it a span begins anew. -/
def renewed (shape : WindowShape) (expiry now : Nat) : Nat :=
  if now < expiry then expiry
  else if shape.maxAge ≤ now - expiry then now + shape.span
  else expiry + ((now - expiry) / shape.span + 1) * shape.span

/-- When the span ends that is under way after readings of the clock. -/
def lastEnd (shape : WindowShape) (expiry : Nat) (times : List Nat) : Nat :=
  times.foldl shape.renewed expiry

variable (shape : WindowShape) {expiry now : Nat}

theorem renewed_of_lt (h : now < expiry) : shape.renewed expiry now = expiry := if_pos h

/-- Spans that follow one another up to the present end at most one span after it. -/
theorem following_span (d : Nat) :
    d < (d / shape.span + 1) * shape.span ∧ (d / shape.span + 1) * shape.span ≤ d + shape.span := by
  have hdiv := Nat.div_add_mod d shape.span
  have hmod := Nat.mod_lt d shape.span_pos
  rw [Nat.add_mul, Nat.one_mul, Nat.mul_comm]
  omega

theorem lt_renewed : now < shape.renewed expiry now := by
  have hspan := shape.span_pos
  have hfollowing := shape.following_span (now - expiry)
  unfold renewed
  split
  · assumption
  · split <;> omega

theorem le_renewed : expiry ≤ shape.renewed expiry now := by
  unfold renewed
  split
  · exact Nat.le_refl expiry
  · split <;> omega

theorem renewed_le (h : expiry ≤ now + shape.span) :
    shape.renewed expiry now ≤ now + shape.span := by
  have hfollowing := shape.following_span (now - expiry)
  unfold renewed
  split
  · exact h
  · split <;> omega

theorem le_lastEnd (times : List Nat) : expiry ≤ shape.lastEnd expiry times := by
  induction times generalizing expiry with
  | nil => exact Nat.le_refl expiry
  | cons now times ih => exact Nat.le_trans shape.le_renewed ih

/-- The span that is under way on a clock that never went back ends after the last reading, and at
most one span after it. -/
theorem lastEnd_bounds {times : List Nat} (hf : AgeWindow.Forward (now :: times))
    (hlt : now < expiry) (hle : expiry ≤ now + shape.span) :
    times.getLastD now < shape.lastEnd expiry times ∧
      shape.lastEnd expiry times ≤ times.getLastD now + shape.span := by
  induction times generalizing now expiry with
  | nil => exact ⟨hlt, hle⟩
  | cons later times ih =>
    obtain ⟨hlater, hf⟩ := List.pairwise_cons.mp hf
    have hstep : now ≤ later := hlater later List.mem_cons_self
    rw [List.getLastD_cons]
    exact ih hf shape.lt_renewed (shape.renewed_le (by omega))

end WindowShape

/-! ## Windows -/

namespace AgeWindow

/-- The span of the window has ended, and the next end is out of the range of the clock. -/
def Overruns (w : AgeWindow) (now : Nat) : Prop :=
  w.expiry ≤ now ∧ clockLimit ≤ w.shape.renewed w.expiry now

section Rotate

variable {now : Nat} {w : AgeWindow}

/-- Turning goes through the ends of the spans up to the first one that is ahead. -/
theorem turnUntil_cases (hle : w.expiry ≤ now) :
    let last := w.expiry + ((now - w.expiry) / w.shape.span + 1) * w.shape.span
    (last < clockLimit → ∃ w', turnUntil now w = .ok w' ∧ w'.expiry = last) ∧
      (clockLimit ≤ last → ∃ w', turnUntil now w = .error w') := by
  fun_induction turnUntil now w with
  | case1 w hlt => omega
  | case2 w hnlt hin ih =>
    intro last
    by_cases hnext : w.expiry + w.shape.span ≤ now
    · -- one span less is left after the turn
      have hdiv : (now - w.expiry) / w.shape.span =
          (now - (w.expiry + w.shape.span)) / w.shape.span + 1 := by
        rw [Nat.div_eq_sub_div w.shape.span_pos (by omega), Nat.sub_sub]
      have hlast : last = w.expiry + w.shape.span +
          ((now - (w.expiry + w.shape.span)) / w.shape.span + 1) * w.shape.span := by
        simp only [last, hdiv]
        rw [Nat.add_mul _ 1, Nat.one_mul]
        omega
      rw [hlast]
      exact ih hnext
    · have hdiv : (now - w.expiry) / w.shape.span = 0 := Nat.div_eq_of_lt (by omega)
      have hlast : last = w.expiry + w.shape.span := by
        simp only [last, hdiv, Nat.zero_add, Nat.one_mul]
      rw [hlast]
      refine ⟨fun _ => ?_, fun hout => by omega⟩
      unfold turnUntil
      rw [if_pos (by simp only; omega)]
      exact ⟨_, rfl, rfl⟩
  | case3 w hnlt hout =>
    intro last
    have hlast : w.expiry + w.shape.span ≤ last :=
      Nat.add_le_add_left (Nat.le_mul_of_pos_left _ (Nat.succ_pos _)) _
    exact ⟨fun hin => by omega, fun _ => ⟨_, rfl⟩⟩

/-- A window whose span has ended is given the next end, if that is in range. -/
theorem rotate_cases (hle : w.expiry ≤ now) :
    let next := w.shape.renewed w.expiry now
    (next < clockLimit → ∃ w', w.rotate now = .ok w' ∧ w'.expiry = next) ∧
      (clockLimit ≤ next → ∃ w', w.rotate now = .error w') := by
  have hlt : ¬now < w.expiry := by omega
  unfold rotate WindowShape.renewed
  rw [if_neg hlt, if_neg hlt]
  by_cases hbreak : w.shape.maxAge ≤ now - w.expiry
  · rw [if_pos hbreak, if_pos hbreak, expireAt]
    refine ⟨fun hin => ?_, fun hout => ?_⟩
    · rw [if_pos hin]
      exact ⟨_, rfl, rfl⟩
    · rw [if_neg (by omega)]
      exact ⟨_, rfl⟩
  · rw [if_neg hbreak, if_neg hbreak]
    exact turnUntil_cases hle

theorem rotate_of_not_overruns (h : ¬w.Overruns now) :
    ∃ w', w.rotate now = .ok w' ∧ w'.expiry = w.shape.renewed w.expiry now := by
  by_cases hlt : now < w.expiry
  · exact ⟨w, if_pos hlt, (w.shape.renewed_of_lt hlt).symm⟩
  · have hle : w.expiry ≤ now := by omega
    refine (rotate_cases hle).1 ?_
    by_contra hout
    exact h ⟨hle, by omega⟩

/-- A window cannot be brought up to the present just if it is overrun. -/
theorem rotate_eq_error_iff : (∃ w', w.rotate now = .error w') ↔ w.Overruns now := by
  constructor
  · rintro ⟨w', herror⟩
    by_contra h
    obtain ⟨r, hr, -⟩ := rotate_of_not_overruns h
    rw [hr] at herror
    cases herror
  · exact fun h => (rotate_cases h.1).2 h.2

theorem perform_of_not_overruns (call : Call) (h : ¬w.Overruns now) :
    ∃ w', w.perform now call = .ok w' ∧ w'.expiry = w.shape.renewed w.expiry now := by
  obtain ⟨r, hr, hexpiry⟩ := rotate_of_not_overruns h
  cases call with
  | observe x => exact ⟨r.record x, by simp only [perform, observe, hr, Except.map], hexpiry⟩
  | report => exact ⟨r, hr, hexpiry⟩

theorem perform_eq_error_iff (call : Call) :
    (∃ w', w.perform now call = .error w') ↔ w.Overruns now := by
  rw [← rotate_eq_error_iff]
  cases call with
  | observe x =>
    simp only [perform, observe]
    cases w.rotate now with
    | ok r => simp [Except.map]
    | error r => simp [Except.map]
  | report => exact Iff.rfl

/-- A window that was in range so far is overrun just if the next end is out of range. -/
theorem overruns_iff (hin : w.expiry < clockLimit) :
    w.Overruns now ↔ clockLimit ≤ w.shape.renewed w.expiry now := by
  constructor
  · exact fun h => h.2
  · intro hout
    refine ⟨?_, hout⟩
    by_contra hlt
    rw [w.shape.renewed_of_lt (by omega)] at hout
    omega

end Rotate

/-! ## Runs -/

/-- Calls all succeed just if the last end is in range, and then it is the window's own. -/
theorem performAll_cases (calls : List (Nat × Call)) {w : AgeWindow}
    (hin : w.expiry < clockLimit) :
    let last := w.shape.lastEnd w.expiry (calls.map Prod.fst)
    (last < clockLimit → ∃ w', performAll calls w = .ok w' ∧ w'.expiry = last) ∧
      (clockLimit ≤ last → ∃ w', performAll calls w = .error w') := by
  induction calls generalizing w with
  | nil => exact ⟨fun _ => ⟨w, rfl, rfl⟩, fun hout => absurd hin (Nat.not_lt.mpr hout)⟩
  | cons c calls ih =>
    obtain ⟨now, call⟩ := c
    intro last
    have hle : w.shape.renewed w.expiry now ≤ last := w.shape.le_lastEnd _
    by_cases hcall : w.Overruns now
    · -- ends never go back, so the last one is out of range too
      obtain ⟨w', herror⟩ := (perform_eq_error_iff call).mpr hcall
      refine ⟨fun hlast => ?_, fun _ => ⟨w', by simp only [performAll, herror]⟩⟩
      have hout := hcall.2
      omega
    · obtain ⟨w', hok, hexpiry⟩ := perform_of_not_overruns call hcall
      have hrest := ih (w := w') (by
        rw [hexpiry]
        rw [overruns_iff hin] at hcall
        omega)
      rw [shape_perform hok, hexpiry] at hrest
      simp only [performAll, hok]
      exact hrest

/-- **A run overflows just if the last end is out of range**; otherwise the oldest stream is to be
emptied at that end. -/
theorem after?_cases (shape : WindowShape) (created : Nat) (calls : List (Nat × Call)) :
    let last := shape.lastEnd (created + shape.span) (calls.map Prod.fst)
    (last < clockLimit → ∃ w, after? shape created calls = some w ∧ w.expiry = last) ∧
      (clockLimit ≤ last → after? shape created calls = none) := by
  intro last
  have hle : created + shape.span ≤ last := shape.le_lastEnd _
  by_cases hstart : created + shape.span < clockLimit
  · have hfresh : start? shape created = some (fresh shape created) := if_pos hstart
    have hcalls := performAll_cases calls (w := fresh shape created) hstart
    refine ⟨fun hin => ?_, fun hout => ?_⟩
    · obtain ⟨w, hw, hexpiry⟩ := hcalls.1 hin
      exact ⟨w, by simp only [after?, hfresh, hw, Except.toOption], hexpiry⟩
    · obtain ⟨w, hw⟩ := hcalls.2 hout
      simp only [after?, hfresh, hw, Except.toOption]
  · have hnone : start? shape created = none := if_neg hstart
    exact ⟨fun hin => by omega, fun _ => by simp only [after?, hnone]⟩

theorem after?_eq_none_iff {shape : WindowShape} {created : Nat} {calls : List (Nat × Call)} :
    after? shape created calls = none ↔
      clockLimit ≤ shape.lastEnd (created + shape.span) (calls.map Prod.fst) := by
  obtain ⟨hin, hout⟩ := after?_cases shape created calls
  refine ⟨fun hnone => ?_, hout⟩
  by_contra hlt
  obtain ⟨w, hw, -⟩ := hin (by omega)
  rw [hnone] at hw
  cases hw

end AgeWindow

/-! ## Series -/

namespace Blueprint

variable {b : Blueprint} {o : SummaryOpts} {now : Nat}

theorem newMeter_eq_clockRange_iff (ho : b.opts = .summary o) :
    b.newMeter now = .error .clockRange ↔ clockLimit ≤ now + o.window.span := by
  simp only [newMeter, ho, AgeWindow.start?]
  by_cases hin : now + o.window.span < clockLimit
  · simp [hin]
  · simp [hin, Nat.le_of_not_lt hin]

/-- The series of a summary with the right number of label values cannot be started just if the
first span leaves the range of the clock. -/
theorem newSeries_eq_clockRange_iff (ho : b.opts = .summary o) (values : List String) :
    b.newSeries values now = .error .clockRange ↔
      values.length = b.arity ∧ clockLimit ≤ now + o.window.span := by
  have hinstrument : b.instrument = .summary := by rw [instrument, ho]; rfl
  have hlabels : b.labelDefect = none := if_neg fun h => by simp [hinstrument] at h
  rw [← newMeter_eq_clockRange_iff ho]
  unfold newSeries arityDefect
  by_cases hlength : values.length = b.arity
  · simp only [hlabels, hlength, true_and]
    cases b.newMeter now <;> simp [Except.map]
  · simp [hlabels, hlength]

theorem onlySeries_eq_clockRange_iff (ho : b.opts = .summary o) :
    b.onlySeries now = .error .clockRange ↔
      b.arity = 0 ∧ clockLimit ≤ now + o.window.span := by
  have hinstrument : b.instrument = .summary := by rw [instrument, ho]; rfl
  unfold onlySeries
  by_cases harity : b.arity = 0
  · rw [if_neg fun h => h.2 harity, newSeries_eq_clockRange_iff ho]
    simp [harity]
  · rw [if_pos ⟨hinstrument, harity⟩]
    simp [harity]

end Blueprint

namespace Meter

/-- The meter has a window that is overrun. -/
def Overruns (now : Nat) : Meter → Prop
  | .window _ w => w.Overruns now
  | _ => False

variable {now : Nat} {m : Meter}

theorem rotate_eq_error_iff : (∃ m', m.rotate now = .error m') ↔ m.Overruns now := by
  cases m with
  | value x | buckets counts => simp [rotate, onWindow, Overruns]
  | window objectives w =>
    simp only [rotate, onWindow, Overruns, ← AgeWindow.rotate_eq_error_iff]
    cases w.rotate now <;> simp

theorem apply_observe_eq_error_iff (x : Number) :
    (∃ m', m.apply now (.observe x) = .error m') ↔ m.Overruns now := by
  cases m with
  | value x | buckets counts => simp [apply, onWindow, Overruns]
  | window objectives w =>
    have hperform : (∃ w', w.observe now x = .error w') ↔ w.Overruns now :=
      AgeWindow.perform_eq_error_iff (.observe x)
    simp only [apply, onWindow, Overruns, ← hperform]
    cases w.observe now x <;> simp

/-- A meter that has been brought up to the present is not overrun. -/
theorem not_overruns_of_rotate {m' : Meter} (h : m.rotate now = .ok m') : ¬m'.Overruns now := by
  cases m with
  | value x | buckets counts =>
    obtain rfl := Except.ok.inj h
    exact id
  | window objectives w =>
    simp only [rotate, onWindow] at h
    cases hr : w.rotate now with
    | error r =>
      rw [hr] at h
      cases h
    | ok r =>
      rw [hr] at h
      obtain rfl := Except.ok.inj h
      exact fun hoverruns => Nat.not_lt.mpr hoverruns.1 (AgeWindow.lt_expiry_of_rotate hr)

end Meter

namespace Telemetry

/-- The series of the given number has a window that is overrun. -/
def Overruns (t : Telemetry) (id : Nat) : Prop :=
  ∃ s, t.series[id]? = some s ∧ s.meter.Overruns t.now

variable {t : Telemetry}

theorem stepMeter_fault_iff {id : Nat} {step : Meter → Except Meter Meter} {fault : Fault} :
    (stepMeter id step t).1 = .error fault ↔
      fault = .clockRange ∧ ∃ s, t.series[id]? = some s ∧ ∃ m, step s.meter = .error m := by
  unfold stepMeter
  cases hs : t.series[id]? with
  | none => simp
  | some s =>
    cases hm : step s.meter with
    | ok m => simp [hm]
    | error m => simp [hm, eq_comm]

/-- A sample cannot be recorded just if the series is overrun. -/
theorem change_observe_fault_iff {m : Metric} {x : Number} {fault : Fault} :
    (change m (.observe x) t).1 = .error fault ↔
      fault = .clockRange ∧ m.shape = .scalar ∧ t.Overruns m.id := by
  unfold change
  cases hshape : m.shape with
  | scalar =>
    have hfall : ¬(m.instrument = .counter ∧ (Change.observe x).isFall = true) :=
      fun h => Bool.false_ne_true h.2
    simp only [if_neg hfall]
    refine (stepMeter_fault_iff (t := t)).trans ?_
    simp only [Meter.apply_observe_eq_error_iff, Overruns, true_and]
  | vector =>
    refine ⟨fun h => ?_, fun h => nomatch h.2.1⟩
    cases h

/-- Bringing one series up to the present leaves the others overrun or not, as they were. -/
theorem overruns_of_stepMeter {t' : Telemetry} {id : Nat}
    (h : stepMeter id (Meter.rotate t.now) t = (.ok (), t')) (other : Nat) :
    t'.Overruns other ↔ t.Overruns other := by
  unfold stepMeter at h
  cases hs : t.series[id]? with
  | none =>
    simp only [hs] at h
    rw [(Prod.mk.inj h).2]
  | some s =>
    cases hm : s.meter.rotate t.now with
    | error m =>
      simp only [hs, hm] at h
      cases h
    | ok m =>
      simp only [hs, hm] at h
      obtain rfl := (Prod.mk.inj h).2
      by_cases hother : id = other
      · -- the series is up to the present now, and was not overrun before
        subst hother
        have hold : ¬s.meter.Overruns t.now := by
          rw [← Meter.rotate_eq_error_iff, hm]
          simp
        have hlt := (List.getElem?_eq_some_iff.mp hs).1
        simp only [Overruns, List.getElem?_set_self hlt, hs, Option.some.injEq]
        simp [hold, Meter.not_overruns_of_rotate hm]
      · simp only [Overruns, List.getElem?_set_ne hother]

/-- Series cannot all be brought up to the present just if one of them is overrun. -/
theorem rotateAll_fault_iff {ids : List Nat} {fault : Fault} :
    (rotateAll ids t).1 = .error fault ↔ fault = .clockRange ∧ ∃ id ∈ ids, t.Overruns id := by
  induction ids generalizing t with
  | nil =>
    refine ⟨fun h => ?_, fun ⟨_, _, hmem, _⟩ => absurd hmem List.not_mem_nil⟩
    cases h
  | cons id ids ih =>
    have hstep (fault : Fault) : (stepMeter id (Meter.rotate t.now) t).1 = .error fault ↔
        fault = .clockRange ∧ t.Overruns id := by
      simp only [stepMeter_fault_iff, Meter.rotate_eq_error_iff, Overruns]
    rw [rotateAll_cons, List.exists_mem_cons_iff]
    rcases hs : stepMeter id (Meter.rotate t.now) t with ⟨first | u, t'⟩
    · rw [hs] at hstep
      obtain ⟨hfirst, hoverruns⟩ := (hstep first).mp rfl
      rw [Action.bind_of_error hs, hfirst]
      constructor
      · intro h
        exact ⟨(Except.error.inj h).symm, .inl hoverruns⟩
      · rintro ⟨rfl, -⟩
        rfl
    · have hnot : ¬t.Overruns id := fun hoverruns => by
        have hfault := (hstep .clockRange).mpr ⟨rfl, hoverruns⟩
        rw [hs] at hfault
        cases hfault
      rw [Action.bind_of_ok hs, ih]
      simp only [overruns_of_stepMeter hs, hnot, false_or]

theorem collect_fault_iff {c : Collector} {fault : Fault} :
    (collect c t).1 = .error fault ↔
      fault = .clockRange ∧ ∃ id ∈ t.members c, t.Overruns id := by
  rw [← rotateAll_fault_iff]
  rcases hr : rotateAll (t.members c) t with ⟨first | u, t'⟩
  · rw [collect_of_fault hr]
    simp
  · rw [collect_of_rotateAll hr]
    simp

theorem gather_fault_iff {fault : Fault} :
    (gather t).1 = .error fault ↔
      fault = .clockRange ∧ ∃ id ∈ t.registry.flatMap t.members, t.Overruns id := by
  rw [← rotateAll_fault_iff]
  rcases hr : rotateAll (t.registry.flatMap t.members) t with ⟨first | u, t'⟩
  · rw [gather_of_fault hr]
    simp
  · rw [gather_of_rotateAll hr]
    simp

section Making

variable {o : SummaryOpts}

theorem make_eq_clockRange_iff {labels : Option (List String)} {b : Blueprint}
    (hb : Blueprint.of { opts := .summary o, labels } = .ok b) :
    t.make { opts := .summary o, labels } = .error .clockRange ↔
      labels = none ∧ b.arity = 0 ∧ clockLimit ≤ t.now + o.window.span := by
  obtain ⟨hopts, hshape⟩ := Blueprint.of_eq_ok hb
  rw [← Blueprint.onlySeries_eq_clockRange_iff hopts]
  simp only [make, hb, build, hshape]
  cases labels with
  | none =>
    simp only [Request.shape, Option.isSome_none, Bool.false_eq_true, ↓reduceIte, true_and]
    cases b.onlySeries t.now <;> simp [Except.map]
  | some labels => simp [Request.shape]

/-- A child that is not there cannot be made just if its first span leaves the range of the
clock. -/
theorem child_eq_clockRange_iff {m : Metric} {v : MetricVector} (hshape : m.shape = .vector)
    (hv : t.vectors[m.id]? = some v) (ho : v.blueprint.opts = .summary o) (values : List String) :
    t.child m values = .error .clockRange ↔
      values.length = v.blueprint.arity ∧ v.lookup values = none ∧
        clockLimit ≤ t.now + o.window.span := by
  simp only [child, hshape, hv, Blueprint.arityDefect]
  by_cases hlength : values.length = v.blueprint.arity
  · cases hlookup : v.lookup values with
    | some id => simp [hlength]
    | none =>
      have hnew : v.blueprint.newSeries values t.now = .error .clockRange ↔
          values.length = v.blueprint.arity ∧ clockLimit ≤ t.now + o.window.span :=
        Blueprint.newSeries_eq_clockRange_iff ho values
      simp only [hlength, true_and] at hnew ⊢
      rw [← hnew]
      cases v.blueprint.newSeries values t.now <;> simp [Except.map]
  · simp [hlength]

end Making

end Telemetry

/-! ## The range of accepted options -/

/-- At the origin of the clock only a window with a single stream can be too long. -/
theorem SummaryOpts.out_of_range_at_origin_iff {o : SummaryOpts}
    (hbuckets : o.window.ageBuckets ≤ o.window.maxAge) (hlimit : o.maxAge < Duration.limit) :
    clockLimit ≤ clockOrigin + o.window.span ↔
      o.window.ageBuckets = 1 ∧ clockOrigin ≤ o.window.maxAge := by
  have hhalf : clockLimit = clockOrigin + clockOrigin := by decide
  have hmaxAge : o.window.maxAge < clockOrigin + clockOrigin := by
    have hdefault : defaultMaxAge < clockOrigin + clockOrigin := by decide
    rw [← hhalf]
    simp only [window]
    split
    · exact hhalf ▸ hdefault
    · exact hlimit
  have hone : 1 < clockOrigin := by decide
  have hpos := o.window.ageBuckets_pos
  by_cases hsingle : o.window.ageBuckets = 1
  · have hspan : o.window.span = o.window.maxAge := by
      rw [WindowShape.span, hsingle, Nat.div_one]
      omega
    rw [hspan]
    omega
  · have hdiv : o.window.maxAge / o.window.ageBuckets ≤ o.window.maxAge / 2 :=
      Nat.div_le_div_left (by omega) (by omega)
    have hspan : o.window.span < clockOrigin := by
      rw [WindowShape.span]
      omega
    omega

/-- **The clock is overrun just if the end of a span leaves its range.**  For options that are
accepted, this is when the first span of a summary or a child ends out of range, or the span that is
under way when a run has made its calls, be they samples or reports; that span ends after the last
reading of the clock and at most one span after it.  A sample cannot be recorded, and metrics cannot
be collected or gathered, just if a window of theirs is overrun.  At the origin of the clock only a
window with a single stream that is as long as half the range is too long. -/
theorem Blueprint.overruns_iff_end_out_of_range {o : SummaryOpts} {labels : Option (List String)}
    {b : Blueprint} (hb : Blueprint.of { opts := .summary o, labels } = .ok b) :
    (∀ t : Telemetry, t.make { opts := .summary o, labels } = .error .clockRange ↔
      labels = none ∧ b.arity = 0 ∧ clockLimit ≤ t.now + o.window.span) ∧
    (∀ (t : Telemetry) (m : Metric) (v : MetricVector) (values : List String),
      m.shape = .vector → t.vectors[m.id]? = some v → v.blueprint = b →
        (t.child m values = .error .clockRange ↔
          values.length = b.arity ∧ v.lookup values = none ∧
            clockLimit ≤ t.now + o.window.span)) ∧
    (∀ (created : Nat) (calls : List (Nat × AgeWindow.Call)),
      let last := o.window.lastEnd (created + o.window.span) (calls.map Prod.fst)
      let now := (calls.map Prod.fst).getLastD created
      (AgeWindow.after? o.window created calls = none ↔ clockLimit ≤ last) ∧
        (∀ w, AgeWindow.after? o.window created calls = some w → w.expiry = last) ∧
        (AgeWindow.Forward (created :: calls.map Prod.fst) →
          now < last ∧ last ≤ now + o.window.span)) ∧
    (∀ (t : Telemetry) (m : Metric) (x : Number) (fault : Fault),
      (Telemetry.change m (.observe x) t).1 = .error fault ↔
        fault = .clockRange ∧ m.shape = .scalar ∧ t.Overruns m.id) ∧
    (∀ (t : Telemetry) (c : Collector) (fault : Fault),
      (Telemetry.collect c t).1 = .error fault ↔
        fault = .clockRange ∧ ∃ id ∈ t.members c, t.Overruns id) ∧
    (∀ (t : Telemetry) (fault : Fault),
      (Telemetry.gather t).1 = .error fault ↔
        fault = .clockRange ∧ ∃ id ∈ t.registry.flatMap t.members, t.Overruns id) ∧
    (o.maxAge < Duration.limit →
      (clockLimit ≤ clockOrigin + o.window.span ↔
        o.window.ageBuckets = 1 ∧ clockOrigin ≤ o.window.maxAge)) := by
  have hbuckets := AgeWindow.ageBuckets_le_maxAge hb
  refine ⟨fun t => Telemetry.make_eq_clockRange_iff hb, fun t m v values hshape hv hblueprint => ?_,
    fun created calls => ⟨AgeWindow.after?_eq_none_iff, fun w hw => ?_, fun hf => ?_⟩,
    fun t m x fault => Telemetry.change_observe_fault_iff,
    fun t c fault => Telemetry.collect_fault_iff, fun t fault => Telemetry.gather_fault_iff,
    SummaryOpts.out_of_range_at_origin_iff hbuckets⟩
  · have hopts : v.blueprint.opts = .summary o := hblueprint ▸ (Blueprint.of_eq_ok hb).1
    rw [Telemetry.child_eq_clockRange_iff hshape hv hopts, hblueprint]
  · have hin : ¬clockLimit ≤ o.window.lastEnd (created + o.window.span) (calls.map Prod.fst) := by
      rw [← AgeWindow.after?_eq_none_iff, hw]
      exact Option.some_ne_none w
    obtain ⟨w', hw', hexpiry⟩ := (AgeWindow.after?_cases o.window created calls).1 (by omega)
    rw [hw'] at hw
    rw [← Option.some.inj hw, hexpiry]
  · exact o.window.lastEnd_bounds hf (Nat.lt_add_of_pos_right o.window.span_pos) (Nat.le_refl _)

/-- A summary whose window has a single stream and is as long as the given span. -/
def singleStream (maxAge : Nat) : SummaryOpts where
  common := { name := "latency", help := "h" }
  maxAge := maxAge
  ageBuckets := 1

/-- A window of a minute is overrun at the last reading of the clock, and not two minutes before. -/
theorem overruns_iff_end_out_of_range_for_minute :
    let shape := (singleStream (Duration.of 60 0)).window
    AgeWindow.after? shape clockOrigin [(clockLimit - 1, .report)] = none ∧
      AgeWindow.after? shape clockOrigin [(clockLimit - Duration.of 120 0, .report)] ≠ none := by
  intro shape
  have hb : Blueprint.of { opts := .summary (singleStream (Duration.of 60 0)) } = .ok _ := rfl
  have hruns := (Blueprint.overruns_iff_end_out_of_range hb).2.2.1
  constructor
  · rw [(hruns clockOrigin [(clockLimit - 1, .report)]).1]
    decide
  · rw [Ne, (hruns clockOrigin [(clockLimit - Duration.of 120 0, .report)]).1]
    decide

/-- The longest window is accepted, but the summary cannot be made. -/
theorem accepted_window_out_of_range :
    let o := singleStream (Duration.of 0xFFFFFFFFFFFFFFFF 0)
    (Blueprint.of { opts := .summary o }).isOk = true ∧ o.maxAge < Duration.limit ∧
      Telemetry.make { opts := .summary o } {} = .error .clockRange :=
  ⟨rfl, by decide, rfl⟩

end MetricBundle
