import MetricBundle.Proofs.WindowCoverage
import Mathlib.Data.Nat.ModEq

/-!
# Reports in between

Reporting on a window turns it, so reports leave traces.  This module compares two runs that record
the same samples at the same times, the second of which makes extra reports in between
(`SharedCall`).  Both remember the same samples but for the phase of their spans: whatever is
reported at a time was recorded at most `n` spans before an expiry that lies ahead of that time by
at most one span, and such an expiry is known once it is known up to whole spans (`eq_of_modEq`).

Turning moves an expiry by whole spans (`ahead_turnUntil`) and keeps the phase.  A new phase begins
when a window is brought up to the present that has been idle for its whole length.  Extra reports
that keep the second window from being idle, while the first one is, thus lead to another phase.
Until this happens, and again after both windows have been idle at the same call, the runs are in
step (`InStep`), and then no report shows any difference.
-/

namespace MetricBundle.AgeWindow

variable {shape : WindowShape} {now : Nat} {history : List (Nat × Number)} {w w' : AgeWindow}

/-! ## The phase of an expiry -/

/-- The window has not been used for so long that a new span begins when it is brought up to the
present. -/
def Idle (now : Nat) (w : AgeWindow) : Prop := w.expiry + w.shape.maxAge ≤ now

/-- The expiry is a number of whole spans after the given one. -/
structure Ahead (expiry : Nat) (w : AgeWindow) : Prop where
  le : expiry ≤ w.expiry
  modEq : w.expiry ≡ expiry [MOD w.shape.span]

theorem ahead_refl (w : AgeWindow) : Ahead w.expiry w := ⟨Nat.le_refl _, rfl⟩

theorem ahead_turnUntil {expiry : Nat} (ha : Ahead expiry w) (h : turnUntil now w = .ok w') :
    Ahead expiry w' := by
  fun_induction turnUntil now w with
  | case1 w hlt =>
    cases h
    exact ha
  | case2 w hle hin ih =>
    refine ih ⟨Nat.le_trans ha.le (Nat.le_add_right _ _), ?_⟩ h
    exact Nat.add_modEq_right.trans ha.modEq
  | case3 w hle hout => cases h

/-- Bringing a window up to the present moves its expiry by whole spans, unless the window was
idle. -/
theorem ahead_rotate {expiry : Nat} (ha : Ahead expiry w) (hidle : ¬w.Idle now)
    (h : w.rotate now = .ok w') : Ahead expiry w' := by
  unfold Idle at hidle
  unfold rotate at h
  split at h
  case isTrue =>
    cases h
    exact ha
  case isFalse hle =>
    rw [if_neg (by omega)] at h
    exact ahead_turnUntil ha h

/-- When an idle window is brought up to the present, its expiry lies one span ahead. -/
theorem expiry_of_idle (hpos : 0 < w.shape.maxAge) (hidle : w.Idle now)
    (h : w.rotate now = .ok w') : w'.expiry = now + w.shape.span := by
  unfold Idle at hidle
  unfold rotate at h
  rw [if_neg (by omega), if_pos (by omega)] at h
  rw [expireAt_eq_ok h]

/-- Among times that lie whole spans apart only one is ahead of the present by at most a span. -/
theorem eq_of_modEq {span a b : Nat} (h : a ≡ b [MOD span]) (ha : now < a) (hb : now < b)
    (ha' : a ≤ now + span) (hb' : b ≤ now + span) : a = b :=
  Nat.le_antisymm (h.le_of_lt_add (by omega)) (h.symm.le_of_lt_add (by omega))

/-- The expiry after a call is the one after bringing the window up to the present. -/
theorem expiry_of_perform {call : Call} (h : w.perform now call = .ok w') :
    ∃ r, w.rotate now = .ok r ∧ w'.expiry = r.expiry := by
  cases call with
  | observe x =>
    obtain ⟨r, hr, rfl⟩ := observe_eq_ok h
    exact ⟨r, hr, rfl⟩
  | report => exact ⟨w', h, rfl⟩

/-- Two windows come to have the same expiry if both were idle, or if the first was not and the
second was whole spans ahead of it. -/
theorem expiry_eq_of_perform (hshape : shape.ageBuckets * shape.span ≤ shape.maxAge)
    {v u : AgeWindow} (hv : Tracks shape now history v) (hu : Tracks shape now history u)
    (h : v.Idle now ∧ u.Idle now ∨ ¬v.Idle now ∧ Ahead v.expiry u) {call : Call}
    (hw : v.perform now call = .ok w) (hw' : u.perform now call = .ok w') :
    w.expiry = w'.expiry := by
  obtain ⟨r, hr, hexpiry⟩ := expiry_of_perform hw
  obtain ⟨r', hr', hexpiry'⟩ := expiry_of_perform hw'
  rw [hexpiry, hexpiry']
  have hpos : 0 < shape.maxAge :=
    Nat.lt_of_lt_of_le (Nat.mul_pos shape.ageBuckets_pos shape.span_pos) hshape
  rcases h with ⟨hidle, hidle'⟩ | ⟨hidle, hahead⟩
  · rw [expiry_of_idle (hv.shape_eq ▸ hpos) hidle hr,
      expiry_of_idle (hu.shape_eq ▸ hpos) hidle' hr', hv.shape_eq, hu.shape_eq]
  · -- the second window was used no earlier than the first one, so it is not idle either
    have hidle' : ¬u.Idle now := by
      unfold Idle at hidle ⊢
      have hle := hahead.le
      rw [hv.shape_eq] at hidle
      rw [hu.shape_eq]
      omega
    obtain ⟨ht, hlt⟩ := tracks_rotate hshape hv hr
    obtain ⟨ht', hlt'⟩ := tracks_rotate hshape hu hr'
    -- both expiries have kept the phase of the first window's
    have hmod := (ahead_rotate (ahead_refl v) hidle hr).modEq
    have hmod' := (ahead_rotate hahead hidle' hr').modEq
    rw [ht.shape_eq] at hmod
    rw [ht'.shape_eq] at hmod'
    exact eq_of_modEq (hmod.trans hmod'.symm) hlt hlt' ht.expiry_le ht'.expiry_le

/-! ## Two runs -/

/-- A call that both runs make, and the times of the reports that only the second run makes before
it. -/
structure SharedCall where
  extras : List Nat
  now : Nat
  call : Call
deriving DecidableEq

namespace SharedCall

/-- The extra reports. -/
def reports (c : SharedCall) : List (Nat × Call) := c.extras.map fun t => (t, .report)

/-- The calls of the first run. -/
def first (calls : List SharedCall) : List (Nat × Call) := calls.map fun c => (c.now, c.call)

/-- The calls of the second run. -/
def second (calls : List SharedCall) : List (Nat × Call) :=
  calls.flatMap fun c => c.reports ++ [(c.now, c.call)]

theorem first_concat (calls : List SharedCall) (c : SharedCall) :
    first (calls ++ [c]) = first calls ++ [(c.now, c.call)] :=
  List.map_append

theorem second_concat (calls : List SharedCall) (c : SharedCall) :
    second (calls ++ [c]) = second calls ++ c.reports ++ [(c.now, c.call)] := by
  rw [second, List.flatMap_append, List.flatMap_singleton, List.append_assoc]
  rfl

theorem first_sublist_second (calls : List SharedCall) : (first calls).Sublist (second calls) := by
  induction calls with
  | nil => exact List.Sublist.refl _
  | cons c calls ih =>
    show ([(c.now, c.call)] ++ first calls).Sublist
      (c.reports ++ [(c.now, c.call)] ++ second calls)
    exact (List.sublist_append_right _ _).append ih

theorem recorded_reports (c : SharedCall) : recorded c.reports = [] := by
  obtain ⟨extras, now, call⟩ := c
  induction extras with
  | nil => rfl
  | cons t extras ih => exact ih

/-- Both runs record the same samples. -/
theorem recorded_second (calls : List SharedCall) :
    recorded (second calls) = recorded (first calls) := by
  induction calls with
  | nil => rfl
  | cons c calls ih =>
    show recorded (c.reports ++ [(c.now, c.call)] ++ second calls) =
      recorded ([(c.now, c.call)] ++ first calls)
    rw [recorded_append, recorded_append, recorded_append, recorded_reports, ih]
    rfl

end SharedCall

section Runs

open SharedCall

variable {created : Nat} {calls : List SharedCall} {c : SharedCall}

/-- The window of the first run is idle when the call comes after the others. -/
def FirstIdle (shape : WindowShape) (created : Nat) (calls : List SharedCall) (c : SharedCall) :
    Prop :=
  ∃ v, after? shape created (first calls) = some v ∧ v.Idle c.now

/-- The window of the second run is idle at that call, in spite of the extra reports before it. -/
def SecondIdle (shape : WindowShape) (created : Nat) (calls : List SharedCall) (c : SharedCall) :
    Prop :=
  ∃ v, after? shape created (second calls ++ c.reports) = some v ∧ v.Idle c.now

/-- The spans of both runs end at the same times.  They do so at the start and after every call at
which both windows were idle, and go on doing so as long as the first window is not idle. -/
inductive InStep (shape : WindowShape) (created : Nat) : List SharedCall → Prop where
  | start : InStep shape created []
  | rejoined {calls : List SharedCall} {c : SharedCall} : FirstIdle shape created calls c →
      SecondIdle shape created calls c → InStep shape created (calls ++ [c])
  | kept {calls : List SharedCall} {c : SharedCall} : InStep shape created calls →
      ¬FirstIdle shape created calls c → InStep shape created (calls ++ [c])

/-- Runs are in step if the first window is never idle. -/
theorem inStep_of_never_idle
    (h : ∀ before c after, calls = before ++ c :: after → ¬FirstIdle shape created before c) :
    InStep shape created calls := by
  induction calls using List.reverseRecOn with
  | nil => exact .start
  | append_singleton calls c ih =>
    refine .kept (ih fun before d after hsplit => ?_) (h calls c [] rfl)
    exact h before d (after ++ [c]) (by rw [hsplit, List.append_assoc, List.cons_append])

/-- Two runs up to a call and after it: the first comes from `v` to `w`, and the second one from
`v'`, over `u` after its extra reports, to `w'`. -/
structure Fork (shape : WindowShape) (created : Nat) (calls : List SharedCall) (c : SharedCall)
    (v w v' u w' : AgeWindow) : Prop where
  before : after? shape created (first calls) = some v
  performed : v.perform c.now c.call = .ok w
  before' : after? shape created (second calls) = some v'
  reported' : performAll c.reports v' = .ok u
  after_reports : after? shape created (second calls ++ c.reports) = some u
  performed' : u.perform c.now c.call = .ok w'

theorem exists_fork (hw : after? shape created (first (calls ++ [c])) = some w)
    (hw' : after? shape created (second (calls ++ [c])) = some w') :
    ∃ v v' u, Fork shape created calls c v w v' u w' := by
  rw [first_concat] at hw
  rw [second_concat] at hw'
  obtain ⟨v, hv, hperform⟩ := after?_concat_eq_some hw
  obtain ⟨u, hu, hperform'⟩ := after?_concat_eq_some hw'
  obtain ⟨v', hv', hreports⟩ := after?_append_eq_some hu
  exact ⟨v, v', u, hv, hperform, hv', hreports, hu, hperform'⟩

/-- The times of both runs never go back. -/
def Timely (created : Nat) (calls : List SharedCall) : Prop :=
  Forward (created :: (second calls).map Prod.fst)

/-- The times of the calls before a call, or of some of them, never go back until it is made. -/
theorem Timely.before_call (h : Timely created (calls ++ [c])) {part : List (Nat × Call)}
    (hpart : part.Sublist (second calls ++ c.reports)) :
    Forward (created :: part.map Prod.fst ++ [c.now]) := by
  unfold Timely at h
  rw [second_concat, List.map_append] at h
  have hall : Forward (created :: (second calls ++ c.reports).map Prod.fst ++ [c.now]) := h
  exact List.Pairwise.sublist (((hpart.map Prod.fst).cons_cons created).append_right [c.now]) hall

theorem Timely.of_concat (h : Timely created (calls ++ [c])) : Timely created calls :=
  List.Pairwise.sublist (List.sublist_append_left _ _)
    (h.before_call (List.sublist_append_left _ _))

theorem Timely.extras_le (h : Timely created (calls ++ [c])) : ∀ t ∈ c.extras, t ≤ c.now := by
  intro t ht
  have hf := h.before_call (List.Sublist.refl _)
  refine (List.pairwise_append.mp hf).2.2 t ?_ c.now (List.mem_singleton_self _)
  refine List.mem_cons_of_mem _ (List.mem_map.mpr ⟨(t, .report), ?_, rfl⟩)
  exact List.mem_append_right _ (List.mem_map.mpr ⟨t, ht, rfl⟩)

/-- The windows of a fork have seen the same samples when the call is made. -/
theorem Fork.tracks {v v' u : AgeWindow} (hfork : Fork shape created calls c v w v' u w')
    (hshape : shape.ageBuckets * shape.span ≤ shape.maxAge)
    (htimely : Timely created (calls ++ [c])) :
    Tracks shape c.now (recorded (first calls)) v ∧
      Tracks shape c.now (recorded (first calls)) v' ∧
      Tracks shape c.now (recorded (first calls)) u := by
  have hfirst : (first calls).Sublist (second calls ++ c.reports) :=
    (first_sublist_second calls).trans (List.sublist_append_left _ _)
  have hv' := tracks_after? hshape (htimely.before_call (List.sublist_append_left _ _))
    hfork.before'
  have hu := tracks_after? hshape (htimely.before_call (List.Sublist.refl _)) hfork.after_reports
  rw [recorded_second] at hv'
  rw [recorded_append, recorded_reports, List.append_nil, recorded_second] at hu
  exact ⟨tracks_after? hshape (htimely.before_call hfirst) hfork.before, hv', hu⟩

/-- Reports turn a window by whole spans if it is not idle for any of them. -/
theorem ahead_reports {expiry : Nat} {times : List Nat} (ha : Ahead expiry w)
    (htimes : ∀ t ∈ times, ¬expiry + w.shape.maxAge ≤ t)
    (h : performAll (times.map fun t => (t, .report)) w = .ok w') : Ahead expiry w' := by
  induction times generalizing w with
  | nil =>
    cases h
    exact ha
  | cons t times ih =>
    obtain ⟨ht, htimes⟩ := List.forall_mem_cons.mp htimes
    rw [List.map_cons, performAll] at h
    split at h
    case h_1 r hr =>
      have hidle : ¬w.Idle t := fun hidle => ht (Nat.le_trans (Nat.add_le_add_right ha.le _) hidle)
      refine ih (ahead_rotate ha hidle hr) (fun t ht => ?_) h
      rw [shape_rotate hr]
      exact htimes t ht
    case h_2 => cases h

/-- A window that is not idle at the call cannot have been idle at the extra reports. -/
theorem Fork.ahead {v v' u : AgeWindow} (hfork : Fork shape created calls c v w v' u w')
    (hshape : shape.ageBuckets * shape.span ≤ shape.maxAge)
    (htimely : Timely created (calls ++ [c])) (hexpiry : v.expiry = v'.expiry)
    (hidle : ¬v.Idle c.now) : Ahead v.expiry u := by
  obtain ⟨hv, hv', -⟩ := hfork.tracks hshape htimely
  have hahead : Ahead v.expiry v' := hexpiry ▸ ahead_refl v'
  refine ahead_reports hahead (fun t ht hle => hidle ?_) hfork.reported'
  -- a window that was idle at an extra report would be idle at the call, which comes later
  have hnow := htimely.extras_le t ht
  unfold Idle
  rw [hv.shape_eq]
  rw [hv'.shape_eq] at hle
  omega

/-- **Runs in step have the same expiry.** -/
theorem expiry_eq_of_inStep (hshape : shape.ageBuckets * shape.span ≤ shape.maxAge)
    (hstep : InStep shape created calls) (htimely : Timely created calls)
    (hw : after? shape created (first calls) = some w)
    (hw' : after? shape created (second calls) = some w') : w.expiry = w'.expiry := by
  induction hstep generalizing w w' with
  | start => rw [Option.some.inj (hw.symm.trans hw')]
  | @rejoined calls c hfirst hsecond =>
    obtain ⟨v, v', u, hfork⟩ := exists_fork hw hw'
    obtain ⟨hv, -, hu⟩ := hfork.tracks hshape htimely
    obtain ⟨x, hx, hidle⟩ := hfirst
    obtain ⟨y, hy, hidle'⟩ := hsecond
    obtain rfl := Option.some.inj (hfork.before.symm.trans hx)
    obtain rfl := Option.some.inj (hfork.after_reports.symm.trans hy)
    exact expiry_eq_of_perform hshape hv hu (.inl ⟨hidle, hidle'⟩) hfork.performed hfork.performed'
  | @kept calls c _ hfirst ih =>
    obtain ⟨v, v', u, hfork⟩ := exists_fork hw hw'
    obtain ⟨hv, -, hu⟩ := hfork.tracks hshape htimely
    have hidle : ¬v.Idle c.now := fun hidle => hfirst ⟨v, hfork.before, hidle⟩
    have hexpiry := ih htimely.of_concat hfork.before hfork.before'
    have hahead := hfork.ahead hshape htimely hexpiry hidle
    exact expiry_eq_of_perform hshape hv hu (.inr ⟨hidle, hahead⟩) hfork.performed hfork.performed'

/-! ## What both report -/

/-- Nothing is left of what an idle window remembered. -/
theorem reported_eq_nil_of_idle (hshape : shape.ageBuckets * shape.span ≤ shape.maxAge)
    {v : AgeWindow} (hv : Tracks shape now history v) (hidle : v.Idle now)
    (hw : Tracks shape now history w) (hlt : now < w.expiry) : w.reported = [] := by
  rw [reported_eq hw, remembered_eq_nil, List.map_nil]
  intro p hp
  have hunexpired := hv.unexpired p hp
  unfold Idle at hidle
  rw [hv.shape_eq] at hidle
  omega

/-- After a report both windows have the same samples behind them and an expiry ahead of them by at
most one span. -/
theorem Fork.tracks_report {v v' u : AgeWindow} (hfork : Fork shape created calls c v w v' u w')
    (hshape : shape.ageBuckets * shape.span ≤ shape.maxAge)
    (htimely : Timely created (calls ++ [c])) (hcall : c.call = .report) :
    (Tracks shape c.now (recorded (first calls)) w ∧ c.now < w.expiry) ∧
      Tracks shape c.now (recorded (first calls)) w' ∧ c.now < w'.expiry := by
  obtain ⟨hv, -, hu⟩ := hfork.tracks hshape htimely
  have hw := hfork.performed
  have hw' := hfork.performed'
  rw [hcall] at hw hw'
  exact ⟨tracks_rotate hshape hv hw, tracks_rotate hshape hu hw'⟩

/-- A report at which either window is idle finds nothing. -/
theorem Fork.reported_eq_nil {v v' u : AgeWindow} (hfork : Fork shape created calls c v w v' u w')
    (hshape : shape.ageBuckets * shape.span ≤ shape.maxAge)
    (htimely : Timely created (calls ++ [c])) (hcall : c.call = .report)
    (hidle : v.Idle c.now ∨ u.Idle c.now) : w.reported = [] ∧ w'.reported = [] := by
  obtain ⟨hv, -, hu⟩ := hfork.tracks hshape htimely
  obtain ⟨⟨hw, hlt⟩, hw', hlt'⟩ := hfork.tracks_report hshape htimely hcall
  rcases hidle with hidle | hidle
  · exact ⟨reported_eq_nil_of_idle hshape hv hidle hw hlt,
      reported_eq_nil_of_idle hshape hv hidle hw' hlt'⟩
  · exact ⟨reported_eq_nil_of_idle hshape hu hidle hw hlt,
      reported_eq_nil_of_idle hshape hu hidle hw' hlt'⟩

/-- Runs in step report the same. -/
theorem Fork.reported_eq {v v' u : AgeWindow} (hfork : Fork shape created calls c v w v' u w')
    (hshape : shape.ageBuckets * shape.span ≤ shape.maxAge)
    (htimely : Timely created (calls ++ [c])) (hcall : c.call = .report)
    (hstep : InStep shape created calls) : w.reported = w'.reported := by
  obtain ⟨hv, -, hu⟩ := hfork.tracks hshape htimely
  obtain ⟨⟨hw, hlt⟩, hw', hlt'⟩ := hfork.tracks_report hshape htimely hcall
  by_cases hidle : v.Idle c.now
  · obtain ⟨hnil, hnil'⟩ := hfork.reported_eq_nil hshape htimely hcall (.inl hidle)
    rw [hnil, hnil']
  · have hexpiry := expiry_eq_of_inStep hshape hstep htimely.of_concat hfork.before hfork.before'
    have hahead := hfork.ahead hshape htimely hexpiry hidle
    rw [AgeWindow.reported_eq hw, AgeWindow.reported_eq hw',
      expiry_eq_of_perform hshape hv hu (.inr ⟨hidle, hahead⟩) hfork.performed hfork.performed']

theorem quantiles_eq_of_reported (h : w.reported = w'.reported)
    (objectives : List (Number × Number)) :
    w.quantiles objectives = w'.quantiles objectives := by
  rw [quantiles, quantiles, ordered, ordered, h]

/-- **Extra reports change later ones only by way of a new phase.**  Two runs record the same
samples at the same times; the second one makes any number of extra reports at any times in between,
and then both report at the same time.  Whatever happened before, the counts and the sums agree, and
both report what was recorded at most `n` spans before an expiry that lies ahead by at most one
span; so the quantiles differ only if there are samples that one of the expiries still covers and
the other one does not.  A window that is idle at the report has nothing to report, and neither has
the other one.  If the runs are in step, the quantiles are equal.  They are in step if the window
without extra reports was never idle. -/
theorem extra_reports_keep_quantiles {o : SummaryOpts} {labels : Option (List String)}
    {b : Blueprint} (haccepted : Blueprint.of { opts := .summary o, labels } = .ok b)
    {created now : Nat} {calls : List SharedCall} {extras : List Nat}
    (htimely : Timely created (calls ++ [⟨extras, now, .report⟩])) :
    let both := calls ++ [⟨extras, now, .report⟩]
    ((∀ t ∈ created :: (second both).map Prod.fst, t + o.window.span < Duration.clockLimit) →
      ∃ w w', after? o.window created (first both) = some w ∧
        after? o.window created (second both) = some w') ∧
    (∀ w w', after? o.window created (first both) = some w →
      after? o.window created (second both) = some w' →
      w.count = w'.count ∧ w.sum = w'.sum ∧
      (now < w.expiry ∧ w.expiry ≤ now + o.window.span) ∧
      (now < w'.expiry ∧ w'.expiry ≤ now + o.window.span) ∧
      ((∀ p ∈ recorded (first calls),
          w.expiry ≤ p.1 + o.window.ageBuckets * o.window.span ↔
            w'.expiry ≤ p.1 + o.window.ageBuckets * o.window.span) →
        ∀ objectives, w.quantiles objectives = w'.quantiles objectives) ∧
      (FirstIdle o.window created calls ⟨extras, now, .report⟩ ∨
          SecondIdle o.window created calls ⟨extras, now, .report⟩ →
        w.reported = [] ∧ w'.reported = []) ∧
      (InStep o.window created calls →
        ∀ objectives, w.quantiles objectives = w'.quantiles objectives)) ∧
    ((∀ before c after, calls = before ++ c :: after → ¬FirstIdle o.window created before c) →
      InStep o.window created calls) := by
  intro both
  have hshape := ageBuckets_mul_span_le (ageBuckets_le_maxAge haccepted)
  refine ⟨fun hin => ?_, fun w w' hw hw' => ?_, inStep_of_never_idle⟩
  · have hcalls (part : List (Nat × Call)) (hpart : part.Sublist (second both)) :
        ∃ w, after? o.window created part = some w := by
      refine after?_isSome (hin created List.mem_cons_self) fun c hc => hin c.1 ?_
      exact List.mem_cons_of_mem _ (List.mem_map_of_mem (hpart.mem hc))
    obtain ⟨w, hw⟩ := hcalls (first both) (first_sublist_second both)
    obtain ⟨w', hw'⟩ := hcalls (second both) (List.Sublist.refl _)
    exact ⟨w, w', hw, hw'⟩
  · obtain ⟨v, v', u, hfork⟩ := exists_fork hw hw'
    obtain ⟨⟨ht, hlt⟩, ht', hlt'⟩ := hfork.tracks_report hshape htimely rfl
    refine ⟨ht.count_eq.trans ht'.count_eq.symm, ht.sum_eq.trans ht'.sum_eq.symm,
      ⟨hlt, ht.expiry_le⟩, ⟨hlt', ht'.expiry_le⟩, fun hcover => ?_, fun hidle => ?_,
      fun hstep => ?_⟩
    · -- both filter the same samples, and by what they cover
      have hsince : since o.window w.expiry o.window.ageBuckets (recorded (first calls)) =
          since o.window w'.expiry o.window.ageBuckets (recorded (first calls)) :=
        List.filter_congr fun p hp => decide_eq_decide.mpr (hcover p hp)
      refine quantiles_eq_of_reported ?_
      rw [reported_eq ht, reported_eq ht', remembered, remembered, hsince]
    · refine hfork.reported_eq_nil hshape htimely rfl ?_
      rcases hidle with ⟨x, hx, hidle⟩ | ⟨y, hy, hidle⟩
      · obtain rfl := Option.some.inj (hfork.before.symm.trans hx)
        exact .inl hidle
      · obtain rfl := Option.some.inj (hfork.after_reports.symm.trans hy)
        exact .inr hidle
    · exact quantiles_eq_of_reported (hfork.reported_eq hshape htimely rfl hstep)

/-- A window of ten nanoseconds in two spans. -/
def tenNanos : SummaryOpts :=
  { common := { name := "s", help := "h" }, maxAge := 10, ageBuckets := 2 }

/-- What is observed after twelve nanoseconds without a call is reported as before, although a
report was made in the meantime: the window was not idle long enough. -/
theorem extra_reports_keep_quantiles_of_used_window :
    let both : List SharedCall := [⟨[3, 9], 12, .observe ⟨7⟩⟩, ⟨[13], 14, .report⟩]
    ∃ w w', after? tenNanos.window 0 (first both) = some w ∧
      after? tenNanos.window 0 (second both) = some w' ∧
      ∀ objectives, w.quantiles objectives = w'.quantiles objectives := by
  intro both
  let descriptor : Descriptor :=
    { fqName := "s", help := "h", constLabels := [], variableLabels := [] }
  have haccepted : Blueprint.of { opts := .summary tenNanos } =
      .ok { opts := .summary tenNanos, shape := .scalar, descriptor } := by
    decide
  have htimely : Timely 0 ([⟨[3, 9], 12, .observe ⟨7⟩⟩] ++ [⟨[13], 14, .report⟩]) := by
    unfold Timely Forward
    decide
  obtain ⟨hruns, hreports, -⟩ := extra_reports_keep_quantiles haccepted htimely
  obtain ⟨w, w', hw, hw'⟩ := hruns (by decide)
  obtain ⟨-, -, -, -, -, -, hquantiles⟩ := hreports w w' hw hw'
  refine ⟨w, w', hw, hw', hquantiles (.kept .start ?_)⟩
  rintro ⟨v, hv, hidle⟩
  obtain rfl : fresh tenNanos.window 0 = v := Option.some.inj hv
  exact absurd hidle (by unfold Idle; decide)

/-- If nothing is recorded for sixteen nanoseconds, a report two nanoseconds before the next sample
makes this go missing earlier. -/
theorem extra_report_loses_sample :
    let both : List SharedCall := [⟨[14], 16, .observe Number.one⟩, ⟨[], 25, .report⟩]
    let objectives : List (Number × Number) := [(Number.one, Number.zero)]
    (∃ b, Blueprint.of { opts := .summary { tenNanos with objectives } } = .ok b) ∧
      Timely 0 both ∧
      ∃ w w', after? tenNanos.window 0 (first both) = some w ∧
        after? tenNanos.window 0 (second both) = some w' ∧
        w.quantiles objectives = [(Number.one, Number.one)] ∧
        w'.quantiles objectives = [(Number.one, Number.notANumber)] ∧
        w.quantiles objectives ≠ w'.quantiles objectives := by
  intro both objectives
  have haccepted : Blueprint.of { opts := .summary { tenNanos with objectives } } =
      .ok { opts := .summary { tenNanos with objectives }, shape := .scalar
            descriptor :=
              { fqName := "s", help := "h", constLabels := [], variableLabels := [] } } := by
    decide +kernel
  have hfirst : (after? tenNanos.window 0 (first both)).map (fun w => w.quantiles objectives) =
      some [(Number.one, Number.one)] := by
    decide +kernel
  have hsecond : (after? tenNanos.window 0 (second both)).map (fun w => w.quantiles objectives) =
      some [(Number.one, Number.notANumber)] := by
    decide +kernel
  have htimely : Timely 0 both := by
    unfold Timely Forward
    decide
  obtain ⟨w, hw, hquantiles⟩ := Option.map_eq_some_iff.mp hfirst
  obtain ⟨w', hw', hquantiles'⟩ := Option.map_eq_some_iff.mp hsecond
  refine ⟨⟨_, haccepted⟩, htimely, w, w', hw, hw', hquantiles, hquantiles', ?_⟩
  rw [hquantiles, hquantiles']
  decide +kernel

end Runs

end MetricBundle.AgeWindow
