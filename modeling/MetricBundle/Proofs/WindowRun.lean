import MetricBundle.AgeWindow

/-!
# Runs of an age window

A window is used by calls that are made one after the other, each at a reading of the clock: a call
records a sample, or brings the window up to the present so that it can be reported on.  A run
starts the window and makes its calls in order (`after?`); it has no result if the end of some span
leaves the range of the clock.

Two facts hold of every run, whatever is recorded.  No step changes the shape of the window.  And a
run has a result if each of its calls is made at least one span before the end of the clock's range
(`after?_isSome`): the end of a span is never set further ahead than that.
-/

namespace MetricBundle.AgeWindow

/-- What a window is asked for. -/
inductive Call where
  | observe (sample : Number)
  /-- The window is brought up to the present, to be reported on. -/
  | report
deriving DecidableEq

/-- A call made at the given time. -/
def perform (now : Nat) : Call → AgeWindow → Except AgeWindow AgeWindow
  | .observe sample, w => w.observe now sample
  | .report, w => w.rotate now

/-- Calls made one after the other, each at its time. -/
def performAll : List (Nat × Call) → AgeWindow → Except AgeWindow AgeWindow
  | [], w => .ok w
  | (now, call) :: calls, w =>
    match w.perform now call with
    | .ok w => performAll calls w
    | .error w => .error w

/-- The window that was started at the given time, after calls. -/
def after? (shape : WindowShape) (created : Nat) (calls : List (Nat × Call)) : Option AgeWindow :=
  match start? shape created with
  | some w => (performAll calls w).toOption
  | none => none

/-- The samples that calls record, each with its time, in order. -/
def recorded (calls : List (Nat × Call)) : List (Nat × Number) :=
  calls.filterMap fun c =>
    match c.2 with
    | .observe sample => some (c.1, sample)
    | .report => none

/-- Readings of the clock that never go back. -/
def Forward (times : List Nat) : Prop := times.Pairwise (· ≤ ·)

@[simp] theorem recorded_nil : recorded [] = [] := rfl

@[simp] theorem recorded_report (now : Nat) (calls : List (Nat × Call)) :
    recorded ((now, .report) :: calls) = recorded calls := rfl

theorem recorded_append (calls more : List (Nat × Call)) :
    recorded (calls ++ more) = recorded calls ++ recorded more :=
  List.filterMap_append

theorem performAll_append (calls more : List (Nat × Call)) (w : AgeWindow) :
    performAll (calls ++ more) w = (performAll calls w).bind (performAll more) := by
  induction calls generalizing w with
  | nil => rfl
  | cons c calls ih =>
    obtain ⟨now, call⟩ := c
    simp only [List.cons_append, performAll]
    cases h : w.perform now call with
    | ok w' => exact ih w'
    | error w' => rfl

/-! ## The shape of a window -/

@[simp] theorem shape_turned (w : AgeWindow) : w.turned.shape = w.shape := rfl

@[simp] theorem shape_cleared (w : AgeWindow) : w.cleared.shape = w.shape := rfl

@[simp] theorem shape_record (x : Number) (w : AgeWindow) : (w.record x).shape = w.shape := rfl

/-- The window that observing gives is the one that rotating gives, with the sample recorded. -/
theorem observe_eq_ok {now : Nat} {x : Number} {w w' : AgeWindow}
    (h : w.observe now x = .ok w') : ∃ r, w.rotate now = .ok r ∧ w' = r.record x := by
  unfold observe at h
  cases hr : w.rotate now with
  | ok r =>
    rw [hr] at h
    exact ⟨r, rfl, (Except.ok.inj h).symm⟩
  | error r =>
    rw [hr] at h
    cases h

theorem start?_eq_some {shape : WindowShape} {created : Nat} {w : AgeWindow}
    (h : start? shape created = some w) : w = fresh shape created := by
  unfold start? at h
  split at h
  · exact (Option.some.inj h).symm
  · cases h

/-- No window is started only if its first span leaves the range of the clock. -/
theorem limit_le_of_start?_eq_none {shape : WindowShape} {created : Nat}
    (h : start? shape created = none) : Duration.clockLimit ≤ created + shape.span := by
  unfold start? at h
  split at h
  · cases h
  · omega

theorem after?_eq_some {shape : WindowShape} {created : Nat} {calls : List (Nat × Call)}
    {w : AgeWindow} (h : after? shape created calls = some w) :
    ∃ w₀, start? shape created = some w₀ ∧ performAll calls w₀ = .ok w := by
  unfold after? at h
  cases hs : start? shape created with
  | none =>
    rw [hs] at h
    cases h
  | some w₀ =>
    rw [hs] at h
    cases hp : performAll calls w₀ with
    | ok r =>
      simp only [hp, Except.toOption] at h
      exact ⟨w₀, rfl, by rw [hp, Option.some.inj h]⟩
    | error r => simp [hp, Except.toOption] at h

/-- A run goes on from where its first calls have led. -/
theorem after?_append_eq_some {shape : WindowShape} {created : Nat}
    {calls more : List (Nat × Call)} {w : AgeWindow}
    (h : after? shape created (calls ++ more) = some w) :
    ∃ r, after? shape created calls = some r ∧ performAll more r = .ok w := by
  obtain ⟨w₀, hs, hp⟩ := after?_eq_some h
  rw [performAll_append] at hp
  cases hr : performAll calls w₀ with
  | ok r =>
    rw [hr] at hp
    exact ⟨r, by simp only [after?, hs, hr, Except.toOption], hp⟩
  | error r =>
    rw [hr] at hp
    cases hp

/-- A run ends with its last call. -/
theorem after?_concat_eq_some {shape : WindowShape} {created now : Nat} {call : Call}
    {calls : List (Nat × Call)} {w : AgeWindow}
    (h : after? shape created (calls ++ [(now, call)]) = some w) :
    ∃ r, after? shape created calls = some r ∧ r.perform now call = .ok w := by
  obtain ⟨r, hr, hcall⟩ := after?_append_eq_some h
  refine ⟨r, hr, ?_⟩
  unfold performAll at hcall
  split at hcall
  case h_1 hw =>
    rw [hw]
    exact hcall
  case h_2 => cases hcall

theorem expireAt_eq_ok {w w' : AgeWindow} {time : Nat} (h : w.expireAt time = .ok w') :
    w' = { w with expiry := time } := by
  unfold expireAt at h
  split at h
  · exact (Except.ok.inj h).symm
  · cases h

theorem shape_turnUntil {now : Nat} {w w' : AgeWindow} (h : turnUntil now w = .ok w') :
    w'.shape = w.shape := by
  fun_induction turnUntil now w with
  | case1 w hlt => rw [Except.ok.inj h]
  | case2 w hle hin ih => exact ih h
  | case3 w hle hout => cases h

theorem shape_rotate {now : Nat} {w w' : AgeWindow} (h : w.rotate now = .ok w') :
    w'.shape = w.shape := by
  unfold rotate at h
  split at h
  · rw [Except.ok.inj h]
  · split at h
    · rw [expireAt_eq_ok h, shape_cleared]
    · exact shape_turnUntil h

/-! What is left behind when the range of the clock is left has that shape as well. -/

theorem shape_of_turnUntil_error {now : Nat} {w w' : AgeWindow} (h : turnUntil now w = .error w') :
    w'.shape = w.shape := by
  fun_induction turnUntil now w with
  | case1 w hlt => cases h
  | case2 w hle hin ih => exact ih h
  | case3 w hle hout => rw [← Except.error.inj h, shape_turned]

theorem shape_of_rotate_error {now : Nat} {w w' : AgeWindow} (h : w.rotate now = .error w') :
    w'.shape = w.shape := by
  unfold rotate at h
  split at h
  · cases h
  · split at h
    · unfold expireAt at h
      split at h
      · cases h
      · rw [← Except.error.inj h, shape_cleared]
    · exact shape_of_turnUntil_error h

theorem shape_of_observe_error {now : Nat} {x : Number} {w w' : AgeWindow}
    (h : w.observe now x = .error w') : w'.shape = w.shape := by
  unfold observe at h
  cases hr : w.rotate now with
  | ok r =>
    rw [hr] at h
    cases h
  | error r =>
    rw [hr] at h
    rw [← Except.error.inj h]
    exact shape_of_rotate_error hr

theorem shape_perform {now : Nat} {call : Call} {w w' : AgeWindow}
    (h : w.perform now call = .ok w') : w'.shape = w.shape := by
  cases call with
  | observe x =>
    obtain ⟨r, hr, rfl⟩ := observe_eq_ok h
    rw [shape_record, shape_rotate hr]
  | report => exact shape_rotate h

/-! ## What is in the streams

Streams lose samples as the window turns, and gain them by observing only. -/

section Streams

variable {now : Nat} {w w' : AgeWindow} {P : SampleQueue → Prop} (hempty : P .empty)
include hempty

theorem forall_streams_turnUntil (h : ∀ q ∈ w.streams, P q) (hturn : turnUntil now w = .ok w') :
    ∀ q ∈ w'.streams, P q := by
  fun_induction turnUntil now w with
  | case1 w hlt => exact Except.ok.inj hturn ▸ h
  | case2 w hle hin ih =>
    refine ih (fun q hq => ?_) hturn
    rcases List.mem_or_eq_of_mem_set hq with hq | rfl
    · exact h q hq
    · exact hempty
  | case3 w hle hout => cases hturn

/-- What holds of all streams, and of an empty one, holds of all when the window is up to the
present. -/
theorem forall_streams_rotate (h : ∀ q ∈ w.streams, P q) (hrotate : w.rotate now = .ok w') :
    ∀ q ∈ w'.streams, P q := by
  unfold rotate at hrotate
  split at hrotate
  case isTrue => exact Except.ok.inj hrotate ▸ h
  case isFalse =>
    split at hrotate
    · rw [expireAt_eq_ok hrotate]
      intro q hq
      obtain ⟨_, -, rfl⟩ := List.mem_map.mp hq
      exact hempty
    · exact forall_streams_turnUntil hempty h hrotate

end Streams

theorem size_push {capacity : Nat} {q : SampleQueue} (hpos : 0 < capacity)
    (h : q.size ≤ capacity) (x : Number) : (q.push capacity x).size ≤ capacity := by
  unfold SampleQueue.push
  split
  case isTrue hfull =>
    show q.size - 1 + 1 ≤ capacity
    omega
  case isFalse hroom =>
    show q.size + 1 ≤ capacity
    omega

/-! ## Up to the present -/

section Present

variable {now : Nat} {w w' : AgeWindow}

theorem lt_expiry_of_turnUntil (h : turnUntil now w = .ok w') : now < w'.expiry := by
  fun_induction turnUntil now w with
  | case1 w hlt => exact Except.ok.inj h ▸ hlt
  | case2 w hle hin ih => exact ih h
  | case3 w hle hout => cases h

/-- A window that has been brought up to the present expires later. -/
theorem lt_expiry_of_rotate (h : w.rotate now = .ok w') : now < w'.expiry := by
  unfold rotate at h
  split at h
  case isTrue hlt => exact Except.ok.inj h ▸ hlt
  case isFalse =>
    split at h
    · rw [expireAt_eq_ok h]
      exact Nat.lt_add_of_pos_right w.shape.span_pos
    · exact lt_expiry_of_turnUntil h

/-- Bringing a window up to the present twice is doing so once. -/
theorem rotate_rotate (h : w.rotate now = .ok w') : w'.rotate now = .ok w' :=
  if_pos (lt_expiry_of_rotate h)

end Present

/-! ## The range of the clock -/

section Range

variable {now : Nat} {w : AgeWindow}

/-- Turning moves the end of a span only while it is not ahead of the present, so never further
ahead than one span. -/
theorem turnUntil_isOk (hin : now + w.shape.span < Duration.clockLimit) :
    ∃ w', turnUntil now w = .ok w' := by
  fun_induction turnUntil now w with
  | case1 w hlt => exact ⟨w, rfl⟩
  | case2 w hle hlimit ih => exact ih hin
  | case3 w hle hout => omega

theorem rotate_isOk (hin : now + w.shape.span < Duration.clockLimit) :
    ∃ w', w.rotate now = .ok w' := by
  unfold rotate
  split
  · exact ⟨w, rfl⟩
  · split
    · unfold expireAt
      rw [if_pos hin]
      exact ⟨_, rfl⟩
    · exact turnUntil_isOk hin

theorem perform_isOk (call : Call) (hin : now + w.shape.span < Duration.clockLimit) :
    ∃ w', w.perform now call = .ok w' := by
  obtain ⟨r, hr⟩ := rotate_isOk hin
  cases call with
  | observe x => exact ⟨r.record x, by simp only [perform, observe, hr, Except.map]⟩
  | report => exact ⟨r, hr⟩

theorem performAll_isOk {calls : List (Nat × Call)}
    (hin : ∀ c ∈ calls, c.1 + w.shape.span < Duration.clockLimit) :
    ∃ w', performAll calls w = .ok w' := by
  induction calls generalizing w with
  | nil => exact ⟨w, rfl⟩
  | cons c calls ih =>
    obtain ⟨now, call⟩ := c
    obtain ⟨r, hr⟩ := perform_isOk call (hin (now, call) List.mem_cons_self)
    unfold performAll
    rw [hr]
    apply ih
    intro c hc
    rw [shape_perform hr]
    exact hin c (List.mem_cons_of_mem _ hc)

end Range

theorem after?_isSome {shape : WindowShape} {created : Nat} {calls : List (Nat × Call)}
    (hstart : created + shape.span < Duration.clockLimit)
    (hin : ∀ c ∈ calls, c.1 + shape.span < Duration.clockLimit) :
    ∃ w, after? shape created calls = some w := by
  unfold after? start?
  rw [if_pos hstart]
  have hfresh : ∀ c ∈ calls, c.1 + (fresh shape created).shape.span < Duration.clockLimit := hin
  obtain ⟨w, hw⟩ := performAll_isOk hfresh
  exact ⟨w, by simp only [hw, Except.toOption]⟩

end MetricBundle.AgeWindow
