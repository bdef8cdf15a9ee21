import Mathlib.Logic.Function.Iterate
import Mathlib.Tactic.Ring
import MetricBundle.Proofs.WindowCoverage

/-!
# Turning ends, within bounds

A window is brought up to the present by a loop: as long as its span has ended, it is turned, and the
next span begins where the last one ended.  Every turn moves the expiry on by one span, which is
never zero, so the number of turns is known beforehand (`turnsUntil`), however short the window is
and however many streams it has.

No step changes how many streams there are, and none makes a stream hold more than it may
(`Reached.size_le`).  Windows are taken here as they can be reached when their streams hold any
number of samples, zero included, which stands for streams that are never full.

After a break as long as the window the loop is not entered, and all streams are emptied at once.
With options that are accepted, streams are together no longer than the window
(`span_of_accepted`), so the loop would have emptied them all as well (`streams_turnUntil_of_idle`).
-/

namespace MetricBundle

/-- A part of a length of time: seconds and nanoseconds are divided apart, and what is left of both
is divided together. -/
def Duration.share (d n : Nat) : Nat :=
  of (seconds d / n) (subsecond d / n + (seconds d % n * nanosPerSecond + subsecond d % n) / n)

/-- No nanosecond is lost. -/
theorem Duration.share_eq (d : Nat) {n : Nat} (h : 0 < n) : share d n = d / n := by
  have hseconds := Nat.div_add_mod (seconds d) n
  have hsubsecond := Nat.div_add_mod (subsecond d) n
  have hparts : d = n * (seconds d / n * nanosPerSecond + subsecond d / n) +
      (seconds d % n * nanosPerSecond + subsecond d % n) := by
    calc
      d = seconds d * nanosPerSecond + subsecond d := (of_seconds_subsecond d).symm
      _ = (n * (seconds d / n) + seconds d % n) * nanosPerSecond +
          (n * (subsecond d / n) + subsecond d % n) := by rw [hseconds, hsubsecond]
      _ = _ := by ring
  rw [share, of]
  conv_rhs => rw [hparts, Nat.mul_add_div h]
  ring

namespace AgeWindow

variable {shape : WindowShape} {capacity now : Nat} {w w' : AgeWindow}

/-! ## The loop -/

/-- One turn of the loop. -/
def turn (w : AgeWindow) : AgeWindow := { w.turned with expiry := w.expiry + w.shape.span }

/-- How many turns bring the window up to the present. -/
def turnsUntil (now : Nat) (w : AgeWindow) : Nat :=
  if now < w.expiry then 0 else (now - w.expiry) / w.shape.span + 1

theorem shape_iterate_turn (k : Nat) (w : AgeWindow) : (turn^[k] w).shape = w.shape := by
  induction k with
  | zero => rfl
  | succ k ih => rw [Function.iterate_succ_apply', ← ih]; rfl

theorem expiry_iterate_turn (k : Nat) (w : AgeWindow) :
    (turn^[k] w).expiry = w.expiry + k * w.shape.span := by
  induction k with
  | zero => simp
  | succ k ih =>
    have hstep : (turn^[k + 1] w).expiry = (turn^[k] w).expiry + (turn^[k] w).shape.span := by
      rw [Function.iterate_succ_apply']
      rfl
    rw [hstep, ih, shape_iterate_turn, Nat.succ_mul, Nat.add_assoc]

/-- A turn leaves one turn less to do. -/
theorem turnsUntil_turn (hle : w.expiry ≤ now) : turnsUntil now w = turnsUntil now w.turn + 1 := by
  have hspan := w.shape.span_pos
  show (if now < w.expiry then 0 else _) =
    (if now < w.expiry + w.shape.span then 0
      else (now - (w.expiry + w.shape.span)) / w.shape.span + 1) + 1
  rw [if_neg (by omega)]
  by_cases hlast : now < w.expiry + w.shape.span
  · rw [if_pos hlast, Nat.div_eq_of_lt (by omega)]
  · rw [if_neg hlast, Nat.div_eq_sub_div hspan (by omega), Nat.sub_sub]

/-- **The loop ends after the turns that were counted beforehand.** -/
theorem turnUntil_eq_iterate (h : turnUntil now w = .ok w') :
    w' = turn^[turnsUntil now w] w := by
  fun_induction turnUntil now w with
  | case1 w hlt =>
    rw [turnsUntil, if_pos hlt]
    exact (Except.ok.inj h).symm
  | case2 w hle hin ih =>
    rw [turnsUntil_turn (by omega), Function.iterate_succ_apply]
    exact ih h
  | case3 w hle hout => cases h

/-- The span has ended before every one of these turns. -/
theorem expiry_le_of_lt_turnsUntil {k : Nat} (hk : k < turnsUntil now w) :
    (turn^[k] w).expiry ≤ now := by
  unfold turnsUntil at hk
  split at hk
  case isTrue => omega
  case isFalse hle =>
    have hk : k ≤ (now - w.expiry) / w.shape.span := by omega
    have hmul := (Nat.le_div_iff_mul_le w.shape.span_pos).mp hk
    rw [expiry_iterate_turn]
    omega

/-! ## What the loop empties -/

/-- Every turn empties one more of the youngest streams. -/
theorem stream?_iterate_turn {k j : Nat} (hj : j < w.shape.ageBuckets)
    (hk : w.shape.ageBuckets ≤ j + k) : (turn^[k] w).stream? j = some [] := by
  induction k generalizing j with
  | zero => omega
  | succ k ih =>
    rw [Function.iterate_succ_apply']
    show (turn^[k] w).turned.stream? j = some []
    have hshape := shape_iterate_turn k w
    by_cases hlast : j + 1 = w.shape.ageBuckets
    · exact stream?_turned_last (by rw [hshape, hlast])
    · rw [stream?_turned_of_lt (by rw [hshape]; omega)]
      exact ih (by omega) (by omega)

/-- Every stream has its place after the head. -/
theorem exists_place {i : Nat} (hi : i < w.shape.ageBuckets) :
    ∃ j < w.shape.ageBuckets, w.place j = i := by
  have hhead := w.head_lt
  unfold place
  by_cases hle : w.head ≤ i
  · refine ⟨i - w.head, by omega, ?_⟩
    rw [Nat.add_sub_cancel' hle, Nat.mod_eq_of_lt hi]
  · refine ⟨i + w.shape.ageBuckets - w.head, by omega, ?_⟩
    rw [Nat.add_sub_cancel' (by omega), Nat.add_mod_right, Nat.mod_eq_of_lt hi]

theorem eq_empty_of_samples {q : SampleQueue} (h : q.samples = []) : q = .empty := by
  obtain ⟨recent, size, hsize⟩ := q
  obtain rfl : recent = [] := List.reverse_eq_nil_iff.mp h
  obtain rfl : 0 = size := hsize
  rfl

/-- The streams are empty if there is nothing in any place. -/
theorem eq_empty_of_stream? (h : ∀ j < w.shape.ageBuckets, w.stream? j = some []) :
    ∀ q ∈ w.streams, q = .empty := by
  intro q hq
  obtain ⟨i, hi, rfl⟩ := List.mem_iff_getElem.mp hq
  obtain ⟨j, hj, rfl⟩ := exists_place (w.length_streams ▸ hi)
  have hstream := h j hj
  rw [stream?, List.getElem?_eq_getElem hi] at hstream
  exact eq_empty_of_samples (Option.some.inj hstream)

/-- **After a break as long as the window the loop empties every stream**, provided that the streams
are together no longer than the window. -/
theorem streams_turnUntil_of_idle (hshape : w.shape.ageBuckets * w.shape.span ≤ w.shape.maxAge)
    (hle : w.expiry ≤ now) (hidle : w.shape.maxAge ≤ now - w.expiry)
    (h : turnUntil now w = .ok w') : ∀ q ∈ w'.streams, q = .empty := by
  have hturns : w.shape.ageBuckets ≤ turnsUntil now w := by
    rw [turnsUntil, if_neg (by omega)]
    have hdiv : w.shape.ageBuckets ≤ (now - w.expiry) / w.shape.span :=
      (Nat.le_div_iff_mul_le w.shape.span_pos).mpr (hshape.trans hidle)
    omega
  obtain rfl := turnUntil_eq_iterate h
  have hsame := shape_iterate_turn (turnsUntil now w) w
  apply eq_empty_of_stream?
  intro j hj
  rw [hsame] at hj
  exact stream?_iterate_turn hj (by omega)

/-! ## Reached windows -/

/-- Adds a sample to every stream.  One that holds the given number of samples loses its first. -/
def recordWithin (capacity : Nat) (sample : Number) (w : AgeWindow) : AgeWindow :=
  { w with
    streams := w.streams.map (.push capacity sample)
    sum := w.sum.add sample
    count := w.count + 1
    length_streams := by rw [List.length_map, w.length_streams] }

/-- **The windows that can be reached**, at any times, from a start: by bringing the window up to the
present, as for a report, and by observing samples then. -/
inductive Reached (shape : WindowShape) (capacity : Nat) : AgeWindow → Prop
  | start {created : Nat} {w : AgeWindow} :
    start? shape created = some w → Reached shape capacity w
  | rotate {now : Nat} {w w' : AgeWindow} :
    Reached shape capacity w → w.rotate now = .ok w' → Reached shape capacity w'
  | observe {now : Nat} {w w' : AgeWindow} (sample : Number) :
    Reached shape capacity w → w.rotate now = .ok w' →
      Reached shape capacity (w'.recordWithin capacity sample)

theorem Reached.shape_eq (h : Reached shape capacity w) : w.shape = shape := by
  induction h with
  | start hstart => rw [start?_eq_some hstart]; rfl
  | rotate _ hrotate ih => rw [shape_rotate hrotate, ih]
  | observe sample _ hrotate ih => exact (shape_rotate hrotate).trans ih

/-- No stream ever holds more than it may, unless it may hold any number of samples. -/
theorem Reached.size_le (h : Reached shape capacity w) (hpos : capacity ≠ 0) :
    ∀ q ∈ w.streams, q.size ≤ capacity := by
  induction h with
  | start hstart =>
    rw [start?_eq_some hstart]
    intro q hq
    rw [List.eq_of_mem_replicate hq]
    exact Nat.zero_le _
  | rotate _ hrotate ih => exact forall_streams_rotate (Nat.zero_le _) ih hrotate
  | observe sample _ hrotate ih =>
    intro q hq
    obtain ⟨old, hold, rfl⟩ := List.mem_map.mp hq
    have hsize : old.size ≤ capacity := forall_streams_rotate (Nat.zero_le _) ih hrotate old hold
    exact size_push (Nat.pos_of_ne_zero hpos) hsize sample

/-- Runs reach windows whose streams have the capacity of the shape. -/
theorem reached_performAll {calls : List (Nat × Call)} (h : Reached shape shape.capacity w)
    (hcalls : performAll calls w = .ok w') : Reached shape shape.capacity w' := by
  induction calls generalizing w with
  | nil => exact Except.ok.inj hcalls ▸ h
  | cons c calls ih =>
    obtain ⟨now, call⟩ := c
    unfold performAll at hcalls
    split at hcalls
    case h_1 r hr =>
      refine ih ?_ hcalls
      cases call with
      | observe sample =>
        obtain ⟨u, hu, rfl⟩ := observe_eq_ok hr
        have hshape : u.shape = shape := (h.rotate hu).shape_eq
        have hobserved := h.observe sample hu
        rw [← hshape] at hobserved ⊢
        exact hobserved
      | report => exact h.rotate hr
    case h_2 => cases hcalls

theorem reached_after? {created : Nat} {calls : List (Nat × Call)}
    (h : after? shape created calls = some w) : Reached shape shape.capacity w := by
  obtain ⟨w₀, hstart, hcalls⟩ := after?_eq_some h
  exact reached_performAll (.start hstart) hcalls

/-! ## Bringing a window up to the present -/

/-- Unless the break is as long as the window, the loop is what brings it up to the present. -/
theorem rotate_of_lt (hle : w.expiry ≤ now) (hlt : now - w.expiry < w.shape.maxAge) :
    w.rotate now = turnUntil now w := by
  rw [rotate, if_neg (by omega), if_neg (by omega)]

/-- After a longer break nothing is left, and the next span is within the range of the clock. -/
theorem rotate_of_idle (hle : w.expiry ≤ now) (hidle : w.shape.maxAge ≤ now - w.expiry)
    (h : w.rotate now = .ok w') :
    now + w.shape.span < Duration.clockLimit ∧ ∀ q ∈ w'.streams, q = .empty := by
  rw [rotate, if_neg (by omega), if_pos hidle] at h
  constructor
  · by_contra hout
    rw [expireAt, if_neg hout] at h
    cases h
  · rw [expireAt_eq_ok h]
    intro q hq
    obtain ⟨_, -, rfl⟩ := List.mem_map.mp hq
    rfl

/-- With options that are accepted a span is never below a nanosecond, and need not be raised to
one. -/
theorem span_of_accepted {o : SummaryOpts} {labels : Option (List String)} {b : Blueprint}
    (h : Blueprint.of { opts := .summary o, labels } = .ok b) :
    o.window.span = o.window.maxAge / o.window.ageBuckets :=
  Nat.max_eq_left ((Nat.one_le_div_iff o.window.ageBuckets_pos).mpr (ageBuckets_le_maxAge h))

/-- **Turning ends, within bounds.**  Whatever the shape of a window, and whatever its streams may
hold, every window that is reached has as many streams as its shape says, with the head among them,
and none is over-full.  It is brought up to the present unless the range of the clock is left, and
then expires later; the loop is left after the turns counted beforehand, each of a span that had
ended, and with the head among the streams.

With options that are accepted, a span is an exact part of the window, which all streams together do
not exceed.  So after a break that empties them at once, the loop would have emptied them as
well. -/
theorem rotate_ends_in_bounds :
    (∀ (shape : WindowShape) (capacity : Nat) (w : AgeWindow), Reached shape capacity w →
      w.streams.length = shape.ageBuckets ∧ w.head < w.streams.length ∧
      (capacity ≠ 0 → ∀ q ∈ w.streams, q.samples.length ≤ capacity) ∧
      ∀ now,
        (now + shape.span < Duration.clockLimit → ∃ w', w.rotate now = .ok w') ∧
        ∀ w', w.rotate now = .ok w' →
          now < w'.expiry ∧
          (w.expiry ≤ now → now - w.expiry < shape.maxAge →
            w' = turn^[turnsUntil now w] w ∧
            ∀ k < turnsUntil now w, (turn^[k] w).expiry ≤ now ∧
              (turn^[k] w).head < (turn^[k] w).streams.length)) ∧
    ∀ (o : SummaryOpts) (labels : Option (List String)) (b : Blueprint),
      Blueprint.of { opts := .summary o, labels } = .ok b →
      o.window.span = Duration.share o.window.maxAge o.window.ageBuckets ∧
      o.window.span = o.window.maxAge / o.window.ageBuckets ∧
      o.window.ageBuckets * o.window.span ≤ o.window.maxAge ∧
      ∀ (w w' : AgeWindow) (now : Nat), w.shape = o.window → w.expiry ≤ now →
        o.window.maxAge ≤ now - w.expiry → w.rotate now = .ok w' →
        (∀ q ∈ w'.streams, q = .empty) ∧
        ∃ v, turnUntil now w = .ok v ∧ ∀ q ∈ v.streams, q = .empty := by
  refine ⟨fun shape capacity w hreached => ?reached, fun o labels b haccepted => ?accepted⟩
  case reached =>
    have hshape := hreached.shape_eq
    have hhead (u : AgeWindow) : u.head < u.streams.length := u.length_streams ▸ u.head_lt
    refine ⟨hshape ▸ w.length_streams, hhead w, ?room, fun now => ?_⟩
    case room =>
      intro hpos q hq
      rw [SampleQueue.samples, List.length_reverse, q.length_recent]
      exact hreached.size_le hpos q hq
    refine ⟨fun hin => rotate_isOk (hshape ▸ hin), fun w' hrotate => ?_⟩
    refine ⟨lt_expiry_of_rotate hrotate, fun hle hlt => ?_⟩
    rw [rotate_of_lt hle (hshape ▸ hlt)] at hrotate
    exact ⟨turnUntil_eq_iterate hrotate, fun k hk => ⟨expiry_le_of_lt_turnsUntil hk, hhead _⟩⟩
  case accepted =>
    have hspan := span_of_accepted haccepted
    have htogether := ageBuckets_mul_span_le (ageBuckets_le_maxAge haccepted)
    refine ⟨?_, hspan, htogether, fun w w' now hshape hle hidle hrotate => ?_⟩
    · rw [Duration.share_eq _ o.window.ageBuckets_pos, hspan]
    rw [← hshape] at htogether hidle
    obtain ⟨hin, hempty⟩ := rotate_of_idle hle hidle hrotate
    obtain ⟨v, hv⟩ := turnUntil_isOk hin
    exact ⟨hempty, v, hv, streams_turnUntil_of_idle htogether hle hidle hv⟩

end AgeWindow

end MetricBundle
