import MetricBundle.Blueprint
import MetricBundle.Proofs.WindowRun
import Mathlib.Data.List.DropRight

/-!
# What an age window remembers

The streams of a window begin one span apart, and the oldest of them is reported.  So at any moment
the stream `j` places after the head holds the samples that were recorded at most `n - j` spans
before the expiry, where `n` is the number of streams, and of these the last ones that it has room
for (`remembered`).  This is what `Tracks` says of a window and the samples recorded so far, for all
streams at once, together with the sum and the count of all samples.

Every step of a run keeps it.  Turning moves the expiry on by one span and each stream one place
nearer to the head; the old head is now the last one, and may be empty since nothing was recorded
after the old expiry.  After a break of at least the whole window even the youngest stream has
outlived all samples when a new span begins, provided that the streams together are no longer than
the window: that is where the checks on the options come in.
-/

namespace MetricBundle.AgeWindow

variable {shape : WindowShape} {now : Nat} {history : List (Nat × Number)} {w w' : AgeWindow}

/-- The samples recorded at most so many spans before the expiry. -/
def since (shape : WindowShape) (expiry spans : Nat) (history : List (Nat × Number)) :
    List (Nat × Number) :=
  history.filter fun p => expiry ≤ p.1 + spans * shape.span

/-- The last of these samples, as many as a stream can hold. -/
def remembered (shape : WindowShape) (expiry spans : Nat) (history : List (Nat × Number)) :
    List (Nat × Number) :=
  (since shape expiry spans history).rtake shape.capacity

/-- The samples in the stream that is so many places after the head. -/
def stream? (w : AgeWindow) (offset : Nat) : Option (List Number) :=
  w.streams[w.place offset]?.map SampleQueue.samples

/-- The window is the one that the samples, recorded at their times, have led to.  No sample and no
expiry lies further ahead than the present allows. -/
structure Tracks (shape : WindowShape) (now : Nat) (history : List (Nat × Number))
    (w : AgeWindow) : Prop where
  shape_eq : w.shape = shape
  count_eq : w.count = history.length
  sum_eq : w.sum = (history.map Prod.snd).foldl Number.add Number.zero
  stream_eq : ∀ j < shape.ageBuckets, w.stream? j =
    some ((remembered shape w.expiry (shape.ageBuckets - j) history).map Prod.snd)
  past : ∀ p ∈ history, p.1 ≤ now
  unexpired : ∀ p ∈ history, p.1 < w.expiry
  expiry_le : w.expiry ≤ now + shape.span

/-! ## Samples by age -/

theorem remembered_eq_nil {expiry spans : Nat}
    (h : ∀ p ∈ history, p.1 + spans * shape.span < expiry) :
    remembered shape expiry spans history = [] := by
  have hnone : since shape expiry spans history = [] :=
    List.filter_eq_nil_iff.mpr fun p hp => by
      rw [decide_eq_true_eq]
      exact Nat.not_le_of_lt (h p hp)
  rw [remembered, hnone, List.rtake_nil]

/-- Moving the expiry on by a span makes all samples one span older. -/
theorem remembered_succ (expiry spans : Nat) (history : List (Nat × Number)) :
    remembered shape (expiry + shape.span) (spans + 1) history =
      remembered shape expiry spans history := by
  have hsince : since shape (expiry + shape.span) (spans + 1) history =
      since shape expiry spans history := by
    refine List.filter_congr fun p _ => ?_
    rw [decide_eq_decide, Nat.succ_mul]
    omega
  rw [remembered, remembered, hsince]

/-- A sample of the present is in every stream. -/
theorem since_concat {expiry spans : Nat} {x : Number} (hspans : 0 < spans)
    (hexp : expiry ≤ now + shape.span) :
    since shape expiry spans (history ++ [(now, x)]) =
      since shape expiry spans history ++ [(now, x)] := by
  have hle : shape.span ≤ spans * shape.span := Nat.le_mul_of_pos_left _ hspans
  have hnow : expiry ≤ now + spans * shape.span := by omega
  unfold since
  rw [List.filter_append, List.filter_singleton, decide_eq_true hnow]
  rfl

/-! ## Queues -/

theorem map_rtake {α β : Type} (f : α → β) (l : List α) (n : Nat) :
    (l.rtake n).map f = (l.map f).rtake n := by
  rw [List.rtake, List.rtake, List.map_drop, List.length_map]

/-- A queue that holds the last samples of a list holds the last ones of the longer list after the
next sample. -/
theorem samples_push {l : List Number} {capacity : Nat} {q : SampleQueue} (hpos : 0 < capacity)
    (hq : q.samples = l.rtake capacity) (x : Number) :
    (q.push capacity x).samples = (l ++ [x]).rtake capacity := by
  obtain ⟨room, rfl⟩ : ∃ room, capacity = room + 1 := ⟨capacity - 1, by omega⟩
  have hrecent : q.recent = l.reverse.take (room + 1) := by
    rwa [List.rtake_eq_reverse_take_reverse, SampleQueue.samples, List.reverse_inj] at hq
  have hsize : q.size = min (room + 1) l.length := by
    rw [← q.length_recent, hrecent, List.length_take, List.length_reverse]
  have hkept : (q.push (room + 1) x).recent = x :: l.reverse.take room := by
    unfold SampleQueue.push
    split
    case isTrue hfull =>
      show x :: q.recent.dropLast = _
      rw [List.dropLast_eq_take, q.length_recent, hfull, hrecent, List.take_take]
      simp
    case isFalse hroom =>
      show x :: q.recent = _
      have hlength : l.reverse.length ≤ room := by
        rw [List.length_reverse]
        omega
      rw [hrecent, List.take_of_length_le hlength, List.take_of_length_le (by omega)]
  rw [SampleQueue.samples, hkept, List.rtake_eq_reverse_take_reverse, List.reverse_append]
  rfl

/-! ## The ring -/

theorem place_lt (w : AgeWindow) (offset : Nat) : w.place offset < w.streams.length := by
  rw [w.length_streams]
  exact Nat.mod_lt _ w.shape.ageBuckets_pos

theorem place_zero (w : AgeWindow) : w.place 0 = w.head := Nat.mod_eq_of_lt w.head_lt

/-- Going once around the ring leads back to the head. -/
theorem place_ageBuckets (w : AgeWindow) : w.place w.shape.ageBuckets = w.head := by
  rw [place, Nat.add_mod_right, Nat.mod_eq_of_lt w.head_lt]

/-- Any fewer places do not. -/
theorem place_ne_head {w : AgeWindow} {offset : Nat} (hpos : 0 < offset)
    (hlt : offset < w.shape.ageBuckets) : w.place offset ≠ w.head := by
  have hhead := w.head_lt
  unfold place
  rcases Nat.lt_or_ge (w.head + offset) w.shape.ageBuckets with hin | hover
  · rw [Nat.mod_eq_of_lt hin]
    omega
  · rw [Nat.mod_eq_sub_mod hover, Nat.mod_eq_of_lt (by omega)]
    omega

/-- When the next stream is at the head, every place is one nearer to it. -/
theorem place_turned (w : AgeWindow) (offset : Nat) :
    w.turned.place offset = w.place (offset + 1) := by
  show ((w.head + 1) % w.shape.ageBuckets + offset) % w.shape.ageBuckets = _
  rw [Nat.mod_add_mod, place, Nat.add_assoc, Nat.add_comm 1]

theorem stream?_turned_of_lt {offset : Nat} (h : offset + 1 < w.shape.ageBuckets) :
    w.turned.stream? offset = w.stream? (offset + 1) := by
  rw [stream?, place_turned, turned, List.getElem?_set_ne (place_ne_head (Nat.succ_pos _) h).symm]
  rfl

/-- The old head is now the youngest stream, and empty. -/
theorem stream?_turned_last {offset : Nat} (h : offset + 1 = w.shape.ageBuckets) :
    w.turned.stream? offset = some [] := by
  have hhead : w.head < w.streams.length := by rw [w.length_streams]; exact w.head_lt
  rw [stream?, place_turned, h, place_ageBuckets, turned, List.getElem?_set_self hhead]
  rfl

theorem stream?_cleared (w : AgeWindow) (offset : Nat) : w.cleared.stream? offset = some [] := by
  have hlt := w.place_lt offset
  have hplace : w.streams[w.place offset]? = some w.streams[w.place offset] :=
    List.getElem?_eq_getElem hlt
  show (w.streams.map fun _ => SampleQueue.empty)[w.place offset]?.map SampleQueue.samples = _
  rw [List.getElem?_map, hplace]
  rfl

theorem stream?_zero (w : AgeWindow) : w.stream? 0 = some w.reported := by
  have hhead : w.head < w.streams.length := by rw [w.length_streams]; exact w.head_lt
  rw [stream?, place_zero, List.getElem?_eq_getElem hhead]
  rfl

theorem stream?_record (x : Number) (w : AgeWindow) (offset : Nat) :
    (w.record x).stream? offset =
      w.streams[w.place offset]?.map fun q => (q.push w.shape.capacity x).samples := by
  show (w.streams.map (.push w.shape.capacity x))[w.place offset]?.map SampleQueue.samples = _
  rw [List.getElem?_map, Option.map_map]
  rfl

/-! ## Steps -/

theorem Tracks.later (ht : Tracks shape now history w) {later : Nat} (hle : now ≤ later) :
    Tracks shape later history w :=
  { ht with
    past := fun p hp => Nat.le_trans (ht.past p hp) hle
    expiry_le := Nat.le_trans ht.expiry_le (Nat.add_le_add_right hle _) }

theorem tracks_start {created : Nat} (h : start? shape created = some w) :
    Tracks shape created [] w := by
  rw [start?_eq_some h]
  constructor
  case stream_eq =>
    intro j hj
    have hplace : (fresh shape created).place j < shape.ageBuckets :=
      Nat.mod_lt _ shape.ageBuckets_pos
    show (List.replicate shape.ageBuckets SampleQueue.empty)[_]?.map SampleQueue.samples = _
    rw [List.getElem?_replicate, if_pos hplace, remembered_eq_nil (by simp)]
    rfl
  case expiry_le => exact Nat.le_refl _
  all_goals simp [fresh]

/-- Turning moves the expiry on and every stream one place nearer to the head. -/
theorem tracks_turned (ht : Tracks shape now history w) (hle : w.expiry ≤ now) :
    Tracks shape now history { w.turned with expiry := w.expiry + w.shape.span } := by
  constructor
  case shape_eq => exact ht.shape_eq
  case count_eq => exact ht.count_eq
  case sum_eq => exact ht.sum_eq
  case past => exact ht.past
  case unexpired => exact fun p hp => Nat.lt_add_right _ (ht.unexpired p hp)
  case expiry_le =>
    show w.expiry + w.shape.span ≤ now + shape.span
    rw [ht.shape_eq]
    omega
  case stream_eq =>
    intro j hj
    show w.turned.stream? j = some ((remembered shape (w.expiry + w.shape.span) _ history).map _)
    rw [ht.shape_eq]
    -- going round the ring, the last place is the one that has been emptied
    by_cases hlast : j + 1 = shape.ageBuckets
    · -- the emptied stream is the youngest: nothing was recorded since the old expiry
      have hnone : remembered shape w.expiry 0 history = [] :=
        remembered_eq_nil fun p hp => by have := ht.unexpired p hp; omega
      rw [stream?_turned_last (by rw [ht.shape_eq, hlast]), ← hlast, Nat.add_sub_cancel_left,
        remembered_succ w.expiry 0, hnone]
      rfl
    · have hnext : j + 1 < shape.ageBuckets := by omega
      have hspans : shape.ageBuckets - j = shape.ageBuckets - (j + 1) + 1 := by omega
      rw [stream?_turned_of_lt (by rwa [ht.shape_eq]), ht.stream_eq (j + 1) hnext, hspans,
        remembered_succ]

/-- When the streams together have run out, a new span may begin. -/
theorem tracks_cleared (ht : Tracks shape now history w)
    (hout : w.expiry + shape.ageBuckets * shape.span ≤ now) :
    Tracks shape now history { w.cleared with expiry := now + w.shape.span } := by
  constructor
  case shape_eq => exact ht.shape_eq
  case count_eq => exact ht.count_eq
  case sum_eq => exact ht.sum_eq
  case past => exact ht.past
  case unexpired =>
    intro p hp
    have hpos := w.shape.span_pos
    have hp := ht.past p hp
    show p.1 < now + w.shape.span
    omega
  case expiry_le =>
    show now + w.shape.span ≤ now + shape.span
    rw [ht.shape_eq]
  case stream_eq =>
    intro j hj
    have hnone : remembered shape (now + w.shape.span) (shape.ageBuckets - j) history = [] := by
      refine remembered_eq_nil fun p hp => ?_
      have hp := ht.unexpired p hp
      have hj := Nat.mul_le_mul_right shape.span (Nat.sub_le shape.ageBuckets j)
      omega
    show w.cleared.stream? j = some ((remembered shape (now + w.shape.span) _ history).map _)
    rw [stream?_cleared, hnone]
    rfl

theorem tracks_turnUntil (ht : Tracks shape now history w) (h : turnUntil now w = .ok w') :
    Tracks shape now history w' ∧ now < w'.expiry := by
  fun_induction turnUntil now w with
  | case1 w hlt =>
    cases h
    exact ⟨ht, hlt⟩
  | case2 w hle hin ih => exact ih (tracks_turned ht (Nat.le_of_not_lt hle)) h
  | case3 w hle hout => cases h

/-- Bringing a window up to the present keeps track of what was recorded, whether it is turned or
cleared, and puts the expiry ahead of the present. -/
theorem tracks_rotate (hshape : shape.ageBuckets * shape.span ≤ shape.maxAge)
    (ht : Tracks shape now history w) (h : w.rotate now = .ok w') :
    Tracks shape now history w' ∧ now < w'.expiry := by
  unfold rotate at h
  split at h
  case isTrue hlt =>
    cases h
    exact ⟨ht, hlt⟩
  case isFalse hle =>
    split at h
    case isTrue hidle =>
      rw [expireAt_eq_ok h]
      refine ⟨tracks_cleared ht ?_, Nat.lt_add_of_pos_right w.shape.span_pos⟩
      rw [ht.shape_eq] at hidle
      omega
    case isFalse => exact tracks_turnUntil ht h

theorem tracks_record {x : Number} (ht : Tracks shape now history w) (hlt : now < w.expiry) :
    Tracks shape now (history ++ [(now, x)]) (w.record x) := by
  constructor
  case shape_eq => exact ht.shape_eq
  case count_eq =>
    show w.count + 1 = _
    rw [ht.count_eq, List.length_append, List.length_singleton]
  case sum_eq =>
    show w.sum.add x = _
    rw [ht.sum_eq, List.map_append, List.foldl_append]
    rfl
  case stream_eq =>
    intro j hj
    have hold := ht.stream_eq j hj
    rw [stream?, Option.map_eq_some_iff] at hold
    obtain ⟨q, hq, hsamples⟩ := hold
    rw [remembered, map_rtake] at hsamples
    show _ = some ((remembered shape w.expiry (shape.ageBuckets - j) _).map _)
    rw [stream?_record, hq, Option.map_some, remembered, since_concat (by omega) ht.expiry_le,
      map_rtake, List.map_append, ht.shape_eq, samples_push shape.capacity_pos hsamples]
    rfl
  case past =>
    intro p hp
    rcases List.mem_append.mp hp with hp | hp
    · exact ht.past p hp
    · rw [List.mem_singleton.mp hp]
  case unexpired =>
    intro p hp
    rcases List.mem_append.mp hp with hp | hp
    · exact ht.unexpired p hp
    · rw [List.mem_singleton.mp hp]
      exact hlt
  case expiry_le => exact ht.expiry_le

theorem tracks_perform (hshape : shape.ageBuckets * shape.span ≤ shape.maxAge) {call : Call}
    (ht : Tracks shape now history w) (h : w.perform now call = .ok w') :
    Tracks shape now (history ++ recorded [(now, call)]) w' := by
  cases call with
  | observe x =>
    obtain ⟨r, hr, rfl⟩ := observe_eq_ok h
    obtain ⟨hr, hlt⟩ := tracks_rotate hshape ht hr
    exact tracks_record hr hlt
  | report =>
    rw [recorded_report, recorded_nil, List.append_nil]
    exact (tracks_rotate hshape ht h).1

/-- **Calls keep track of what they record**, at any times that never go back. -/
theorem tracks_performAll (hshape : shape.ageBuckets * shape.span ≤ shape.maxAge)
    {calls : List (Nat × Call)} {later : Nat} (ht : Tracks shape now history w)
    (hf : Forward (now :: calls.map Prod.fst ++ [later])) (h : performAll calls w = .ok w') :
    Tracks shape later (history ++ recorded calls) w' := by
  induction calls generalizing now history w with
  | nil =>
    cases h
    rw [recorded_nil, List.append_nil]
    exact ht.later ((List.pairwise_cons.mp hf).1 later (by simp))
  | cons c calls ih =>
    obtain ⟨time, call⟩ := c
    obtain ⟨hnow, hf⟩ := List.pairwise_cons.mp hf
    unfold performAll at h
    split at h
    case h_1 r hr =>
      have ht := tracks_perform hshape (ht.later (hnow time (by simp))) hr
      have hw := ih ht hf h
      rwa [List.append_assoc, ← recorded_append] at hw
    case h_2 => cases h

/-- What is reported is what the head remembers. -/
theorem reported_eq (ht : Tracks shape now history w) :
    w.reported = (remembered shape w.expiry shape.ageBuckets history).map Prod.snd :=
  Option.some.inj ((stream?_zero w).symm.trans (ht.stream_eq 0 shape.ageBuckets_pos))

/-! ## Accepted options -/

/-- Streams of a window that has a nanosecond for each are together no longer than the window. -/
theorem ageBuckets_mul_span_le (h : shape.ageBuckets ≤ shape.maxAge) :
    shape.ageBuckets * shape.span ≤ shape.maxAge := by
  have hdiv : 1 ≤ shape.maxAge / shape.ageBuckets :=
    (Nat.one_le_div_iff shape.ageBuckets_pos).mpr h
  unfold WindowShape.span
  rw [Nat.max_eq_left hdiv]
  exact Nat.mul_div_le _ _

theorem ageBuckets_le_maxAge {o : SummaryOpts} {labels : Option (List String)} {b : Blueprint}
    (h : Blueprint.of { opts := .summary o, labels } = .ok b) :
    o.window.ageBuckets ≤ o.window.maxAge := by
  have hnone : o.defect (labels.getD []) = none := by
    unfold Blueprint.of at h
    split at h
    · cases h
    · assumption
  unfold SummaryOpts.defect at hnone
  split at hnone
  · cases hnone
  · split at hnone
    · cases hnone
    · split at hnone
      · cases hnone
      · omega

theorem tracks_after? (hshape : shape.ageBuckets * shape.span ≤ shape.maxAge) {created : Nat}
    {calls : List (Nat × Call)} (hf : Forward (created :: calls.map Prod.fst ++ [now]))
    (h : after? shape created calls = some w) : Tracks shape now (recorded calls) w := by
  obtain ⟨w₀, hstart, hcalls⟩ := after?_eq_some h
  exact tracks_performAll hshape (tracks_start hstart) hf hcalls

/-- A sample is among the last ones if few enough come after it. -/
theorem mem_rtake {before after : List (Nat × Number)} {p : Nat × Number} {n : Nat}
    (hlen : after.length < n) : p ∈ (before ++ p :: after).rtake n := by
  unfold List.rtake
  rw [List.drop_append_of_le_length (by rw [List.length_append, List.length_cons]; omega)]
  exact List.mem_append_right _ List.mem_cons_self

theorem mem_remembered {before after : List (Nat × Number)} {p : Nat × Number}
    {expiry spans : Nat} (hage : expiry ≤ p.1 + spans * shape.span)
    (hlen : after.length < shape.capacity) :
    p ∈ remembered shape expiry spans (before ++ p :: after) := by
  have hcons : since shape expiry spans (p :: after) = p :: since shape expiry spans after :=
    List.filter_cons_of_pos (decide_eq_true hage)
  have happend : since shape expiry spans (before ++ p :: after) =
      since shape expiry spans before ++ since shape expiry spans (p :: after) :=
    List.filter_append _ _
  rw [remembered, happend, hcons]
  exact mem_rtake (Nat.lt_of_le_of_lt (List.length_filter_le _ _) hlen)

theorem expiry_le_of_mem_remembered {p : Nat × Number} {expiry spans : Nat}
    (h : p ∈ remembered shape expiry spans history) :
    expiry ≤ p.1 + spans * shape.span := by
  have hp := List.mem_of_mem_drop h
  exact of_decide_eq_true (List.mem_filter.mp hp).2

/-- **A window remembers what its spans cover.**  It is started at some time and called at times
that never go back.  Unless the end of a span leaves the range of the clock, which it does not for
calls one span before that, the expiry after a report lies ahead of the present by at most one
span, and what is reported are the last samples, as many as a stream can hold, of those that were
recorded at most `n` spans before the expiry.  So none of them is older than the window, and one
that is at most `n - 1` spans old is reported unless too many came after it.  The count and the sum
are at any time those of all samples recorded so far. -/
theorem report_covers_spans {o : SummaryOpts} {labels : Option (List String)} {b : Blueprint}
    (haccepted : Blueprint.of { opts := .summary o, labels } = .ok b) {created now : Nat}
    {calls : List (Nat × Call)} (hf : Forward (created :: calls.map Prod.fst ++ [now])) :
    ((∀ t ∈ created :: calls.map Prod.fst ++ [now],
        t + o.window.span < Duration.clockLimit) →
      ∃ w, after? o.window created (calls ++ [(now, .report)]) = some w) ∧
    (∀ w, after? o.window created (calls ++ [(now, .report)]) = some w →
      let reported := remembered o.window w.expiry o.window.ageBuckets (recorded calls)
      now < w.expiry ∧ w.expiry ≤ now + o.window.span ∧
      w.reported = reported.map Prod.snd ∧
      (∀ objectives, w.quantiles objectives = objectives.map fun q =>
        (q.1, rank ((reported.map Prod.snd).mergeSort Number.totalLE) q.1)) ∧
      (∀ p ∈ reported, now ≤ p.1 + o.window.maxAge) ∧
      (∀ before p after, recorded calls = before ++ p :: after →
        now ≤ p.1 + (o.window.ageBuckets - 1) * o.window.span →
        after.length < o.window.capacity → p ∈ reported)) ∧
    (∀ w, after? o.window created calls = some w →
      w.count = (recorded calls).length ∧
      w.sum = ((recorded calls).map Prod.snd).foldl Number.add Number.zero) := by
  have hshape := ageBuckets_mul_span_le (ageBuckets_le_maxAge haccepted)
  refine ⟨?_, ?_, ?_⟩
  · intro hin
    refine after?_isSome (hin created (by simp)) fun c hc => ?_
    rcases List.mem_append.mp hc with hc | hc
    · exact hin c.1 (List.mem_append_left _
        (List.mem_cons_of_mem _ (List.mem_map.mpr ⟨c, hc, rfl⟩)))
    · rw [List.mem_singleton.mp hc]
      exact hin now (by simp)
  · intro w hw reported
    obtain ⟨r, hr, hrotate⟩ := after?_concat_eq_some hw
    obtain ⟨ht, hlt⟩ := tracks_rotate hshape (tracks_after? hshape hf hr) hrotate
    have hreported : w.reported = reported.map Prod.snd := reported_eq ht
    refine ⟨hlt, ht.expiry_le, hreported, ?_, ?_, ?_⟩
    · intro objectives
      rw [← hreported]
      rfl
    · intro p hp
      have hage := expiry_le_of_mem_remembered hp
      omega
    · intro before p after hsplit hage hlen
      have hexpiry := ht.expiry_le
      have hpos := o.window.ageBuckets_pos
      have hspans : o.window.ageBuckets * o.window.span =
          (o.window.ageBuckets - 1) * o.window.span + o.window.span := by
        rw [← Nat.succ_mul, Nat.succ_eq_add_one, Nat.sub_add_cancel hpos]
      simp only [reported, hsplit]
      exact mem_remembered (by omega) hlen
  · intro w hw
    have ht := tracks_after? hshape hf hw
    exact ⟨ht.count_eq, ht.sum_eq⟩

/-- Ten nanoseconds in two spans, with room for two samples in each: after a break of more than the
window and three samples, the last two are reported. -/
theorem report_covers_spans_after_break :
    let o : SummaryOpts :=
      { common := { name := "s", help := "h" }, maxAge := 10, ageBuckets := 2, bufCap := 2 }
    let calls : List (Nat × Call) :=
      [(1, .observe ⟨1⟩), (6, .observe ⟨2⟩), (7, .report), (30, .observe ⟨3⟩),
        (33, .observe ⟨4⟩), (36, .observe ⟨5⟩)]
    ∃ w, after? o.window 0 (calls ++ [(38, .report)]) = some w ∧
      38 < w.expiry ∧ w.expiry ≤ 43 ∧ w.reported = [⟨4⟩, ⟨5⟩] := by
  intro o calls
  let descriptor : Descriptor :=
    { fqName := "s", help := "h", constLabels := [], variableLabels := [] }
  have haccepted : Blueprint.of { opts := .summary o } =
      .ok { opts := .summary o, shape := .scalar, descriptor } := by
    decide
  have hf : Forward (0 :: calls.map Prod.fst ++ [38]) := by
    unfold Forward
    decide
  obtain ⟨hrun, hreport, -⟩ := report_covers_spans haccepted hf
  obtain ⟨w, hw⟩ := hrun (by decide)
  obtain ⟨hlt, hle, hreported, -⟩ := hreport w hw
  have hspan : o.window.span = 5 := by decide
  rw [hspan] at hle
  refine ⟨w, hw, hlt, hle, ?_⟩
  rw [hreported]
  obtain h | h | h | h | h : w.expiry = 39 ∨ w.expiry = 40 ∨ w.expiry = 41 ∨ w.expiry = 42 ∨
      w.expiry = 43 := by omega
  all_goals
    rw [h]
    decide

end MetricBundle.AgeWindow
