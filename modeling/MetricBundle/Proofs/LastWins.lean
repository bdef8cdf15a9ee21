import Mathlib.Data.List.Induction

/-!
# Lists in which the last value wins

Tags, and the objectives of a summary, are collected in a list of keys with their values.  A value
that is put under a key comes in the place of the one that is there, and a new key comes last
(`putValue`).  So whatever has been put, the keys are in the order in which each was first put, and
each has the value that was put last (`lastWins_concat`).

Which keys are alike is up to a test that is symmetric and transitive.  It need not be reflexive:
what is not a number is like nothing, so it is a new key each time that it is put.
-/

namespace MetricBundle

/-! ## The first of each kind -/

section Firsts

variable {α : Type} (r : α → α → Bool)

theorem eraseDupsBy_loop_concat (l kept : List α) (a : α) :
    List.eraseDupsBy.loop r (l ++ [a]) kept =
      if (List.eraseDupsBy.loop r l kept).any (r a) then List.eraseDupsBy.loop r l kept
      else List.eraseDupsBy.loop r l kept ++ [a] := by
  induction l generalizing kept with
  | nil =>
    simp only [List.nil_append, List.eraseDupsBy.loop, List.any_reverse]
    cases kept.any (r a) <;> simp
  | cons b l ih =>
    cases hb : kept.any (r b) with
    | true =>
      simp only [List.cons_append, List.eraseDupsBy.loop, hb]
      exact ih kept
    | false =>
      simp only [List.cons_append, List.eraseDupsBy.loop, hb]
      exact ih (b :: kept)

/-- An element is kept if it is like none of those that have been kept before. -/
theorem eraseDupsBy_concat (l : List α) (a : α) :
    (l ++ [a]).eraseDupsBy r =
      if (l.eraseDupsBy r).any (r a) then l.eraseDupsBy r else l.eraseDupsBy r ++ [a] :=
  eraseDupsBy_loop_concat r l [] a

/-- No element that is kept is like one before it. -/
theorem pairwise_eraseDupsBy (l : List α) :
    (l.eraseDupsBy r).Pairwise fun a b => r b a = false := by
  induction l using List.reverseRecOn with
  | nil => exact .nil
  | append_singleton l a ih =>
    rw [eraseDupsBy_concat]
    split
    case isTrue => exact ih
    case isFalse hnew =>
      refine List.pairwise_append.mpr ⟨ih, List.pairwise_singleton _ _, fun b hb c hc => ?_⟩
      rw [List.mem_singleton.mp hc, ← Bool.not_eq_true]
      exact fun hlike => hnew (List.any_eq_true.mpr ⟨b, hb, hlike⟩)

/-- The first element with a property is kept, if what is like an element without it has not got it
either. -/
theorem find?_eraseDupsBy {P : α → Bool} (hP : ∀ a b, r a b = true → P a = true → P b = true)
    (l : List α) : (l.eraseDupsBy r).find? P = l.find? P := by
  induction l using List.reverseRecOn with
  | nil => rfl
  | append_singleton l a ih =>
    rw [eraseDupsBy_concat, List.find?_append, ← ih]
    split
    case isFalse => exact List.find?_append
    case isTrue hold =>
      obtain ⟨b, hb, hlike⟩ := List.any_eq_true.mp hold
      cases hfirst : (l.eraseDupsBy r).find? P with
      | some c => rfl
      | none =>
        -- the element that is dropped has not got the property, since the one it is like has not
        have hnot : P a = false := by
          rw [← Bool.not_eq_true]
          exact fun ha => List.find?_eq_none.mp hfirst b hb (hP a b hlike ha)
        simp [hnot]

theorem eraseDupsBy_map {β : Type} (g : β → α) (l : List β) :
    (l.map g).eraseDupsBy r = (l.eraseDupsBy fun a b => r (g a) (g b)).map g := by
  induction l using List.reverseRecOn with
  | nil => rfl
  | append_singleton l b ih =>
    rw [List.map_append, List.map_singleton, eraseDupsBy_concat, eraseDupsBy_concat, ih,
      List.any_map]
    simp only [Function.comp_def]
    split
    case isTrue => rfl
    case isFalse => rw [List.map_append, List.map_singleton]

end Firsts

/-! ## The last value -/

section Last

variable {κ α : Type} [DecidableEq κ]

/-- The value that a key was given last. -/
def lastGiven (pairs : List (κ × α)) (k : κ) : Option α :=
  (pairs.reverse.find? fun p => p.1 == k).map Prod.snd

theorem lastGiven_concat (pairs : List (κ × α)) (p : κ × α) (k : κ) :
    lastGiven (pairs ++ [p]) k = if p.1 = k then some p.2 else lastGiven pairs k := by
  simp only [lastGiven, List.reverse_append, List.reverse_singleton, List.singleton_append,
    List.find?_cons]
  by_cases h : p.1 = k
  · simp [h]
  · simp [h, beq_eq_false_iff_ne.mpr h]

theorem lastGiven_isSome_iff (pairs : List (κ × α)) (k : κ) :
    (lastGiven pairs k).isSome = true ↔ k ∈ pairs.map Prod.fst := by
  simp [lastGiven, List.find?_isSome]

end Last

/-! ## Putting values -/

section Values

variable {κ α : Type} (like : κ → κ → Bool)

/-- Puts a value under its key: in the place of what is under a like key, or else last. -/
def putValue (l : List (κ × α)) (p : κ × α) : List (κ × α) :=
  if l.any fun o => like p.1 o.1 then l.map fun o => if like p.1 o.1 then (o.1, p.2) else o
  else l ++ [p]

/-- The value of the last pair whose key is like that of the given one, which has its own value if
there is none. -/
def lastValue (pairs : List (κ × α)) (p : κ × α) : α :=
  ((pairs.reverse.find? fun o => like p.1 o.1).map Prod.snd).getD p.2

/-- The pairs with a key that is like none before, each with the last value. -/
def lastWins (pairs : List (κ × α)) : List (κ × α) :=
  (pairs.eraseDupsBy fun p o => like p.1 o.1).map fun p => (p.1, lastValue like pairs p)

theorem lastValue_concat (pairs : List (κ × α)) (p o : κ × α) :
    lastValue like (pairs ++ [o]) p = if like p.1 o.1 then o.2 else lastValue like pairs p := by
  simp only [lastValue, List.reverse_append, List.reverse_singleton, List.singleton_append,
    List.find?_cons]
  cases like p.1 o.1 <;> rfl

/-- No two keys are alike. -/
theorem pairwise_lastWins (pairs : List (κ × α)) :
    (lastWins like pairs).Pairwise fun p o => like o.1 p.1 = false :=
  List.pairwise_map.mpr (pairwise_eraseDupsBy _ pairs)

/-- Each key is in the place of its first pair. -/
theorem map_fst_lastWins (pairs : List (κ × α)) :
    (lastWins like pairs).map Prod.fst = (pairs.map Prod.fst).eraseDupsBy like := by
  rw [lastWins, List.map_map, eraseDupsBy_map]
  rfl

variable {like} (htrans : ∀ a b c, like a b = true → like b c = true → like a c = true)
include htrans

/-- The first key that is like a given one is that of the first pair whose key is. -/
theorem find?_lastWins (k : κ) (pairs : List (κ × α)) :
    ((lastWins like pairs).find? fun o => like k o.1).map Prod.fst =
      (pairs.find? fun o => like k o.1).map Prod.fst := by
  have hkept := find?_eraseDupsBy (fun p o : κ × α => like p.1 o.1) (P := fun o => like k o.1)
    (fun p o hlike hk => htrans k p.1 o.1 hk hlike) pairs
  rw [← hkept, lastWins, List.find?_map, Option.map_map]
  rfl

/-- **The last value wins.**  When one more pair is put, its value replaces that of the key that is
like its own, or else it comes last. -/
theorem lastWins_concat (hsymm : ∀ a b, like a b = like b a) (pairs : List (κ × α)) (p : κ × α) :
    lastWins like (pairs ++ [p]) = putValue like (lastWins like pairs) p := by
  simp only [putValue, lastWins, eraseDupsBy_concat, List.any_map, Function.comp_def]
  split
  case isTrue =>
    rw [List.map_map]
    refine List.map_congr_left fun o _ => ?_
    rw [lastValue_concat, hsymm o.1 p.1]
    simp only [Function.comp_apply]
    split <;> rfl
  case isFalse hnew =>
    -- a key that is like one of the pairs is like the one that is kept for it
    have hnone : pairs.find? (fun o => like p.1 o.1) = none := by
      rw [← find?_eraseDupsBy (fun p o : κ × α => like p.1 o.1)
        (fun p' o hlike hk => htrans p.1 p'.1 o.1 hk hlike), List.find?_eq_none]
      exact fun o ho hlike => hnew (List.any_eq_true.mpr ⟨o, ho, hlike⟩)
    have hnot : ∀ o ∈ pairs, ¬like p.1 o.1 = true := List.find?_eq_none.mp hnone
    have hown : lastValue like pairs p = p.2 := by
      have hnone' : pairs.reverse.find? (fun o => like p.1 o.1) = none :=
        List.find?_eq_none.mpr fun o ho => hnot o (List.mem_reverse.mp ho)
      rw [lastValue, hnone']
      rfl
    rw [List.map_append]
    congr 1
    · refine List.map_congr_left fun o ho => ?_
      have hunlike : like o.1 p.1 = false := by
        rw [hsymm, ← Bool.not_eq_true]
        exact fun hlike => hnew (List.any_eq_true.mpr ⟨o, ho, hlike⟩)
      rw [lastValue_concat, hunlike]
      rfl
    · rw [List.map_singleton, lastValue_concat, hown, ite_self]

end Values

end MetricBundle
