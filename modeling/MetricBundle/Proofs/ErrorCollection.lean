import MetricBundle.Proofs.FailSoft

/-!
# Collected errors are flat

An error that is added to a collection may hold a collection itself, which has been put together in
steps of its own, and so on to any depth.  An `Addition` is one step of putting a collection
together, and its `leaves` are the failures in everything that it adds, from left to right.

After any additions a collection holds just these leaves after what it held before
(`toList_addAll`).  So how they were grouped leaves no trace, and everything that a collection tells
can be told from the leaves (`addAll_flat`).

That a collection holds failures only is in the type of `Errors`.  It could hold whole bundles as
well, as `Nested` errors do; then adding a bundle would open it up, but not the bundles in it.  This
comes to the same (`storeAll_eq`), since the entries of a bundle have been added in this way before,
so that there are no bundles among them.
-/

namespace MetricBundle.Errors

mutual

/-- An error that is to be added. -/
inductive Item where
  | single (failure : Failure)
  /-- All errors of a collection that has been put together by itself. -/
  | bundle (additions : List Addition)

/-- A step of putting a collection together. -/
inductive Addition where
  | push (item : Item)
  /-- Another collection is appended as it is. -/
  | append (additions : List Addition)
  | extend (items : List Item)
  /-- The errors of another collection are added one by one. -/
  | merge (additions : List Addition)
  /-- The result of something that succeeded is checked. -/
  | pass
  /-- The result of something that failed is checked. -/
  | fail (item : Item)

end

/-! ## The leaves of what is added -/

mutual

def Item.leaves : Item → List Failure
  | .single failure => [failure]
  | .bundle additions => leavesOf additions

def leavesOfItems : List Item → List Failure
  | [] => []
  | item :: items => item.leaves ++ leavesOfItems items

def Addition.leaves : Addition → List Failure
  | .push item | .fail item => item.leaves
  | .append additions | .merge additions => leavesOf additions
  | .extend items => leavesOfItems items
  | .pass => []

def leavesOf : List Addition → List Failure
  | [] => []
  | addition :: additions => addition.leaves ++ leavesOf additions

end

/-! ## Collecting -/

mutual

def Item.error : Item → Error
  | .single failure => .single failure
  | .bundle additions => .bundle (addAll .empty additions)

def errorsOfItems : List Item → List Error
  | [] => []
  | item :: items => item.error :: errorsOfItems items

/-- What an addition does to a collection. -/
def Addition.apply (es : Errors) : Addition → Errors
  | .push item => es.push item.error
  | .append additions => es.append (addAll .empty additions)
  | .extend items => es.extend (errorsOfItems items)
  | .merge additions => es.extend ((addAll .empty additions).toList.map .single)
  | .pass => (es.check (.ok () : Except Error Unit)).1
  | .fail item => (es.check (.error item.error : Except Error Unit)).1

/-- What additions one after the other do to a collection. -/
def addAll (es : Errors) : List Addition → Errors
  | [] => es
  | addition :: additions => addAll (addition.apply es) additions

end

theorem toList_extend (es : Errors) (added : List Error) :
    (es.extend added).toList = es.toList ++ added.flatMap Error.failures := by
  induction added generalizing es with
  | nil => simp [extend]
  | cons e added ih =>
    have hstep : es.extend (e :: added) = (es.push e).extend added := rfl
    rw [hstep, ih, toList_push, List.flatMap_cons, List.append_assoc]

theorem flatMap_failures_single (failures : List Failure) :
    (failures.map Error.single).flatMap Error.failures = failures := by
  rw [List.flatMap_map]
  exact List.flatMap_singleton' failures

-- The induction is on how what is added was put together: the additions of a bundle are part of
-- the item that it is.
mutual

theorem Item.failures_error (item : Item) : item.error.failures = item.leaves := by
  cases item with
  | single failure => rw [Item.error, Item.leaves, Error.failures]
  | bundle additions =>
    rw [Item.error, Item.leaves, Error.failures, toList_addAll]
    rfl

theorem flatMap_failures_errorsOfItems (items : List Item) :
    (errorsOfItems items).flatMap Error.failures = leavesOfItems items := by
  cases items with
  | nil => rfl
  | cons item items =>
    rw [errorsOfItems, leavesOfItems, List.flatMap_cons, item.failures_error,
      flatMap_failures_errorsOfItems items]

/-- An addition puts its leaves after what is there. -/
theorem Addition.toList_apply (es : Errors) (addition : Addition) :
    (addition.apply es).toList = es.toList ++ addition.leaves := by
  cases addition with
  | push item => rw [Addition.apply, Addition.leaves, toList_push, item.failures_error]
  | append additions =>
    rw [Addition.apply, Addition.leaves, append, toList_addAll .empty additions]
    rfl
  | extend items =>
    rw [Addition.apply, Addition.leaves, toList_extend, flatMap_failures_errorsOfItems items]
  | merge additions =>
    rw [Addition.apply, Addition.leaves, toList_extend, flatMap_failures_single,
      toList_addAll .empty additions]
    rfl
  | pass => rw [Addition.apply, Addition.leaves, check, List.append_nil]
  | fail item => rw [Addition.apply, Addition.leaves, check, toList_push, item.failures_error]

/-- **Additions put their leaves after what is there, in order.** -/
theorem toList_addAll (es : Errors) (additions : List Addition) :
    (addAll es additions).toList = es.toList ++ leavesOf additions := by
  cases additions with
  | nil => rw [addAll, leavesOf, List.append_nil]
  | cons addition additions =>
    rw [addAll, leavesOf, toList_addAll _ additions, addition.toList_apply, List.append_assoc]

end

/-! ## Storing bundles as they are -/

/-- An error that has bundles in it as they were put together. -/
inductive Nested where
  | single (failure : Failure)
  | bundle (entries : List Nested)

/-- Adds an error to what is stored. The entries of a bundle are added as they are. -/
def Nested.push (entries : List Nested) : Nested → List Nested
  | .single failure => entries ++ [.single failure]
  | .bundle nested => entries ++ nested

mutual

def Item.nested : Item → Nested
  | .single failure => .single failure
  | .bundle additions => .bundle (storeAll [] additions)

def nestedOfItems : List Item → List Nested
  | [] => []
  | item :: items => item.nested :: nestedOfItems items

/-- What an addition does to what is stored. -/
def Addition.store (entries : List Nested) : Addition → List Nested
  | .push item | .fail item => Nested.push entries item.nested
  | .append additions => entries ++ storeAll [] additions
  | .extend items => (nestedOfItems items).foldl Nested.push entries
  | .merge additions => (storeAll [] additions).foldl Nested.push entries
  | .pass => entries

/-- What additions one after the other do to what is stored. -/
def storeAll (entries : List Nested) : List Addition → List Nested
  | [] => entries
  | addition :: additions => storeAll (addition.store entries) additions

end

theorem foldl_push_single (entries : List Nested) (failures : List Failure) :
    (failures.map Nested.single).foldl Nested.push entries =
      entries ++ failures.map Nested.single := by
  induction failures generalizing entries with
  | nil => simp
  | cons failure failures ih =>
    rw [List.map_cons, List.foldl_cons, ih, Nested.push, List.append_assoc, List.singleton_append]

-- The entries of a bundle are single failures by the induction, so opening it up is enough.
mutual

theorem Item.push_nested (entries : List Nested) (item : Item) :
    Nested.push entries item.nested = entries ++ item.leaves.map .single := by
  cases item with
  | single failure => rw [Item.nested, Item.leaves, Nested.push, List.map_singleton]
  | bundle additions =>
    rw [Item.nested, Item.leaves, Nested.push, storeAll_eq [] additions, List.nil_append]

theorem foldl_push_nestedOfItems (entries : List Nested) (items : List Item) :
    (nestedOfItems items).foldl Nested.push entries =
      entries ++ (leavesOfItems items).map .single := by
  cases items with
  | nil => simp [nestedOfItems, leavesOfItems]
  | cons item items =>
    rw [nestedOfItems, leavesOfItems, List.foldl_cons, foldl_push_nestedOfItems _ items,
      item.push_nested, List.map_append, List.append_assoc]

theorem Addition.store_eq (entries : List Nested) (addition : Addition) :
    addition.store entries = entries ++ addition.leaves.map .single := by
  cases addition with
  | push item | fail item => rw [Addition.store, Addition.leaves, item.push_nested]
  | append additions =>
    rw [Addition.store, Addition.leaves, storeAll_eq [] additions, List.nil_append]
  | extend items => rw [Addition.store, Addition.leaves, foldl_push_nestedOfItems _ items]
  | merge additions =>
    rw [Addition.store, Addition.leaves, storeAll_eq [] additions, List.nil_append,
      foldl_push_single]
  | pass => simp [Addition.store, Addition.leaves]

/-- **Opening up a bundle that is added, but none of its entries, leaves no bundle behind.** -/
theorem storeAll_eq (entries : List Nested) (additions : List Addition) :
    storeAll entries additions = entries ++ (leavesOf additions).map .single := by
  cases additions with
  | nil => simp [storeAll, leavesOf]
  | cons addition additions =>
    rw [storeAll, leavesOf, storeAll_eq _ additions, addition.store_eq, List.map_append,
      List.append_assoc]

end

/-! ## What a collection tells -/

theorem isAlreadyRegistered_iff (es : Errors) :
    (Error.bundle es).isAlreadyRegistered = true ↔
      Failure.metric .alreadyRegistered ∈ es.toList := by
  rw [Error.isAlreadyRegistered, List.any_eq_true]
  constructor
  · rintro ⟨failure, hmem, hregistered⟩
    unfold Failure.isAlreadyRegistered at hregistered
    split at hregistered
    · exact hmem
    · cases hregistered
  · exact fun hmem => ⟨_, hmem, rfl⟩

/-- **A collection is the flat list of the leaves of everything that was added to it**, whether its
entries can only be failures or could be bundles too.  Its size, its message and whether it is a
success or tells of a metric that was registered before are those of the leaves, and additions with
the same leaves make the same of it. -/
theorem addAll_flat (es : Errors) (additions : List Addition) :
    let leaves := es.toList ++ leavesOf additions
    let result := addAll es additions
    result.toList = leaves ∧
      storeAll (es.toList.map .single) additions = leaves.map .single ∧
      (∀ items, (collect (errorsOfItems items)).toList = leavesOfItems items) ∧
      result.size = leaves.length ∧
      result.message = "; ".intercalate (leaves.map Failure.message) ∧
      (result.toExcept = .ok () ↔ leaves = []) ∧
      ((Error.bundle result).isAlreadyRegistered = true ↔
        Failure.metric .alreadyRegistered ∈ leaves) ∧
      ∀ others, leavesOf others = leavesOf additions → addAll es others = result := by
  intro leaves result
  have hresult : result.toList = leaves := toList_addAll es additions
  refine ⟨hresult, ?_, fun items => ?_, ?_, ?_, ?_, ?_, fun others hothers => ?_⟩
  · rw [storeAll_eq, List.map_append]
  · rw [collect, toList_extend, flatMap_failures_errorsOfItems]
    rfl
  · rw [size, hresult]
  · rw [message, hresult]
  · rw [toExcept_eq_ok_iff, hresult]
  · rw [isAlreadyRegistered_iff, hresult]
  · have hsame : (addAll es others).toList = result.toList := by
      rw [toList_addAll, hothers, hresult]
    exact congrArg Errors.mk hsame

end MetricBundle.Errors
