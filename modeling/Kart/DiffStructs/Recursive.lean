import Kart.DiffStructs.Diff
set_option autoImplicit false

/-!
# The recursive accessors of `RichDict`

`recursive_get`, `recursive_set` and `recursive_in` walk a key path down a diff tree, one level a
call. A path is given to the level it starts at: a `RepoDiff` path names a dataset, then maybe a
section of its `DatasetDiff`, then maybe keys in that section's `DeltaDiff`. Each level's accessor
is modelled on that level's node, and a node that is not a `RichDict` (a `Delta`, a
`LazyDeltaDiff`, a `bool`) has no such method: calling it raises `AttributeError`. `recursive_set`
mutates the nodes it passes in place, so it returns the tree it leaves whether it returns or raises.

Where the nodes of a path exist down to its `DeltaDiff`, setting a delta at the path and reading
it back obey the two map laws. Elsewhere the code departs from them. A missing section cannot be
created: `create_empty_child` calls `DatasetDiff.child_type`, which is a tuple. The empty
`DatasetDiff` created for a missing dataset stays behind. And `recursive_get` returns `None`, not
its default, when the path has one key or a key below the first is missing.
-/
namespace Kart.DiffStructs

variable {K V : Type} [DecidableEq K]

/-- What a path can lead to, or be given to store: a `DatasetDiff`, a child of one, or a delta. -/
inductive TreeValue (K V : Type)
  | datasetDiff (d : DatasetDiff K V)
  | child (c : DatasetChild K V)
  | delta (d : Delta K V)

/-- `type(value).__name__`. -/
def TreeValue.typeName : TreeValue K V → String
  | .datasetDiff _ => "DatasetDiff"
  | .child (.lazy _) => "LazyDeltaDiff"
  | .child (.deltaDiff _) => "DeltaDiff"
  | .child (.bool _) => "bool"
  | .delta _ => "Delta"

/-- Calling the method `attr` of a node of type `name`, which has none. -/
def noAttribute (name attr : String) : PyError :=
  .attributeError s!"'{name}' object has no attribute '{attr}'"

/-- `DatasetDiff.create_empty_child` calls `child_type`, the tuple of its child types. -/
def tupleNotCallable : PyError := .typeError "'tuple' object is not callable"

namespace DeltaDiff

/-- `recursive_get([k] + ks, default)` on a `DeltaDiff`. -/
def recursiveGet (self : DeltaDiff K V) (k : K) (ks : List K) (default : Option (TreeValue K V)) :
    Except PyError (Option (TreeValue K V)) :=
  match ks, self.get k with
  | [], child => pure (child.map .delta)
  | _ :: _, some _ => throw (noAttribute "Delta" "recursive_get")
  | _ :: _, none => pure default

/-- `recursive_in([k] + ks)` on a `DeltaDiff`. -/
def recursiveIn (self : DeltaDiff K V) (k : K) (ks : List K) : Except PyError Bool :=
  match ks, self.get k with
  | [], _ => pure (decide (k ∈ self.keys))
  | _ :: _, some _ => throw (noAttribute "Delta" "recursive_in")
  | _ :: _, none => pure false

/-- `recursive_set([k] + ks, value)` on a `DeltaDiff`: `DeltaDiff.__setitem__` reads `value.key`
and checks it against `k`; `create_empty_child` calls `Delta()`. -/
def recursiveSet (self : DeltaDiff K V) (k : K) (ks : List K) (value : TreeValue K V) :
    Except PyError Unit × DeltaDiff K V :=
  match ks, value, self.get k with
  | [], .delta d, _ =>
    if k ≠ d.key then (throw (.valueError "Delta must be added at the appropriate key"), self)
    else (pure (), self.setItem k d)
  | [], v, _ => (throw (noAttribute v.typeName "key"), self)
  | _ :: _, _, some _ => (throw (noAttribute "Delta" "recursive_set"), self)
  | _ :: _, _, none =>
    (throw (.typeError "Delta.__init__() missing 2 required positional arguments: 'old' and 'new'"), self)

/-- The accessors read the node only at the path's key. -/
theorem recursiveGet_congr {d d' : DeltaDiff K V} {k : K} (h : d.get k = d'.get k) (ks : List K)
    (default : Option (TreeValue K V)) : d.recursiveGet k ks default = d'.recursiveGet k ks default := by
  simp only [recursiveGet, h]

theorem recursiveIn_congr {d d' : DeltaDiff K V} {k : K} (h : d.get k = d'.get k) (ks : List K) :
    d.recursiveIn k ks = d'.recursiveIn k ks := by
  simp only [recursiveIn, PyDict.mem_keys, h]

end DeltaDiff

namespace DatasetDiff

/-- `recursive_get([s] + rest, default)` on a `DatasetDiff`; the call on the child drops
`default`. -/
def recursiveGet (self : DatasetDiff K V) (s : String) (rest : List K)
    (default : Option (TreeValue K V)) : Except PyError (Option (TreeValue K V)) :=
  match rest, self.get s with
  | [], child => pure (child.map .child)
  | _ :: _, none => pure default
  | k :: ks, some (.deltaDiff d) => d.recursiveGet k ks none
  | _ :: _, some (.lazy _) => throw (noAttribute "LazyDeltaDiff" "recursive_get")
  | _ :: _, some (.bool _) => throw (noAttribute "bool" "recursive_get")

/-- `recursive_in([s] + rest)` on a `DatasetDiff`. -/
def recursiveIn (self : DatasetDiff K V) (s : String) (rest : List K) : Except PyError Bool :=
  match rest, self.get s with
  | [], _ => pure (decide (s ∈ self.keys))
  | _ :: _, none => pure false
  | k :: ks, some (.deltaDiff d) => d.recursiveIn k ks
  | _ :: _, some (.lazy _) => throw (noAttribute "LazyDeltaDiff" "recursive_in")
  | _ :: _, some (.bool _) => throw (noAttribute "bool" "recursive_in")

/-- `recursive_set([s] + rest, value)` on a `DatasetDiff`. -/
def recursiveSet (self : DatasetDiff K V) (s : String) (rest : List K) (value : TreeValue K V) :
    Except PyError Unit × DatasetDiff K V :=
  match rest, value, self.get s with
  | [], .child c, _ => (pure (), self.setItem s c)
  | [], v, _ => (throw (DatasetChild.badChild v.typeName), self)
  | _ :: _, _, none => (throw tupleNotCallable, self)
  | k :: ks, v, some (.deltaDiff d) =>
    let r := d.recursiveSet k ks v
    (r.1, self.setItem s (.deltaDiff r.2))
  | _ :: _, _, some (.lazy _) => (throw (noAttribute "LazyDeltaDiff" "recursive_set"), self)
  | _ :: _, _, some (.bool _) => (throw (noAttribute "bool" "recursive_set"), self)

theorem recursiveGet_congr {dd dd' : DatasetDiff K V} {s : String} (h : dd.get s = dd'.get s)
    (rest : List K) (default : Option (TreeValue K V)) :
    dd.recursiveGet s rest default = dd'.recursiveGet s rest default := by
  simp only [recursiveGet, h]

theorem recursiveIn_congr {dd dd' : DatasetDiff K V} {s : String} (h : dd.get s = dd'.get s)
    (rest : List K) : dd.recursiveIn s rest = dd'.recursiveIn s rest := by
  simp only [recursiveIn, PyDict.mem_keys, h]

theorem recursiveSet_missing {dd : DatasetDiff K V} {s : String} (h : dd.get s = none) (k : K)
    (ks : List K) (v : TreeValue K V) : dd.recursiveSet s (k :: ks) v = (throw tupleNotCallable, dd) := by
  simp only [recursiveSet, h]

theorem recursiveSet_deltaDiff {dd : DatasetDiff K V} {s : String} {d : DeltaDiff K V}
    (h : dd.get s = some (.deltaDiff d)) (k : K) (ks : List K) (v : TreeValue K V) :
    dd.recursiveSet s (k :: ks) v =
      ((d.recursiveSet k ks v).1, dd.setItem s (.deltaDiff (d.recursiveSet k ks v).2)) := by
  simp only [recursiveSet, h]

end DatasetDiff

namespace RepoDiff

/-- What `ensure_child_type` says of a value of type `name` set in a `RepoDiff`. -/
def badChild (name : String) : PyError :=
  .typeError s!"RepoDiff accepts children of type DatasetDiff but received {name}"

/-- `recursive_get([p] + rest, default)` on a `RepoDiff`. -/
def recursiveGet (self : RepoDiff K V) (p : String) (rest : Option (String × List K))
    (default : Option (TreeValue K V)) : Except PyError (Option (TreeValue K V)) :=
  match rest, self.get p with
  | none, child => pure (child.map .datasetDiff)
  | some _, none => pure default
  | some (s, ks), some dd => dd.recursiveGet s ks none

/-- `recursive_in([p] + rest)` on a `RepoDiff`. -/
def recursiveIn (self : RepoDiff K V) (p : String) (rest : Option (String × List K)) :
    Except PyError Bool :=
  match rest, self.get p with
  | none, _ => pure (decide (p ∈ self.keys))
  | some _, none => pure false
  | some (s, ks), some dd => dd.recursiveIn s ks

/-- `recursive_set([p] + rest, value)` on a `RepoDiff`: a missing dataset is first created
empty. -/
def recursiveSet (self : RepoDiff K V) (p : String) (rest : Option (String × List K))
    (value : TreeValue K V) : Except PyError Unit × RepoDiff K V :=
  match rest, value with
  | none, .datasetDiff d => (pure (), self.setItem p d)
  | none, v => (throw (badChild v.typeName), self)
  | some (s, ks), v =>
    let child := (self.get p).getD PyDict.empty
    let r := child.recursiveSet s ks v
    (r.1, self.setItem p r.2)

theorem recursiveGet_congr {R R' : RepoDiff K V} {p : String} (h : R.get p = R'.get p)
    (rest : Option (String × List K)) (default : Option (TreeValue K V)) :
    R.recursiveGet p rest default = R'.recursiveGet p rest default := by
  simp only [recursiveGet, h]

theorem recursiveIn_congr {R R' : RepoDiff K V} {p : String} (h : R.get p = R'.get p)
    (rest : Option (String × List K)) : R.recursiveIn p rest = R'.recursiveIn p rest := by
  simp only [recursiveIn, PyDict.mem_keys, h]

/-- Where the dataset and the section exist, setting a delta at its key and reading the tree back
obey the map laws: the full path holds the delta, and every other full path reads as before. -/
theorem recursiveSet_map_laws (R : RepoDiff K V) {p s : String} {dd : DatasetDiff K V}
    {d : DeltaDiff K V} (hp : R.get p = some dd) (hs : dd.get s = some (.deltaDiff d))
    (δ : Delta K V) (default : Option (TreeValue K V)) :
    (R.recursiveSet p (some (s, [δ.key])) (.delta δ)).1 = .ok () ∧
    (R.recursiveSet p (some (s, [δ.key])) (.delta δ)).2.recursiveGet p (some (s, [δ.key])) default =
      .ok (some (.delta δ)) ∧
    (R.recursiveSet p (some (s, [δ.key])) (.delta δ)).2.recursiveIn p (some (s, [δ.key])) = .ok true ∧
    ∀ p' s' k', (p', s', k') ≠ (p, s, δ.key) →
      (R.recursiveSet p (some (s, [δ.key])) (.delta δ)).2.recursiveGet p' (some (s', [k'])) default =
        R.recursiveGet p' (some (s', [k'])) default ∧
      (R.recursiveSet p (some (s, [δ.key])) (.delta δ)).2.recursiveIn p' (some (s', [k'])) =
        R.recursiveIn p' (some (s', [k'])) := by
  have hset : R.recursiveSet p (some (s, [δ.key])) (.delta δ) =
      (pure (), R.setItem p (dd.setItem s (.deltaDiff (d.setItem δ.key δ)))) := by
    simp [recursiveSet, hp, DatasetDiff.recursiveSet_deltaDiff hs, DeltaDiff.recursiveSet]
  rw [hset]
  refine ⟨rfl, ?_, ?_, fun p' s' k' hne => ?_⟩
  · simp [recursiveGet, DatasetDiff.recursiveGet, DeltaDiff.recursiveGet]
  · simp [recursiveIn, DatasetDiff.recursiveIn, DeltaDiff.recursiveIn, PyDict.mem_keys]
  · by_cases hp' : p' = p
    · subst hp'
      by_cases hs' : s' = s
      · subst hs'
        have hk : k' ≠ δ.key := fun e => hne (by rw [e])
        simp only [recursiveGet, recursiveIn, PyDict.get_setItem, if_true, hp,
          DatasetDiff.recursiveGet, DatasetDiff.recursiveIn, hs]
        exact ⟨DeltaDiff.recursiveGet_congr (by simp [hk]) _ _,
          DeltaDiff.recursiveIn_congr (by simp [hk]) _⟩
      · simp only [recursiveGet, recursiveIn, PyDict.get_setItem, if_true, hp]
        exact ⟨DatasetDiff.recursiveGet_congr (by simp [hs']) _ _,
          DatasetDiff.recursiveIn_congr (by simp [hs']) _⟩
    · exact ⟨recursiveGet_congr (by simp [hp']) _ _, recursiveIn_congr (by simp [hp']) _⟩

theorem recursiveSet_map_laws_feature :
    let dd : DatasetDiff Nat Nat := PyDict.empty.setItem "feature" (.deltaDiff PyDict.empty)
    let R : RepoDiff Nat Nat := PyDict.empty.setItem "ds" dd
    (R.get "ds" = some dd ∧ dd.get "feature" = some (.deltaDiff PyDict.empty)) ∧
    (R.recursiveSet "ds" (some ("feature", [(Delta.insert ⟨1, 5⟩).key])) (.delta (.insert ⟨1, 5⟩))).1 = .ok () ∧
    (R.recursiveSet "ds" (some ("feature", [(Delta.insert ⟨1, 5⟩).key])) (.delta (.insert ⟨1, 5⟩))).2.recursiveGet
      "ds" (some ("feature", [(Delta.insert ⟨1, 5⟩).key])) none = .ok (some (.delta (.insert ⟨1, 5⟩))) ∧
    (R.recursiveSet "ds" (some ("feature", [(Delta.insert ⟨1, 5⟩).key])) (.delta (.insert ⟨1, 5⟩))).2.recursiveIn
      "ds" (some ("feature", [(Delta.insert ⟨1, 5⟩).key])) = .ok true ∧
    ∀ p' s' k', (p', s', k') ≠ ("ds", "feature", (Delta.insert ⟨1, 5⟩ : Delta Nat Nat).key) →
      (R.recursiveSet "ds" (some ("feature", [(Delta.insert ⟨1, 5⟩).key])) (.delta (.insert ⟨1, 5⟩))).2.recursiveGet
        p' (some (s', [k'])) none = R.recursiveGet p' (some (s', [k'])) none ∧
      (R.recursiveSet "ds" (some ("feature", [(Delta.insert ⟨1, 5⟩).key])) (.delta (.insert ⟨1, 5⟩))).2.recursiveIn
        p' (some (s', [k'])) = R.recursiveIn p' (some (s', [k'])) :=
  have h : (PyDict.empty.setItem "ds" (PyDict.empty.setItem "feature" (.deltaDiff PyDict.empty)) :
      RepoDiff Nat Nat).get "ds" = some (PyDict.empty.setItem "feature" (.deltaDiff PyDict.empty)) ∧
      (PyDict.empty.setItem "feature" (.deltaDiff PyDict.empty) : DatasetDiff Nat Nat).get "feature" =
        some (.deltaDiff PyDict.empty) := ⟨rfl, rfl⟩
  ⟨h, recursiveSet_map_laws _ h.1 h.2 (.insert ⟨1, 5⟩) none⟩

/-- Where the dataset or the section is missing, the map laws fail. `recursive_set` on a missing
dataset creates it empty and then raises on its missing section, leaving the empty `DatasetDiff`
behind; on a missing section it raises and changes nothing. Either way the path reads back as
`None`, and `recursive_get` returns `None` rather than its default both there and for a missing
dataset named alone. -/
theorem recursive_accessors_missing (R : RepoDiff K V) (p s : String) (δ : Delta K V)
    (default : Option (TreeValue K V)) :
    (R.get p = none →
      R.recursiveSet p (some (s, [δ.key])) (.delta δ) = (throw tupleNotCallable, R.setItem p PyDict.empty) ∧
      RepoDiff.recursiveGet (R.setItem p PyDict.empty) p (some (s, [δ.key])) default = .ok none) ∧
    (∀ dd, R.get p = some dd → dd.get s = none →
      R.recursiveSet p (some (s, [δ.key])) (.delta δ) = (throw tupleNotCallable, R) ∧
      R.recursiveIn p (some (s, [δ.key])) = .ok false ∧
      R.recursiveGet p (some (s, [δ.key])) default = .ok none) ∧
    (R.get p = none → R.recursiveIn p none = .ok false ∧ R.recursiveGet p none default = .ok none) := by
  refine ⟨fun hp => ⟨?_, ?_⟩, fun dd hp hs => ⟨?_, ?_, ?_⟩, fun hp => ⟨?_, ?_⟩⟩
  · simp [recursiveSet, hp, DatasetDiff.recursiveSet_missing]
  · simp [recursiveGet, DatasetDiff.recursiveGet]
  · simp [recursiveSet, hp, DatasetDiff.recursiveSet_missing hs, PyDict.setItem_self hp]
  · simp [recursiveIn, hp, DatasetDiff.recursiveIn, hs]
  · simp [recursiveGet, hp, DatasetDiff.recursiveGet, hs]
  · simp [recursiveIn, PyDict.mem_keys, hp]
  · simp [recursiveGet, hp]

/-- On an empty `RepoDiff`: setting `["ds", "feature", 1]` raises and leaves `{"ds": {}}`; the path
and `["ds"]` read back as `None` though a default is given. -/
theorem recursive_accessors_missing_empty :
    let R : RepoDiff Nat Nat := PyDict.empty
    let δ : Delta Nat Nat := .insert ⟨1, 5⟩
    R.get "ds" = none ∧
    (R.recursiveSet "ds" (some ("feature", [δ.key])) (.delta δ) =
        (throw tupleNotCallable, R.setItem "ds" PyDict.empty) ∧
      RepoDiff.recursiveGet (R.setItem "ds" PyDict.empty) "ds" (some ("feature", [δ.key]))
        (some (.delta δ)) = .ok none) ∧
    (R.recursiveIn "ds" none = .ok false ∧ R.recursiveGet "ds" none (some (.delta δ)) = .ok none) :=
  have h : (PyDict.empty : RepoDiff Nat Nat).get "ds" = none := rfl
  ⟨h, (recursive_accessors_missing _ "ds" "feature" (.insert ⟨1, 5⟩) (some (.delta (.insert ⟨1, 5⟩)))).1 h,
    (recursive_accessors_missing _ "ds" "feature" (.insert ⟨1, 5⟩) (some (.delta (.insert ⟨1, 5⟩)))).2.2 h⟩

end RepoDiff

end Kart.DiffStructs
