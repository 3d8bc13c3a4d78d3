import Kart.DiffStructs.Delta
set_option autoImplicit false

/-!
# Diff trees

`RepoDiff ⊇ DatasetDiff ⊇ DeltaDiff ⊇ Delta`. A `DatasetDiff` child is a `DeltaDiff`, a
`LazyDeltaDiff` or a `bool` (its `child_type`); the other levels hold one child type each.
Exceptions are values of `Except PyError`. Operations are functions of their operands' values:
the in-place mutation of operands and the sharing of children between diffs are not modelled.
-/
namespace Kart.DiffStructs

abbrev DeltaDiff (K V : Type) := PyDict K (Delta K V)

structure LazyDeltaDiff (K V : Type) where
  wrappedIter : List (Delta K V)
  bool : Bool
  consumed : Bool

inductive DatasetChild (K V : Type)
  | lazy (l : LazyDeltaDiff K V)
  | deltaDiff (d : DeltaDiff K V)
  | bool (b : Bool)

abbrev DatasetDiff (K V : Type) := PyDict String (DatasetChild K V)

abbrev RepoDiff (K V : Type) := PyDict String (DatasetDiff K V)

section Generic
variable {κ C : Type} [DecidableEq κ]

/-- `RichDict.__setitem__` where every child of the declared type passes `ensure_child_type`. -/
def noCheck (_ : κ) (_ : C) : Except PyError Unit := pure ()

omit [DecidableEq κ] in
@[simp] theorem checked_noCheck (k : κ) (v : Option C) : PyDict.checked noCheck k v = .ok v := by
  cases v <;> rfl

omit [DecidableEq κ] in
@[simp] theorem bind_checked_noCheck (x : Except PyError (Option C)) (k : κ) :
    (x >>= PyDict.checked noCheck k) = x := by
  cases x <;> simp

/-- The keys of `self.keys() | other.keys()`, in the order this model visits them. -/
def unionKeys {α β : Type} (a : PyDict κ α) (b : PyDict κ β) : List κ :=
  a.keys ++ b.keys.filter (· ∉ a.keys)

/-- What `Diff.__add__` puts at a key: the children's sum (`none` when it is falsy and the key is
popped), or the child of the one side that has the key. -/
def addChildren (add : C → C → Except PyError (Option C)) : Option C → Option C → Except PyError (Option C)
  | some lhs, some rhs => add lhs rhs
  | some lhs, none => pure (some lhs)
  | none, rhs => pure rhs

/-- `Diff.__add__` after `other.resolve()`: a fresh diff, filled key by key. -/
def Diff.add (add : C → C → Except PyError (Option C)) (check : κ → C → Except PyError Unit)
    (self other : PyDict κ C) : Except PyError (PyDict κ C) :=
  PyDict.storeAll check (fun key => addChildren add (self.get key) (other.get key)) PyDict.empty
    (unionKeys self other)

/-- `Diff.__iadd__`: `self` updated at each key of `other`, reading `self` as it is updated. -/
def Diff.iadd (add : C → C → Except PyError (Option C)) (check : κ → C → Except PyError Unit)
    (self other : PyDict κ C) : Except PyError (PyDict κ C) :=
  other.keys.foldlM (fun self key => addChildren add (self.get key) (other.get key) >>= PyDict.store check self key) self

/-- A loop `result[key] = f(value)` over the items, as in `Diff.__invert__` and `Diff.resolve`. -/
def Diff.mapChildren {D : Type} (f : C → Except PyError D) (self : PyDict κ C) (init : PyDict κ D) :
    Except PyError (PyDict κ D) :=
  PyDict.storeAll noCheck (fun key => (self.get key).mapM f) init self.keys

/-- The outcome `Diff.__add__` records at one key. -/
def Diff.addAt (add : C → C → Except PyError (Option C)) (check : κ → C → Except PyError Unit)
    (self other : PyDict κ C) (key : κ) : Except PyError (Option C) :=
  addChildren add (self.get key) (other.get key) >>= PyDict.checked check key

theorem mem_unionKeys {α β : Type} {a : PyDict κ α} {b : PyDict κ β} {k : κ} :
    k ∈ unionKeys a b ↔ k ∈ a.keys ∨ k ∈ b.keys := by
  by_cases h : k ∈ a.keys <;> simp [unionKeys, h]

theorem nodup_unionKeys {α β : Type} (a : PyDict κ α) (b : PyDict κ β) : (unionKeys a b).Nodup := by
  refine List.nodup_append.2 ⟨a.nodup, b.nodup.filter _, fun k h h' => ?_⟩
  simp only [List.mem_filter, decide_eq_true_eq] at h'
  exact h'.2 h

variable {add : C → C → Except PyError (Option C)} {check : κ → C → Except PyError Unit}
  {self other r : PyDict κ C}

theorem Diff.add_eq_ok (h : Diff.add add check self other = .ok r) (k : κ) :
    Diff.addAt add check self other k = .ok (r.get k) := by
  obtain ⟨hin, hout⟩ := PyDict.storeAll_eq_ok (nodup_unionKeys self other) h
  by_cases hk : k ∈ unionKeys self other
  · exact hin k hk
  · obtain ⟨h₁, h₂⟩ : k ∉ self.keys ∧ k ∉ other.keys := by simpa [mem_unionKeys, not_or] using hk
    simp [Diff.addAt, addChildren, PyDict.get_eq_none.2 h₁, PyDict.get_eq_none.2 h₂, hout k hk,
      PyDict.checked]

theorem Diff.add_ok_of (h : ∀ k, ∃ v, Diff.addAt add check self other k = .ok v) :
    ∃ r, Diff.add add check self other = .ok r :=
  PyDict.storeAll_ok_of _ fun k _ => h k

theorem Diff.add_eq_error {e : PyError} (h : Diff.add add check self other = .error e) :
    ∃ k, Diff.addAt add check self other k = .error e :=
  let ⟨k, _, hk⟩ := PyDict.storeAll_eq_error h; ⟨k, hk⟩

/-- `__iadd__` reads `self` at a key before any earlier step has written there. -/
theorem Diff.iadd_eq_storeAll :
    Diff.iadd add check self other =
      PyDict.storeAll check (fun k => addChildren add (self.get k) (other.get k)) self other.keys := by
  suffices ∀ (ks : List κ) (d : PyDict κ C), ks.Nodup → (∀ k ∈ ks, d.get k = self.get k) →
      ks.foldlM (fun d k => addChildren add (d.get k) (other.get k) >>= PyDict.store check d k) d =
        PyDict.storeAll check (fun k => addChildren add (self.get k) (other.get k)) d ks from
    this _ _ other.nodup fun _ _ => rfl
  intro ks
  induction ks with
  | nil => intro d _ _; rfl
  | cons k ks ih =>
    intro d hks hd
    simp only [List.foldlM_cons, PyDict.storeAll, hd k (List.mem_cons_self _ _)]
    cases addChildren add (self.get k) (other.get k) with
    | error e => rfl
    | ok v =>
      simp only [ok_bind]
      cases hs : PyDict.store check d k v with
      | error e => rfl
      | ok d' =>
        refine ih d' (List.nodup_cons.1 hks).2 fun k' hk' => ?_
        have hne : k' ≠ k := fun h => (List.nodup_cons.1 hks).1 (h ▸ hk')
        rw [(PyDict.store_eq_ok hs).2, if_neg hne, hd k' (List.mem_cons_of_mem _ hk')]

/-- Where `self` passes its own `__setitem__` check, `__iadd__` records at every key what
`__add__` would. -/
theorem Diff.iadd_eq_ok (hself : ∀ k c, self.get k = some c → check k c = .ok ())
    (h : Diff.iadd add check self other = .ok r) (k : κ) :
    Diff.addAt add check self other k = .ok (r.get k) := by
  rw [Diff.iadd_eq_storeAll] at h
  obtain ⟨hin, hout⟩ := PyDict.storeAll_eq_ok other.nodup h
  by_cases hk : k ∈ other.keys
  · exact hin k hk
  · rw [hout k hk, Diff.addAt, PyDict.get_eq_none.2 hk]
    cases hs : self.get k with
    | none => rfl
    | some c => simp [addChildren, PyDict.checked, hself k c hs]

theorem Diff.iadd_ok_of (h : ∀ k, ∃ v, Diff.addAt add check self other k = .ok v) :
    ∃ r, Diff.iadd add check self other = .ok r := by
  rw [Diff.iadd_eq_storeAll]
  exact PyDict.storeAll_ok_of _ fun k _ => h k

theorem Diff.iadd_eq_error {e : PyError} (h : Diff.iadd add check self other = .error e) :
    ∃ k, Diff.addAt add check self other k = .error e := by
  rw [Diff.iadd_eq_storeAll] at h
  obtain ⟨k, _, hk⟩ := PyDict.storeAll_eq_error h
  exact ⟨k, hk⟩

/-- A property of the outcome at every key carries over to the diff `__add__` builds. -/
theorem Diff.add_of_forall {P : κ → Option C → Prop}
    (h : ∀ k, ∃ v, Diff.addAt add check self other k = .ok v ∧ P k v) :
    ∃ r, Diff.add add check self other = .ok r ∧ ∀ k, P k (r.get k) := by
  obtain ⟨r, hr⟩ := Diff.add_ok_of fun k => (h k).imp fun _ h => h.1
  refine ⟨r, hr, fun k => ?_⟩
  obtain ⟨v, hv, hp⟩ := h k
  rw [Diff.add_eq_ok hr k, Except.ok.injEq] at hv
  exact hv ▸ hp

theorem Diff.iadd_of_forall {P : κ → Option C → Prop} (hself : ∀ k c, self.get k = some c → check k c = .ok ())
    (h : ∀ k, ∃ v, Diff.addAt add check self other k = .ok v ∧ P k v) :
    ∃ r, Diff.iadd add check self other = .ok r ∧ ∀ k, P k (r.get k) := by
  obtain ⟨r, hr⟩ := Diff.iadd_ok_of fun k => (h k).imp fun _ h => h.1
  refine ⟨r, hr, fun k => ?_⟩
  obtain ⟨v, hv, hp⟩ := h k
  rw [Diff.iadd_eq_ok hself hr k, Except.ok.injEq] at hv
  exact hv ▸ hp

theorem Diff.mapChildren_eq_ok {D : Type} {f : C → Except PyError D} {init r : PyDict κ D}
    (h : Diff.mapChildren f self init = .ok r) (k : κ) :
    (k ∈ self.keys → (self.get k).mapM f = .ok (r.get k)) ∧ (k ∉ self.keys → r.get k = init.get k) := by
  obtain ⟨hin, hout⟩ := PyDict.storeAll_eq_ok self.nodup h
  refine ⟨fun hk => ?_, hout k⟩
  have := hin k hk
  cases hm : (self.get k).mapM f with
  | error e => simp [hm] at this
  | ok v =>
    rw [hm] at this
    cases v <;> simpa [PyDict.checked, noCheck] using this

theorem Diff.mapChildren_ok_of {D : Type} {f : C → Except PyError D} (init : PyDict κ D)
    (h : ∀ k c, self.get k = some c → ∃ d, f c = .ok d) : ∃ r, Diff.mapChildren f self init = .ok r := by
  refine PyDict.storeAll_ok_of _ fun k hk => ?_
  obtain ⟨c, hc⟩ := Option.isSome_iff_exists.1 (PyDict.mem_keys.1 hk)
  obtain ⟨d, hd⟩ := h k c hc
  exact ⟨some d, by simp [hc, hd, PyDict.checked, noCheck]⟩

theorem Diff.mapChildren_eq_error {D : Type} {f : C → Except PyError D} {init : PyDict κ D} {e : PyError}
    (h : Diff.mapChildren f self init = .error e) : ∃ k c, self.get k = some c ∧ f c = .error e := by
  obtain ⟨k, -, hk⟩ := PyDict.storeAll_eq_error h
  cases hc : self.get k with
  | none => simp [hc, PyDict.checked] at hk
  | some c =>
    cases hf : f c with
    | error e' =>
      simp only [hc, hf, mapM_some, map_error, error_bind, Except.error.injEq] at hk
      exact ⟨k, c, hc, hk ▸ hf⟩
    | ok d => simp [hc, hf, PyDict.checked, noCheck] at hk

/-- One child whose image raises makes the loop raise, with the error of some child. -/
theorem Diff.mapChildren_error_of {D : Type} {f : C → Except PyError D} (init : PyDict κ D) {k : κ}
    {c : C} {e : PyError} (hk : self.get k = some c) (hc : f c = .error e) :
    ∃ e', Diff.mapChildren f self init = .error e' ∧ ∃ k' c', self.get k' = some c' ∧ f c' = .error e' := by
  cases h : Diff.mapChildren f self init with
  | error e' => exact ⟨e', rfl, Diff.mapChildren_eq_error h⟩
  | ok r =>
    have := (Diff.mapChildren_eq_ok h k).1 (PyDict.mem_keys_of_get hk)
    simp [hk, hc] at this

/-- The loop of `__invert__` and `resolve()`: each child maps to its image, at the same key. -/
theorem Diff.mapChildren_rel {D : Type} {f : C → Except PyError D} {init r : PyDict κ D}
    (h : Diff.mapChildren f self init = .ok r) (hinit : ∀ k, self.get k = none → init.get k = none)
    (k : κ) : Option.Rel (fun c d => f c = .ok d) (self.get k) (r.get k) := by
  obtain ⟨hin, hout⟩ := Diff.mapChildren_eq_ok h k
  cases hs : self.get k with
  | none => rw [hout (PyDict.get_eq_none.1 hs), hinit k hs]; exact .none
  | some c =>
    have := hin (PyDict.mem_keys_of_get hs)
    rw [hs, mapM_some] at this
    cases hf : f c with
    | error e => simp [hf] at this
    | ok d =>
      simp only [hf, map_ok, Except.ok.injEq] at this
      exact this ▸ .some hf

/-- `resolve()` and the like return the diff itself when every child maps to itself. -/
theorem Diff.mapChildren_self {f : C → Except PyError C} (h : ∀ k c, self.get k = some c → f c = .ok c) :
    Diff.mapChildren f self self = .ok self :=
  PyDict.storeAll_self fun k _ => by
    cases hk : self.get k with
    | none => rfl
    | some c => simp [h k c hk, PyDict.checked, noCheck]

/-- What `__add__` records at a key: one side's child where the other has none, or the sum. -/
theorem Diff.addAt_eq_some {k : κ} {c : C} (h : Diff.addAt add check self other k = .ok (some c)) :
    (self.get k = some c ∧ other.get k = none) ∨ (self.get k = none ∧ other.get k = some c) ∨
      ∃ a b, self.get k = some a ∧ other.get k = some b ∧ add a b = .ok (some c) := by
  obtain ⟨v, hv, hc⟩ := bind_eq_ok.1 h
  obtain rfl := PyDict.checked_eq_ok hc
  cases h₁ : self.get k <;> cases h₂ : other.get k <;> simp_all [addChildren]

theorem Diff.get_add_eq_some (h : Diff.add add check self other = .ok r) {k : κ} {c : C}
    (hc : r.get k = some c) :
    (self.get k = some c ∧ other.get k = none) ∨ (self.get k = none ∧ other.get k = some c) ∨
      ∃ a b, self.get k = some a ∧ other.get k = some b ∧ add a b = .ok (some c) :=
  Diff.addAt_eq_some (hc ▸ Diff.add_eq_ok h k)

end Generic

/-- Two outcomes that agree: both raise `Conflict`, or both return related results. -/
inductive OutcomeRel {α β : Type} (R : α → β → Prop) : Except PyError α → Except PyError β → Prop
  | conflict : OutcomeRel R (.error .conflict) (.error .conflict)
  | ok {a : α} {b : β} : R a b → OutcomeRel R (.ok a) (.ok b)

namespace OutcomeRel
variable {α β : Type} {R : α → β → Prop} {x : Except PyError α} {y : Except PyError β}

theorem mono {R' : α → β → Prop} (h : OutcomeRel R x y) (hR : ∀ a b, R a b → R' a b) :
    OutcomeRel R' x y := by
  cases h with
  | conflict => exact .conflict
  | ok h => exact .ok (hR _ _ h)

theorem map {α' β' : Type} {R' : α' → β' → Prop} {f : α → α'} {g : β → β'} (h : OutcomeRel R x y)
    (hR : ∀ a b, R a b → R' (f a) (g b)) : OutcomeRel R' (f <$> x) (g <$> y) := by
  cases h with
  | conflict => exact .conflict
  | ok h => exact .ok (hR _ _ h)

theorem ok_left {a : α} (h : OutcomeRel R (.ok a) y) : ∃ b, y = .ok b ∧ R a b := by
  cases h with | ok h => exact ⟨_, rfl, h⟩

theorem error_left {e : PyError} (h : OutcomeRel R (.error e) y) : e = .conflict ∧ y = .error .conflict := by
  cases h; exact ⟨rfl, rfl⟩

theorem error_right {e : PyError} (h : OutcomeRel R x (.error e)) : e = .conflict ∧ x = .error .conflict := by
  cases h; exact ⟨rfl, rfl⟩

end OutcomeRel

section Keywise
variable {κ C : Type} [DecidableEq κ]

/-- A computation of a dict that is the sum of its outcomes at each key: it returns exactly when
every key's outcome does, holding those outcomes, and otherwise raises one of their errors. -/
structure Keywise (x : Except PyError (PyDict κ C)) (out : κ → Except PyError (Option C)) : Prop where
  get_of_ok : ∀ r, x = .ok r → ∀ k, out k = .ok (r.get k)
  error_of_error : ∀ e, x = .error e → ∃ k, out k = .error e
  ok_of_forall : (∀ k, ∃ v, out k = .ok v) → ∃ r, x = .ok r

variable {x : Except PyError (PyDict κ C)} {out : κ → Except PyError (Option C)}

theorem Keywise.of_forall (hx : Keywise x out) {P : κ → Option C → Prop}
    (h : ∀ k, ∃ v, out k = .ok v ∧ P k v) : ∃ r, x = .ok r ∧ ∀ k, P k (r.get k) := by
  obtain ⟨r, hr⟩ := hx.ok_of_forall fun k => (h k).imp fun _ h => h.1
  refine ⟨r, hr, fun k => ?_⟩
  obtain ⟨v, hv, hp⟩ := h k
  rw [hx.get_of_ok r hr k, Except.ok.injEq] at hv
  exact hv ▸ hp

/-- Two keywise computations whose outcomes agree at every key agree. -/
theorem Keywise.outcomeRel {C' : Type} {x' : Except PyError (PyDict κ C')}
    {out' : κ → Except PyError (Option C')} (hx : Keywise x out) (hx' : Keywise x' out')
    {R : κ → Option C → Option C' → Prop} (h : ∀ k, OutcomeRel (R k) (out k) (out' k)) :
    OutcomeRel (fun r r' => ∀ k, R k (r.get k) (r'.get k)) x x' := by
  cases hr : x with
  | ok r =>
    obtain ⟨r', hr', hR⟩ := hx'.of_forall fun k => (hx.get_of_ok r hr k ▸ h k).ok_left
    exact hr' ▸ .ok hR
  | error e =>
    obtain ⟨k, hk⟩ := hx.error_of_error e hr
    obtain ⟨rfl, hk'⟩ := (hk ▸ h k).error_left
    cases hr' : x' with
    | ok r' => cases (hx'.get_of_ok r' hr' k).symm.trans hk'
    | error e' =>
      obtain ⟨k', hk''⟩ := hx'.error_of_error e' hr'
      obtain ⟨rfl, -⟩ := (hk'' ▸ h k').error_right
      exact .conflict

variable {add : C → C → Except PyError (Option C)} {check : κ → C → Except PyError Unit}
  {self other : PyDict κ C}

theorem Diff.add_keywise : Keywise (Diff.add add check self other) (Diff.addAt add check self other) :=
  ⟨fun _ h => Diff.add_eq_ok h, fun _ h => Diff.add_eq_error h, Diff.add_ok_of⟩

theorem Diff.iadd_keywise (hself : ∀ k c, self.get k = some c → check k c = .ok ()) :
    Keywise (Diff.iadd add check self other) (Diff.addAt add check self other) :=
  ⟨fun _ h => Diff.iadd_eq_ok hself h, fun _ h => Diff.iadd_eq_error h, Diff.iadd_ok_of⟩

end Keywise

namespace DeltaDiff
variable {K V : Type} [DecidableEq K] [DecidableEq V]

/-- The check of `DeltaDiff.__setitem__`. -/
def checkKey (key : K) (delta : Delta K V) : Except PyError Unit :=
  if key ≠ delta.key then throw (.valueError "Delta must be added at the appropriate key") else pure ()

/-- `DeltaDiff.add_delta`. -/
def addDelta (d : DeltaDiff K V) (delta : Delta K V) : DeltaDiff K V := d.setItem delta.key delta

/-- `DeltaDiff(initial_contents)` for an iterable of deltas. -/
def ofDeltas (xs : List (Delta K V)) : DeltaDiff K V := xs.foldl addDelta PyDict.empty

omit [DecidableEq V] in
theorem checkKey_eq_ok {key : K} {delta : Delta K V} (h : delta.key = key) : checkKey key delta = .ok () := by
  simp [checkKey, h]

omit [DecidableEq V] in
theorem get_foldl_addDelta (xs : List (Delta K V)) (init : DeltaDiff K V) {k : K} {d : Delta K V}
    (h : (xs.foldl addDelta init).get k = some d) : d ∈ xs ∧ d.key = k ∨ init.get k = some d := by
  induction xs generalizing init with
  | nil => exact .inr h
  | cons x xs ih =>
    rcases ih _ h with h | h
    · exact .inl ⟨List.mem_cons_of_mem _ h.1, h.2⟩
    · simp only [addDelta, PyDict.get_setItem] at h
      split at h
      · cases h; exact .inl ⟨List.mem_cons_self _ _, by simp_all⟩
      · exact .inr h

omit [DecidableEq V] in
theorem get_ofDeltas {xs : List (Delta K V)} {k : K} {d : Delta K V} (h : (ofDeltas xs).get k = some d) :
    d ∈ xs ∧ d.key = k :=
  (get_foldl_addDelta xs _ h).resolve_right (by simp)

def add (self other : DeltaDiff K V) : Except PyError (DeltaDiff K V) :=
  Diff.add Delta.add checkKey self other

def iadd (self other : DeltaDiff K V) : Except PyError (DeltaDiff K V) :=
  Diff.iadd Delta.add checkKey self other

/-- `DeltaDiff.__invert__`. -/
def invert (self : DeltaDiff K V) : DeltaDiff K V :=
  self.items.foldl (fun result kd => result.addDelta kd.2.invert) PyDict.empty

/-- One key of `DeltaDiff.diff_dicts_as_deltas`: nothing where the two values are `==`. The
values' own `==` need not be equality: a float `nan` is not `==` to itself. -/
def cellDelta [BEq V] (k : K) : Option V → Option V → Option (Delta K V)
  | none, none => none
  | none, some n => some (Delta.insert ⟨k, n⟩)
  | some o, none => some (Delta.delete ⟨k, o⟩)
  | some o, some n => if o == n then none else some (Delta.update ⟨k, o⟩ ⟨k, n⟩)

/-- `DeltaDiff.diff_dicts_as_deltas`, for dicts whose values are never `None`. -/
def diffDictsAsDeltas [BEq V] (old new : PyDict K V) (deltaFlags : Nat) : List (Delta K V) :=
  (unionKeys old new).filterMap fun k =>
    (cellDelta k (old.get k) (new.get k)).map ({ · with flags := deltaFlags })

/-- `DeltaDiff.diff_dicts`. -/
def diffDicts [BEq V] (old new : PyDict K V) (deltaFlags : Nat) : DeltaDiff K V :=
  (diffDictsAsDeltas old new deltaFlags).foldl addDelta PyDict.empty

end DeltaDiff

namespace LazyDeltaDiff
variable {K V : Type} [DecidableEq K]

/-- `LazyDeltaDiff(initial_contents)`: the constructor peeks at the first delta for `_bool`. -/
def init (xs : List (Delta K V)) : LazyDeltaDiff K V := ⟨xs, !xs.isEmpty, false⟩

def resolve (l : LazyDeltaDiff K V) : Except PyError (DeltaDiff K V) :=
  if l.consumed then throw (.runtimeError "LazyDeltaDiff has already been consumed")
  else pure (DeltaDiff.ofDeltas l.wrappedIter)

end LazyDeltaDiff

namespace DatasetChild
variable {K V : Type} [DecidableEq K] [DecidableEq V]

/-- `Diff type mismatch: {type(self)} != {type(other)}`, for a `DeltaDiff` and `other`'s class. -/
def typeMismatch (other : String) : PyError :=
  .typeError s!"Diff type mismatch: <class 'kart.diff_structs.DeltaDiff'> != <class '{other}'>"

/-- What `ensure_child_type` says of a value of type `name`. -/
def badChild (name : String) : PyError :=
  .typeError s!"DatasetDiff accepts children of type one of the types: LazyDeltaDiff, DeltaDiff, bool but received {name}"

/-- The truthiness test `if both:` on a sum that is a `DeltaDiff`. -/
def ofSum (d : DeltaDiff K V) : Option (DatasetChild K V) :=
  if d.items.isEmpty then none else some (.deltaDiff d)

omit [DecidableEq K] [DecidableEq V] in
theorem mem_ofSum {d : DeltaDiff K V} {c : DatasetChild K V} :
    c ∈ ofSum d ↔ d.items.isEmpty = false ∧ c = .deltaDiff d := by
  unfold ofSum; split <;> simp_all [eq_comm (a := c)]

def resolve : DatasetChild K V → Except PyError (DatasetChild K V)
  | .lazy l => .deltaDiff <$> l.resolve
  | .deltaDiff d => pure (.deltaDiff d)
  | .bool _ => throw (.attributeError "'bool' object has no attribute 'resolve'")

/-- `lhs + rhs` for two children of a `DatasetDiff`, `none` when the sum is falsy. -/
def add : DatasetChild K V → DatasetChild K V → Except PyError (Option (DatasetChild K V))
  | .deltaDiff a, .deltaDiff b => ofSum <$> a.add b
  | .deltaDiff a, .lazy b => do ofSum <$> a.add (← b.resolve)
  | .deltaDiff _, .bool _ => throw (.attributeError "'bool' object has no attribute 'resolve'")
  | .lazy a, rhs => do
    let resolved ← a.resolve
    match rhs with
    | .deltaDiff b => ofSum <$> resolved.iadd b
    | .lazy _ => throw (typeMismatch "kart.diff_structs.LazyDeltaDiff")
    | .bool _ => throw (typeMismatch "bool")
  | .bool _, .deltaDiff _ => throw (.typeError "unsupported operand type(s) for +: 'bool' and 'DeltaDiff'")
  | .bool _, .lazy _ => throw (.typeError "unsupported operand type(s) for +: 'bool' and 'LazyDeltaDiff'")
  | .bool a, .bool b => if a || b then throw (badChild "int") else pure none

@[simp] theorem add_deltaDiff (a b : DeltaDiff K V) : add (.deltaDiff a) (.deltaDiff b) = ofSum <$> a.add b :=
  rfl

/-- `~child`: `~True` and `~False` are the ints -2 and -1. -/
def invert : DatasetChild K V → Except PyError (DatasetChild K V)
  | .lazy _ => throw (.typeError "bad operand type for unary ~: 'LazyDeltaDiff'")
  | .deltaDiff d => pure (.deltaDiff d.invert)
  | .bool _ => throw (badChild "int")

end DatasetChild

namespace DatasetDiff
variable {K V : Type} [DecidableEq K] [DecidableEq V]

def resolve (self : DatasetDiff K V) : Except PyError (DatasetDiff K V) :=
  Diff.mapChildren DatasetChild.resolve self self

def add (self other : DatasetDiff K V) : Except PyError (DatasetDiff K V) := do
  Diff.add DatasetChild.add noCheck self (← other.resolve)

def iadd (self other : DatasetDiff K V) : Except PyError (DatasetDiff K V) :=
  Diff.iadd DatasetChild.add noCheck self other

/-- With a `LazyDeltaDiff` on both sides at one key, `+=` raises where `+` succeeds:
`__add__` resolves the right operand first, `__iadd__` hands it on still lazy. -/
theorem iadd_lazy_lazy :
    let d₁ : DatasetDiff Nat Nat :=
      PyDict.empty.setItem "feature" (.lazy (LazyDeltaDiff.init [Delta.insert ⟨1, 10⟩]))
    let d₂ : DatasetDiff Nat Nat :=
      PyDict.empty.setItem "feature" (.lazy (LazyDeltaDiff.init [Delta.update ⟨1, 10⟩ ⟨1, 20⟩]))
    iadd d₁ d₂ = .error (DatasetChild.typeMismatch "kart.diff_structs.LazyDeltaDiff") ∧
      add d₁ d₂ =
        .ok (PyDict.empty.setItem "feature" (.deltaDiff (DeltaDiff.ofDeltas [Delta.insert ⟨1, 20⟩]))) :=
  ⟨rfl, rfl⟩

def invert (self : DatasetDiff K V) : Except PyError (DatasetDiff K V) :=
  Diff.mapChildren DatasetChild.invert self PyDict.empty

/-- `key == "data_changes" and value == False`. -/
def isNoDataChanges : String × DatasetChild K V → Bool
  | ("data_changes", .bool false) => true
  | _ => false

/-- `isinstance(value, RichDict)` and `not value` once pruned; pruning a `DeltaDiff` changes
nothing. -/
def isEmptyDiff : DatasetChild K V → Bool
  | .deltaDiff d => d.items.isEmpty
  | _ => false

/-- One turn of `RichDict.prune`'s loop over a snapshot of the items. -/
def pruneStep (self : DatasetDiff K V) (kv : String × DatasetChild K V) : DatasetDiff K V :=
  let self := if isNoDataChanges kv ∧ self.items.length = 1 then self.pop kv.1 else self
  if isEmptyDiff kv.2 then self.pop kv.1 else self

/-- `RichDict.prune` on a `DatasetDiff`. -/
def prune (self : DatasetDiff K V) : DatasetDiff K V := self.items.foldl pruneStep self

end DatasetDiff

namespace RepoDiff
variable {K V : Type} [DecidableEq K] [DecidableEq V]

/-- The truthiness test `if both:` on a sum that is a `DatasetDiff`. -/
def ofSum (d : DatasetDiff K V) : Option (DatasetDiff K V) :=
  if d.items.isEmpty then none else some d

omit [DecidableEq K] [DecidableEq V] in
theorem mem_ofSum {d c : DatasetDiff K V} : c ∈ ofSum d ↔ d.items.isEmpty = false ∧ c = d := by
  unfold ofSum; split <;> simp_all [eq_comm (a := c)]

def addChild (lhs rhs : DatasetDiff K V) : Except PyError (Option (DatasetDiff K V)) :=
  ofSum <$> lhs.add rhs

def resolve (self : RepoDiff K V) : Except PyError (RepoDiff K V) :=
  Diff.mapChildren DatasetDiff.resolve self self

def add (self other : RepoDiff K V) : Except PyError (RepoDiff K V) := do
  Diff.add addChild noCheck self (← other.resolve)

def iadd (self other : RepoDiff K V) : Except PyError (RepoDiff K V) :=
  Diff.iadd addChild noCheck self other

def invert (self : RepoDiff K V) : Except PyError (RepoDiff K V) :=
  Diff.mapChildren DatasetDiff.invert self PyDict.empty

/-- One turn of `RichDict.prune`'s loop: the dataset diff is pruned in place, then dropped if
empty. -/
def pruneStep (self : RepoDiff K V) (kv : String × DatasetDiff K V) : RepoDiff K V :=
  if kv.2.prune.items.isEmpty then self.pop kv.1 else self.setItem kv.1 kv.2.prune

/-- `RichDict.prune` on a `RepoDiff`. -/
def prune (self : RepoDiff K V) : RepoDiff K V := self.items.foldl pruneStep self

end RepoDiff

end Kart.DiffStructs
