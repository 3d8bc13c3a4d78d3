import Mathlib.Data.List.Nodup
set_option autoImplicit false

/-!
# Python dicts

Every `RichDict` is a `UserDict`: a mapping that remembers insertion order. Assigning to a
present key keeps its place, a new key goes last, and `pop` drops a key.
-/
namespace Kart.DiffStructs

/-- The exceptions the modelled code raises, with their messages (`Conflict` is the diff
algebra's own; `KeyError` carries the missing key, `UsageError` its message). -/
inductive PyError
  | conflict
  | valueError (msg : String)
  | typeError (msg : String)
  | attributeError (msg : String)
  | runtimeError (msg : String)
  | keyError (key : String)
  | usageError (msg : String)
  | notFound (msg : String)
deriving DecidableEq, Repr

section Except
variable {ε α β : Type}

@[simp] theorem ok_bind (a : α) (f : α → Except ε β) : (Except.ok a >>= f) = f a := rfl

@[simp] theorem error_bind (e : ε) (f : α → Except ε β) : (Except.error e >>= f) = .error e := rfl

@[simp] theorem pure_eq_ok (a : α) : (pure a : Except ε α) = .ok a := rfl

@[simp] theorem throw_eq_error (e : ε) : (throw e : Except ε α) = .error e := rfl

@[simp] theorem map_ok (f : α → β) (a : α) : (f <$> (Except.ok a : Except ε α)) = .ok (f a) := rfl

@[simp] theorem map_error (f : α → β) (e : ε) : (f <$> (Except.error e : Except ε α)) = .error e := rfl

@[simp] theorem mapM_none (f : α → Except ε β) : Option.mapM f none = .ok none := rfl

@[simp] theorem mapM_some (f : α → Except ε β) (a : α) :
    Option.mapM f (some a) = (some ·) <$> f a := by
  simp only [Option.mapM]; cases f a <;> rfl

theorem bind_eq_ok {x : Except ε α} {f : α → Except ε β} {b : β} :
    x >>= f = .ok b ↔ ∃ a, x = .ok a ∧ f a = .ok b := by
  cases x <;> simp

theorem bind_eq_error {x : Except ε α} {f : α → Except ε β} {e : ε} :
    x >>= f = .error e ↔ x = .error e ∨ ∃ a, x = .ok a ∧ f a = .error e := by
  cases x <;> simp

end Except

@[ext] structure PyDict (K V : Type) where
  items : List (K × V)
  nodup : (items.map Prod.fst).Nodup

namespace PyDict
variable {K V : Type} [DecidableEq K]

def empty : PyDict K V := ⟨[], List.nodup_nil⟩

def keys (d : PyDict K V) : List K := d.items.map Prod.fst

def get (d : PyDict K V) (k : K) : Option V := d.items.lookup k

/-- `d[k] = v`. -/
def setItem (d : PyDict K V) (k : K) (v : V) : PyDict K V :=
  if h : k ∈ d.keys then
    ⟨d.items.map (fun p => if p.1 = k then (k, v) else p), by
      have e : (fun p : K × V => (if p.1 = k then (k, v) else p).1) = Prod.fst := by
        funext p; split <;> simp_all
      simpa [List.map_map, Function.comp_def, e] using d.nodup⟩
  else
    ⟨d.items ++ [(k, v)], by
      simpa [List.nodup_append] using And.intro d.nodup (fun w hw => h (List.mem_map.2 ⟨_, hw, rfl⟩))⟩

/-- `d.pop(k, None)`. -/
def pop (d : PyDict K V) (k : K) : PyDict K V :=
  ⟨d.items.filter (fun p => p.1 ≠ k), d.nodup.sublist ((List.filter_sublist _).map _)⟩

/-- `d[k]` for a dict with string keys: `KeyError` when the key is missing. -/
def getItem (d : PyDict String V) (k : String) : Except PyError V :=
  match d.get k with
  | some v => pure v
  | none => throw (.keyError k)

@[simp] theorem get_empty (k : K) : (empty : PyDict K V).get k = none := rfl

omit [DecidableEq K] in
@[simp] theorem keys_empty : (empty : PyDict K V).keys = [] := rfl

theorem lookup_cons_ite (l : List (K × V)) (p : K × V) (k : K) :
    (p :: l).lookup k = if k = p.1 then some p.2 else l.lookup k := by
  rw [List.lookup_cons]
  by_cases h : k = p.1
  · simp [h]
  · simp [beq_eq_false_iff_ne.2 h, h]

private theorem lookup_replace (l : List (K × V)) (k k' : K) (v : V) :
    (l.map fun p => if p.1 = k then (k, v) else p).lookup k' =
      if k' = k then (l.lookup k).map (fun _ => v) else l.lookup k' := by
  induction l with
  | nil => split <;> rfl
  | cons p l ih =>
    obtain ⟨a, b⟩ := p
    by_cases ha : a = k
    · subst ha
      by_cases hk : k' = a <;> simp [lookup_cons_ite, ih, hk]
    · by_cases hk : k' = k
      · subst hk; simp [lookup_cons_ite, ih, ha, Ne.symm ha]
      · simp [lookup_cons_ite, ih, ha, hk]

private theorem lookup_filter (l : List (K × V)) (k k' : K) :
    (l.filter fun p => p.1 ≠ k).lookup k' = if k' = k then none else l.lookup k' := by
  induction l with
  | nil => split <;> rfl
  | cons p l ih =>
    obtain ⟨a, b⟩ := p
    rw [List.filter_cons]
    by_cases ha : a = k
    · subst ha
      rw [if_neg (by simp), ih, lookup_cons_ite]
      by_cases hk : k' = a <;> simp only [hk, if_true, if_false]
    · rw [if_pos (by simpa using ha), lookup_cons_ite, lookup_cons_ite, ih]
      by_cases hk : k' = k
      · subst hk; simp only [Ne.symm ha, if_true, if_false]
      · simp only [hk, if_false]

theorem mem_keys {d : PyDict K V} {k : K} : k ∈ d.keys ↔ (d.get k).isSome := by
  simp only [keys, get, List.mem_map, List.lookup_isSome_iff, beq_iff_eq]
  constructor <;> rintro ⟨p, hp, rfl⟩ <;> exact ⟨p, hp, rfl⟩

theorem get_eq_none {d : PyDict K V} {k : K} : d.get k = none ↔ k ∉ d.keys := by
  rw [mem_keys, Option.not_isSome_iff_eq_none]

@[simp] theorem get_setItem (d : PyDict K V) (k k' : K) (v : V) :
    (d.setItem k v).get k' = if k' = k then some v else d.get k' := by
  unfold setItem
  split
  · rename_i h
    obtain ⟨w, hw⟩ := Option.isSome_iff_exists.1 (mem_keys.1 h)
    simp only [get, lookup_replace]
    split
    · simp only [get] at hw; simp [hw]
    · rfl
  · rename_i h
    have hn : d.items.lookup k = none := get_eq_none.2 h
    simp only [get, List.lookup_append, lookup_cons_ite, List.lookup_nil]
    by_cases hk : k' = k
    · subst hk; simp [hn]
    · simp only [hk, if_false, Option.or_none]

theorem mem_keys_setItem {d : PyDict K V} {k k' : K} {v : V} :
    k' ∈ (d.setItem k v).keys ↔ k' = k ∨ k' ∈ d.keys := by
  rw [mem_keys, mem_keys, get_setItem]
  split <;> simp_all

@[simp] theorem get_pop (d : PyDict K V) (k k' : K) :
    (d.pop k).get k' = if k' = k then none else d.get k' :=
  lookup_filter d.items k k'

theorem get_eq_some_iff {d : PyDict K V} {k : K} {v : V} : d.get k = some v ↔ (k, v) ∈ d.items := by
  obtain ⟨l, hl⟩ := d
  simp only [get]
  induction l with
  | nil => simp
  | cons p l ih =>
    obtain ⟨a, b⟩ := p
    simp only [List.map_cons, List.nodup_cons, List.mem_map] at hl
    by_cases hk : k = a
    · subst hk
      have : ∀ w, (k, w) ∉ l := fun w hw => hl.1 ⟨_, hw, rfl⟩
      simp [lookup_cons_ite, this, eq_comm]
    · simp [lookup_cons_ite, hk, ih hl.2]

theorem mem_keys_of_get {d : PyDict K V} {k : K} {v : V} (h : d.get k = some v) : k ∈ d.keys :=
  mem_keys.2 (by simp [h])

theorem get_eq_none_of_items {d : PyDict K V} (h : d.items = []) (k : K) : d.get k = none := by
  simp [get, h]

theorem items_eq_nil_of_get {d : PyDict K V} (h : ∀ k, d.get k = none) : d.items = [] := by
  cases hd : d.items with
  | nil => rfl
  | cons p l => simpa [get, hd, lookup_cons_ite] using h p.1

/-- Assigning a key the value it holds changes nothing. -/
theorem setItem_self {d : PyDict K V} {k : K} {v : V} (h : d.get k = some v) : d.setItem k v = d := by
  ext1
  simp only [setItem, dif_pos (mem_keys_of_get h)]
  conv_rhs => rw [← List.map_id d.items]
  refine List.map_congr_left fun p hp => ?_
  split
  · obtain ⟨k', w⟩ := p
    obtain rfl : k' = k := ‹_›
    cases h.symm.trans (get_eq_some_iff.2 hp)
    rfl
  · rfl

theorem pop_of_get_none {d : PyDict K V} {k : K} (h : d.get k = none) : d.pop k = d := by
  ext1
  refine List.filter_eq_self.2 fun p hp => decide_eq_true fun e => ?_
  exact get_eq_none.1 h (e ▸ List.mem_map_of_mem Prod.fst hp)

section Store
variable {ε : Type}

/-- `d[k] = v` after the container's `__setitem__` check, or `d.pop(k, None)` when the value is
falsy (`none`). -/
def store (check : K → V → Except ε Unit) (d : PyDict K V) (k : K) : Option V → Except ε (PyDict K V)
  | some v => do check k v; pure (d.setItem k v)
  | none => pure (d.pop k)

/-- What `store` leaves at `k`, with the check it makes. -/
def checked (check : K → V → Except ε Unit) (k : K) : Option V → Except ε (Option V)
  | some v => do check k v; pure (some v)
  | none => pure none

/-- The loop of `Diff.__add__` and `Diff.__iadd__`: each key's outcome, stored in turn. -/
def storeAll (check : K → V → Except ε Unit) (out : K → Except ε (Option V)) (d : PyDict K V)
    (ks : List K) : Except ε (PyDict K V) :=
  ks.foldlM (fun d k => out k >>= store check d k) d

theorem store_eq_ok {check : K → V → Except ε Unit} {d r : PyDict K V} {k : K} {v : Option V}
    (h : store check d k v = .ok r) : checked check k v = .ok v ∧ ∀ k', r.get k' = if k' = k then v else d.get k' := by
  cases v with
  | none => cases h; simp [checked]
  | some v =>
    obtain ⟨u, hu, h'⟩ := bind_eq_ok.1 h
    simp only [pure_eq_ok, Except.ok.injEq] at h'
    subst h'
    simp [checked, hu]

theorem store_eq_error {check : K → V → Except ε Unit} {d : PyDict K V} {k : K} {v : Option V} {e : ε}
    (h : store check d k v = .error e) : checked check k v = .error e := by
  cases v with
  | none => cases h
  | some v =>
    rcases bind_eq_error.1 h with hc | ⟨u, _, hu⟩
    · simp [checked, hc]
    · cases hu

omit [DecidableEq K] in
theorem checked_eq_ok {check : K → V → Except ε Unit} {k : K} {v w : Option V}
    (h : checked check k v = .ok w) : w = v := by
  cases v with
  | none => cases h; rfl
  | some v =>
    obtain ⟨u, -, h⟩ := bind_eq_ok.1 h
    cases h; rfl

theorem store_ok_of {check : K → V → Except ε Unit} (d : PyDict K V) {k : K} {v : Option V}
    (h : checked check k v = .ok v) : ∃ r, store check d k v = .ok r := by
  cases v with
  | none => exact ⟨_, rfl⟩
  | some v =>
    obtain ⟨u, hu, -⟩ := bind_eq_ok.1 h
    exact ⟨d.setItem k v, by simp [store, hu]⟩

variable {check : K → V → Except ε Unit} {out : K → Except ε (Option V)}

theorem store_self {d : PyDict K V} {k : K} (h : checked check k (d.get k) = .ok (d.get k)) :
    store check d k (d.get k) = .ok d := by
  cases hk : d.get k with
  | none => simp [store, pop_of_get_none hk]
  | some v =>
    rw [hk] at h
    obtain ⟨u, hu, -⟩ := bind_eq_ok.1 h
    simp [store, hu, setItem_self hk]

/-- Storing at each key what it already holds leaves the dict as it was. -/
theorem storeAll_self {d : PyDict K V} {ks : List K}
    (h : ∀ k ∈ ks, (out k >>= checked check k) = .ok (d.get k)) : storeAll check out d ks = .ok d := by
  induction ks with
  | nil => rfl
  | cons k ks ih =>
    obtain ⟨v, hv, hc⟩ := bind_eq_ok.1 (h k (List.mem_cons_self _ _))
    obtain rfl := (checked_eq_ok hc).symm
    simp only [storeAll, List.foldlM_cons, hv, ok_bind, store_self hc]
    exact ih fun k' hk' => h k' (List.mem_cons_of_mem _ hk')

theorem storeAll_eq_ok {ks : List K} (hks : ks.Nodup) {d r : PyDict K V}
    (h : storeAll check out d ks = .ok r) :
    (∀ k ∈ ks, (out k >>= checked check k) = .ok (r.get k)) ∧ ∀ k ∉ ks, r.get k = d.get k := by
  induction ks generalizing d with
  | nil => cases h; simp
  | cons k ks ih =>
    obtain ⟨v, hv, d', hd', hr⟩ : ∃ v, out k = .ok v ∧ ∃ d', store check d k v = .ok d' ∧
        storeAll check out d' ks = .ok r := by
      simpa [storeAll, List.foldlM_cons, bind_eq_ok] using h
    obtain ⟨hc, hget⟩ := store_eq_ok hd'
    obtain ⟨hin, hout⟩ := ih (List.nodup_cons.1 hks).2 hr
    have hk : r.get k = v := by rw [hout k (List.nodup_cons.1 hks).1, hget, if_pos rfl]
    refine ⟨fun k' hk' => ?_, fun k' hk' => ?_⟩
    · rcases List.mem_cons.1 hk' with rfl | hk'
      · simp [hv, hc, hk]
      · exact hin k' hk'
    · simp only [List.mem_cons, not_or] at hk'
      rw [hout k' hk'.2, hget, if_neg hk'.1]

theorem storeAll_eq_error {ks : List K} {d : PyDict K V} {e : ε}
    (h : storeAll check out d ks = .error e) : ∃ k ∈ ks, (out k >>= checked check k) = .error e := by
  induction ks generalizing d with
  | nil => cases h
  | cons k ks ih =>
    simp only [storeAll, List.foldlM_cons] at h
    rcases bind_eq_error.1 h with h | ⟨d', hd', h⟩
    · rcases bind_eq_error.1 h with h | ⟨v, hv, h⟩
      · exact ⟨k, List.mem_cons_self _ _, by simp [h]⟩
      · exact ⟨k, List.mem_cons_self _ _, by simp [hv, store_eq_error h]⟩
    · obtain ⟨k', hk', h'⟩ := ih h
      exact ⟨k', List.mem_cons_of_mem _ hk', h'⟩

theorem storeAll_ok_of {ks : List K} (d : PyDict K V)
    (h : ∀ k ∈ ks, ∃ v, (out k >>= checked check k) = .ok v) : ∃ r, storeAll check out d ks = .ok r := by
  induction ks generalizing d with
  | nil => exact ⟨d, rfl⟩
  | cons k ks ih =>
    obtain ⟨v, hv⟩ := h k (List.mem_cons_self _ _)
    obtain ⟨w, hw, hc⟩ := bind_eq_ok.1 hv
    obtain rfl := checked_eq_ok hc
    obtain ⟨d', hd'⟩ := store_ok_of d hc
    obtain ⟨r, hr⟩ := ih d' (fun k' hk' => h k' (List.mem_cons_of_mem _ hk'))
    exact ⟨r, by simp [storeAll, List.foldlM_cons, hw, hd'] at hr ⊢; exact hr⟩

end Store

end PyDict
end Kart.DiffStructs
