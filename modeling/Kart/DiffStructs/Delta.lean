import Kart.DiffStructs.Dict
import Mathlib.Data.Nat.Bitwise
set_option autoImplicit false

/-!
# Deltas

A delta is one object changing from `old` to `new`; either side may be missing, never both.
Concatenation follows the table of `Delta.__add__`, inversion swaps the two sides.
-/
namespace Kart.DiffStructs

structure KeyValue (K V : Type) where
  key : K
  value : V
deriving DecidableEq, Repr

/-- The sides a delta has; `Delta.__init__` raises "Empty Delta" for neither. -/
inductive Change (K V : Type)
  | insert (new : KeyValue K V)
  | update (old new : KeyValue K V)
  | delete (old : KeyValue K V)
deriving DecidableEq, Repr

inductive DeltaType
  | insert | update | delete
deriving DecidableEq, Repr

structure Delta (K V : Type) where
  change : Change K V
  flags : Nat
deriving DecidableEq, Repr

namespace Delta
variable {K V : Type}

/-- `Delta(old, new)`. -/
def init : Option (KeyValue K V) → Option (KeyValue K V) → Except PyError (Delta K V)
  | none, none => throw (.valueError "Empty Delta")
  | none, some n => pure ⟨.insert n, 0⟩
  | some o, none => pure ⟨.delete o, 0⟩
  | some o, some n => pure ⟨.update o n, 0⟩

def insert (new : KeyValue K V) : Delta K V := ⟨.insert new, 0⟩

def update (old new : KeyValue K V) : Delta K V := ⟨.update old new, 0⟩

def delete (old : KeyValue K V) : Delta K V := ⟨.delete old, 0⟩

def old (d : Delta K V) : Option (KeyValue K V) :=
  match d.change with
  | .insert _ => none
  | .update o _ | .delete o => some o

def new (d : Delta K V) : Option (KeyValue K V) :=
  match d.change with
  | .insert n | .update _ n => some n
  | .delete _ => none

def type (d : Delta K V) : DeltaType :=
  match d.change with
  | .insert _ => .insert
  | .update _ _ => .update
  | .delete _ => .delete

/-- `Delta.key`: the old key when there is one, else the new key. -/
def key (d : Delta K V) : K :=
  match d.change with
  | .insert n => n.key
  | .update o _ | .delete o => o.key

def isRename [DecidableEq K] (d : Delta K V) : Bool :=
  match d.change with
  | .update o n => o.key ≠ n.key
  | _ => false

/-- `~delta` is `Delta(self.new, self.old)`: a fresh delta, so its flags are 0. -/
def invert (d : Delta K V) : Delta K V :=
  match d.change with
  | .insert n => delete n
  | .update o n => update n o
  | .delete o => insert o

/-- `Delta.maybe_update`: the update, or nothing when both values are equal. -/
def maybeUpdate [DecidableEq V] (old new : KeyValue K V) : Option (Delta K V) :=
  if old.value ≠ new.value then some (update old new) else none

/-- The table of `Delta.__add__`, before the result's flags are set. -/
def concat [DecidableEq V] : Change K V → Change K V → Except PyError (Option (Delta K V))
  | .insert _, .insert _ => throw .conflict
  | .insert _, .update _ n => pure (some (insert n))
  | .insert _, .delete _ => pure none
  | .update _ _, .insert _ => throw .conflict
  | .update o _, .update _ n => pure (maybeUpdate o n)
  | .update o _, .delete _ => pure (some (delete o))
  | .delete o, .insert n => pure (maybeUpdate o n)
  | .delete _, .update _ _ => throw .conflict
  | .delete _, .delete _ => throw .conflict

/-- `Delta.__add__`: this delta followed by `other`, or `none` when the two cancel. -/
def add [DecidableEq V] (self other : Delta K V) : Except PyError (Option (Delta K V)) := do
  let result ← concat self.change other.change
  pure (result.map fun r => { r with flags := self.flags ||| other.flags })

@[simp] theorem key_invert (d : Delta K V) [DecidableEq K] (h : d.isRename = false) :
    d.invert.key = d.key := by
  rcases d with ⟨_ | ⟨o, n⟩ | _, f⟩ <;> simp_all [invert, key, isRename, insert, update, delete]

theorem isRename_invert [DecidableEq K] (d : Delta K V) : d.invert.isRename = d.isRename := by
  rcases d with ⟨_ | ⟨o, n⟩ | _, f⟩ <;> simp [invert, isRename, insert, update, delete, eq_comm]

section Add
variable [DecidableEq V] {d₁ d₂ r : Delta K V}

theorem add_flags (h : d₁.add d₂ = .ok (some r)) : r.flags = d₁.flags ||| d₂.flags := by
  obtain ⟨_ | _, -, h⟩ := bind_eq_ok.1 h <;> cases h
  rfl

/-- Concatenation fails only with `Conflict`. -/
theorem add_eq_error {e : PyError} (h : d₁.add d₂ = .error e) : e = .conflict := by
  rcases bind_eq_error.1 h with h | ⟨_, -, h⟩
  · rcases d₁ with ⟨_ | _ | _, f₁⟩ <;> rcases d₂ with ⟨_ | _ | _, f₂⟩ <;> cases h <;> rfl
  · cases h

/-- What the code's equality sees of a sum, `Delta.__eq__` comparing only the two sides, is
decided by the table alone. -/
theorem add_map_change {α : Type} (g : Change K V → α) (d₁ d₂ : Delta K V) :
    (d₁.add d₂).map (Option.map fun r => g r.change) =
      (concat d₁.change d₂.change).map (Option.map fun r => g r.change) := by
  unfold add
  cases concat d₁.change d₂.change with
  | error e => rfl
  | ok r => cases r <;> rfl

/-- Inversion reverses the table of `Delta.__add__` on every cell, conflicts included. -/
theorem concat_invert (c₁ c₂ : Change K V) :
    (concat (invert ⟨c₂, 0⟩).change (invert ⟨c₁, 0⟩).change).map (Option.map change) =
      (concat c₁ c₂).map (Option.map fun r => r.invert.change) := by
  cases c₁ <;> cases c₂ <;> simp only [concat, invert, maybeUpdate, insert, update, delete, ne_eq] <;>
    (try split_ifs) <;> first | rfl | (exfalso; simp_all [eq_comm])

/-- Inversion reverses concatenation; only flags differ, which the code's equality ignores. -/
theorem add_invert (d₁ d₂ : Delta K V) :
    (d₂.invert.add d₁.invert).map (Option.map change) =
      (d₁.add d₂).map (Option.map fun r => r.invert.change) :=
  (add_map_change id d₂.invert d₁.invert).trans ((concat_invert d₁.change d₂.change).trans
    (add_map_change (fun c => (invert ⟨c, 0⟩).change) d₁ d₂).symm)

theorem change_of_add_eq_some {d₁ d₂ r : Delta K V} (h : d₁.add d₂ = .ok (some r)) :
    ∃ r', concat d₁.change d₂.change = .ok (some r') ∧ r.change = r'.change := by
  obtain ⟨_ | r', hc, h⟩ := bind_eq_ok.1 h <;> cases h
  exact ⟨r', hc, rfl⟩

/-- A sum of two deltas at one key is at that key and is not a rename. -/
theorem add_key [DecidableEq K] {d₁ d₂ r : Delta K V} (h₁ : d₁.isRename = false)
    (h₂ : d₂.isRename = false) (hk : d₁.key = d₂.key) (h : d₁.add d₂ = .ok (some r)) :
    r.key = d₁.key ∧ r.isRename = false := by
  obtain ⟨r', hc, hr⟩ := change_of_add_eq_some h
  simp only [key, isRename, hr]
  rcases d₁ with ⟨_ | ⟨_, _⟩ | _, _⟩ <;> rcases d₂ with ⟨_ | ⟨_, _⟩ | _, _⟩ <;>
    simp only [concat, maybeUpdate] at hc <;> (try split_ifs at hc) <;> cases hc <;>
    simp_all [key, isRename, insert, update, delete]

end Add

end Delta
end Kart.DiffStructs
