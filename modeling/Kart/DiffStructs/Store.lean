import Kart.DiffStructs.Diff
set_option autoImplicit false

/-!
# Diffs as store updates

The reading of a delta the diff algebra answers to: its old side, if present, must be in the
store with exactly that value and is removed; its new side, if present, must then be absent and
is inserted. A `DeltaDiff` applies its deltas one after another, and the upper levels apply each
child to the part of the store under its key.
-/
namespace Kart.DiffStructs

section Cells
variable {κ C σ : Type} [DecidableEq κ]

/-- A child applied to its cell, where no child leaves the cell unchanged. -/
def applyOpt (app : C → σ → Option σ) : Option C → σ → Option σ
  | none, x => some x
  | some c, x => app c x

/-- Each child applied to its own cell of the store, in the order of the items. -/
def PyDict.applyCells (app : C → σ → Option σ) (D : PyDict κ C) (S : κ → σ) : Option (κ → σ) :=
  D.items.foldlM (fun S kc => (app kc.2 (S kc.1)).map (Function.update S kc.1)) S

private theorem foldlM_cells (app : C → σ → Option σ) (l : List (κ × C)) (hl : (l.map Prod.fst).Nodup)
    (S S' : κ → σ) :
    l.foldlM (fun S kc => (app kc.2 (S kc.1)).map (Function.update S kc.1)) S = some S' ↔
      ∀ k, applyOpt app (l.lookup k) (S k) = some (S' k) := by
  induction l generalizing S with
  | nil =>
    simp only [List.foldlM_nil, List.lookup_nil, applyOpt, Option.pure_def, Option.some.injEq]
    exact ⟨fun h _ => h ▸ rfl, fun h => funext h⟩
  | cons p l ih =>
    obtain ⟨k, c⟩ := p
    simp only [List.map_cons, List.nodup_cons, List.mem_map, not_exists, not_and] at hl
    have hk : l.lookup k = none :=
      List.lookup_eq_none_iff.2 fun q hq => bne_iff_ne.2 fun h => hl.1 q hq h.symm
    simp only [List.foldlM_cons, PyDict.lookup_cons_ite]
    cases hc : app c (S k) with
    | none =>
      simp only [Option.map_none', Option.bind_eq_bind, Option.none_bind]
      refine ⟨(fun h => nomatch h), fun h => ?_⟩
      simpa [applyOpt, hc] using h k
    | some x =>
      simp only [Option.map_some', Option.bind_eq_bind, Option.some_bind, ih hl.2]
      refine forall_congr' fun k' => ?_
      by_cases e : k' = k
      · subst e; simp [applyOpt, hk, hc]
      · simp [e]

theorem applyCells_of_isEmpty {app : C → σ → Option σ} {D : PyDict κ C} (h : D.items.isEmpty)
    {S S' : κ → σ} (ha : D.applyCells app S = some S') : S' = S := by
  unfold PyDict.applyCells at ha
  rw [List.isEmpty_iff.1 h] at ha
  simpa using ha.symm

theorem applyCells_eq_some {app : C → σ → Option σ} {D : PyDict κ C} {S S' : κ → σ} :
    D.applyCells app S = some S' ↔ ∀ k, applyOpt app (D.get k) (S k) = some (S' k) :=
  foldlM_cells app D.items D.nodup S S'

omit [DecidableEq κ] in
theorem checked_of_forall {check : κ → C → Except PyError Unit} {k : κ} {v : Option C}
    (h : ∀ c ∈ v, check k c = .ok ()) : PyDict.checked check k v = .ok v := by
  cases v with
  | none => rfl
  | some c => simp [PyDict.checked, h c rfl]

section AddChildren
variable {app : C → σ → Option σ} {add : C → C → Except PyError (Option C)} {Q : C → Prop}
  {x x₁ x₂ : σ}

/-- `addChildren` of two children that apply one after the other, given the case where both are
present: a child on one side only is kept, and does what it did. -/
theorem addChildren_apply {o₁ o₂ : Option C} (a₁ : applyOpt app o₁ x = some x₁)
    (a₂ : applyOpt app o₂ x₁ = some x₂) (hQ₁ : ∀ c, o₁ = some c → o₂ = none → Q c)
    (hQ₂ : ∀ c, o₁ = none → o₂ = some c → Q c)
    (hadd : ∀ c₁ c₂, o₁ = some c₁ → o₂ = some c₂ → app c₁ x = some x₁ → app c₂ x₁ = some x₂ →
      ∃ v, add c₁ c₂ = .ok v ∧ applyOpt app v x = some x₂ ∧ ∀ c ∈ v, Q c) :
    ∃ v, addChildren add o₁ o₂ = .ok v ∧ applyOpt app v x = some x₂ ∧ ∀ c ∈ v, Q c :=
  match o₁, o₂ with
  | none, o₂ => by cases a₁; exact ⟨o₂, rfl, a₂, fun c => hQ₂ c rfl⟩
  | some c₁, none => by cases a₂; exact ⟨some c₁, rfl, a₁, fun c hc => hQ₁ c hc rfl⟩
  | some c₁, some c₂ => hadd c₁ c₂ rfl rfl a₁ a₂

/-- The same at one key of two diffs, where every child kept passes the diff's check. -/
theorem Diff.addAt_apply {check : κ → C → Except PyError Unit} {D₁ D₂ : PyDict κ C} {k : κ}
    (hcheck : ∀ c, Q c → check k c = .ok ())
    (a₁ : applyOpt app (D₁.get k) x = some x₁) (a₂ : applyOpt app (D₂.get k) x₁ = some x₂)
    (hQ₁ : ∀ c, D₁.get k = some c → D₂.get k = none → Q c)
    (hQ₂ : ∀ c, D₁.get k = none → D₂.get k = some c → Q c)
    (hadd : ∀ c₁ c₂, D₁.get k = some c₁ → D₂.get k = some c₂ → app c₁ x = some x₁ →
      app c₂ x₁ = some x₂ → ∃ v, add c₁ c₂ = .ok v ∧ applyOpt app v x = some x₂ ∧ ∀ c ∈ v, Q c) :
    ∃ v, Diff.addAt add check D₁ D₂ k = .ok v ∧ applyOpt app v x = some x₂ ∧ ∀ c ∈ v, Q c := by
  obtain ⟨v, hv, ha, hQ⟩ := addChildren_apply a₁ a₂ hQ₁ hQ₂ hadd
  exact ⟨v, by rw [Diff.addAt, hv, ok_bind, checked_of_forall fun c hc => hcheck c (hQ c hc)], ha, hQ⟩

end AddChildren

end Cells

namespace Delta
variable {K V : Type} [DecidableEq K] [DecidableEq V]

def apply (d : Delta K V) (S : K → Option V) : Option (K → Option V) := do
  let S ← match d.old with
    | none => some S
    | some o => if S o.key = some o.value then some (Function.update S o.key none) else none
  match d.new with
  | none => some S
  | some n => if S n.key = none then some (Function.update S n.key (some n.value)) else none

/-- The same reading at the delta's own cell, for a delta that is not a rename. -/
def applyCell (d : Delta K V) (c : Option V) : Option (Option V) :=
  match d.change, c with
  | .insert n, none => some (some n.value)
  | .update o n, some v => if v = o.value then some (some n.value) else none
  | .delete o, some v => if v = o.value then some none else none
  | _, _ => none

theorem apply_eq_applyCell (d : Delta K V) (h : d.isRename = false) (S : K → Option V) :
    d.apply S = (d.applyCell (S d.key)).map (Function.update S d.key) := by
  rcases d with ⟨⟨k, v⟩ | ⟨⟨k, v⟩, ⟨k', v'⟩⟩ | ⟨k, v⟩, f⟩
  · cases hS : S k <;> simp [apply, applyCell, old, new, key, hS]
  · obtain rfl : k = k' := by simpa [isRename] using h
    cases hS : S k with
    | none => simp [apply, applyCell, old, new, key, hS]
    | some w => by_cases hw : w = v <;> simp [apply, applyCell, old, new, key, hS, hw]
  · cases hS : S k with
    | none => simp [apply, applyCell, old, new, key, hS]
    | some w => by_cases hw : w = v <;> simp [apply, applyCell, old, new, key, hS, hw]

omit [DecidableEq K] in
/-- A delta applies at a cell exactly when the cell holds its old value, and leaves its new one. -/
theorem applyCell_eq_some {d : Delta K V} {c c' : Option V} :
    d.applyCell c = some c' ↔ c = d.old.map (·.value) ∧ c' = d.new.map (·.value) := by
  rcases d with ⟨n | ⟨o, n⟩ | o, f⟩ <;> rcases c with _ | v <;>
    simp [applyCell, old, new, eq_comm, and_comm]

/-- The heart of the concatenation law: two deltas at one cell that apply one after the other
concatenate without `Conflict` into what applies in one step, at the same key and not a rename. -/
theorem add_applyCell {d₁ d₂ : Delta K V} (h₁ : d₁.isRename = false) (h₂ : d₂.isRename = false)
    (hk : d₁.key = d₂.key) {c c₁ c₂ : Option V} (a₁ : d₁.applyCell c = some c₁)
    (a₂ : d₂.applyCell c₁ = some c₂) :
    ∃ r, d₁.add d₂ = .ok r ∧ applyOpt applyCell r c = some c₂ ∧
      ∀ d ∈ r, d.key = d₁.key ∧ d.isRename = false := by
  obtain ⟨r, hr, happ⟩ : ∃ r, d₁.add d₂ = .ok r ∧ applyOpt applyCell r c = some c₂ := by
    rw [applyCell_eq_some] at a₁ a₂
    obtain ⟨rfl, rfl⟩ := a₁
    obtain ⟨h, rfl⟩ := a₂
    rcases d₁ with ⟨n₁ | ⟨o₁, n₁⟩ | o₁, f₁⟩ <;> rcases d₂ with ⟨n₂ | ⟨o₂, n₂⟩ | o₂, f₂⟩ <;>
      simp only [old, new, Option.map_some', Option.map_none', Option.some.injEq,
        reduceCtorEq] at h ⊢ <;>
      simp only [add, concat, maybeUpdate, ne_eq, ite_not] <;> (try split_ifs) <;>
      refine ⟨_, rfl, ?_⟩ <;> simp_all [applyOpt, applyCell, insert, update, delete]
  exact ⟨r, hr, happ, fun d hd => add_key h₁ h₂ hk (Option.mem_def.1 hd ▸ hr)⟩

end Delta

namespace DeltaDiff
variable {K V : Type} [DecidableEq K] [DecidableEq V]

/-- Every delta sits at its own key, as `DeltaDiff.__setitem__` requires, and none is a rename. -/
def WellFormed (D : DeltaDiff K V) : Prop := ∀ k d, D.get k = some d → d.key = k ∧ d.isRename = false

def apply (D : DeltaDiff K V) (S : K → Option V) : Option (K → Option V) :=
  D.items.foldlM (fun S kd => kd.2.apply S) S

omit [DecidableEq V] in
theorem wellFormed_empty : WellFormed (PyDict.empty : DeltaDiff K V) := by
  simp [WellFormed]

omit [DecidableEq V] in
theorem WellFormed.addDelta {D : DeltaDiff K V} (hD : D.WellFormed) {d : Delta K V}
    (hd : d.isRename = false) : (D.addDelta d).WellFormed := by
  intro k r hr
  simp only [DeltaDiff.addDelta, PyDict.get_setItem] at hr
  split at hr
  · cases hr; exact ⟨by simp_all, hd⟩
  · exact hD k r hr

/-- The flags of the delta at a key, 0 where there is none. -/
def flagsAt (D : DeltaDiff K V) (k : K) : Nat := ((D.get k).map Delta.flags).getD 0

private theorem foldlM_apply (l : List (K × Delta K V))
    (hl : ∀ kd ∈ l, kd.2.key = kd.1 ∧ kd.2.isRename = false) (S : K → Option V) :
    l.foldlM (fun S kd => kd.2.apply S) S =
      l.foldlM (fun S kd => (kd.2.applyCell (S kd.1)).map (Function.update S kd.1)) S := by
  induction l generalizing S with
  | nil => rfl
  | cons kd l ih =>
    obtain ⟨hk, hr⟩ := hl kd (List.mem_cons_self _ _)
    simp only [List.foldlM_cons, Delta.apply_eq_applyCell _ hr, hk]
    congr 1
    funext S'
    exact ih (fun kd h => hl kd (List.mem_cons_of_mem _ h)) S'

theorem apply_eq_some {D : DeltaDiff K V} (hD : D.WellFormed) {S S' : K → Option V} :
    D.apply S = some S' ↔ ∀ k, applyOpt Delta.applyCell (D.get k) (S k) = some (S' k) := by
  rw [apply, foldlM_apply _ (fun kd h => hD kd.1 kd.2 (PyDict.get_eq_some_iff.2 h))]
  exact applyCells_eq_some

/-- Concatenation at one key: what both diffs do there, done by one delta. -/
theorem addAt_apply {D₁ D₂ : DeltaDiff K V} (h₁ : D₁.WellFormed) (h₂ : D₂.WellFormed) (k : K)
    {c c₁ c₂ : Option V} (a₁ : applyOpt Delta.applyCell (D₁.get k) c = some c₁)
    (a₂ : applyOpt Delta.applyCell (D₂.get k) c₁ = some c₂) :
    ∃ v, Diff.addAt Delta.add checkKey D₁ D₂ k = .ok v ∧ applyOpt Delta.applyCell v c = some c₂ ∧
      ∀ r ∈ v, (r.key = k ∧ r.isRename = false) ∧ r.flags = D₁.flagsAt k ||| D₂.flagsAt k := by
  refine Diff.addAt_apply (fun r hr => checkKey_eq_ok hr.1.1) a₁ a₂
    (fun d₁ hd₁ hd₂ => ⟨h₁ k d₁ hd₁, by simp [flagsAt, hd₁, hd₂]⟩)
    (fun d₂ hd₁ hd₂ => ⟨h₂ k d₂ hd₂, by simp [flagsAt, hd₁, hd₂]⟩) fun d₁ d₂ hd₁ hd₂ b₁ b₂ => ?_
  obtain ⟨hk₁, hr₁⟩ := h₁ k d₁ hd₁
  obtain ⟨hk₂, hr₂⟩ := h₂ k d₂ hd₂
  obtain ⟨v, hv, ha, hkey⟩ := Delta.add_applyCell hr₁ hr₂ (hk₁.trans hk₂.symm) b₁ b₂
  exact ⟨v, hv, ha, fun r hr => ⟨hk₁ ▸ hkey r hr, by simpa [flagsAt, hd₁, hd₂] using Delta.add_flags (hr ▸ hv)⟩⟩

theorem add_apply {D₁ D₂ : DeltaDiff K V} (h₁ : D₁.WellFormed) (h₂ : D₂.WellFormed)
    {S S₁ S₂ : K → Option V} (a₁ : D₁.apply S = some S₁) (a₂ : D₂.apply S₁ = some S₂) :
    ∃ D, D₁.add D₂ = .ok D ∧ D.WellFormed ∧ D.apply S = some S₂ ∧
      ∀ k r, D.get k = some r → r.flags = D₁.flagsAt k ||| D₂.flagsAt k := by
  rw [apply_eq_some h₁] at a₁
  rw [apply_eq_some h₂] at a₂
  obtain ⟨D, hD, hP⟩ := Diff.add_of_forall fun k => addAt_apply h₁ h₂ k (a₁ k) (a₂ k)
  have hwf : WellFormed D := fun k r hr => ((hP k).2 r hr).1
  exact ⟨D, hD, hwf, (apply_eq_some hwf).2 fun k => (hP k).1, fun k r hr => ((hP k).2 r hr).2⟩

/-- The same for `__iadd__`, which `LazyDeltaDiff.__add__` uses. -/
theorem iadd_apply {D₁ D₂ : DeltaDiff K V} (h₁ : D₁.WellFormed) (h₂ : D₂.WellFormed)
    {S S₁ S₂ : K → Option V} (a₁ : D₁.apply S = some S₁) (a₂ : D₂.apply S₁ = some S₂) :
    ∃ D, D₁.iadd D₂ = .ok D ∧ D.WellFormed ∧ D.apply S = some S₂ ∧
      ∀ k r, D.get k = some r → r.flags = D₁.flagsAt k ||| D₂.flagsAt k := by
  rw [apply_eq_some h₁] at a₁
  rw [apply_eq_some h₂] at a₂
  obtain ⟨D, hD, hP⟩ := Diff.iadd_of_forall (fun k c hc => checkKey_eq_ok (h₁ k c hc).1)
    fun k => addAt_apply h₁ h₂ k (a₁ k) (a₂ k)
  have hwf : WellFormed D := fun k r hr => ((hP k).2 r hr).1
  exact ⟨D, hD, hwf, (apply_eq_some hwf).2 fun k => (hP k).1, fun k r hr => ((hP k).2 r hr).2⟩

theorem apply_of_isEmpty {D : DeltaDiff K V} (h : D.items.isEmpty) {S S' : K → Option V}
    (ha : D.apply S = some S') : S' = S := by
  unfold apply at ha
  rw [List.isEmpty_iff.1 h] at ha
  simpa using ha.symm

end DeltaDiff

namespace DatasetChild
variable {K V : Type} [DecidableEq K] [DecidableEq V]

/-- A child the concatenation law covers: a well-formed `DeltaDiff`, or a `LazyDeltaDiff` whose
deltas are not renames. -/
def WellFormed : DatasetChild K V → Prop
  | .deltaDiff d => d.WellFormed
  | .lazy l => ∀ d ∈ l.wrappedIter, d.isRename = false
  | .bool _ => False

/-- The `DeltaDiff` a child stands for: a lazy child through `resolve()`. -/
def resolved : DatasetChild K V → Option (DeltaDiff K V)
  | .deltaDiff d => some d
  | .lazy l => l.resolve.toOption
  | .bool _ => none

def apply : DatasetChild K V → (K → Option V) → Option (K → Option V)
  | .deltaDiff d, S => d.apply S
  | .lazy l, S => l.resolve.toOption.bind (·.apply S)
  | .bool _, S => some S

omit [DecidableEq V] in
@[simp] theorem resolved_deltaDiff (d : DeltaDiff K V) : (deltaDiff d).resolved = some d := rfl

def get (c : DatasetChild K V) (k : K) : Option (Delta K V) := c.resolved.bind (·.get k)

def flagsAt (c : DatasetChild K V) (k : K) : Nat := (c.resolved.map (·.flagsAt k)).getD 0

omit [DecidableEq V] in
theorem resolved_lazy {l : LazyDeltaDiff K V} {d : DeltaDiff K V} (h : (lazy l).resolved = some d) :
    l.resolve = .ok d := by
  simp only [resolved] at h
  cases hl : l.resolve <;> simp_all [Except.toOption]

/-- A well-formed child that applies resolves to a well-formed `DeltaDiff` doing the same. -/
theorem resolve_of_apply {c : DatasetChild K V} (hc : c.WellFormed) {S S' : K → Option V}
    (ha : c.apply S = some S') :
    ∃ d, c.resolve = .ok (.deltaDiff d) ∧ c.resolved = some d ∧ d.WellFormed ∧ d.apply S = some S' := by
  match c, hc with
  | .deltaDiff d, hc => exact ⟨d, rfl, rfl, hc, ha⟩
  | .lazy l, hc =>
    cases hcons : l.consumed with
    | true =>
      simp [apply, LazyDeltaDiff.resolve, hcons, Except.toOption] at ha
    | false =>
      have hres : l.resolve = .ok (DeltaDiff.ofDeltas l.wrappedIter) := by
        simp [LazyDeltaDiff.resolve, hcons]
      refine ⟨DeltaDiff.ofDeltas l.wrappedIter, by simp [resolve, hres], by simp [resolved, hres, Except.toOption], fun k d hd => ?_,
        by simpa [apply, hres, Except.toOption] using ha⟩
      obtain ⟨hm, hk⟩ := DeltaDiff.get_ofDeltas hd
      exact ⟨hk, hc d hm⟩

/-- `lhs + rhs` for a child and a resolved `DeltaDiff` that apply one after the other. -/
theorem add_apply {c₁ : DatasetChild K V} {d₂ : DeltaDiff K V} (h₁ : c₁.WellFormed) (h₂ : d₂.WellFormed)
    {S S₁ S₂ : K → Option V} (a₁ : c₁.apply S = some S₁) (a₂ : d₂.apply S₁ = some S₂) :
    ∃ v, c₁.add (.deltaDiff d₂) = .ok v ∧ applyOpt apply v S = some S₂ ∧
      ∀ c ∈ v, c.WellFormed ∧ ∀ k r, c.get k = some r → r.flags = c₁.flagsAt k ||| d₂.flagsAt k := by
  obtain ⟨d₁, -, hd₁, hw₁, ha₁⟩ := resolve_of_apply h₁ a₁
  -- `__add__` of two `DeltaDiff`s, or `__iadd__` once a lazy `lhs` is resolved
  obtain ⟨D, hsum, hw, ha, hf⟩ : ∃ D, c₁.add (.deltaDiff d₂) = .ok (ofSum D) ∧ D.WellFormed ∧
      D.apply S = some S₂ ∧ ∀ k r, D.get k = some r → r.flags = d₁.flagsAt k ||| d₂.flagsAt k := by
    match c₁, hd₁ with
    | .deltaDiff _, hd₁ =>
      cases hd₁
      obtain ⟨D, hD, rest⟩ := DeltaDiff.add_apply hw₁ h₂ ha₁ a₂
      exact ⟨D, by simp [add, hD], rest⟩
    | .lazy l, hd₁ =>
      obtain ⟨D, hD, rest⟩ := DeltaDiff.iadd_apply hw₁ h₂ ha₁ a₂
      exact ⟨D, by simp [add, resolved_lazy hd₁, hD], rest⟩
  refine ⟨ofSum D, hsum, ?_, fun c hc => ?_⟩
  · unfold ofSum
    split
    · rename_i h; simp [applyOpt, DeltaDiff.apply_of_isEmpty h ha]
    · exact ha
  · obtain ⟨-, rfl⟩ := mem_ofSum.1 hc
    exact ⟨hw, fun k r hr => by
      simpa [flagsAt, hd₁, DeltaDiff.flagsAt] using hf k r (by simpa [get, resolved] using hr)⟩

omit [DecidableEq V] in
theorem flags_eq_flagsAt {c : DatasetChild K V} {k : K} {r : Delta K V} (h : c.get k = some r) :
    r.flags = c.flagsAt k := by
  simp only [get, Option.bind_eq_some] at h
  obtain ⟨d, hd, hr⟩ := h
  simp [flagsAt, hd, DeltaDiff.flagsAt, hr]

end DatasetChild

namespace DatasetDiff
variable {K V : Type} [DecidableEq K] [DecidableEq V]

/-- Every child is a well-formed `DeltaDiff` or `LazyDeltaDiff`; no `bool` child. -/
def WellFormed (D : DatasetDiff K V) : Prop := ∀ s c, D.get s = some c → c.WellFormed

def apply (D : DatasetDiff K V) (S : String → K → Option V) : Option (String → K → Option V) :=
  D.applyCells DatasetChild.apply S

def deltaAt (D : DatasetDiff K V) (s : String) (k : K) : Option (Delta K V) := (D.get s).bind (·.get k)

def flagsAt (D : DatasetDiff K V) (s : String) (k : K) : Nat := ((D.get s).map (·.flagsAt k)).getD 0

/-- `resolve()` of a well-formed diff that applies turns each child into the `DeltaDiff` it stands for. -/
theorem resolve_of_apply {D : DatasetDiff K V} (hD : D.WellFormed) {S S' : String → K → Option V}
    (ha : D.apply S = some S') :
    ∃ D', D.resolve = .ok D' ∧ ∀ s, (D.get s = none ∧ D'.get s = none) ∨
      ∃ c d, D.get s = some c ∧ c.resolved = some d ∧ D'.get s = some (.deltaDiff d) ∧
        d.WellFormed ∧ d.apply (S s) = some (S' s) := by
  rw [apply, applyCells_eq_some] at ha
  have hc : ∀ s c, D.get s = some c → ∃ d, c.resolve = .ok (.deltaDiff d) ∧ c.resolved = some d ∧
      d.WellFormed ∧ d.apply (S s) = some (S' s) := fun s c h =>
    DatasetChild.resolve_of_apply (hD s c h) (by simpa [applyOpt, h] using ha s)
  obtain ⟨D', hD'⟩ := Diff.mapChildren_ok_of D fun s c h => let ⟨_, hr, _⟩ := hc s c h; ⟨_, hr⟩
  refine ⟨D', hD', fun s => ?_⟩
  obtain ⟨hin, hout⟩ := Diff.mapChildren_eq_ok hD' s
  cases h : D.get s with
  | none => exact .inl ⟨rfl, by rw [hout (PyDict.get_eq_none.1 h), h]⟩
  | some c =>
    obtain ⟨d, hr, hd, hw, ha⟩ := hc s c h
    have := hin (PyDict.mem_keys_of_get h)
    simp only [h, mapM_some, hr, map_ok, Except.ok.injEq] at this
    exact .inr ⟨c, d, rfl, hd, this.symm, hw, ha⟩

theorem add_apply {D₁ D₂ : DatasetDiff K V} (h₁ : D₁.WellFormed) (h₂ : D₂.WellFormed)
    {S S₁ S₂ : String → K → Option V} (a₁ : D₁.apply S = some S₁) (a₂ : D₂.apply S₁ = some S₂) :
    ∃ D, D₁.add D₂ = .ok D ∧ D.WellFormed ∧ D.apply S = some S₂ ∧
      ∀ s k r, D.deltaAt s k = some r → r.flags = D₁.flagsAt s k ||| D₂.flagsAt s k := by
  obtain ⟨D₂', hres, hD₂'⟩ := resolve_of_apply h₂ a₂
  rw [apply, applyCells_eq_some] at a₁ a₂
  obtain ⟨D, hD, hP⟩ := @Diff.add_of_forall _ _ _ DatasetChild.add noCheck D₁ D₂'
    (fun s v => applyOpt DatasetChild.apply v (S s) = some (S₂ s) ∧ ∀ c ∈ v, c.WellFormed ∧
      ∀ k r, c.get k = some r → r.flags = D₁.flagsAt s k ||| D₂.flagsAt s k) fun s => by
    rcases hD₂' s with ⟨e₂, e₂'⟩ | ⟨c₂, d₂, e₂, hd₂, e₂', hw₂, ha₂⟩
    · -- no child of `other` at `s`: `self`'s is kept
      refine Diff.addAt_apply (fun _ _ => rfl) (a₁ s) (by rw [e₂', ← a₂ s, e₂])
        (fun c₁ e₁ _ => ⟨h₁ s c₁ e₁, fun k r hr => ?_⟩)
        (fun _ _ h => nomatch e₂'.symm.trans h) fun _ _ _ h => nomatch e₂'.symm.trans h
      simp [flagsAt, e₁, e₂, DatasetChild.flags_eq_flagsAt hr]
    · -- `other`'s child resolved to `d₂`
      refine Diff.addAt_apply (fun _ _ => rfl) (a₁ s) (by rw [e₂']; exact ha₂)
        (fun _ _ h => nomatch e₂'.symm.trans h)
        (fun c e₁ hc => ?_) fun c₁ c hc₁ hc b₁ b₂ => ?_
      · cases e₂'.symm.trans hc
        refine ⟨hw₂, fun k r hr => ?_⟩
        simp [flagsAt, e₁, e₂, DatasetChild.flagsAt, hd₂, DatasetChild.flags_eq_flagsAt hr]
      · cases e₂'.symm.trans hc
        obtain ⟨v, hv, ha, hw⟩ := DatasetChild.add_apply (h₁ s c₁ hc₁) hw₂ b₁ ha₂
        refine ⟨v, hv, ha, fun c hc => ⟨(hw c hc).1, fun k r hr => ?_⟩⟩
        rw [(hw c hc).2 k r hr]
        simp [flagsAt, hc₁, e₂, DatasetChild.flagsAt, hd₂]
  have hwf : WellFormed D := fun s c hc => ((hP s).2 c hc).1
  refine ⟨D, by simp [add, hres, hD], hwf, (applyCells_eq_some).2 fun s => (hP s).1, fun s k r hr => ?_⟩
  simp only [deltaAt, Option.bind_eq_some] at hr
  obtain ⟨c, hc, hr⟩ := hr
  exact ((hP s).2 c hc).2 k r hr

/-- `resolve()` keeps what a well-formed diff that applies does, and its flags. -/
theorem resolve_spec {D : DatasetDiff K V} (hD : D.WellFormed) {S S' : String → K → Option V}
    (ha : D.apply S = some S') :
    ∃ D', D.resolve = .ok D' ∧ D'.WellFormed ∧ D'.apply S = some S' ∧
      ∀ s k, D'.flagsAt s k = D.flagsAt s k := by
  obtain ⟨D', hres, hD'⟩ := resolve_of_apply hD ha
  rw [apply, applyCells_eq_some] at ha
  refine ⟨D', hres, fun s c hc => ?_, (applyCells_eq_some).2 fun s => ?_, fun s k => ?_⟩ <;>
    rcases hD' s with ⟨e, e'⟩ | ⟨c₂, d₂, e, hd, e', hw, ha'⟩
  · simp [e'] at hc
  · simp only [e', Option.some.injEq] at hc; exact hc ▸ hw
  · simpa [applyOpt, e, e'] using ha s
  · simpa [applyOpt, e'] using ha'
  · simp [flagsAt, e, e']
  · simp [flagsAt, e, e', DatasetChild.flagsAt, hd]

end DatasetDiff

namespace RepoDiff
variable {K V : Type} [DecidableEq K] [DecidableEq V]

def WellFormed (D : RepoDiff K V) : Prop := ∀ p c, D.get p = some c → c.WellFormed

def apply (D : RepoDiff K V) (S : String → String → K → Option V) :
    Option (String → String → K → Option V) :=
  D.applyCells DatasetDiff.apply S

def deltaAt (D : RepoDiff K V) (p s : String) (k : K) : Option (Delta K V) := (D.get p).bind (·.deltaAt s k)

def flagsAt (D : RepoDiff K V) (p s : String) (k : K) : Nat := ((D.get p).map (·.flagsAt s k)).getD 0

theorem resolve_of_apply {D : RepoDiff K V} (hD : D.WellFormed) {S S' : String → String → K → Option V}
    (ha : D.apply S = some S') :
    ∃ D', D.resolve = .ok D' ∧ ∀ p, (D.get p = none ∧ D'.get p = none) ∨
      ∃ c c', D.get p = some c ∧ D'.get p = some c' ∧ c'.WellFormed ∧ c'.apply (S p) = some (S' p) ∧
        ∀ s k, c'.flagsAt s k = c.flagsAt s k := by
  rw [apply, applyCells_eq_some] at ha
  have hc : ∀ p c, D.get p = some c → ∃ c', c.resolve = .ok c' ∧ c'.WellFormed ∧
      c'.apply (S p) = some (S' p) ∧ ∀ s k, c'.flagsAt s k = c.flagsAt s k := fun p c h =>
    DatasetDiff.resolve_spec (hD p c h) (by simpa [applyOpt, h] using ha p)
  obtain ⟨D', hD'⟩ := Diff.mapChildren_ok_of D fun p c h => let ⟨_, hr, _⟩ := hc p c h; ⟨_, hr⟩
  refine ⟨D', hD', fun p => ?_⟩
  obtain ⟨hin, hout⟩ := Diff.mapChildren_eq_ok hD' p
  cases h : D.get p with
  | none => exact .inl ⟨rfl, by rw [hout (PyDict.get_eq_none.1 h), h]⟩
  | some c =>
    obtain ⟨c', hr, hw, ha, hf⟩ := hc p c h
    have := hin (PyDict.mem_keys_of_get h)
    simp only [h, mapM_some, hr, map_ok, Except.ok.injEq] at this
    exact .inr ⟨c, c', rfl, this.symm, hw, ha, hf⟩

theorem add_apply {D₁ D₂ : RepoDiff K V} (h₁ : D₁.WellFormed) (h₂ : D₂.WellFormed)
    {S S₁ S₂ : String → String → K → Option V} (a₁ : D₁.apply S = some S₁) (a₂ : D₂.apply S₁ = some S₂) :
    ∃ D, D₁.add D₂ = .ok D ∧ D.WellFormed ∧ D.apply S = some S₂ ∧
      ∀ p s k r, D.deltaAt p s k = some r → r.flags = D₁.flagsAt p s k ||| D₂.flagsAt p s k := by
  obtain ⟨D₂', hres, hD₂'⟩ := resolve_of_apply h₂ a₂
  rw [apply, applyCells_eq_some] at a₁ a₂
  obtain ⟨D, hD, hP⟩ := @Diff.add_of_forall _ _ _ addChild noCheck D₁ D₂'
    (fun p v => applyOpt DatasetDiff.apply v (S p) = some (S₂ p) ∧ ∀ c ∈ v, c.WellFormed ∧
      ∀ s k r, c.deltaAt s k = some r → r.flags = D₁.flagsAt p s k ||| D₂.flagsAt p s k) fun p => by
    rcases hD₂' p with ⟨e₂, e₂'⟩ | ⟨c₂, c₂', e₂, e₂', hw₂, ha₂, hf₂⟩
    · -- no child of `other` at `p`: `self`'s is kept
      refine Diff.addAt_apply (fun _ _ => rfl) (a₁ p) (by rw [e₂', ← a₂ p, e₂])
        (fun c₁ e₁ _ => ⟨h₁ p c₁ e₁, fun s k r hr => ?_⟩)
        (fun _ _ h => nomatch e₂'.symm.trans h) fun _ _ _ h => nomatch e₂'.symm.trans h
      obtain ⟨c, hc, hr⟩ := Option.bind_eq_some.1 hr
      simp [flagsAt, e₁, e₂, DatasetDiff.flagsAt, hc, DatasetChild.flags_eq_flagsAt hr]
    · -- `other`'s child resolved to `c₂'`
      refine Diff.addAt_apply (fun _ _ => rfl) (a₁ p) (by rw [e₂']; exact ha₂)
        (fun _ _ h => nomatch e₂'.symm.trans h)
        (fun c e₁ hc => ?_) fun c₁ c hc₁ hc b₁ b₂ => ?_
      · cases e₂'.symm.trans hc
        refine ⟨hw₂, fun s k r hr => ?_⟩
        obtain ⟨c, hc, hr⟩ := Option.bind_eq_some.1 hr
        have := hf₂ s k
        simp only [DatasetDiff.flagsAt, hc, Option.map_some', Option.getD_some] at this
        simp [flagsAt, e₁, e₂, DatasetChild.flags_eq_flagsAt hr, this, DatasetDiff.flagsAt]
      · cases e₂'.symm.trans hc
        obtain ⟨D, hD, hw, ha, hf⟩ := DatasetDiff.add_apply (h₁ p c₁ hc₁) hw₂ b₁ ha₂
        refine ⟨ofSum D, by simp [addChild, hD], ?_, fun c hc => ?_⟩
        · unfold ofSum
          split
          · rename_i h; simp [applyOpt, applyCells_of_isEmpty h ha]
          · exact ha
        · obtain ⟨-, rfl⟩ := mem_ofSum.1 hc
          refine ⟨hw, fun s k r hr => ?_⟩
          rw [hf s k r hr, hf₂ s k]
          simp [flagsAt, hc₁, e₂]
  have hwf : WellFormed D := fun p c hc => ((hP p).2 c hc).1
  refine ⟨D, by simp [add, hres, hD], hwf, (applyCells_eq_some).2 fun p => (hP p).1, fun p s k r hr => ?_⟩
  simp only [deltaAt, Option.bind_eq_some] at hr
  obtain ⟨c, hc, hr⟩ := hr
  exact ((hP p).2 c hc).2 s k r hr

end RepoDiff

/-- The classes `RepoDiff`, `DatasetDiff` and `DeltaDiff`. -/
inductive DiffClass
  | repoDiff | datasetDiff | deltaDiff
deriving DecidableEq, Repr

namespace DiffClass

def Diff (K V : Type) : DiffClass → Type
  | repoDiff => RepoDiff K V
  | datasetDiff => DatasetDiff K V
  | deltaDiff => DeltaDiff K V

/-- What a diff of the class applies to: values by dataset path, section and key. -/
def Store (K V : Type) : DiffClass → Type
  | repoDiff => String → String → K → Option V
  | datasetDiff => String → K → Option V
  | deltaDiff => K → Option V

/-- Where a delta sits in a diff of the class. -/
def Path (K : Type) : DiffClass → Type
  | repoDiff => String × String × K
  | datasetDiff => String × K
  | deltaDiff => K

variable {K V : Type} [DecidableEq K] [DecidableEq V]

def add : (c : DiffClass) → c.Diff K V → c.Diff K V → Except PyError (c.Diff K V)
  | repoDiff, a, b => RepoDiff.add a b
  | datasetDiff, a, b => DatasetDiff.add a b
  | deltaDiff, a, b => DeltaDiff.add a b

def apply : (c : DiffClass) → c.Diff K V → c.Store K V → Option (c.Store K V)
  | repoDiff, D, S => RepoDiff.apply D S
  | datasetDiff, D, S => DatasetDiff.apply D S
  | deltaDiff, D, S => DeltaDiff.apply D S

/-- No delta is a rename, each sits at its own key, and no `DatasetDiff` child is a `bool`. -/
def WellFormed : (c : DiffClass) → c.Diff K V → Prop
  | repoDiff, D => RepoDiff.WellFormed D
  | datasetDiff, D => DatasetDiff.WellFormed D
  | deltaDiff, D => DeltaDiff.WellFormed D

def deltaAt : (c : DiffClass) → c.Diff K V → c.Path K → Option (Delta K V)
  | repoDiff, D, (p, s, k) => RepoDiff.deltaAt D p s k
  | datasetDiff, D, (s, k) => DatasetDiff.deltaAt D s k
  | deltaDiff, D, k => PyDict.get D k

def flagsAt : (c : DiffClass) → c.Diff K V → c.Path K → Nat
  | repoDiff, D, (p, s, k) => RepoDiff.flagsAt D p s k
  | datasetDiff, D, (s, k) => DatasetDiff.flagsAt D s k
  | deltaDiff, D, k => DeltaDiff.flagsAt D k

end DiffClass

variable {K V : Type} [DecidableEq K] [DecidableEq V]

/-- Concatenation denotes sequential application: if `D₁` applies to a store and `D₂` to the
result, `D₁ + D₂` raises nothing, applies to the first store giving the last, and each of its
deltas carries the OR of the flags of the deltas it was made from. -/
theorem add_apply_sequential (c : DiffClass) {D₁ D₂ : c.Diff K V} (h₁ : c.WellFormed D₁)
    (h₂ : c.WellFormed D₂) {S S₁ S₂ : c.Store K V} (a₁ : c.apply D₁ S = some S₁)
    (a₂ : c.apply D₂ S₁ = some S₂) :
    ∃ D, c.add D₁ D₂ = .ok D ∧ c.apply D S = some S₂ ∧
      ∀ p r, c.deltaAt D p = some r → r.flags = c.flagsAt D₁ p ||| c.flagsAt D₂ p := by
  cases c with
  | repoDiff =>
    obtain ⟨D, hD, -, ha, hf⟩ := RepoDiff.add_apply h₁ h₂ a₁ a₂
    exact ⟨D, hD, ha, fun ⟨p, s, k⟩ r hr => hf p s k r hr⟩
  | datasetDiff =>
    obtain ⟨D, hD, -, ha, hf⟩ := DatasetDiff.add_apply h₁ h₂ a₁ a₂
    exact ⟨D, hD, ha, fun ⟨s, k⟩ r hr => hf s k r hr⟩
  | deltaDiff =>
    obtain ⟨D, hD, -, ha, hf⟩ := DeltaDiff.add_apply h₁ h₂ a₁ a₂
    exact ⟨D, hD, ha, hf⟩

theorem add_apply_sequential_insert_update :
    ∃ S₁ S₂, DiffClass.apply .deltaDiff (DeltaDiff.addDelta .empty (Delta.insert ⟨1, 5⟩) : DeltaDiff Nat Nat)
        (fun _ => none) = some S₁ ∧
      DiffClass.apply .deltaDiff (DeltaDiff.addDelta .empty (Delta.update ⟨1, 5⟩ ⟨1, 6⟩) : DeltaDiff Nat Nat)
        S₁ = some S₂ ∧
      ∃ D, DiffClass.add .deltaDiff (DeltaDiff.addDelta .empty (Delta.insert ⟨1, 5⟩))
          (DeltaDiff.addDelta .empty (Delta.update ⟨1, 5⟩ ⟨1, 6⟩)) = .ok D ∧
        DiffClass.apply .deltaDiff D (fun _ => none) = some S₂ ∧
        ∀ p r, DiffClass.deltaAt .deltaDiff D p = some r →
          r.flags = DiffClass.flagsAt .deltaDiff (DeltaDiff.addDelta .empty (Delta.insert ⟨1, 5⟩)) p |||
            DiffClass.flagsAt .deltaDiff (DeltaDiff.addDelta .empty (Delta.update ⟨1, 5⟩ ⟨1, 6⟩)) p :=
  ⟨_, _, rfl, rfl, add_apply_sequential DiffClass.deltaDiff
    (DeltaDiff.wellFormed_empty.addDelta (d := Delta.insert ⟨1, 5⟩) rfl)
    (DeltaDiff.wellFormed_empty.addDelta (d := Delta.update ⟨1, 5⟩ ⟨1, 6⟩) (by decide)) rfl rfl⟩

end Kart.DiffStructs
