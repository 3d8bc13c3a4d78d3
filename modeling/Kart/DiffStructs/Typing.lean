import Kart.DiffStructs.Invert

set_option autoImplicit false

/-!
# The representation invariant

A diff is well-typed when each child has its node's `child_type` (by the types here) and its
deltas sit at their own keys and are not renames. The operations keep that when their operands
can be added: no `bool` child, which has no `resolve()` and whose sums and inverses are ints,
and no consumed `LazyDeltaDiff`. In-place `+=` of two `LazyDeltaDiff`s and `~` of one raise
`TypeError`, so those need more.
-/

namespace Kart.DiffStructs

/-- `Conflict`, or a result with the property. -/
def ConflictOr {α : Type} (P : α → Prop) (x : Except PyError α) : Prop :=
  OutcomeRel (fun a _ => P a) x x

section Generic
variable {α β : Type} {P : α → Prop}

theorem OutcomeRel.conflictOr_left {R : α → β → Prop} {x : Except PyError α} {y : Except PyError β}
    (h : OutcomeRel R x y) : ConflictOr (fun a => ∃ b, R a b) x := by
  cases h with
  | conflict => exact .conflict
  | ok h => exact .ok ⟨_, h⟩

theorem ConflictOr.mono {Q : α → Prop} {x : Except PyError α} (h : ConflictOr P x)
    (hPQ : ∀ a, P a → Q a) : ConflictOr Q x :=
  OutcomeRel.mono h fun a _ => hPQ a

theorem ConflictOr.map {Q : β → Prop} {x : Except PyError α} (h : ConflictOr P x) {f : α → β}
    (hf : ∀ a, P a → Q (f a)) : ConflictOr Q (f <$> x) :=
  OutcomeRel.map h fun a _ => hf a

theorem Keywise.conflictOr {κ C : Type} [DecidableEq κ] {x : Except PyError (PyDict κ C)}
    {out : κ → Except PyError (Option C)} (hx : Keywise x out) {Q : κ → Option C → Prop}
    (h : ∀ k, ConflictOr (Q k) (out k)) : ConflictOr (fun r => ∀ k, Q k (r.get k)) x :=
  hx.outcomeRel hx h

end Generic

variable {K V : Type} [DecidableEq K]

namespace DeltaDiff

section Add
variable [DecidableEq V]

theorem add_wellFormed {A B : DeltaDiff K V} (hA : A.WellFormed) (hB : B.WellFormed) :
    ConflictOr WellFormed (A.add B) :=
  (add_invert_outcome hA hB).conflictOr_left.mono fun _ ⟨_, h, _⟩ => h

theorem iadd_wellFormed {A B : DeltaDiff K V} (hA : A.WellFormed) (hB : B.WellFormed) :
    ConflictOr WellFormed (A.iadd B) :=
  ((Diff.iadd_keywise fun k c h => checkKey_eq_ok (hA k c h).1).outcomeRel Diff.add_keywise
    (addAt_invert hA hB)).conflictOr_left.mono fun _ ⟨_, h⟩ k r hr => (h k).1 r hr

end Add

theorem wellFormed_ofDeltas {xs : List (Delta K V)} (h : ∀ d ∈ xs, d.isRename = false) :
    (ofDeltas xs).WellFormed := fun k d hd => by
  obtain ⟨hm, hk⟩ := get_ofDeltas hd
  exact ⟨hk, h d hm⟩

end DeltaDiff

namespace DatasetChild

/-- Well-typed: a `DeltaDiff` in good order, a `LazyDeltaDiff` of deltas that are not renames,
or a `bool`. -/
def WellTyped : DatasetChild K V → Prop
  | .deltaDiff d => d.WellFormed
  | .lazy l => ∀ d ∈ l.wrappedIter, d.isRename = false
  | .bool _ => True

/-- A well-typed child that `+` accepts: no `bool`, no consumed `LazyDeltaDiff`. -/
def Addable : DatasetChild K V → Prop
  | .deltaDiff d => d.WellFormed
  | .lazy l => (∀ d ∈ l.wrappedIter, d.isRename = false) ∧ l.consumed = false
  | .bool _ => False

theorem Addable.wellTyped {c : DatasetChild K V} (h : c.Addable) : c.WellTyped := by
  cases c with
  | deltaDiff d => exact h
  | lazy l => exact h.1
  | bool b => exact h.elim

theorem resolve_addable {c : DatasetChild K V} (h : c.Addable) :
    ∃ d, c.resolve = .ok (.deltaDiff d) ∧ d.WellFormed := by
  cases c with
  | deltaDiff d => exact ⟨d, rfl, h⟩
  | lazy l =>
    exact ⟨_, by simp [resolve, LazyDeltaDiff.resolve, h.2], DeltaDiff.wellFormed_ofDeltas h.1⟩
  | bool b => exact h.elim

theorem ofSum_addable {d : DeltaDiff K V} (hd : d.WellFormed) : ∀ c ∈ ofSum d, c.Addable :=
  fun _ hc => (mem_ofSum.1 hc).2 ▸ hd

section Add
variable [DecidableEq V]

/-- `lhs + rhs` of two children that can be added raises `Conflict` or gives one that can; two
`LazyDeltaDiff`s are the exception, `LazyDeltaDiff.__add__` handing the right one to
`DeltaDiff.__iadd__` still lazy. -/
theorem add_addable {a b : DatasetChild K V} (ha : a.Addable) (hb : b.Addable)
    (hlazy : ∀ l l', a = .lazy l → b = .lazy l' → False) :
    ConflictOr (fun v => ∀ c ∈ v, c.Addable) (a.add b) := by
  match a, b, ha, hb with
  | .deltaDiff x, .deltaDiff y, hx, hy =>
    exact (DeltaDiff.add_wellFormed hx hy).map fun _ => ofSum_addable
  | .deltaDiff x, .lazy l, hx, hl =>
    simp only [add, LazyDeltaDiff.resolve, hl.2, ok_bind]
    exact (DeltaDiff.add_wellFormed hx (DeltaDiff.wellFormed_ofDeltas hl.1)).map fun _ => ofSum_addable
  | .lazy l, .deltaDiff y, hl, hy =>
    simp only [add, LazyDeltaDiff.resolve, hl.2, ok_bind]
    exact (DeltaDiff.iadd_wellFormed (DeltaDiff.wellFormed_ofDeltas hl.1) hy).map fun _ => ofSum_addable
  | .lazy l, .lazy l', _, _ => exact (hlazy l l' rfl rfl).elim
  | .bool _, _, ha, _ => exact ha.elim
  | .deltaDiff _, .bool _, _, hb => exact hb.elim
  | .lazy _, .bool _, _, hb => exact hb.elim

end Add

end DatasetChild

namespace DatasetDiff

def WellTyped (D : DatasetDiff K V) : Prop := ∀ s c, D.get s = some c → c.WellTyped

def Addable (D : DatasetDiff K V) : Prop := ∀ s c, D.get s = some c → c.Addable

theorem Addable.wellTyped {D : DatasetDiff K V} (h : D.Addable) : D.WellTyped :=
  fun s c hc => (h s c hc).wellTyped

theorem Resolved.addable {D : DatasetDiff K V} (h : D.Resolved) : D.Addable := fun s c hc => by
  obtain ⟨d, rfl, hd⟩ := h s c hc
  exact hd

theorem resolve_addable {D : DatasetDiff K V} (hD : D.Addable) :
    ∃ D', D.resolve = .ok D' ∧ D'.Resolved := by
  obtain ⟨D', h⟩ := Diff.mapChildren_ok_of (f := DatasetChild.resolve) D fun s c hc =>
    let ⟨_, hd, _⟩ := DatasetChild.resolve_addable (hD s c hc); ⟨_, hd⟩
  refine ⟨D', h, fun s c hc => ?_⟩
  have hs := Diff.mapChildren_rel h (fun _ h => h) s
  rw [hc] at hs
  cases e : D.get s with
  | none => rw [e] at hs; cases hs
  | some c' =>
    rw [e] at hs
    cases hs with
    | some hr =>
      obtain ⟨d, hd, hw⟩ := DatasetChild.resolve_addable (hD s c' e)
      cases hr.symm.trans hd
      exact ⟨d, rfl, hw⟩

section Add
variable [DecidableEq V]

theorem addAt_addable {A B : DatasetDiff K V} (hA : A.Addable) (hB : B.Addable)
    (hlazy : ∀ s l l', A.get s = some (.lazy l) → B.get s = some (.lazy l') → False) (s : String) :
    ConflictOr (fun v => ∀ c ∈ v, c.Addable) (Diff.addAt DatasetChild.add noCheck A B s) := by
  simp only [Diff.addAt, bind_checked_noCheck]
  cases ha : A.get s with
  | none =>
    cases hb : B.get s with
    | none => exact .ok (by simp)
    | some b => exact .ok (by simpa using hB s b hb)
  | some a =>
    cases hb : B.get s with
    | none => exact .ok (by simpa using hA s a ha)
    | some b =>
      exact DatasetChild.add_addable (hA s a ha) (hB s b hb) fun l l' h₁ h₂ =>
        hlazy s l l' (h₁ ▸ ha) (h₂ ▸ hb)

theorem add_addable {A B : DatasetDiff K V} (hA : A.Addable) (hB : B.Addable) :
    ConflictOr Addable (A.add B) := by
  obtain ⟨B', hres, hB'⟩ := resolve_addable hB
  rw [show A.add B = Diff.add DatasetChild.add noCheck A B' by simp [add, hres]]
  refine (Diff.add_keywise.conflictOr (addAt_addable hA hB'.addable fun s l l' _ h => ?_)).mono
    fun _ h s c hc => h s c (by simpa using hc)
  obtain ⟨d, hd, -⟩ := hB' s _ h
  cases hd

/-- `+=` of two diffs that can be added, where no key holds a `LazyDeltaDiff` on both sides. -/
theorem iadd_addable {A B : DatasetDiff K V} (hA : A.Addable) (hB : B.Addable)
    (hlazy : ∀ s l l', A.get s = some (.lazy l) → B.get s = some (.lazy l') → False) :
    ConflictOr Addable (A.iadd B) :=
  ((Diff.iadd_keywise fun _ _ _ => rfl).conflictOr (addAt_addable hA hB hlazy)).mono
    fun _ h s c hc => h s c (by simpa using hc)

end Add

omit [DecidableEq K] in
theorem get_pruneStep {D : DatasetDiff K V} {kv : String × DatasetChild K V} {s : String}
    {c : DatasetChild K V} (h : (pruneStep D kv).get s = some c) : D.get s = some c := by
  have pop_of {D' : DatasetDiff K V} {k : String} (h : (D'.pop k).get s = some c) :
      D'.get s = some c := by
    rw [PyDict.get_pop] at h
    split at h
    · cases h
    · exact h
  simp only [pruneStep] at h
  split_ifs at h
  · exact pop_of (pop_of h)
  · exact pop_of h
  · exact pop_of h
  · exact h

theorem prune_wellTyped {D : DatasetDiff K V} (hD : D.WellTyped) : D.prune.WellTyped := by
  suffices ∀ (l : List (String × DatasetChild K V)) (D' : DatasetDiff K V) (s : String)
      (c : DatasetChild K V), (l.foldl pruneStep D').get s = some c → D'.get s = some c from
    fun s c hc => hD s c (this _ _ s c hc)
  intro l
  induction l with
  | nil => exact fun _ _ _ h => h
  | cons kv l ih => exact fun D' s c h => get_pruneStep (ih _ s c h)

end DatasetDiff

namespace RepoDiff

def WellTyped (D : RepoDiff K V) : Prop := ∀ p c, D.get p = some c → c.WellTyped

def Addable (D : RepoDiff K V) : Prop := ∀ p c, D.get p = some c → c.Addable

theorem Addable.wellTyped {D : RepoDiff K V} (h : D.Addable) : D.WellTyped :=
  fun p c hc => (h p c hc).wellTyped

theorem resolve_addable {D : RepoDiff K V} (hD : D.Addable) :
    ∃ D', D.resolve = .ok D' ∧ D'.Resolved := by
  obtain ⟨D', h⟩ := Diff.mapChildren_ok_of (f := DatasetDiff.resolve) D fun p c hc =>
    let ⟨_, hd, _⟩ := DatasetDiff.resolve_addable (hD p c hc); ⟨_, hd⟩
  refine ⟨D', h, fun p c hc => ?_⟩
  have hs := Diff.mapChildren_rel h (fun _ h => h) p
  rw [hc] at hs
  cases e : D.get p with
  | none => rw [e] at hs; cases hs
  | some c' =>
    rw [e] at hs
    cases hs with
    | some hr =>
      obtain ⟨d, hd, hw⟩ := DatasetDiff.resolve_addable (hD p c' e)
      cases hr.symm.trans hd
      exact hw

section Add
variable [DecidableEq V]

theorem addAt_addable {A B : RepoDiff K V} (hA : A.Addable) (hB : B.Addable) (p : String) :
    ConflictOr (fun v => ∀ c ∈ v, c.Addable) (Diff.addAt addChild noCheck A B p) := by
  simp only [Diff.addAt, bind_checked_noCheck]
  cases ha : A.get p with
  | none =>
    cases hb : B.get p with
    | none => exact .ok (by simp)
    | some b => exact .ok (by simpa using hB p b hb)
  | some a =>
    cases hb : B.get p with
    | none => exact .ok (by simpa using hA p a ha)
    | some b =>
      exact (DatasetDiff.add_addable (hA p a ha) (hB p b hb)).map fun D hD c hc =>
        (mem_ofSum.1 hc).2 ▸ hD

theorem add_addable {A B : RepoDiff K V} (hA : A.Addable) (hB : B.Addable) :
    ConflictOr Addable (A.add B) := by
  obtain ⟨B', hres, hB'⟩ := resolve_addable hB
  rw [show A.add B = Diff.add addChild noCheck A B' by simp [add, hres]]
  exact (Diff.add_keywise.conflictOr (addAt_addable hA fun p c hc => (hB' p c hc).addable)).mono
    fun _ h p c hc => h p c (by simpa using hc)

theorem iadd_addable {A B : RepoDiff K V} (hA : A.Addable) (hB : B.Addable) :
    ConflictOr Addable (A.iadd B) :=
  ((Diff.iadd_keywise fun _ _ _ => rfl).conflictOr (addAt_addable hA hB)).mono
    fun _ h p c hc => h p c (by simpa using hc)

end Add

theorem prune_wellTyped {D : RepoDiff K V} (hD : D.WellTyped) : D.prune.WellTyped := by
  suffices ∀ l : List (String × DatasetDiff K V), (∀ kv ∈ l, kv.2.WellTyped) →
      ∀ D' : RepoDiff K V, D'.WellTyped → (l.foldl pruneStep D').WellTyped from
    this _ (fun kv h => hD kv.1 kv.2 (PyDict.get_eq_some_iff.2 h)) D hD
  intro l
  induction l with
  | nil => exact fun _ _ h => h
  | cons kv l ih =>
    refine fun hl D' hD' => ih (fun kv h => hl kv (List.mem_cons_of_mem _ h)) _ fun p c hc => ?_
    have hkv := DatasetDiff.prune_wellTyped (hl kv (List.mem_cons_self _ _))
    unfold pruneStep at hc
    split at hc
    · rw [PyDict.get_pop] at hc
      split at hc
      · cases hc
      · exact hD' p c hc
    · rw [PyDict.get_setItem] at hc
      split at hc
      · cases hc; exact hkv
      · exact hD' p c hc

end RepoDiff

theorem DatasetDiff.Resolved.wellTyped {D : DatasetDiff K V} (h : D.Resolved) : D.WellTyped :=
  h.addable.wellTyped

theorem RepoDiff.Resolved.addable {D : RepoDiff K V} (h : D.Resolved) : D.Addable :=
  fun p c hc => (h p c hc).addable

variable [DecidableEq V]

namespace DiffClass

def WellTyped : (c : DiffClass) → c.Diff K V → Prop
  | repoDiff, D => RepoDiff.WellTyped D
  | datasetDiff, D => DatasetDiff.WellTyped D
  | deltaDiff, D => DeltaDiff.WellFormed D

/-- Well-typed and accepted by `+`: no `bool` child and no consumed `LazyDeltaDiff`. -/
def Addable : (c : DiffClass) → c.Diff K V → Prop
  | repoDiff, D => RepoDiff.Addable D
  | datasetDiff, D => DatasetDiff.Addable D
  | deltaDiff, D => DeltaDiff.WellFormed D

/-- No key holds a `LazyDeltaDiff` in both diffs; only a `DatasetDiff` holds them directly. -/
def NoSharedLazy : (c : DiffClass) → c.Diff K V → c.Diff K V → Prop
  | datasetDiff, A, B =>
    ∀ s l l', PyDict.get A s = some (.lazy l) → PyDict.get B s = some (.lazy l') → False
  | _, _, _ => True

def iadd : (c : DiffClass) → c.Diff K V → c.Diff K V → Except PyError (c.Diff K V)
  | repoDiff, A, B => RepoDiff.iadd A B
  | datasetDiff, A, B => DatasetDiff.iadd A B
  | deltaDiff, A, B => DeltaDiff.iadd A B

/-- `resolve()`; `DeltaDiff.resolve` returns the diff itself. -/
def resolve : (c : DiffClass) → c.Diff K V → Except PyError (c.Diff K V)
  | repoDiff, D => RepoDiff.resolve D
  | datasetDiff, D => DatasetDiff.resolve D
  | deltaDiff, D => pure D

/-- `prune()`; a `DeltaDiff` holds no `RichDict` to prune. -/
def prune : (c : DiffClass) → c.Diff K V → c.Diff K V
  | repoDiff, D => RepoDiff.prune D
  | datasetDiff, D => DatasetDiff.prune D
  | deltaDiff, D => D

end DiffClass

/-- The operations keep a diff well-typed: `prune()` always; `resolve()` and `+` when no child
is a `bool` or a consumed `LazyDeltaDiff`, `+` raising nothing but `Conflict`; `+=` as well when
moreover no key holds a `LazyDeltaDiff` on both sides; and `~` on a resolved diff. -/
theorem ops_keep_wellTyped (c : DiffClass) {D₁ D₂ : c.Diff K V} (h₁ : c.WellTyped D₁) :
    c.WellTyped (c.prune D₁) ∧
      (c.Addable D₁ → ∃ D, c.resolve D₁ = .ok D ∧ c.WellTyped D) ∧
      (c.Addable D₁ → c.Addable D₂ → ConflictOr c.WellTyped (c.add D₁ D₂)) ∧
      (c.Addable D₁ → c.Addable D₂ → c.NoSharedLazy D₁ D₂ → ConflictOr c.WellTyped (c.iadd D₁ D₂)) ∧
      (c.Resolved D₁ → ∃ D, c.invert D₁ = .ok D ∧ c.WellTyped D) := by
  cases c
  · refine ⟨RepoDiff.prune_wellTyped h₁, fun hA => ?_, fun hA hB => ?_, fun hA hB _ => ?_, fun hR => ?_⟩
    · obtain ⟨D, hD, hr⟩ := RepoDiff.resolve_addable hA
      exact ⟨D, hD, hr.addable.wellTyped⟩
    · exact (RepoDiff.add_addable hA hB).mono fun _ h => h.wellTyped
    · exact (RepoDiff.iadd_addable hA hB).mono fun _ h => h.wellTyped
    · obtain ⟨D, hD, hr, -⟩ := RepoDiff.invert_of_resolved hR
      exact ⟨D, hD, hr.addable.wellTyped⟩
  · refine ⟨DatasetDiff.prune_wellTyped h₁, fun hA => ?_, fun hA hB => ?_, fun hA hB hl => ?_,
      fun hR => ?_⟩
    · obtain ⟨D, hD, hr⟩ := DatasetDiff.resolve_addable hA
      exact ⟨D, hD, hr.wellTyped⟩
    · exact (DatasetDiff.add_addable hA hB).mono fun _ h => h.wellTyped
    · exact (DatasetDiff.iadd_addable hA hB hl).mono fun _ h => h.wellTyped
    · obtain ⟨D, hD, hr, -⟩ := DatasetDiff.invert_of_resolved hR
      exact ⟨D, hD, hr.wellTyped⟩
  · exact ⟨h₁, fun hA => ⟨_, rfl, hA⟩, DeltaDiff.add_wellFormed, fun hA hB _ =>
      DeltaDiff.iadd_wellFormed hA hB, fun hR => ⟨_, rfl, hR.invert⟩⟩

namespace DatasetChild

omit [DecidableEq V] in
theorem invert_error_ne_conflict {c : DatasetChild K V} {e : PyError} (h : c.invert = .error e) :
    e ≠ .conflict := by
  cases c <;> cases h <;> nofun

omit [DecidableEq V] in
theorem resolve_error_ne_conflict {c : DatasetChild K V} {e : PyError} (h : c.resolve = .error e) :
    e ≠ .conflict := by
  cases c with
  | lazy l =>
    cases hl : l.consumed <;> simp [resolve, LazyDeltaDiff.resolve, hl] at h
    subst h; nofun
  | deltaDiff => cases h
  | bool => cases h; nofun

end DatasetChild

/-- A child other than a `DeltaDiff`, which `DatasetDiff.child_type` admits, makes `~` raise an
error other than `Conflict`: `~True` is the int `-2`, which a `DatasetDiff` refuses as a child, and
a `LazyDeltaDiff` has no `~`. A `bool` child, such as `data_changes`, also makes `resolve()` raise
`AttributeError`, and with it every `D' + D`, which resolves its right operand first. -/
theorem non_delta_child_raises {D : DatasetDiff K V} {s : String} {c : DatasetChild K V}
    (hs : D.get s = some c) (hc : ∀ d, c ≠ .deltaDiff d) :
    (∃ e, D.invert = .error e ∧ e ≠ .conflict) ∧
      ∀ b, c = .bool b → (∃ e, D.resolve = .error e ∧ e ≠ .conflict) ∧
        ∀ D' : DatasetDiff K V, ∃ e, D'.add D = .error e ∧ e ≠ .conflict := by
  obtain ⟨e₀, he₀⟩ : ∃ e, c.invert = .error e := by
    cases c with
    | deltaDiff d => exact absurd rfl (hc d)
    | _ => exact ⟨_, rfl⟩
  obtain ⟨e, he, _, _, -, hc'⟩ := Diff.mapChildren_error_of PyDict.empty hs he₀
  refine ⟨⟨e, he, DatasetChild.invert_error_ne_conflict hc'⟩, fun b hb => ?_⟩
  subst hb
  obtain ⟨e, he, _, _, -, hc'⟩ := Diff.mapChildren_error_of D hs
    (rfl : DatasetChild.resolve (K := K) (V := V) (.bool b) = _)
  have hne := DatasetChild.resolve_error_ne_conflict hc'
  exact ⟨⟨e, he, hne⟩, fun D' => ⟨e, by rw [DatasetDiff.add, DatasetDiff.resolve, he]; rfl, hne⟩⟩

theorem non_delta_child_raises_data_changes :
    let D : DatasetDiff Nat Nat := PyDict.empty.setItem "data_changes" (.bool true)
    D.WellTyped ∧ (∃ e, D.invert = .error e ∧ e ≠ .conflict) ∧
      ∀ b, (DatasetChild.bool true : DatasetChild Nat Nat) = .bool b →
        (∃ e, D.resolve = .error e ∧ e ≠ .conflict) ∧
        ∀ D' : DatasetDiff Nat Nat, ∃ e, D'.add D = .error e ∧ e ≠ .conflict := by
  intro D
  refine ⟨fun s c h => ?_, non_delta_child_raises (D := D) (s := "data_changes") (c := .bool true) rfl
    fun _ => nofun⟩
  rw [PyDict.get_setItem] at h
  split at h <;> cases h
  trivial

end Kart.DiffStructs
