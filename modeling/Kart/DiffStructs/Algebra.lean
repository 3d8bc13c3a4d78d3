import Kart.DiffStructs.Store

set_option autoImplicit false

/-!
# The diff algebra

Python's `==` on diffs, and the laws of concatenation under it. A diff in normal form (resolved,
its deltas keyed and not renames, no update between equal values, no empty sub-diff) is fixed,
up to `==`, by the two stores it goes between. So concatenating consecutive normal diffs is
associative, and `diff_dicts`, which makes normal diffs, composes.
-/

namespace Kart.DiffStructs

/-- Python's `==` on two dicts from `==` on their values: the same keys, equal values at each. -/
def PyDict.Equiv {κ α β : Type} [DecidableEq κ] (r : α → β → Prop) (a : PyDict κ α)
    (b : PyDict κ β) : Prop :=
  ∀ k, Option.Rel r (a.get k) (b.get k)

theorem optionRel_of_map_eq {α β : Type} {f : α → β} {x y : Option α} (h : x.map f = y.map f) :
    Option.Rel (fun a b => f a = f b) x y := by
  cases x <;> cases y <;> simp_all [Option.Rel.none, Option.Rel.some]

section OptionRel
variable {α β : Type} {r : α → β → Prop}

theorem optionRel_none_iff {x : Option α} {y : Option β} (h : Option.Rel r x y) :
    x = none ↔ y = none := by
  cases h <;> simp

theorem optionRel_some_left {a : α} {y : Option β} (h : Option.Rel r (some a) y) :
    ∃ b, y = some b ∧ r a b := by
  cases h with | some h => exact ⟨_, rfl, h⟩

theorem optionRel_none_left {y : Option β} (h : Option.Rel r none y) : y = none := by
  cases h; rfl

/-- Dicts equal under `==` are empty together. -/
theorem PyDict.Equiv.items_eq_nil_iff {κ : Type} [DecidableEq κ] {a : PyDict κ α} {b : PyDict κ β}
    (h : PyDict.Equiv r a b) : a.items = [] ↔ b.items = [] := by
  constructor <;> intro e <;> refine PyDict.items_eq_nil_of_get fun k => ?_
  · exact (optionRel_none_iff (h k)).1 (PyDict.get_eq_none_of_items e k)
  · exact (optionRel_none_iff (h k)).2 (PyDict.get_eq_none_of_items e k)

end OptionRel

namespace Delta
variable {K V : Type} [DecidableEq K] [DecidableEq V]

/-- An update between equal values, which `Delta.maybe_update` never makes. -/
def isNoop (d : Delta K V) : Bool :=
  match d.change with
  | .update o n => o.value = n.value
  | _ => false

omit [DecidableEq K] in
/-- No sum is an update between equal values: `maybe_update` drops those. -/
theorem add_isNoop {d₁ d₂ r : Delta K V} (h : d₁.add d₂ = .ok (some r)) : r.isNoop = false := by
  obtain ⟨r', hc, hr⟩ := change_of_add_eq_some h
  simp only [isNoop, hr]
  rcases d₁ with ⟨_ | ⟨_, _⟩ | _, _⟩ <;> rcases d₂ with ⟨_ | ⟨_, _⟩ | _, _⟩ <;>
    simp only [concat, maybeUpdate] at hc <;> (try split_ifs at hc) <;> cases hc <;>
    simp_all [insert, update, delete]

end Delta

namespace DeltaDiff
variable {K V : Type} [DecidableEq K] [DecidableEq V]

omit [DecidableEq K] in
theorem cellDelta_self (k : K) (c : Option V) : cellDelta k c c = none := by
  cases c <;> simp [cellDelta]

/-- A delta that is neither a rename nor an update between equal values is the delta
`diff_dicts` makes for the change it makes at its cell. -/
theorem cellDelta_of_applyCell {d : Delta K V} (hr : d.isRename = false) (hn : d.isNoop = false)
    {c c' : Option V} (ha : d.applyCell c = some c') :
    (cellDelta d.key c c').map Delta.change = some d.change := by
  obtain ⟨rfl, rfl⟩ := Delta.applyCell_eq_some.1 ha
  rcases d with ⟨⟨_, _⟩ | ⟨⟨_, _⟩, ⟨_, _⟩⟩ | ⟨_, _⟩, _⟩ <;>
    simp_all [cellDelta, Delta.old, Delta.new, Delta.key, Delta.isRename, Delta.isNoop,
      Delta.insert, Delta.update, Delta.delete]

/-- Python's `==` on `DeltaDiff`s: `Delta.__eq__` compares the old and new sides only. -/
def PyEq (A B : DeltaDiff K V) : Prop := PyDict.Equiv (fun a b : Delta K V => a.change = b.change) A B

/-- A `DeltaDiff` in normal form: deltas keyed and not renames, no update between equal values. -/
structure Normal (D : DeltaDiff K V) : Prop where
  wellFormed : D.WellFormed
  noNoop : ∀ k d, D.get k = some d → d.isNoop = false

theorem normal_empty : Normal (PyDict.empty : DeltaDiff K V) := ⟨wellFormed_empty, by simp⟩

theorem Normal.addDelta {D : DeltaDiff K V} (hD : D.Normal) {d : Delta K V} (hr : d.isRename = false)
    (hn : d.isNoop = false) : (D.addDelta d).Normal := by
  refine ⟨hD.wellFormed.addDelta hr, fun k r h => ?_⟩
  simp only [DeltaDiff.addDelta, PyDict.get_setItem] at h
  split at h
  · cases h; exact hn
  · exact hD.noNoop k r h

variable {S S₁ S₂ : K → Option V}

/-- A normal diff that applies is, key by key, what `diff_dicts` makes of the two stores. -/
theorem Normal.get_map_change {D : DeltaDiff K V} (hD : D.Normal) (ha : D.apply S = some S₁) (k : K) :
    (D.get k).map Delta.change = (cellDelta k (S k) (S₁ k)).map Delta.change := by
  have hk := (apply_eq_some hD.wellFormed).1 ha k
  cases h : D.get k with
  | none =>
    simp only [applyOpt, h, Option.some.injEq] at hk
    simp [hk, cellDelta_self]
  | some d =>
    simp only [applyOpt, h] at hk
    obtain ⟨rfl, hr⟩ := hD.wellFormed k d h
    rw [cellDelta_of_applyCell hr (hD.noNoop _ d h) hk, Option.map_some']

theorem Normal.pyEq {A B : DeltaDiff K V} (hA : A.Normal) (hB : B.Normal) (ha : A.apply S = some S₁)
    (hb : B.apply S = some S₁) : A.PyEq B :=
  fun k => optionRel_of_map_eq ((hA.get_map_change ha k).trans (hB.get_map_change hb k).symm)

theorem Normal.items_eq_nil_iff {D : DeltaDiff K V} (hD : D.Normal) (ha : D.apply S = some S₁) :
    D.items = [] ↔ S = S₁ := by
  refine ⟨fun h => (apply_of_isEmpty (by simp [h]) ha).symm, fun h => ?_⟩
  subst h
  exact PyDict.items_eq_nil_of_get fun k => by simpa [cellDelta_self] using hD.get_map_change ha k

/-- Consecutive normal diffs concatenate into a normal diff doing both. -/
theorem Normal.add {A B : DeltaDiff K V} (hA : A.Normal) (hB : B.Normal) (a₁ : A.apply S = some S₁)
    (a₂ : B.apply S₁ = some S₂) : ∃ D, A.add B = .ok D ∧ D.Normal ∧ D.apply S = some S₂ := by
  obtain ⟨D, hD, hw, ha, -⟩ := add_apply hA.wellFormed hB.wellFormed a₁ a₂
  refine ⟨D, hD, ⟨hw, fun k r hr => ?_⟩, ha⟩
  rcases Diff.get_add_eq_some hD hr with ⟨h, -⟩ | ⟨-, h⟩ | ⟨_, _, -, -, h⟩
  · exact hA.noNoop k r h
  · exact hB.noNoop k r h
  · exact Delta.add_isNoop h

end DeltaDiff

namespace DatasetChild
variable {K V : Type} [DecidableEq K] [DecidableEq V]

/-- Python's `==` on children: `DeltaDiff`s by their deltas, bools by value. A `LazyDeltaDiff`
has no `__eq__` and equals only itself, which its value cannot tell: it equals nothing here. -/
def PyEq : DatasetChild K V → DatasetChild K V → Prop
  | .deltaDiff a, .deltaDiff b => a.PyEq b
  | .bool a, .bool b => a = b
  | _, _ => False

end DatasetChild

namespace DatasetDiff
variable {K V : Type} [DecidableEq K] [DecidableEq V]

def PyEq (A B : DatasetDiff K V) : Prop := PyDict.Equiv DatasetChild.PyEq A B

/-- Every child a `DeltaDiff` whose deltas are keyed and not renames, as `resolve()` leaves it. -/
def Resolved (D : DatasetDiff K V) : Prop :=
  ∀ s c, D.get s = some c → ∃ d, c = .deltaDiff d ∧ d.WellFormed

omit [DecidableEq V] in
theorem resolve_of_resolved {D : DatasetDiff K V} (hD : D.Resolved) : D.resolve = .ok D :=
  Diff.mapChildren_self fun s c h => by obtain ⟨d, rfl, -⟩ := hD s c h; rfl

theorem add_of_resolved {A B : DatasetDiff K V} (hB : B.Resolved) :
    A.add B = Diff.add DatasetChild.add noCheck A B := by
  simp [add, resolve_of_resolved hB]

variable {S S₁ S₂ : String → K → Option V}

theorem apply_deltaDiff {D : DatasetDiff K V} (ha : D.apply S = some S₁) {s : String}
    {d : DeltaDiff K V} (h : D.get s = some (.deltaDiff d)) : d.apply (S s) = some (S₁ s) := by
  simpa [applyOpt, h, DatasetChild.apply] using applyCells_eq_some.1 ha s

/-- Resolved and in normal form, with no empty child: each child a non-empty normal `DeltaDiff`. -/
def Normal (D : DatasetDiff K V) : Prop :=
  ∀ s c, D.get s = some c → ∃ d, c = .deltaDiff d ∧ d.items ≠ [] ∧ d.Normal

theorem Normal.resolved {D : DatasetDiff K V} (hD : D.Normal) : D.Resolved := fun s c h => by
  obtain ⟨d, rfl, -, hd⟩ := hD s c h
  exact ⟨d, rfl, hd.wellFormed⟩

theorem Normal.wellFormed {D : DatasetDiff K V} (hD : D.Normal) : D.WellFormed := fun s c h => by
  obtain ⟨d, rfl, -, hd⟩ := hD s c h
  exact hd.wellFormed

/-- A normal diff that applies has a child exactly where the store changes. -/
theorem Normal.get_eq_none_iff {D : DatasetDiff K V} (hD : D.Normal) (ha : D.apply S = some S₁)
    (s : String) : D.get s = none ↔ S s = S₁ s := by
  cases h : D.get s with
  | none => simpa [applyOpt, h, eq_comm] using applyCells_eq_some.1 ha s
  | some c =>
    obtain ⟨d, rfl, hne, hd⟩ := hD s c h
    simpa [← hd.items_eq_nil_iff (apply_deltaDiff ha h)] using hne

theorem Normal.items_eq_nil_iff {D : DatasetDiff K V} (hD : D.Normal) (ha : D.apply S = some S₁) :
    D.items = [] ↔ S = S₁ := by
  refine ⟨fun h => (applyCells_of_isEmpty (by simp [h]) ha).symm, fun h => ?_⟩
  subst h
  exact PyDict.items_eq_nil_of_get fun s => (hD.get_eq_none_iff ha s).2 rfl

theorem Normal.pyEq {A B : DatasetDiff K V} (hA : A.Normal) (hB : B.Normal) (ha : A.apply S = some S₁)
    (hb : B.apply S = some S₁) : A.PyEq B := fun s => by
  have e := (hA.get_eq_none_iff ha s).trans (hB.get_eq_none_iff hb s).symm
  cases h₁ : A.get s <;> cases h₂ : B.get s <;> simp only [h₁, h₂, reduceCtorEq, iff_true, iff_false,
    true_iff, not_true_eq_false] at e
  · exact .none
  · obtain ⟨d₁, rfl, -, hd₁⟩ := hA s _ h₁
    obtain ⟨d₂, rfl, -, hd₂⟩ := hB s _ h₂
    exact .some (hd₁.pyEq hd₂ (apply_deltaDiff ha h₁) (apply_deltaDiff hb h₂))

theorem Normal.add {A B : DatasetDiff K V} (hA : A.Normal) (hB : B.Normal) (a₁ : A.apply S = some S₁)
    (a₂ : B.apply S₁ = some S₂) : ∃ D, A.add B = .ok D ∧ D.Normal ∧ D.apply S = some S₂ := by
  obtain ⟨D, hD, -, ha, -⟩ := add_apply hA.wellFormed hB.wellFormed a₁ a₂
  refine ⟨D, hD, fun s c hc => ?_, ha⟩
  rw [add_of_resolved hB.resolved] at hD
  rcases Diff.get_add_eq_some hD hc with ⟨h, -⟩ | ⟨-, h⟩ | ⟨a, b, h₁, h₂, h⟩
  · exact hA s c h
  · exact hB s c h
  · obtain ⟨d₁, rfl, -, hd₁⟩ := hA s a h₁
    obtain ⟨d₂, rfl, -, hd₂⟩ := hB s b h₂
    obtain ⟨X, hX, hXn, -⟩ := hd₁.add hd₂ (apply_deltaDiff a₁ h₁) (apply_deltaDiff a₂ h₂)
    simp only [DatasetChild.add, hX, map_ok, Except.ok.injEq] at h
    obtain ⟨hne, rfl⟩ := DatasetChild.mem_ofSum.1 h
    exact ⟨X, rfl, by simpa using hne, hXn⟩

end DatasetDiff

namespace RepoDiff
variable {K V : Type} [DecidableEq K] [DecidableEq V]

def PyEq (A B : RepoDiff K V) : Prop := PyDict.Equiv DatasetDiff.PyEq A B

def Resolved (D : RepoDiff K V) : Prop := ∀ p c, D.get p = some c → c.Resolved

omit [DecidableEq V] in
theorem resolve_of_resolved {D : RepoDiff K V} (hD : D.Resolved) : D.resolve = .ok D :=
  Diff.mapChildren_self fun p c h => DatasetDiff.resolve_of_resolved (hD p c h)

theorem add_of_resolved {A B : RepoDiff K V} (hB : B.Resolved) :
    A.add B = Diff.add addChild noCheck A B := by
  simp [add, resolve_of_resolved hB]

variable {S S₁ S₂ : String → String → K → Option V}

theorem apply_child {D : RepoDiff K V} (ha : D.apply S = some S₁) {p : String} {c : DatasetDiff K V}
    (h : D.get p = some c) : c.apply (S p) = some (S₁ p) := by
  simpa [applyOpt, h] using applyCells_eq_some.1 ha p

/-- Every child a non-empty normal `DatasetDiff`. -/
def Normal (D : RepoDiff K V) : Prop := ∀ p c, D.get p = some c → c.items ≠ [] ∧ c.Normal

theorem Normal.resolved {D : RepoDiff K V} (hD : D.Normal) : D.Resolved :=
  fun p c h => (hD p c h).2.resolved

theorem Normal.wellFormed {D : RepoDiff K V} (hD : D.Normal) : D.WellFormed :=
  fun p c h => (hD p c h).2.wellFormed

theorem Normal.get_eq_none_iff {D : RepoDiff K V} (hD : D.Normal) (ha : D.apply S = some S₁)
    (p : String) : D.get p = none ↔ S p = S₁ p := by
  cases h : D.get p with
  | none => simpa [applyOpt, h, eq_comm] using applyCells_eq_some.1 ha p
  | some c =>
    obtain ⟨hne, hc⟩ := hD p c h
    simpa [← hc.items_eq_nil_iff (apply_child ha h)] using hne

theorem Normal.pyEq {A B : RepoDiff K V} (hA : A.Normal) (hB : B.Normal) (ha : A.apply S = some S₁)
    (hb : B.apply S = some S₁) : A.PyEq B := fun p => by
  have e := (hA.get_eq_none_iff ha p).trans (hB.get_eq_none_iff hb p).symm
  cases h₁ : A.get p <;> cases h₂ : B.get p <;> simp only [h₁, h₂, reduceCtorEq, iff_true, iff_false,
    true_iff, not_true_eq_false] at e
  · exact .none
  · exact .some ((hA p _ h₁).2.pyEq (hB p _ h₂).2 (apply_child ha h₁) (apply_child hb h₂))

theorem Normal.add {A B : RepoDiff K V} (hA : A.Normal) (hB : B.Normal) (a₁ : A.apply S = some S₁)
    (a₂ : B.apply S₁ = some S₂) : ∃ D, A.add B = .ok D ∧ D.Normal ∧ D.apply S = some S₂ := by
  obtain ⟨D, hD, -, ha, -⟩ := add_apply hA.wellFormed hB.wellFormed a₁ a₂
  refine ⟨D, hD, fun p c hc => ?_, ha⟩
  rw [add_of_resolved hB.resolved] at hD
  rcases Diff.get_add_eq_some hD hc with ⟨h, -⟩ | ⟨-, h⟩ | ⟨a, b, h₁, h₂, h⟩
  · exact hA p c h
  · exact hB p c h
  · obtain ⟨X, hX, hXn, -⟩ := (hA p a h₁).2.add (hB p b h₂).2 (apply_child a₁ h₁) (apply_child a₂ h₂)
    simp only [addChild, hX, map_ok, Except.ok.injEq] at h
    obtain ⟨hne, rfl⟩ := mem_ofSum.1 h
    exact ⟨by simpa using hne, hXn⟩

end RepoDiff

namespace DiffClass
variable {K V : Type} [DecidableEq K] [DecidableEq V]

/-- Python's `==` on two diffs of the class. -/
def PyEq : (c : DiffClass) → c.Diff K V → c.Diff K V → Prop
  | repoDiff, A, B => RepoDiff.PyEq A B
  | datasetDiff, A, B => DatasetDiff.PyEq A B
  | deltaDiff, A, B => DeltaDiff.PyEq A B

/-- Resolved and in normal form: deltas keyed and not renames, no update between equal values,
every `DatasetDiff` child a `DeltaDiff`, and no empty `DeltaDiff` or `DatasetDiff` inside. -/
def Normal : (c : DiffClass) → c.Diff K V → Prop
  | repoDiff, D => RepoDiff.Normal D
  | datasetDiff, D => DatasetDiff.Normal D
  | deltaDiff, D => DeltaDiff.Normal D

theorem Normal.add {c : DiffClass} {A B : c.Diff K V} (hA : c.Normal A) (hB : c.Normal B)
    {S S₁ S₂ : c.Store K V} (a₁ : c.apply A S = some S₁) (a₂ : c.apply B S₁ = some S₂) :
    ∃ D, c.add A B = .ok D ∧ c.Normal D ∧ c.apply D S = some S₂ := by
  cases c
  · exact RepoDiff.Normal.add hA hB a₁ a₂
  · exact DatasetDiff.Normal.add hA hB a₁ a₂
  · exact DeltaDiff.Normal.add hA hB a₁ a₂

theorem Normal.pyEq {c : DiffClass} {A B : c.Diff K V} (hA : c.Normal A) (hB : c.Normal B)
    {S S₁ : c.Store K V} (ha : c.apply A S = some S₁) (hb : c.apply B S = some S₁) : c.PyEq A B := by
  cases c
  · exact RepoDiff.Normal.pyEq hA hB ha hb
  · exact DatasetDiff.Normal.pyEq hA hB ha hb
  · exact DeltaDiff.Normal.pyEq hA hB ha hb

end DiffClass

variable {K V : Type} [DecidableEq K] [DecidableEq V]

/-- Concatenation of consecutive diffs in normal form is associative under the code's `==`:
both bracketings are normal and go between the same two stores. -/
theorem add_assoc_normal (c : DiffClass) {A B C : c.Diff K V} (hA : c.Normal A) (hB : c.Normal B)
    (hC : c.Normal C) {S S₁ S₂ S₃ : c.Store K V} (a₁ : c.apply A S = some S₁)
    (a₂ : c.apply B S₁ = some S₂) (a₃ : c.apply C S₂ = some S₃) :
    ∃ AB BC ABC ABC', c.add A B = .ok AB ∧ c.add AB C = .ok ABC ∧ c.add B C = .ok BC ∧
      c.add A BC = .ok ABC' ∧ c.PyEq ABC ABC' := by
  obtain ⟨AB, hAB, nAB, aAB⟩ := hA.add hB a₁ a₂
  obtain ⟨ABC, hABC, nABC, aABC⟩ := nAB.add hC aAB a₃
  obtain ⟨BC, hBC, nBC, aBC⟩ := hB.add hC a₂ a₃
  obtain ⟨ABC', hABC', nABC', aABC'⟩ := hA.add nBC a₁ aBC
  exact ⟨AB, BC, ABC, ABC', hAB, hABC, hBC, hABC', nABC.pyEq nABC' aABC aABC'⟩

theorem add_assoc_normal_insert_update_delete :
    let A : DeltaDiff Nat Nat := DeltaDiff.addDelta .empty (Delta.insert ⟨1, 5⟩)
    let B : DeltaDiff Nat Nat := DeltaDiff.addDelta .empty (Delta.update ⟨1, 5⟩ ⟨1, 6⟩)
    let C : DeltaDiff Nat Nat := DeltaDiff.addDelta .empty (Delta.delete ⟨1, 6⟩)
    ∃ AB BC ABC ABC', DiffClass.add .deltaDiff A B = .ok AB ∧ DiffClass.add .deltaDiff AB C = .ok ABC ∧
      DiffClass.add .deltaDiff B C = .ok BC ∧ DiffClass.add .deltaDiff A BC = .ok ABC' ∧
      DiffClass.PyEq .deltaDiff ABC ABC' :=
  add_assoc_normal DiffClass.deltaDiff
    (DeltaDiff.normal_empty.addDelta (d := Delta.insert ⟨1, 5⟩) rfl rfl)
    (DeltaDiff.normal_empty.addDelta (d := Delta.update ⟨1, 5⟩ ⟨1, 6⟩) (by decide) (by decide))
    (DeltaDiff.normal_empty.addDelta (d := Delta.delete ⟨1, 6⟩) rfl rfl) (S := fun _ => none) rfl rfl rfl

/-- An empty child breaks associativity: it survives in `A + (B + C)`, where `B + C` cancels to
nothing, but not in `(A + B) + C`, where the cancelled sum at its key is popped. -/
theorem add_assoc_empty_child :
    let A : DatasetDiff Nat Nat := PyDict.empty.setItem "feature" (.deltaDiff PyDict.empty)
    let B : DatasetDiff Nat Nat :=
      PyDict.empty.setItem "feature" (.deltaDiff (DeltaDiff.ofDeltas [Delta.insert ⟨1, 5⟩]))
    let C : DatasetDiff Nat Nat :=
      PyDict.empty.setItem "feature" (.deltaDiff (DeltaDiff.ofDeltas [Delta.delete ⟨1, 5⟩]))
    (∃ S₁ S₂ S₃, A.apply (fun _ _ => none) = some S₁ ∧ B.apply S₁ = some S₂ ∧ C.apply S₂ = some S₃) ∧
      (A.add B >>= fun AB => AB.add C) = .ok PyDict.empty ∧ (B.add C >>= A.add) = .ok A ∧
      ¬ DatasetDiff.PyEq PyDict.empty A := by
  refine ⟨⟨_, _, _, rfl, rfl, rfl⟩, rfl, rfl, fun h => ?_⟩
  cases h "feature"

namespace DeltaDiff

/-- The delta `diff_dicts` makes at a key is keyed there, not a rename, not an update between
equal values, and takes the old value to the new one. -/
theorem cellDelta_spec {k : K} {a b : Option V} {d : Delta K V} (h : cellDelta k a b = some d) :
    d.key = k ∧ d.isRename = false ∧ d.isNoop = false ∧ d.applyCell a = some b := by
  rcases a with _ | a <;> rcases b with _ | b <;> simp only [cellDelta, reduceCtorEq] at h
  · cases h; simp [Delta.key, Delta.isRename, Delta.isNoop, Delta.applyCell, Delta.insert]
  · cases h; simp [Delta.key, Delta.isRename, Delta.isNoop, Delta.applyCell, Delta.delete]
  · split_ifs at h with hab
    cases h
    simp_all [Delta.key, Delta.isRename, Delta.isNoop, Delta.applyCell, Delta.update]

omit [DecidableEq V] in
theorem get_foldl_filterMap {ks : List K} (hks : ks.Nodup) {g : K → Option (Delta K V)}
    (hg : ∀ k d, g k = some d → d.key = k) (init : DeltaDiff K V) (k : K) :
    ((ks.filterMap g).foldl addDelta init).get k =
      if k ∈ ks then (g k).or (init.get k) else init.get k := by
  induction ks generalizing init with
  | nil => simp
  | cons k' ks ih =>
    obtain ⟨hk', hks⟩ := List.nodup_cons.1 hks
    cases hg' : g k' with
    | none =>
      rw [List.filterMap_cons_none hg', ih hks]
      by_cases e : k = k'
      · subst e; simp [hk', hg']
      · simp [e]
    | some d =>
      rw [List.filterMap_cons_some hg', List.foldl_cons, ih hks]
      by_cases e : k = k'
      · subst e; simp [hk', hg', addDelta, hg _ _ hg']
      · simp [e, addDelta, hg _ _ hg']

theorem get_diffDicts (old new : PyDict K V) (f : Nat) (k : K) :
    (diffDicts old new f).get k = (cellDelta k (old.get k) (new.get k)).map ({ · with flags := f }) := by
  rw [diffDicts, diffDictsAsDeltas, get_foldl_filterMap (nodup_unionKeys old new)]
  · split
    · simp
    · rename_i h
      simp only [mem_unionKeys, not_or] at h
      simp [PyDict.get_eq_none.2 h.1, PyDict.get_eq_none.2 h.2, cellDelta]
  · intro k d hd
    obtain ⟨d', hd', rfl⟩ := Option.map_eq_some'.1 hd
    exact (cellDelta_spec hd').1

theorem flags_diffDicts {old new : PyDict K V} {f : Nat} {k : K} {d : Delta K V}
    (h : (diffDicts old new f).get k = some d) : d.flags = f := by
  rw [get_diffDicts] at h
  obtain ⟨d', -, rfl⟩ := Option.map_eq_some'.1 h
  rfl

theorem normal_diffDicts (old new : PyDict K V) (f : Nat) : (diffDicts old new f).Normal := by
  constructor <;> intro k d h <;> rw [get_diffDicts] at h <;>
    obtain ⟨d', hd', rfl⟩ := Option.map_eq_some'.1 h <;> have := cellDelta_spec hd'
  · exact ⟨this.1, this.2.1⟩
  · exact this.2.2.1

theorem apply_diffDicts (old new : PyDict K V) (f : Nat) :
    (diffDicts old new f).apply old.get = some new.get := by
  refine (apply_eq_some (normal_diffDicts old new f).wellFormed).2 fun k => ?_
  rw [get_diffDicts]
  cases h : cellDelta k (old.get k) (new.get k) with
  | none =>
    cases ho : old.get k <;> cases hn : new.get k <;>
      simp_all [applyOpt, cellDelta]
  | some d => simpa [applyOpt] using (cellDelta_spec h).2.2.2

/-- `diff_dicts` composes, for values whose `==` is equality: the diff from `a` to `b` followed by
the one from `b` to `c` raises no `Conflict` and equals the diff from `a` to `c`, each delta with
the flags given; and a dict's diff with itself is empty. -/
theorem diffDicts_add [BEq V] [LawfulBEq V] (a b c : PyDict K V) (f : Nat) :
    (∃ D, (diffDicts a b f).add (diffDicts b c f) = .ok D ∧ D.PyEq (diffDicts a c f) ∧
      ∀ k r, D.get k = some r → r.flags = f) ∧ (diffDicts a a f).items = [] := by
  obtain rfl : ‹BEq V› = instBEqOfDecidableEq := lawful_beq_subsingleton _ _
  obtain ⟨D, hD, hn, ha⟩ := (normal_diffDicts a b f).add (normal_diffDicts b c f)
    (apply_diffDicts a b f) (apply_diffDicts b c f)
  refine ⟨⟨D, hD, hn.pyEq (normal_diffDicts a c f) ha (apply_diffDicts a c f), fun k r hr => ?_⟩,
    PyDict.items_eq_nil_of_get fun k => by simp [get_diffDicts, cellDelta_self]⟩
  rcases Diff.get_add_eq_some hD hr with ⟨h, -⟩ | ⟨-, h⟩ | ⟨_, _, h₁, h₂, h⟩
  · exact flags_diffDicts h
  · exact flags_diffDicts h
  · rw [Delta.add_flags h, flags_diffDicts h₁, flags_diffDicts h₂, Nat.or_self]

theorem diffDicts_add_update :
    let a : PyDict Nat Nat := PyDict.empty.setItem 1 10
    let b : PyDict Nat Nat := PyDict.empty.setItem 1 20
    (∃ D, (diffDicts a b 1).add (diffDicts b .empty 1) = .ok D ∧ D.PyEq (diffDicts a .empty 1) ∧
      ∀ k r, D.get k = some r → r.flags = 1) ∧ (diffDicts a a 1).items = [] := by
  intro a b
  exact diffDicts_add a b .empty 1

/-- Python floats as `==` sees them: `nan` is not `==` to anything, itself included. -/
inductive PyFloat
  | num (q : Int)
  | nan

instance : BEq PyFloat where
  beq
    | .num p, .num q => p == q
    | _, _ => false

/-- A dict holding a `nan` differs from itself: `diff_dicts` makes an update from `nan` to `nan`. -/
theorem diffDicts_self_nan :
    (diffDicts (PyDict.empty.setItem 0 PyFloat.nan) (PyDict.empty.setItem 0 PyFloat.nan) 0).items =
      [(0, Delta.update ⟨0, .nan⟩ ⟨0, .nan⟩)] := rfl

end DeltaDiff

end Kart.DiffStructs
