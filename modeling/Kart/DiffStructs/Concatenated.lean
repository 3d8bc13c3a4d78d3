import Kart.DiffStructs.Typing
import Mathlib.Data.List.ReduceOption

set_option autoImplicit false

/-!
# Concatenating a run of diffs

`Diff.concatenated(*diffs)` keeps the first diff that is not `None` and adds each later one to
it with `+=`. Below the top level `+=` adds children with `+`, so on resolved diffs it does
what `+` does, key by key. Hence a run of resolved diffs, each applying where the one before
left off, concatenates without raising into one resolved diff that applies the whole run.
-/

namespace Kart.DiffStructs

section Generic
variable {κ C : Type} [DecidableEq κ] {add : C → C → Except PyError (Option C)}
  {check : κ → C → Except PyError Unit} {self other r : PyDict κ C}

/-- Where `+` succeeds, `+=` succeeds too, with the same child at every key. -/
theorem Diff.iadd_get_of_add (hself : ∀ k c, self.get k = some c → check k c = .ok ())
    (h : Diff.add add check self other = .ok r) :
    ∃ r', Diff.iadd add check self other = .ok r' ∧ ∀ k, r'.get k = r.get k :=
  (Diff.iadd_keywise hself).of_forall (P := fun k v => v = r.get k) fun k =>
    ⟨_, Diff.add_eq_ok h k, rfl⟩

end Generic

variable {K V : Type} [DecidableEq K]

theorem DatasetDiff.Resolved.wellFormed {D : DatasetDiff K V} (h : D.Resolved) : D.WellFormed :=
  fun s c hc => by
    obtain ⟨d, rfl, hd⟩ := h s c hc
    exact hd

theorem RepoDiff.Resolved.wellFormed {D : RepoDiff K V} (h : D.Resolved) : D.WellFormed :=
  fun p c hc => (h p c hc).wellFormed

variable [DecidableEq V]

theorem DatasetChild.add_deltaDiff_eq_some {a b : DeltaDiff K V} {c : DatasetChild K V}
    (h : DatasetChild.add (.deltaDiff a) (.deltaDiff b) = .ok (some c)) :
    ∃ d, a.add b = .ok d ∧ c = .deltaDiff d := by
  rw [DatasetChild.add_deltaDiff] at h
  cases hs : a.add b with
  | error e => rw [hs] at h; cases h
  | ok d =>
    rw [hs, map_ok, Except.ok.injEq] at h
    exact ⟨d, rfl, (DatasetChild.mem_ofSum.1 h).2⟩

namespace DatasetDiff

/-- The sum of two resolved dataset diffs, when its deltas are keyed, is resolved. -/
theorem add_resolved {A B D : DatasetDiff K V} (hA : A.Resolved) (hB : B.Resolved)
    (h : Diff.add DatasetChild.add noCheck A B = .ok D) (hD : D.WellFormed) : D.Resolved := by
  intro s c hc
  have hwf := hD s c hc
  rcases Diff.get_add_eq_some h hc with ⟨ha, -⟩ | ⟨-, hb⟩ | ⟨a, b, ha, hb, hab⟩
  · exact hA s c ha
  · exact hB s c hb
  · obtain ⟨a, rfl, -⟩ := hA s a ha
    obtain ⟨b, rfl, -⟩ := hB s b hb
    obtain ⟨d, -, rfl⟩ := DatasetChild.add_deltaDiff_eq_some hab
    exact ⟨d, rfl, hwf⟩

theorem iadd_apply {A B : DatasetDiff K V} (hA : A.Resolved) (hB : B.Resolved)
    {S S₁ S₂ : String → K → Option V} (a₁ : A.apply S = some S₁) (a₂ : B.apply S₁ = some S₂) :
    ∃ D, A.iadd B = .ok D ∧ D.Resolved ∧ D.apply S = some S₂ := by
  obtain ⟨D, hD, hwf, ha, -⟩ := add_apply hA.wellFormed hB.wellFormed a₁ a₂
  rw [add_of_resolved hB] at hD
  obtain ⟨D', hD', hget⟩ := Diff.iadd_get_of_add (fun _ _ _ => rfl) hD
  refine ⟨D', hD', fun s c hc => add_resolved hA hB hD hwf s c (hget s ▸ hc), ?_⟩
  rw [apply, applyCells_eq_some] at ha ⊢
  exact fun s => hget s ▸ ha s

end DatasetDiff

namespace RepoDiff

theorem add_resolved {A B D : RepoDiff K V} (hA : A.Resolved) (hB : B.Resolved)
    (h : Diff.add addChild noCheck A B = .ok D) (hD : D.WellFormed) : D.Resolved := by
  intro p c hc
  rcases Diff.get_add_eq_some h hc with ⟨ha, -⟩ | ⟨-, hb⟩ | ⟨a, b, ha, hb, hab⟩
  · exact hA p c ha
  · exact hB p c hb
  · cases hs : a.add b with
    | error e => rw [addChild, hs] at hab; cases hab
    | ok d =>
      rw [addChild, hs, map_ok, Except.ok.injEq] at hab
      obtain ⟨-, rfl⟩ := mem_ofSum.1 hab
      rw [DatasetDiff.add_of_resolved (hB p b hb)] at hs
      exact DatasetDiff.add_resolved (hA p a ha) (hB p b hb) hs (hD p c hc)

theorem iadd_apply {A B : RepoDiff K V} (hA : A.Resolved) (hB : B.Resolved)
    {S S₁ S₂ : String → String → K → Option V} (a₁ : A.apply S = some S₁)
    (a₂ : B.apply S₁ = some S₂) :
    ∃ D, A.iadd B = .ok D ∧ D.Resolved ∧ D.apply S = some S₂ := by
  obtain ⟨D, hD, hwf, ha, -⟩ := add_apply hA.wellFormed hB.wellFormed a₁ a₂
  rw [add_of_resolved hB] at hD
  obtain ⟨D', hD', hget⟩ := Diff.iadd_get_of_add (fun _ _ _ => rfl) hD
  refine ⟨D', hD', fun p c hc => add_resolved hA hB hD hwf p c (hget p ▸ hc), ?_⟩
  rw [apply, applyCells_eq_some] at ha ⊢
  exact fun p => hget p ▸ ha p

end RepoDiff

namespace DiffClass

/-- `cls()`, the empty diff of the class. -/
def empty : (c : DiffClass) → c.Diff K V
  | repoDiff => PyDict.empty
  | datasetDiff => PyDict.empty
  | deltaDiff => PyDict.empty

/-- One `+=` of the loop: a resolved diff and the next one, applying where it left off. -/
theorem iadd_apply (c : DiffClass) {A B : c.Diff K V} (hA : c.Resolved A) (hB : c.Resolved B)
    {S S₁ S₂ : c.Store K V} (a₁ : c.apply A S = some S₁) (a₂ : c.apply B S₁ = some S₂) :
    ∃ D, c.iadd A B = .ok D ∧ c.Resolved D ∧ c.apply D S = some S₂ := by
  cases c with
  | repoDiff => exact RepoDiff.iadd_apply hA hB a₁ a₂
  | datasetDiff => exact DatasetDiff.iadd_apply hA hB a₁ a₂
  | deltaDiff =>
    obtain ⟨D, hD, hwf, ha, -⟩ := DeltaDiff.iadd_apply hA hB a₁ a₂
    exact ⟨D, hD, hwf, ha⟩

end DiffClass

end Kart.DiffStructs
