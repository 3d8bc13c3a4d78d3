import Kart.DiffStructs.Algebra

set_option autoImplicit false

/-!
# Inversion against concatenation

`~(A + B) == (~B) + (~A)` for resolved diffs whose deltas are keyed and not renames, consecutive
or not: the two sides raise `Conflict` together, and otherwise agree at every key path, a key
that cancels on one side cancelling on the other. Everything follows, key by key, from the
table of `Delta.__add__` read through inversion (`Delta.add_invert`).
-/

namespace Kart.DiffStructs

variable {K V : Type} [DecidableEq K]

omit [DecidableEq K] in
theorem Delta.add_invert_outcome [DecidableEq V] (d₁ d₂ : Delta K V) :
    OutcomeRel (fun v v' => Option.Rel (fun a b : Delta K V => a.change = b.change)
      (v.map Delta.invert) v') (d₁.add d₂) (d₂.invert.add d₁.invert) := by
  have h := Delta.add_invert d₁ d₂
  cases h₁ : d₁.add d₂ with
  | error e =>
    cases h₂ : d₂.invert.add d₁.invert with
    | error e' => rw [Delta.add_eq_error h₁, Delta.add_eq_error h₂]; exact .conflict
    | ok v' => simp [Except.map, h₁, h₂] at h
  | ok v =>
    cases h₂ : d₂.invert.add d₁.invert with
    | error e' => simp [Except.map, h₁, h₂] at h
    | ok v' =>
      simp only [h₁, h₂, Except.map, Except.ok.injEq] at h
      refine .ok ?_
      cases v <;> cases v' <;> simp_all [Option.Rel.none, Option.Rel.some]

namespace Delta
omit [DecidableEq K]

/-- `~delta` swaps the two sides; it is built afresh, with flags 0. -/
@[simp] theorem old_invert (d : Delta K V) : d.invert.old = d.new := by
  rcases d with ⟨_ | _ | _, f⟩ <;> rfl

@[simp] theorem new_invert (d : Delta K V) : d.invert.new = d.old := by
  rcases d with ⟨_ | _ | _, f⟩ <;> rfl

@[simp] theorem flags_invert (d : Delta K V) : d.invert.flags = 0 := by
  rcases d with ⟨_ | _ | _, f⟩ <;> rfl

end Delta

namespace DeltaDiff

theorem get_foldl_invert (l : List (K × Delta K V)) (hl : (l.map Prod.fst).Nodup)
    (hk : ∀ kd ∈ l, kd.2.invert.key = kd.1) (init : DeltaDiff K V) (k : K) :
    (l.foldl (fun r kd => r.addDelta kd.2.invert) init).get k = ((l.lookup k).map Delta.invert).or (init.get k) := by
  induction l generalizing init with
  | nil => simp
  | cons kd l ih =>
    simp only [List.map_cons, List.nodup_cons, List.mem_map, not_exists, not_and] at hl
    rw [List.foldl_cons, ih hl.2 (fun kd' h => hk kd' (List.mem_cons_of_mem _ h)), PyDict.lookup_cons_ite]
    by_cases e : k = kd.1
    · subst e
      have : l.lookup kd.1 = none :=
        List.lookup_eq_none_iff.2 fun q hq => bne_iff_ne.2 fun h => hl.1 q hq h.symm
      simp [this, addDelta, hk kd (List.mem_cons_self _ _)]
    · simp [e, addDelta, hk kd (List.mem_cons_self _ _)]

/-- `~D` holds at each key the inverse of the delta there. -/
theorem get_invert {D : DeltaDiff K V} (hD : D.WellFormed) (k : K) :
    D.invert.get k = (D.get k).map Delta.invert := by
  rw [invert, get_foldl_invert _ D.nodup]
  · simp [PyDict.get, PyDict.empty]
  · intro kd h
    obtain ⟨hk, hr⟩ := hD kd.1 kd.2 (PyDict.get_eq_some_iff.2 h)
    rw [Delta.key_invert _ hr, hk]

theorem WellFormed.invert {D : DeltaDiff K V} (hD : D.WellFormed) : D.invert.WellFormed := by
  intro k d h
  rw [get_invert hD] at h
  obtain ⟨d, hd, rfl⟩ := Option.map_eq_some'.1 h
  obtain ⟨hk, hr⟩ := hD k d hd
  exact ⟨(Delta.key_invert _ hr).trans hk, (Delta.isRename_invert d).trans hr⟩

theorem PyEq.refl (D : DeltaDiff K V) : D.PyEq D := fun k => by
  cases D.get k
  · exact .none
  · exact .some rfl

theorem invert_items_eq_nil_iff {D : DeltaDiff K V} (hD : D.WellFormed) :
    D.invert.items = [] ↔ D.items = [] := by
  constructor <;> intro e <;> refine PyDict.items_eq_nil_of_get fun k => ?_
  · simpa [get_invert hD] using PyDict.get_eq_none_of_items e k
  · rw [get_invert hD, PyDict.get_eq_none_of_items e k, Option.map_none']

theorem checked_checkKey {k : K} {v : Option (Delta K V)} (h : ∀ r ∈ v, r.key = k) :
    PyDict.checked checkKey k v = .ok v :=
  checked_of_forall fun r hr => checkKey_eq_ok (h r hr)

section Add
variable [DecidableEq V]

/-- At one key, `A + B` and `(~B) + (~A)` raise `Conflict` together or record inverse deltas. -/
theorem addAt_invert {A B : DeltaDiff K V} (hA : A.WellFormed) (hB : B.WellFormed) (k : K) :
    OutcomeRel (fun v v' => (∀ r ∈ v, r.key = k ∧ r.isRename = false) ∧
        Option.Rel (fun a b : Delta K V => a.change = b.change) (v.map Delta.invert) v')
      (Diff.addAt Delta.add checkKey A B k) (Diff.addAt Delta.add checkKey B.invert A.invert k) := by
  simp only [Diff.addAt, get_invert hA, get_invert hB]
  cases ha : A.get k with
  | none =>
    cases hb : B.get k with
    | none => exact .ok ⟨by simp, .none⟩
    | some b =>
      obtain ⟨hbk, hbr⟩ := hB k b hb
      simp only [addChildren, Option.map_some', Option.map_none', pure_eq_ok, ok_bind,
        checked_checkKey (v := some b) (by simpa using hbk),
        checked_checkKey (v := some b.invert) (by simpa [Delta.key_invert _ hbr] using hbk)]
      exact .ok ⟨by simpa using ⟨hbk, hbr⟩, .some rfl⟩
  | some a =>
    obtain ⟨hak, har⟩ := hA k a ha
    cases hb : B.get k with
    | none =>
      simp only [addChildren, Option.map_some', Option.map_none', pure_eq_ok, ok_bind,
        checked_checkKey (v := some a) (by simpa using hak),
        checked_checkKey (v := some a.invert) (by simpa [Delta.key_invert _ har] using hak)]
      exact .ok ⟨by simpa using ⟨hak, har⟩, .some rfl⟩
    | some b =>
      obtain ⟨hbk, hbr⟩ := hB k b hb
      have ho := Delta.add_invert_outcome a b
      simp only [addChildren, Option.map_some']
      cases hab : a.add b with
      | error e =>
        obtain ⟨rfl, hba⟩ := (hab ▸ ho).error_left
        rw [hba]
        exact .conflict
      | ok v =>
        obtain ⟨v', hba, hvv'⟩ := (hab ▸ ho).ok_left
        have hv : ∀ r ∈ v, r.key = k ∧ r.isRename = false := fun r hr => by
          obtain ⟨h₁, h₂⟩ := Delta.add_key har hbr (hak.trans hbk.symm) (Option.mem_def.1 hr ▸ hab)
          exact ⟨h₁.trans hak, h₂⟩
        have hv' : ∀ r ∈ v', r.key = k := fun r hr => by
          have := Delta.add_key ((Delta.isRename_invert b).trans hbr) ((Delta.isRename_invert a).trans har)
            (by rw [Delta.key_invert _ hbr, Delta.key_invert _ har, hak, hbk]) (Option.mem_def.1 hr ▸ hba)
          rw [this.1, Delta.key_invert _ hbr, hbk]
        rw [hba, ok_bind, ok_bind, checked_checkKey fun r hr => (hv r hr).1, checked_checkKey hv']
        exact .ok ⟨hv, hvv'⟩

/-- `A + B` and `(~B) + (~A)` raise `Conflict` together, or return with `~(A + B) == (~B) + (~A)`. -/
theorem add_invert_outcome {A B : DeltaDiff K V} (hA : A.WellFormed) (hB : B.WellFormed) :
    OutcomeRel (fun AB BA => AB.WellFormed ∧ AB.invert.PyEq BA) (A.add B) (B.invert.add A.invert) := by
  refine (Diff.add_keywise.outcomeRel Diff.add_keywise (addAt_invert hA hB)).mono fun AB BA h => ?_
  have hw : DeltaDiff.WellFormed AB := fun k r hr => (h k).1 r hr
  exact ⟨hw, fun k => by rw [get_invert hw]; exact (h k).2⟩

end Add

end DeltaDiff

namespace DatasetDiff

theorem PyEq.refl_of_resolved {D : DatasetDiff K V} (hD : D.Resolved) : D.PyEq D := fun s => by
  cases h : D.get s with
  | none => exact .none
  | some c =>
    obtain ⟨d, rfl, -⟩ := hD s c h
    exact .some (DeltaDiff.PyEq.refl d)

theorem invert_of_resolved {D : DatasetDiff K V} (hD : D.Resolved) :
    ∃ iD, D.invert = .ok iD ∧ iD.Resolved ∧ PyDict.Equiv (fun c ic => c.invert = .ok ic) D iD := by
  obtain ⟨iD, h⟩ := Diff.mapChildren_ok_of (f := DatasetChild.invert) PyDict.empty fun s c hc => by
    obtain ⟨d, rfl, -⟩ := hD s c hc
    exact ⟨_, rfl⟩
  refine ⟨iD, h, fun s c hc => ?_, Diff.mapChildren_rel h fun _ _ => rfl⟩
  cases hs : D.get s with
  | none => simpa [hs, hc] using optionRel_none_iff (Diff.mapChildren_rel h (fun _ _ => rfl) s)
  | some c' =>
    obtain ⟨c'', e, hinv⟩ := optionRel_some_left (hs ▸ Diff.mapChildren_rel h (fun _ _ => rfl) s)
    obtain ⟨d, rfl, hd⟩ := hD s c' hs
    cases hc.symm.trans e
    cases hinv
    exact ⟨_, rfl, hd.invert⟩

/-- The child at a key of a resolved diff, and of its inverse. -/
theorem get_of_equiv_invert {D iD : DatasetDiff K V} (hD : D.Resolved)
    (e : PyDict.Equiv (fun c ic => c.invert = .ok ic) D iD) (s : String) :
    (D.get s = none ∧ iD.get s = none) ∨
      ∃ d, D.get s = some (.deltaDiff d) ∧ d.WellFormed ∧ iD.get s = some (.deltaDiff d.invert) := by
  cases h : D.get s with
  | none => exact .inl ⟨rfl, optionRel_none_left (h ▸ e s)⟩
  | some c =>
    obtain ⟨d, rfl, hd⟩ := hD s c h
    obtain ⟨ic, hic, hinv⟩ := optionRel_some_left (h ▸ e s)
    cases hinv
    exact .inr ⟨d, rfl, hd, hic⟩

/-- `~D` holds at each key path the inverse of the delta there. -/
theorem deltaAt_invert {D iD : DatasetDiff K V} (hD : D.Resolved) (h : D.invert = .ok iD)
    (s : String) (k : K) : iD.deltaAt s k = (D.deltaAt s k).map Delta.invert := by
  obtain ⟨iD', h', -, e⟩ := invert_of_resolved hD
  cases h.symm.trans h'
  rcases get_of_equiv_invert hD e s with ⟨h₁, h₂⟩ | ⟨d, h₁, hd, h₂⟩
  · simp [deltaAt, h₁, h₂]
  · simp [deltaAt, h₁, h₂, DatasetChild.get, DeltaDiff.get_invert hd]

section Add
variable [DecidableEq V]

theorem addAt_invert {A B iA iB : DatasetDiff K V} (hA : A.Resolved) (hB : B.Resolved)
    (eA : PyDict.Equiv (fun c ic => c.invert = .ok ic) A iA)
    (eB : PyDict.Equiv (fun c ic => c.invert = .ok ic) B iB) (s : String) :
    OutcomeRel (fun v v' => Option.Rel (fun c c' => ∃ d d', c = .deltaDiff d ∧ c' = .deltaDiff d' ∧
        d.WellFormed ∧ d.invert.PyEq d') v v')
      (Diff.addAt DatasetChild.add noCheck A B s) (Diff.addAt DatasetChild.add noCheck iB iA s) := by
  simp only [Diff.addAt, bind_checked_noCheck]
  rcases get_of_equiv_invert hA eA s with ⟨ha, ha'⟩ | ⟨a, ha, hwa, ha'⟩ <;>
    rcases get_of_equiv_invert hB eB s with ⟨hb, hb'⟩ | ⟨b, hb, hwb, hb'⟩ <;>
    simp only [ha, ha', hb, hb', addChildren, pure_eq_ok, DatasetChild.add_deltaDiff]
  · exact .ok .none
  · exact .ok (.some ⟨b, b.invert, rfl, rfl, hwb, DeltaDiff.PyEq.refl _⟩)
  · exact .ok (.some ⟨a, a.invert, rfl, rfl, hwa, DeltaDiff.PyEq.refl _⟩)
  · refine (DeltaDiff.add_invert_outcome hwa hwb).map fun AB BA ⟨hw, heq⟩ => ?_
    have he : AB.items.isEmpty = BA.items.isEmpty := Bool.eq_iff_iff.2 <| by
      simpa only [List.isEmpty_iff, DeltaDiff.invert_items_eq_nil_iff hw] using heq.items_eq_nil_iff
    unfold DatasetChild.ofSum
    rw [he]
    split
    · exact .none
    · exact .some ⟨AB, BA, rfl, rfl, hw, heq⟩

/-- The same for `DatasetDiff`s whose children are resolved. -/
theorem add_invert_outcome {A B : DatasetDiff K V} (hA : A.Resolved) (hB : B.Resolved) :
    ∃ iA iB, A.invert = .ok iA ∧ B.invert = .ok iB ∧
      OutcomeRel (fun AB BA => AB.Resolved ∧ ∃ iAB, AB.invert = .ok iAB ∧ iAB.PyEq BA)
        (A.add B) (iB.add iA) := by
  obtain ⟨iA, hiA, rA, eA⟩ := invert_of_resolved hA
  obtain ⟨iB, hiB, -, eB⟩ := invert_of_resolved hB
  refine ⟨iA, iB, hiA, hiB, ?_⟩
  rw [add_of_resolved hB, add_of_resolved rA]
  refine (Diff.add_keywise.outcomeRel Diff.add_keywise (addAt_invert hA hB eA eB)).mono
    fun AB BA h => ?_
  have hr : DatasetDiff.Resolved AB := fun s c hc => by
    have hs := h s
    rw [hc] at hs
    obtain ⟨_, -, d, _, rfl, -, hd, -⟩ := optionRel_some_left hs
    exact ⟨d, rfl, hd⟩
  obtain ⟨iAB, hiAB, -, eAB⟩ := invert_of_resolved hr
  refine ⟨hr, iAB, hiAB, fun s => ?_⟩
  rcases get_of_equiv_invert hr eAB s with ⟨h₁, h₂⟩ | ⟨d, h₁, -, h₂⟩
  · have hs := h s
    rw [h₁] at hs
    rw [h₂, optionRel_none_left hs]
    exact .none
  · have hs := h s
    rw [h₁] at hs
    obtain ⟨_, e, d', d'', he, rfl, -, hpy⟩ := optionRel_some_left hs
    cases he
    rw [h₂, e]
    exact .some hpy

end Add

end DatasetDiff

namespace RepoDiff

theorem invert_of_resolved {D : RepoDiff K V} (hD : D.Resolved) :
    ∃ iD, D.invert = .ok iD ∧ iD.Resolved ∧ PyDict.Equiv (fun c ic => c.invert = .ok ic) D iD := by
  obtain ⟨iD, h⟩ := Diff.mapChildren_ok_of (f := DatasetDiff.invert) PyDict.empty fun p c hc =>
    let ⟨ic, hic, _⟩ := DatasetDiff.invert_of_resolved (hD p c hc); ⟨ic, hic⟩
  refine ⟨iD, h, fun p c hc => ?_, Diff.mapChildren_rel h fun _ _ => rfl⟩
  have hp := Diff.mapChildren_rel h (fun _ _ => rfl) p
  rw [hc] at hp
  cases hs : D.get p with
  | none => rw [hs] at hp; cases hp
  | some c' =>
    rw [hs] at hp
    cases hp with
    | some hinv =>
      obtain ⟨ic, hic, hr, -⟩ := DatasetDiff.invert_of_resolved (hD p c' hs)
      cases hinv.symm.trans hic
      exact hr

theorem get_of_equiv_invert {D iD : RepoDiff K V} (hD : D.Resolved)
    (e : PyDict.Equiv (fun c ic => c.invert = .ok ic) D iD) (p : String) :
    (D.get p = none ∧ iD.get p = none) ∨ ∃ c ic, D.get p = some c ∧ c.Resolved ∧
      c.invert = .ok ic ∧ ic.Resolved ∧ iD.get p = some ic := by
  cases h : D.get p with
  | none => exact .inl ⟨rfl, optionRel_none_left (h ▸ e p)⟩
  | some c =>
    obtain ⟨ic, hic, hinv⟩ := optionRel_some_left (h ▸ e p)
    obtain ⟨ic', hic', hr, -⟩ := DatasetDiff.invert_of_resolved (hD p c h)
    cases hinv.symm.trans hic'
    exact .inr ⟨c, ic, rfl, hD p c h, hinv, hr, hic⟩

theorem deltaAt_invert {D iD : RepoDiff K V} (hD : D.Resolved) (h : D.invert = .ok iD)
    (p s : String) (k : K) : iD.deltaAt p s k = (D.deltaAt p s k).map Delta.invert := by
  obtain ⟨iD', h', -, e⟩ := invert_of_resolved hD
  cases h.symm.trans h'
  rcases get_of_equiv_invert hD e p with ⟨h₁, h₂⟩ | ⟨c, ic, h₁, hc, hic, -, h₂⟩
  · simp [deltaAt, h₁, h₂]
  · simp [deltaAt, h₁, h₂, DatasetDiff.deltaAt_invert hc hic]

section Add
variable [DecidableEq V]

theorem addAt_invert {A B iA iB : RepoDiff K V} (hA : A.Resolved) (hB : B.Resolved)
    (eA : PyDict.Equiv (fun c ic => c.invert = .ok ic) A iA)
    (eB : PyDict.Equiv (fun c ic => c.invert = .ok ic) B iB) (p : String) :
    OutcomeRel (fun v v' => Option.Rel (fun c c' => c.Resolved ∧ ∃ ic, c.invert = .ok ic ∧ ic.PyEq c')
        v v')
      (Diff.addAt addChild noCheck A B p) (Diff.addAt addChild noCheck iB iA p) := by
  simp only [Diff.addAt, bind_checked_noCheck]
  rcases get_of_equiv_invert hA eA p with ⟨ha, ha'⟩ | ⟨a, ia, ha, hra, hia, ria, ha'⟩ <;>
    rcases get_of_equiv_invert hB eB p with ⟨hb, hb'⟩ | ⟨b, ib, hb, hrb, hib, rib, hb'⟩ <;>
    simp only [ha, ha', hb, hb', addChildren, pure_eq_ok]
  · exact .ok .none
  · exact .ok (.some ⟨hrb, ib, hib, DatasetDiff.PyEq.refl_of_resolved rib⟩)
  · exact .ok (.some ⟨hra, ia, hia, DatasetDiff.PyEq.refl_of_resolved ria⟩)
  · obtain ⟨ia', ib', hia', hib', ho⟩ := DatasetDiff.add_invert_outcome hra hrb
    cases hia.symm.trans hia'
    cases hib.symm.trans hib'
    refine ho.map fun AB BA ⟨hr, iAB, hiAB, heq⟩ => ?_
    obtain ⟨iAB', hiAB', -, eAB⟩ := DatasetDiff.invert_of_resolved hr
    cases hiAB.symm.trans hiAB'
    have he : AB.items.isEmpty = BA.items.isEmpty := Bool.eq_iff_iff.2 <| by
      simpa only [List.isEmpty_iff] using eAB.items_eq_nil_iff.trans heq.items_eq_nil_iff
    unfold ofSum
    rw [he]
    split
    · exact .none
    · exact .some ⟨hr, iAB, hiAB, heq⟩

theorem add_invert_outcome {A B : RepoDiff K V} (hA : A.Resolved) (hB : B.Resolved) :
    ∃ iA iB, A.invert = .ok iA ∧ B.invert = .ok iB ∧
      OutcomeRel (fun AB BA => ∃ iAB, AB.invert = .ok iAB ∧ iAB.PyEq BA) (A.add B) (iB.add iA) := by
  obtain ⟨iA, hiA, rA, eA⟩ := invert_of_resolved hA
  obtain ⟨iB, hiB, -, eB⟩ := invert_of_resolved hB
  refine ⟨iA, iB, hiA, hiB, ?_⟩
  rw [add_of_resolved hB, add_of_resolved rA]
  refine (Diff.add_keywise.outcomeRel Diff.add_keywise (addAt_invert hA hB eA eB)).mono
    fun AB BA h => ?_
  have hr : RepoDiff.Resolved AB := fun p c hc => by
    have hs := h p
    rw [hc] at hs
    obtain ⟨_, -, hr, -⟩ := optionRel_some_left hs
    exact hr
  obtain ⟨iAB, hiAB, -, eAB⟩ := invert_of_resolved hr
  refine ⟨iAB, hiAB, fun p => ?_⟩
  have hs := h p
  rcases get_of_equiv_invert hr eAB p with ⟨h₁, h₂⟩ | ⟨c, ic, h₁, -, hic, -, h₂⟩ <;> rw [h₁] at hs
  · rw [h₂, optionRel_none_left hs]
    exact .none
  · obtain ⟨c', e, -, ic', hic', hpy⟩ := optionRel_some_left hs
    cases hic.symm.trans hic'
    rw [h₂, e]
    exact .some hpy

end Add

end RepoDiff

namespace DiffClass

def invert : (c : DiffClass) → c.Diff K V → Except PyError (c.Diff K V)
  | repoDiff, D => RepoDiff.invert D
  | datasetDiff, D => DatasetDiff.invert D
  | deltaDiff, D => pure (DeltaDiff.invert D)

/-- Resolved, with every delta keyed and not a rename: every `DatasetDiff` child a `DeltaDiff`. -/
def Resolved : (c : DiffClass) → c.Diff K V → Prop
  | repoDiff, D => RepoDiff.Resolved D
  | datasetDiff, D => DatasetDiff.Resolved D
  | deltaDiff, D => DeltaDiff.WellFormed D

/-- A resolved diff has an inverse, resolved, holding at each key path the inverse of the delta
there. -/
theorem invert_spec (c : DiffClass) {D : c.Diff K V} (hD : c.Resolved D) :
    ∃ iD, c.invert D = .ok iD ∧ c.Resolved iD ∧
      ∀ x, c.deltaAt iD x = (c.deltaAt D x).map Delta.invert := by
  cases c
  · obtain ⟨iD, h, hr, -⟩ := RepoDiff.invert_of_resolved hD
    exact ⟨iD, h, hr, fun ⟨p, s, k⟩ => RepoDiff.deltaAt_invert hD h p s k⟩
  · obtain ⟨iD, h, hr, -⟩ := DatasetDiff.invert_of_resolved hD
    exact ⟨iD, h, hr, fun ⟨s, k⟩ => DatasetDiff.deltaAt_invert hD h s k⟩
  · exact ⟨_, rfl, hD.invert, DeltaDiff.get_invert hD⟩

end DiffClass

/-- Inversion swaps each delta's sides and clears its flags: `~D` holds at each key path the
delta with old and new swapped and flags 0, and `~~D` agrees with `D` on every old and new side,
with every flag 0. -/
theorem invert_swaps_clears_flags (c : DiffClass) {D : c.Diff K V} (hD : c.Resolved D) :
    ∃ iD iiD, c.invert D = .ok iD ∧ c.Resolved iD ∧ c.invert iD = .ok iiD ∧ ∀ x,
      Option.Rel (fun d id => id.old = d.new ∧ id.new = d.old ∧ id.flags = 0)
        (c.deltaAt D x) (c.deltaAt iD x) ∧
      Option.Rel (fun d iid => iid.old = d.old ∧ iid.new = d.new ∧ iid.flags = 0)
        (c.deltaAt D x) (c.deltaAt iiD x) := by
  obtain ⟨iD, h, hr, hx⟩ := c.invert_spec hD
  obtain ⟨iiD, h', -, hx'⟩ := c.invert_spec hr
  refine ⟨iD, iiD, h, hr, h', fun x => ?_⟩
  rw [hx', hx]
  cases c.deltaAt D x with
  | none => exact ⟨.none, .none⟩
  | some d => exact ⟨.some (by simp), .some (by simp)⟩

theorem invert_swaps_clears_flags_insert :
    let D : DeltaDiff Nat Nat := DeltaDiff.addDelta .empty ⟨.insert ⟨1, 5⟩, 1⟩
    ∃ iD iiD, DiffClass.invert .deltaDiff D = .ok iD ∧ DiffClass.Resolved .deltaDiff iD ∧
      DiffClass.invert .deltaDiff iD = .ok iiD ∧ ∀ x,
      Option.Rel (fun d id => id.old = d.new ∧ id.new = d.old ∧ id.flags = 0)
        (DiffClass.deltaAt .deltaDiff D x) (DiffClass.deltaAt .deltaDiff iD x) ∧
      Option.Rel (fun d iid => iid.old = d.old ∧ iid.new = d.new ∧ iid.flags = 0)
        (DiffClass.deltaAt .deltaDiff D x) (DiffClass.deltaAt .deltaDiff iiD x) :=
  invert_swaps_clears_flags .deltaDiff (DeltaDiff.wellFormed_empty.addDelta (d := ⟨.insert ⟨1, 5⟩, 1⟩) rfl)

/-- A delta flagged `WORKING_COPY_EDIT` (`0x1`) comes back from `~~` with flags 0. -/
example :
    let D : DeltaDiff Nat Nat := DeltaDiff.addDelta .empty ⟨.insert ⟨1, 5⟩, 1⟩
    ∃ iD iiD, DiffClass.invert .deltaDiff D = .ok iD ∧ DiffClass.invert .deltaDiff iD = .ok iiD ∧
      DiffClass.flagsAt .deltaDiff D (1 : Nat) = 1 ∧ DiffClass.flagsAt .deltaDiff iiD (1 : Nat) = 0 :=
  ⟨_, _, rfl, rfl, rfl, rfl⟩

variable [DecidableEq V]

/-- Inversion reverses concatenation: for resolved diffs whose deltas are not renames, `~A` and
`~B` exist, `A + B` and `(~B) + (~A)` both raise `Conflict` or both return, and then
`~(A + B) == (~B) + (~A)`. -/
theorem invert_reverses_add (c : DiffClass) {A B : c.Diff K V} (hA : c.Resolved A)
    (hB : c.Resolved B) :
    ∃ iA iB, c.invert A = .ok iA ∧ c.invert B = .ok iB ∧
      OutcomeRel (fun AB BA => ∃ iAB, c.invert AB = .ok iAB ∧ c.PyEq iAB BA) (c.add A B)
        (c.add iB iA) := by
  cases c
  · exact RepoDiff.add_invert_outcome hA hB
  · obtain ⟨iA, iB, hiA, hiB, h⟩ := DatasetDiff.add_invert_outcome hA hB
    exact ⟨iA, iB, hiA, hiB, h.mono fun _ _ h => h.2⟩
  · exact ⟨_, _, rfl, rfl, (DeltaDiff.add_invert_outcome hA hB).mono fun _ _ h => ⟨_, rfl, h.2⟩⟩

theorem invert_reverses_add_insert_update :
    let A : DeltaDiff Nat Nat := DeltaDiff.addDelta .empty (Delta.insert ⟨1, 5⟩)
    let B : DeltaDiff Nat Nat := DeltaDiff.addDelta .empty (Delta.update ⟨1, 5⟩ ⟨1, 6⟩)
    ∃ iA iB, DiffClass.invert .deltaDiff A = .ok iA ∧ DiffClass.invert .deltaDiff B = .ok iB ∧
      OutcomeRel (fun AB BA => ∃ iAB, DiffClass.invert .deltaDiff AB = .ok iAB ∧
        DiffClass.PyEq .deltaDiff iAB BA) (DiffClass.add .deltaDiff A B) (DiffClass.add .deltaDiff iB iA) :=
  invert_reverses_add DiffClass.deltaDiff
    (DeltaDiff.wellFormed_empty.addDelta (d := Delta.insert ⟨1, 5⟩) rfl)
    (DeltaDiff.wellFormed_empty.addDelta (d := Delta.update ⟨1, 5⟩ ⟨1, 6⟩) (by decide))

end Kart.DiffStructs
