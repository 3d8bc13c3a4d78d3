import Kart.DiffStructs.Algebra
set_option autoImplicit false

/-!
# Pruning

`RichDict.prune` walks a snapshot of a node's entries in order. It drops each child that is an
empty diff once pruned, and drops `data_changes = False` only if, when the walk reaches it, it is
the node's sole entry: only if it is the last entry and every entry before it was an empty diff.
A `data_changes = False` followed by empty diffs therefore outlives them, alone in its node, and
the node outlives the prune of its parent. A second prune removes both, and the same entries in
another order are removed by the first.
-/
namespace Kart.DiffStructs

variable {K V : Type}

theorem PyDict.key_ne_of_items_eq {κ α : Type} {d : PyDict κ α} {pre post : List (κ × α)}
    {kv : κ × α} (h : d.items = pre ++ kv :: post) :
    (∀ q ∈ pre, q.1 ≠ kv.1) ∧ ∀ q ∈ post, q.1 ≠ kv.1 := by
  have hnd := d.nodup
  rw [h, List.map_append, List.map_cons, List.nodup_append, List.nodup_cons] at hnd
  exact ⟨fun q hq e => hnd.2.2 (List.mem_map_of_mem _ hq) (e ▸ List.mem_cons_self _ _),
    fun q hq e => hnd.2.1.1 (e ▸ List.mem_map_of_mem _ hq)⟩

theorem PyDict.items_pop_eq {κ α : Type} [DecidableEq κ] {d : PyDict κ α}
    {pre post : List (κ × α)} {kv : κ × α} (h : d.items = pre ++ kv :: post) :
    (d.pop kv.1).items = pre ++ post := by
  obtain ⟨hpre, hpost⟩ := PyDict.key_ne_of_items_eq h
  simp only [PyDict.pop, h, List.filter_append, List.filter_cons, ne_eq, not_true_eq_false,
    decide_False, Bool.false_eq_true, if_false]
  rw [List.filter_eq_self.2 (fun q hq => decide_eq_true (hpre q hq)),
    List.filter_eq_self.2 (fun q hq => decide_eq_true (hpost q hq))]

theorem PyDict.items_setItem_eq {κ α : Type} [DecidableEq κ] {d : PyDict κ α}
    {pre post : List (κ × α)} {k : κ} {w : α} (h : d.items = pre ++ (k, w) :: post) (v : α) :
    (d.setItem k v).items = pre ++ (k, v) :: post := by
  obtain ⟨hpre, hpost⟩ := PyDict.key_ne_of_items_eq h
  have hk : k ∈ d.keys := by simp [PyDict.keys, h]
  simp only [PyDict.setItem, dif_pos hk, h, List.map_append, List.map_cons, if_pos rfl]
  rw [List.map_congr_left (fun q hq => if_neg (hpre q hq)),
    List.map_congr_left (fun q hq => if_neg (hpost q hq))]
  simp

namespace DatasetDiff

/-- The entry `data_changes = False`. -/
def noDataChanges : String × DatasetChild K V := ("data_changes", .bool false)

/-- Whether `prune` removes every entry: all are empty diffs but a last `data_changes = False`. -/
def prunesAway (l : List (String × DatasetChild K V)) : Bool :=
  l.getLast?.any isNoDataChanges && l.dropLast.all fun kv => isEmptyDiff kv.2

theorem isNoDataChanges_iff {kv : String × DatasetChild K V} :
    isNoDataChanges kv = true ↔ kv = noDataChanges := by
  unfold isNoDataChanges
  split <;> simp_all [noDataChanges]

theorem isNoDataChanges_of_isEmptyDiff {kv : String × DatasetChild K V} (h : isEmptyDiff kv.2 = true) :
    isNoDataChanges kv = false := by
  rcases kv with ⟨k, _ | _ | _⟩ <;> simp_all [isEmptyDiff, isNoDataChanges]

@[simp] theorem prunesAway_nil : prunesAway ([] : List (String × DatasetChild K V)) = false := rfl

@[simp] theorem prunesAway_singleton (kv : String × DatasetChild K V) :
    prunesAway [kv] = isNoDataChanges kv := by
  simp [prunesAway]

theorem prunesAway_cons_cons (kv x : String × DatasetChild K V) (l) :
    prunesAway (kv :: x :: l) = (isEmptyDiff kv.2 && prunesAway (x :: l)) := by
  simp only [prunesAway, List.getLast?_cons_cons, List.dropLast_cons₂, List.all_cons]
  cases isEmptyDiff kv.2 <;> simp

theorem prunesAway_cons_of_isEmptyDiff {kv : String × DatasetChild K V}
    (h : isEmptyDiff kv.2 = true) (l) : prunesAway (kv :: l) = prunesAway l := by
  cases l with
  | nil => simp [isNoDataChanges_of_isEmptyDiff h]
  | cons x l => simp [prunesAway_cons_cons, h]

/-- Entries that are all empty diffs but one `data_changes = False` filter down to it alone. -/
theorem filter_not_isEmptyDiff_eq {l : List (String × DatasetChild K V)}
    (hnd : (l.map Prod.fst).Nodup) (hall : l.all fun kv => isNoDataChanges kv || isEmptyDiff kv.2)
    (hany : l.any isNoDataChanges) : l.filter (fun kv => !isEmptyDiff kv.2) = [noDataChanges] := by
  induction l with
  | nil => simp at hany
  | cons kv l ih =>
    simp only [List.map_cons, List.nodup_cons, List.all_cons, List.any_cons, Bool.and_eq_true,
      Bool.or_eq_true] at hnd hall hany
    by_cases he : isEmptyDiff kv.2 = true
    · rw [List.filter_cons_of_neg (by simp [he])]
      exact ih hnd.2 hall.2 (hany.resolve_left (by simp [isNoDataChanges_of_isEmptyDiff he]))
    · have hkv : kv = noDataChanges := isNoDataChanges_iff.1 (hall.1.resolve_right he)
      rw [List.filter_cons_of_pos (by simp [he]), hkv, List.cons.injEq, List.filter_eq_nil_iff]
      refine ⟨rfl, fun x hx => ?_⟩
      have hx' := List.all_eq_true.1 hall.2 x hx
      rcases Bool.or_eq_true _ _ ▸ hx' with hn | hx'
      · exact absurd (List.mem_map_of_mem Prod.fst hx) (by rw [isNoDataChanges_iff.1 hn, ← hkv]; exact hnd.1)
      · simp [hx']

/-- No `data_changes = False` beside an empty diff: the nodes that one `prune` settles. -/
def pruneSafe (d : DatasetDiff K V) : Bool :=
  !d.items.any isNoDataChanges || d.items.all fun kv => !isEmptyDiff kv.2

/-- Only one entry can be `data_changes = False`: the keys are distinct. -/
theorem length_le_one_of_all_isNoDataChanges (d : DatasetDiff K V)
    (h : d.items.all isNoDataChanges) : d.items.length ≤ 1 := by
  match hd : d.items, h with
  | [], _ | [_], _ => simp
  | a :: b :: l, h =>
    have hnd := d.nodup
    simp only [hd, List.all_cons, Bool.and_eq_true, isNoDataChanges_iff] at h hnd
    simp [h.1, h.2.1] at hnd

theorem any_isNoDataChanges_of_prunesAway {l : List (String × DatasetChild K V)}
    (h : prunesAway l) : l.any isNoDataChanges := by
  cases hl : l.getLast? with
  | none => simp [prunesAway, hl] at h
  | some y =>
    simp only [prunesAway, hl, Option.any_some, Bool.and_eq_true] at h
    exact List.any_eq_true.2 ⟨y, List.mem_of_getLast?_eq_some hl, h.1⟩

/-- `prune`'s loop after it has kept the entries `kept`, with `l` left of its snapshot. -/
theorem items_foldl_pruneStep (l kept : List (String × DatasetChild K V)) (c : DatasetDiff K V)
    (hc : c.items = kept ++ l) :
    (l.foldl pruneStep c).items =
      if kept.isEmpty && prunesAway l then [] else kept ++ l.filter fun kv => !isEmptyDiff kv.2 := by
  induction l generalizing kept c with
  | nil => simp [hc]
  | cons kv l ih =>
    rw [List.foldl_cons]
    by_cases he : isEmptyDiff kv.2 = true
    · have hstep : (pruneStep c kv).items = kept ++ l := by
        simp only [pruneStep, isNoDataChanges_of_isEmptyDiff he, he, Bool.false_eq_true,
          false_and, if_false, if_true]
        exact PyDict.items_pop_eq hc
      rw [ih kept _ hstep, prunesAway_cons_of_isEmptyDiff he, List.filter_cons, he]
      rfl
    · have hlen : c.items.length = 1 ↔ kept = [] ∧ l = [] := by
        simp [hc, ← List.length_eq_zero]; omega
      by_cases hdc : isNoDataChanges kv = true ∧ kept = [] ∧ l = []
      · obtain ⟨hn, rfl, rfl⟩ := hdc
        simp only [pruneStep, he, Bool.false_eq_true, if_false]
        rw [if_pos ⟨hn, hlen.2 ⟨rfl, rfl⟩⟩, List.foldl_nil, PyDict.items_pop_eq hc]
        simp [hn]
      · have hstep : pruneStep c kv = c := by
          simp only [pruneStep, he, Bool.false_eq_true, if_false]
          exact if_neg fun h => hdc ⟨h.1, hlen.1 h.2⟩
        have hkept : (kept.isEmpty && prunesAway (kv :: l)) = false := by
          rcases kept with _ | _
          · cases l with
            | nil => simp_all
            | cons x l => simp_all [prunesAway_cons_cons]
          · rfl
        rw [hstep, ih (kept ++ [kv]) c (by simp [hc]), hkept]
        simp [he]

/-- What `prune` leaves of a node: nothing, when it holds only empty diffs and a last
`data_changes = False`; otherwise every entry that is not an empty diff. -/
theorem items_prune (d : DatasetDiff K V) :
    d.prune.items = if prunesAway d.items then [] else d.items.filter fun kv => !isEmptyDiff kv.2 := by
  simpa using items_foldl_pruneStep d.items [] d rfl

/-- On a node `prune` settles, the order of the entries does not matter: it drops the node's
entries when all are `data_changes = False`, and otherwise the empty diffs. -/
theorem items_prune_of_pruneSafe {d : DatasetDiff K V} (hs : d.pruneSafe) :
    d.prune.items = if d.items.all isNoDataChanges then [] else d.items.filter fun kv => !isEmptyDiff kv.2 := by
  rw [items_prune]
  have hlen := length_le_one_of_all_isNoDataChanges d
  simp only [pruneSafe, Bool.or_eq_true, Bool.not_eq_true'] at hs
  match hd : d.items with
  | [] => rfl
  | [kv] => simp
  | a :: b :: l =>
    have hall : (a :: b :: l).all isNoDataChanges = false := by
      simpa [hd] using mt hlen
    have hp : prunesAway (a :: b :: l) = false := by
      rw [prunesAway_cons_cons, Bool.and_eq_false_iff]
      by_contra hne
      simp only [not_or, Bool.not_eq_false] at hne
      have hany := any_isNoDataChanges_of_prunesAway hne.2
      rw [hd] at hs
      rcases hs with hs | hs
      · rw [List.any_cons, hany, Bool.or_true] at hs
        exact Bool.true_eq_false_eq_False hs
      · simpa [hne.1] using List.all_eq_true.1 hs a (List.mem_cons_self _ _)
    rw [hall, hp]

theorem all_eq_of_perm {α : Type} {l l' : List α} (h : l.Perm l') (f : α → Bool) :
    l.all f = l'.all f :=
  Bool.eq_iff_iff.2 (by simp only [List.all_eq_true]; exact ⟨fun H x hx => H x (h.symm.subset hx), fun H x hx => H x (h.subset hx)⟩)

theorem pruneSafe_of_perm {d d' : DatasetDiff K V} (h : d.items.Perm d'.items) (hs : d.pruneSafe) :
    d'.pruneSafe := by
  simpa only [pruneSafe, List.any_eq_not_all_not, all_eq_of_perm h] using hs

/-- `prune` leaves no empty diff in a node. -/
theorem isEmptyDiff_of_mem_prune {d : DatasetDiff K V} {kv : String × DatasetChild K V}
    (h : kv ∈ d.prune.items) : isEmptyDiff kv.2 = false := by
  rw [items_prune] at h
  split at h
  · simp at h
  · simpa using (List.mem_filter.1 h).2

/-- A node `prune` settles and keeps holds more than `data_changes = False`. -/
theorem all_isNoDataChanges_prune {d : DatasetDiff K V} (hs : d.pruneSafe) (hne : d.prune.items ≠ []) :
    d.prune.items.all isNoDataChanges = false := by
  rw [items_prune_of_pruneSafe hs] at hne ⊢
  split at hne
  · exact absurd rfl hne
  · rename_i hall
    rw [if_neg hall, Bool.eq_false_iff]
    intro hf
    obtain ⟨x, hx⟩ := List.exists_mem_of_ne_nil _ hne
    have hany : d.items.any isNoDataChanges :=
      List.any_eq_true.2 ⟨x, (List.mem_filter.1 hx).1, List.all_eq_true.1 hf x hx⟩
    simp only [pruneSafe, hany, Bool.not_true, Bool.false_or] at hs
    rw [List.filter_eq_self.2 (List.all_eq_true.1 hs)] at hf
    exact hall hf

/-- A second `prune` leaves a node that the first settled as it is. -/
theorem prune_prune_of_pruneSafe {d : DatasetDiff K V} (hs : d.pruneSafe) : d.prune.prune = d.prune := by
  have hs' : d.prune.pruneSafe := by
    have hall : (d.prune.items.all fun kv => !isEmptyDiff kv.2) = true :=
      List.all_eq_true.2 fun kv hkv => by rw [isEmptyDiff_of_mem_prune hkv]; rfl
    simp only [pruneSafe, hall, Bool.or_true]
  ext1
  rw [items_prune_of_pruneSafe hs']
  by_cases hne : d.prune.items = []
  · rw [hne]
    rfl
  · rw [all_isNoDataChanges_prune hs hne, if_neg Bool.false_ne_true]
    exact List.filter_eq_self.2 fun kv hkv => by rw [isEmptyDiff_of_mem_prune hkv]; rfl

/-- On nodes `prune` settles, the order of a node's entries only reorders what `prune` keeps. -/
theorem prune_perm_of_pruneSafe {d d' : DatasetDiff K V} (hs : d.pruneSafe) (h : d.items.Perm d'.items) :
    d.prune.items.Perm d'.prune.items := by
  rw [items_prune_of_pruneSafe hs, items_prune_of_pruneSafe (pruneSafe_of_perm h hs)]
  rw [all_eq_of_perm h]
  split
  · exact List.Perm.refl _
  · exact h.filter _

end DatasetDiff

namespace RepoDiff

/-- What one turn of `prune`'s loop leaves of a dataset's entry: the pruned dataset diff, or
nothing when it prunes to empty. -/
def prunedEntry (kv : String × DatasetDiff K V) : Option (String × DatasetDiff K V) :=
  if kv.2.prune.items.isEmpty then none else some (kv.1, kv.2.prune)

theorem items_foldl_pruneStep (l kept : List (String × DatasetDiff K V)) (c : RepoDiff K V)
    (hc : c.items = kept ++ l) : (l.foldl pruneStep c).items = kept ++ l.filterMap prunedEntry := by
  induction l generalizing kept c with
  | nil => simp [hc]
  | cons kv l ih =>
    obtain ⟨k, dd⟩ := kv
    rw [List.foldl_cons]
    by_cases he : dd.prune.items.isEmpty = true
    · rw [ih kept _ (by simpa [pruneStep, he] using PyDict.items_pop_eq hc)]
      simp [prunedEntry, he]
    · rw [ih (kept ++ [(k, dd.prune)]) _ (by simpa [pruneStep, he] using PyDict.items_setItem_eq hc dd.prune)]
      simp [prunedEntry, he]

/-- `prune` keeps, in order, every dataset diff that does not prune to empty, pruned. -/
theorem items_prune (D : RepoDiff K V) : D.prune.items = D.items.filterMap prunedEntry := by
  simpa using items_foldl_pruneStep D.items [] D rfl

theorem get_prune (D : RepoDiff K V) (p : String) :
    D.prune.get p = (D.get p).bind fun dd => if dd.prune.items.isEmpty then none else some dd.prune := by
  apply Option.ext
  intro v
  rw [Option.mem_def, Option.mem_def, PyDict.get_eq_some_iff, items_prune, List.mem_filterMap,
    Option.bind_eq_some]
  constructor
  · rintro ⟨⟨k, dd⟩, ha, hq⟩
    unfold prunedEntry at hq
    split at hq <;> cases hq
    exact ⟨dd, PyDict.get_eq_some_iff.2 ha, by simp_all⟩
  · rintro ⟨dd, hdd, hv⟩
    refine ⟨(p, dd), PyDict.get_eq_some_iff.1 hdd, ?_⟩
    unfold prunedEntry
    split at hv <;> simp_all

open DatasetDiff in
/-- A node holding `data_changes = False` and otherwise only empty diffs, in an order where
`data_changes` is not last, is pruned to that entry alone and kept in its parent; a second prune
removes it, and so does a first prune of the same entries with `data_changes` last. -/
theorem prune_leaves_lone_noDataChanges (D : RepoDiff K V) (p : String) (d : DatasetDiff K V)
    (hD : D.get p = some d) (hall : d.items.all fun kv => isNoDataChanges kv || isEmptyDiff kv.2)
    (hany : d.items.any isNoDataChanges) (hlast : d.items.getLast?.any isNoDataChanges = false) :
    (D.prune.get p).map PyDict.items = some [noDataChanges] ∧
    D.prune.prune.get p = none ∧
    ∀ d' : DatasetDiff K V, d'.items.Perm d.items → d'.items.getLast?.any isNoDataChanges →
      (RepoDiff.prune (D.setItem p d')).get p = none := by
  have h1 : d.prune.items = [noDataChanges] := by
    rw [DatasetDiff.items_prune, prunesAway, hlast, Bool.false_and, if_neg Bool.false_ne_true]
    exact filter_not_isEmptyDiff_eq d.nodup hall hany
  have h2 : d.prune.prune.items = [] := by
    rw [DatasetDiff.items_prune, h1]
    rfl
  have h3 : ∀ d' : DatasetDiff K V, d'.items.Perm d.items →
      d'.items.getLast?.any isNoDataChanges → d'.prune.items = [] := by
    intro d' hperm hl
    cases hy : d'.items.getLast? with
    | none => simp [hy] at hl
    | some y =>
    have hyn : isNoDataChanges y = true := by simpa [hy] using hl
    have hsplit := (List.dropLast_append_getLast? y hy).symm
    have hne := (PyDict.key_ne_of_items_eq hsplit).1
    have hdrop : ∀ x ∈ d'.items.dropLast, isEmptyDiff x.2 = true := by
      intro x hx
      have hx' := List.all_eq_true.1 hall x (hperm.subset (List.dropLast_subset _ hx))
      rcases Bool.or_eq_true _ _ ▸ hx' with hn | he
      · exact absurd (by rw [isNoDataChanges_iff.1 hn, isNoDataChanges_iff.1 hyn]) (hne x hx)
      · exact he
    rw [DatasetDiff.items_prune, if_pos (by simpa [prunesAway, hl] using hdrop)]
  refine ⟨?_, ?_, fun d' hperm hl => ?_⟩
  · simp [get_prune, hD, h1]
  · simp [get_prune, hD, h1, h2]
  · simp [get_prune, h3 d' hperm hl]

/-- `{"ds": {"data_changes": False, "feature": DeltaDiff()}}` prunes to
`{"ds": {"data_changes": False}}`, which a second prune empties. -/
theorem prune_leaves_lone_noDataChanges_ds :
    let d : DatasetDiff Nat Nat :=
      (PyDict.empty.setItem "data_changes" (.bool false)).setItem "feature" (.deltaDiff PyDict.empty)
    let D : RepoDiff Nat Nat := PyDict.empty.setItem "ds" d
    (D.prune.get "ds").map PyDict.items = some [DatasetDiff.noDataChanges] ∧
    D.prune.prune.get "ds" = none ∧
    ∀ d' : DatasetDiff Nat Nat, d'.items.Perm d.items →
      d'.items.getLast?.any DatasetDiff.isNoDataChanges →
      (RepoDiff.prune (D.setItem "ds" d')).get "ds" = none :=
  prune_leaves_lone_noDataChanges _ "ds" _ rfl rfl rfl rfl

theorem get_prune_eq_some {D : RepoDiff K V} {p : String} {d : DatasetDiff K V}
    (h : D.prune.get p = some d) : ∃ dd, D.get p = some dd ∧ dd.prune.items ≠ [] ∧ d = dd.prune := by
  rw [get_prune, Option.bind_eq_some] at h
  obtain ⟨dd, hdd, hd⟩ := h
  split at hd <;> cases hd
  next hne => exact ⟨dd, hdd, by simpa using hne, rfl⟩

open DatasetDiff in
/-- Where no node holds `data_changes = False` beside an empty diff, one `prune` leaves every node
holding more than `data_changes = False` and no empty diff, a second `prune` changes nothing, and
the order of each node's entries only reorders the result. -/
theorem prune_of_pruneSafe (D : RepoDiff K V) (hD : D.items.all fun kv => kv.2.pruneSafe) :
    (∀ p d, D.prune.get p = some d → d.items ≠ [] ∧ d.items.all isNoDataChanges = false ∧
      ∀ kv ∈ d.items, isEmptyDiff kv.2 = false) ∧
    D.prune.prune = D.prune ∧
    ∀ D' : RepoDiff K V, PyDict.Equiv (fun a b : DatasetDiff K V => a.items.Perm b.items) D D' →
      PyDict.Equiv (fun a b : DatasetDiff K V => a.items.Perm b.items) D.prune D'.prune := by
  have safe : ∀ {p dd}, D.get p = some dd → dd.pruneSafe := fun h =>
    List.all_eq_true.1 hD _ (PyDict.get_eq_some_iff.1 h)
  refine ⟨fun p d h => ?_, ?_, fun D' e p => ?_⟩
  · obtain ⟨dd, hdd, hne, rfl⟩ := get_prune_eq_some h
    exact ⟨hne, all_isNoDataChanges_prune (safe hdd) hne, fun kv => isEmptyDiff_of_mem_prune⟩
  · ext1
    rw [items_prune, items_prune]
    refine (List.filterMap_congr fun q hq => ?_).trans (List.filterMap_some _)
    obtain ⟨⟨k, dd⟩, ha, hq⟩ := List.mem_filterMap.1 hq
    unfold prunedEntry at hq ⊢
    split at hq <;> cases hq
    rw [prune_prune_of_pruneSafe (safe (PyDict.get_eq_some_iff.2 ha)), if_neg ‹_›]
  · have hp := e p
    rw [get_prune, get_prune]
    cases h₁ : D.get p <;> cases h₂ : D'.get p <;> rw [h₁, h₂] at hp <;> cases hp
    · exact .none
    · rename_i d₁ d₂ hperm
      have hperm' := prune_perm_of_pruneSafe (safe h₁) hperm
      simp only [Option.some_bind, hperm'.isEmpty_eq]
      split
      · exact .none
      · exact .some hperm'

open DatasetDiff in
/-- `{"ds": {"data_changes": False}}`, which one prune empties. -/
theorem prune_of_pruneSafe_ds :
    let D : RepoDiff Nat Nat := PyDict.empty.setItem "ds" (PyDict.empty.setItem "data_changes" (.bool false))
    (∀ p d, D.prune.get p = some d → d.items ≠ [] ∧ d.items.all isNoDataChanges = false ∧
      ∀ kv ∈ d.items, isEmptyDiff kv.2 = false) ∧
    D.prune.prune = D.prune ∧
    ∀ D' : RepoDiff Nat Nat, PyDict.Equiv (fun a b : DatasetDiff Nat Nat => a.items.Perm b.items) D D' →
      PyDict.Equiv (fun a b : DatasetDiff Nat Nat => a.items.Perm b.items) D.prune D'.prune :=
  prune_of_pruneSafe _ rfl

end RepoDiff

end Kart.DiffStructs
