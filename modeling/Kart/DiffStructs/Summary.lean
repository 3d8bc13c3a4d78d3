import Kart.DiffStructs.Invert
import Kart.DiffStructs.Prune
import Kart.DiffStructs.Recursive
import Mathlib.Data.List.Count
import Mathlib.Algebra.BigOperators.Group.List
import Mathlib.Algebra.Order.Ring.Nat
set_option autoImplicit false

/-!
# What a diff says of itself: `type_counts`, `to_filter` and `recursive_len`

`type_counts` counts the deltas of each type under the type's plural, in the order the types first
occur; `to_filter` collects, as text, the keys of both sides of every delta; `recursive_len`
counts the nodes `max_depth` levels down, or else the deltas. A `Diff` answers each by calling the
same method on its children, which a `LazyDeltaDiff` or a `bool` child does not have.

Inverting a diff swaps the counts of inserts and deletes and keeps its filter, and the filter of a
sum holds only keys of its two terms. A `max_depth` of `0` is falsy, so it counts every delta, as
every depth past `2` does on a `RepoDiff`.
-/
namespace Kart.DiffStructs

variable {K V : Type} [DecidableEq K]

section Rename
variable {κ κ' α β : Type} [DecidableEq κ] [DecidableEq κ']

theorem PyDict.items_setItem_of_not_mem {d : PyDict κ α} {k : κ} (h : k ∉ d.keys) (v : α) :
    (d.setItem k v).items = d.items ++ [(k, v)] := by
  simp [PyDict.setItem, h]

/-- A loop that sets a fresh key at each turn appends one entry a turn. -/
theorem PyDict.items_foldl_setItem (key : β → κ) (val : β → α) (l : List β) (hl : (l.map key).Nodup)
    (d : PyDict κ α) (hfresh : ∀ b ∈ l, key b ∉ d.keys) :
    (l.foldl (fun d b => d.setItem (key b) (val b)) d).items = d.items ++ l.map fun b => (key b, val b) := by
  induction l generalizing d with
  | nil => simp
  | cons b l ih =>
    simp only [List.map_cons, List.nodup_cons, List.mem_map, not_exists, not_and] at hl
    have hnew : ∀ c ∈ l, key c ∉ (d.setItem (key b) (val b)).keys := fun c hc h => by
      simp only [PyDict.mem_keys, PyDict.get_setItem] at h
      split at h
      · exact hl.1 c hc ‹_›
      · exact hfresh c (List.mem_cons_of_mem _ hc) (PyDict.mem_keys.2 h)
    rw [List.foldl_cons, ih hl.2 _ hnew,
      PyDict.items_setItem_of_not_mem (hfresh b (List.mem_cons_self _ _))]
    simp

variable {f : κ → κ'}

/-- Renaming the keys of a dict by an injective map commutes with reading it ... -/
theorem PyDict.get_of_items_map (hf : f.Injective) {d : PyDict κ α} {d' : PyDict κ' α}
    (h : d'.items = d.items.map (Prod.map f id)) (k : κ) : d'.get (f k) = d.get k := by
  cases hk : d.get k with
  | some v =>
    refine PyDict.get_eq_some_iff.2 (h ▸ List.mem_map.2 ⟨(k, v), PyDict.get_eq_some_iff.1 hk, rfl⟩)
  | none =>
    refine PyDict.get_eq_none.2 fun hm => PyDict.get_eq_none.1 hk ?_
    simp only [PyDict.keys, h, List.map_map, List.mem_map, Function.comp_apply, Prod.map_fst] at hm
    obtain ⟨p, hp, e⟩ := hm
    exact hf e ▸ List.mem_map_of_mem _ hp

/-- ... and with writing it. -/
theorem PyDict.setItem_of_items_map (hf : f.Injective) {d : PyDict κ α} {d' : PyDict κ' α}
    (h : d'.items = d.items.map (Prod.map f id)) (k : κ) (v : α) :
    (d'.setItem (f k) v).items = (d.setItem k v).items.map (Prod.map f id) := by
  by_cases hk : k ∈ d.keys
  · have hk' : f k ∈ d'.keys := PyDict.mem_keys.2 (PyDict.get_of_items_map hf h k ▸ PyDict.mem_keys.1 hk)
    simp only [PyDict.setItem, dif_pos hk, dif_pos hk', h, List.map_map]
    refine List.map_congr_left fun p _ => ?_
    by_cases e : p.1 = k <;> simp [e, hf.eq_iff]
  · have hk' : f k ∉ d'.keys := fun hm =>
      hk (PyDict.mem_keys.2 (PyDict.get_of_items_map hf h k ▸ PyDict.mem_keys.1 hm))
    rw [PyDict.items_setItem_of_not_mem hk', PyDict.items_setItem_of_not_mem hk, h]
    simp

end Rename

/-- `delta.type`, the text `Delta.__init__` sets. -/
def DeltaType.name : DeltaType → String
  | .insert => "insert"
  | .update => "update"
  | .delete => "delete"

namespace DeltaDiff

/-- One turn of the loop of `type_counts`: `result.setdefault(delta_type, 0)`, then
`result[delta_type] += 1`. -/
def countType (result : PyDict String Nat) (deltaType : String) : PyDict String Nat :=
  let result := if deltaType ∈ result.keys then result else result.setItem deltaType 0
  result.setItem deltaType ((result.get deltaType).getD 0 + 1)

/-- `DeltaDiff.type_counts`: the number of deltas of each type, under the plural of its name. -/
def typeCounts (self : DeltaDiff K V) : PyDict String Nat :=
  let result := self.items.foldl (fun result kd => countType result kd.2.type.name) PyDict.empty
  result.items.foldl (fun counts tv => counts.setItem (tv.1 ++ "s") tv.2) PyDict.empty

/-- `if kv is not None: result.add(str(kv.key))`. -/
def addKeyOf (str : K → String) (result : List String) : Option (KeyValue K V) → List String
  | some kv => result.insert (str kv.key)
  | none => result

/-- `DeltaDiff.to_filter`: the keys of both sides of every delta, as `str` writes them. The result
is a `set`, of which only membership is read. -/
def toFilter (str : K → String) (self : DeltaDiff K V) : List String :=
  self.items.foldl (fun result kd => addKeyOf str (addKeyOf str result kd.2.old) kd.2.new) []

end DeltaDiff

namespace DatasetChild

/-- `child.type_counts()`: a `LazyDeltaDiff` and a `bool` have no such method. -/
def typeCounts : DatasetChild K V → Except PyError (PyDict String Nat)
  | .deltaDiff d => pure d.typeCounts
  | .lazy _ => throw (noAttribute "LazyDeltaDiff" "type_counts")
  | .bool _ => throw (noAttribute "bool" "type_counts")

/-- `child.to_filter()`. -/
def toFilter (str : K → String) : DatasetChild K V → Except PyError (List String)
  | .deltaDiff d => pure (d.toFilter str)
  | .lazy _ => throw (noAttribute "LazyDeltaDiff" "to_filter")
  | .bool _ => throw (noAttribute "bool" "to_filter")

/-- `child.recursive_len(max_depth)`: `DeltaDiff.recursive_len` is `len(self)` at every depth. -/
def recursiveLen : DatasetChild K V → Option Int → Except PyError Nat
  | .deltaDiff d, _ => pure d.items.length
  | .lazy _, _ => throw (noAttribute "LazyDeltaDiff" "recursive_len")
  | .bool _, _ => throw (noAttribute "bool" "recursive_len")

omit [DecidableEq K] in
theorem recursiveLen_depth (c : DatasetChild K V) (maxDepth : Option Int) :
    c.recursiveLen maxDepth = c.recursiveLen none := by
  cases c <;> rfl

end DatasetChild

/-- `max_depth - 1 if max_depth else None`: `0`, like `None`, is falsy, and a negative depth goes on
decreasing. -/
def nextDepth : Option Int → Option Int
  | some d => if d = 0 then none else some (d - 1)
  | none => none

/-- `RichDict.recursive_len(max_depth)`, each child counted by its own `recursive_len`. -/
def Diff.recursiveLen {κ C : Type} (childLen : C → Option Int → Except PyError Nat) (self : PyDict κ C)
    (maxDepth : Option Int) : Except PyError Nat :=
  if maxDepth = some 1 then pure self.items.length
  else self.items.foldlM (fun total kc => (total + ·) <$> childLen kc.2 (nextDepth maxDepth)) 0

namespace DatasetDiff

/-- `Diff.type_counts`. -/
def typeCounts (self : DatasetDiff K V) : Except PyError (PyDict String (PyDict String Nat)) :=
  Diff.mapChildren DatasetChild.typeCounts self PyDict.empty

/-- `Diff.to_filter`. -/
def toFilter (str : K → String) (self : DatasetDiff K V) : Except PyError (PyDict String (List String)) :=
  Diff.mapChildren (DatasetChild.toFilter str) self PyDict.empty

def recursiveLen (self : DatasetDiff K V) (maxDepth : Option Int) : Except PyError Nat :=
  Diff.recursiveLen DatasetChild.recursiveLen self maxDepth

end DatasetDiff

namespace RepoDiff

def typeCounts (self : RepoDiff K V) :
    Except PyError (PyDict String (PyDict String (PyDict String Nat))) :=
  Diff.mapChildren DatasetDiff.typeCounts self PyDict.empty

def toFilter (str : K → String) (self : RepoDiff K V) :
    Except PyError (PyDict String (PyDict String (List String))) :=
  Diff.mapChildren (DatasetDiff.toFilter str) self PyDict.empty

def recursiveLen (self : RepoDiff K V) (maxDepth : Option Int) : Except PyError Nat :=
  Diff.recursiveLen DatasetDiff.recursiveLen self maxDepth

end RepoDiff

section Lookups
variable {β : Type}

omit [DecidableEq K] in
/-- Two levels of `{k: v.method() for k, v in self.items()}` answer, at each dataset and
section, for the child there. -/
theorem RepoDiff.get_mapChildren {f : DatasetChild K V → Except PyError β} {D : RepoDiff K V}
    {r : PyDict String (PyDict String β)}
    (h : Diff.mapChildren (Diff.mapChildren f · PyDict.empty) D PyDict.empty = .ok r) (p s : String) :
    Option.Rel (fun c b => f c = .ok b) ((D.get p).bind (·.get s)) ((r.get p).bind (·.get s)) := by
  have hp := Diff.mapChildren_rel h (fun _ _ => rfl) p
  cases hc : D.get p with
  | none => rw [hc] at hp; rw [optionRel_none_left hp]; exact .none
  | some c =>
    rw [hc] at hp
    obtain ⟨cc, hcc, hrel⟩ := optionRel_some_left hp
    rw [hcc]
    exact Diff.mapChildren_rel hrel (fun _ _ => rfl) s

theorem RepoDiff.mapChildren_ok_of_resolved {f : DatasetChild K V → Except PyError β}
    (hf : ∀ d, ∃ b, f (.deltaDiff d) = .ok b) {D : RepoDiff K V} (hD : D.Resolved) :
    ∃ r, Diff.mapChildren (Diff.mapChildren f · PyDict.empty) D PyDict.empty = .ok r :=
  Diff.mapChildren_ok_of _ fun p c hc => Diff.mapChildren_ok_of _ fun s ch hch => by
    obtain ⟨d, rfl, -⟩ := hD p c hc s ch hch
    exact hf d

omit [DecidableEq K] in
theorem DatasetChild.eq_deltaDiff_of_typeCounts {c : DatasetChild K V} {n : PyDict String Nat}
    (h : c.typeCounts = .ok n) : ∃ d, c = .deltaDiff d ∧ n = d.typeCounts := by
  cases c <;> cases h
  exact ⟨_, rfl, rfl⟩

omit [DecidableEq K] in
theorem DatasetChild.eq_deltaDiff_of_toFilter {str : K → String} {c : DatasetChild K V}
    {f : List String} (h : c.toFilter str = .ok f) : ∃ d, c = .deltaDiff d ∧ f = d.toFilter str := by
  cases c <;> cases h
  exact ⟨_, rfl, rfl⟩

theorem RepoDiff.deltaAt_eq (D : RepoDiff K V) (p s : String) (k : K) :
    D.deltaAt p s k = (((D.get p).bind (·.get s)).bind DatasetChild.resolved).bind (·.get k) := by
  cases hp : D.get p <;> simp [deltaAt, DatasetDiff.deltaAt, DatasetChild.get, hp, Option.bind_assoc]

end Lookups

section TypeCounts

namespace DeltaDiff

theorem get_countType (r : PyDict String Nat) (t s : String) :
    (countType r t).get s = if s = t then some ((r.get t).getD 0 + 1) else r.get s := by
  by_cases ht : t ∈ r.keys
  · simp [countType, ht]
  · by_cases hs : s = t <;> simp [countType, ht, hs, PyDict.get_eq_none.2 ht]

theorem sum_countType (r : PyDict String Nat) (t : String) :
    ((countType r t).items.map Prod.snd).sum = (r.items.map Prod.snd).sum + 1 := by
  by_cases ht : t ∈ r.keys
  · obtain ⟨w, hw⟩ := Option.isSome_iff_exists.1 (PyDict.mem_keys.1 ht)
    obtain ⟨pre, post, e⟩ := List.append_of_mem (PyDict.get_eq_some_iff.1 hw)
    simp only [countType, if_pos ht, hw, Option.getD_some, PyDict.items_setItem_eq e _, e]
    simp only [List.map_append, List.map_cons, List.sum_append, List.sum_cons]
    omega
  · have e := PyDict.items_setItem_of_not_mem ht 0
    simp [countType, ht, PyDict.items_setItem_eq e]

/-- The counting loop reads each type once more than the dict it starts from. -/
theorem get_foldl_countType (ts : List String) (r : PyDict String Nat) (s : String) :
    (ts.foldl countType r).get s = if s ∈ ts then some ((r.get s).getD 0 + ts.count s) else r.get s := by
  induction ts generalizing r with
  | nil => simp
  | cons t ts ih =>
    rw [List.foldl_cons, ih, get_countType]
    by_cases hs : s = t
    · subst hs
      by_cases hm : s ∈ ts
      · simp [hm, List.count_cons]; omega
      · simp [hm, List.count_cons, List.count_eq_zero_of_not_mem]
    · simp [hs, List.count_cons]

theorem sum_foldl_countType (ts : List String) (r : PyDict String Nat) :
    ((ts.foldl countType r).items.map Prod.snd).sum = (r.items.map Prod.snd).sum + ts.length := by
  induction ts generalizing r with
  | nil => simp
  | cons t ts ih => rw [List.foldl_cons, ih, sum_countType, List.length_cons]; omega

/-- Renaming the type names by an injective map renames the keys of the count. -/
theorem items_foldl_countType_map {f : String → String} (hf : f.Injective) (ts : List String)
    {r r' : PyDict String Nat} (h : r'.items = r.items.map (Prod.map f id)) :
    ((ts.map f).foldl countType r').items = (ts.foldl countType r).items.map (Prod.map f id) := by
  induction ts generalizing r r' with
  | nil => exact h
  | cons t ts ih =>
    refine ih ?_
    by_cases ht : t ∈ r.keys
    · have ht' : f t ∈ r'.keys := PyDict.mem_keys.2 (PyDict.get_of_items_map hf h t ▸ PyDict.mem_keys.1 ht)
      simp only [countType, if_pos ht, if_pos ht', PyDict.get_of_items_map hf h t]
      exact PyDict.setItem_of_items_map hf h _ _
    · have ht' : f t ∉ r'.keys := fun hm =>
        ht (PyDict.mem_keys.2 (PyDict.get_of_items_map hf h t ▸ PyDict.mem_keys.1 hm))
      have h0 := PyDict.setItem_of_items_map hf h t 0
      simp only [countType, if_neg ht, if_neg ht', PyDict.get_of_items_map hf h0 t]
      exact PyDict.setItem_of_items_map hf h0 _ _

theorem plural_injective : Function.Injective fun s : String => s ++ "s" :=
  fun a b h => String.ext (by simpa using congrArg String.data h)

omit [DecidableEq K] in
/-- `type_counts` is the count of the type names, each key made plural. -/
theorem items_typeCounts (D : DeltaDiff K V) :
    D.typeCounts.items = ((D.items.map fun kd => kd.2.type.name).foldl countType PyDict.empty).items.map
      (Prod.map (· ++ "s") id) := by
  simp only [typeCounts, List.foldl_map]
  rw [PyDict.items_foldl_setItem _ _ _ _ _ (by simp)]
  · rfl
  · simpa [List.map_map] using (PyDict.nodup _).map plural_injective

theorem name_injective : Function.Injective DeltaType.name := by
  intro a b
  cases a <;> cases b <;> decide

end DeltaDiff

omit [DecidableEq K] in
/-- For every `DeltaDiff`, `type_counts` counts each type that occurs, under its plural, and the
counts add up to `len(self)`. -/
theorem typeCounts_spec (D : DeltaDiff K V) :
    (D.typeCounts.items.map Prod.snd).sum = D.items.length ∧
    (∀ t : DeltaType, D.typeCounts.get (t.name ++ "s") =
      if t ∈ D.items.map (·.2.type) then some ((D.items.map (·.2.type)).count t) else none) ∧
    ∀ s ∈ D.typeCounts.keys, ∃ t ∈ D.items.map (·.2.type), s = t.name ++ "s" := by
  have hi := DeltaDiff.items_typeCounts D
  have hnames : (D.items.map fun kd => kd.2.type.name) = (D.items.map (·.2.type)).map DeltaType.name := by
    simp [List.map_map, Function.comp_def]
  refine ⟨?_, fun t => ?_, fun s hs => ?_⟩
  · have e : (Prod.snd ∘ Prod.map (· ++ "s") id : String × Nat → Nat) = Prod.snd := rfl
    rw [hi, List.map_map, e, DeltaDiff.sum_foldl_countType]
    simp [PyDict.empty]
  · rw [PyDict.get_of_items_map DeltaDiff.plural_injective hi, DeltaDiff.get_foldl_countType, hnames]
    simp only [List.mem_map_of_injective DeltaDiff.name_injective,
      List.count_map_of_injective _ _ DeltaDiff.name_injective]
    simp
  · simp only [PyDict.keys, hi, List.map_map, List.mem_map, Function.comp_apply, Prod.map_fst] at hs
    obtain ⟨⟨n, c⟩, hn, rfl⟩ := hs
    have hget := DeltaDiff.get_foldl_countType (D.items.map fun kd => kd.2.type.name) PyDict.empty n
    rw [PyDict.get_eq_some_iff.2 hn] at hget
    split at hget
    · rename_i hm
      rw [hnames] at hm
      obtain ⟨t, ht, rfl⟩ := List.mem_map.1 hm
      exact ⟨t, ht, rfl⟩
    · cases hget

namespace DeltaDiff

/-- `~D` keeps each delta at its key: a well-formed diff has no renames. -/
theorem items_invert {D : DeltaDiff K V} (hD : D.WellFormed) :
    D.invert.items = D.items.map fun kd => (kd.1, kd.2.invert) := by
  have hk : ∀ kd ∈ D.items, kd.2.invert.key = kd.1 := fun kd h => by
    obtain ⟨hk, hr⟩ := hD kd.1 kd.2 (PyDict.get_eq_some_iff.2 h)
    rw [Delta.key_invert _ hr, hk]
  have hkeys : (D.items.map fun kd => kd.2.invert.key) = D.items.map Prod.fst := List.map_congr_left hk
  simp only [invert, addDelta]
  rw [PyDict.items_foldl_setItem _ _ _ (hkeys ▸ D.nodup) _ (by simp)]
  exact List.map_congr_left fun kd h => by rw [hk kd h]

/-- The type names `~` exchanges. -/
def swapTypeName (name : String) : String :=
  if name = "insert" then "delete" else if name = "delete" then "insert" else name

theorem swapTypeName_swapTypeName (name : String) : swapTypeName (swapTypeName name) = name := by
  unfold swapTypeName
  by_cases h₁ : name = "insert" <;> by_cases h₂ : name = "delete" <;> simp_all

omit [DecidableEq K] in
theorem name_type_invert (d : Delta K V) : d.invert.type.name = swapTypeName d.type.name := by
  rcases d with ⟨_ | _ | _, _⟩ <;> rfl

/-- Where the inverse counts `deletes`, `D` counts `inserts`, and the other way round. -/
theorem plural_swapTypeName (name : String) :
    swapTypeName name ++ "s" = if name ++ "s" = "inserts" then "deletes"
      else if name ++ "s" = "deletes" then "inserts" else name ++ "s" := by
  have hi : name ++ "s" = "inserts" ↔ name = "insert" := plural_injective.eq_iff (b := "insert")
  have hd : name ++ "s" = "deletes" ↔ name = "delete" := plural_injective.eq_iff (b := "delete")
  unfold swapTypeName
  by_cases h₁ : name = "insert" <;> by_cases h₂ : name = "delete" <;> simp_all

theorem items_typeCounts_invert {D : DeltaDiff K V} (hD : D.WellFormed) :
    D.invert.typeCounts.items = D.typeCounts.items.map fun c =>
      (if c.1 = "inserts" then "deletes" else if c.1 = "deletes" then "inserts" else c.1, c.2) := by
  have hn : (D.invert.items.map fun kd => kd.2.type.name) =
      (D.items.map fun kd => kd.2.type.name).map swapTypeName := by
    simp [items_invert hD, Function.comp_def, name_type_invert]
  have hswap : Function.Injective swapTypeName :=
    Function.LeftInverse.injective swapTypeName_swapTypeName
  rw [items_typeCounts, items_typeCounts, hn, items_foldl_countType_map hswap _ (r := PyDict.empty) rfl]
  simp only [List.map_map]
  exact List.map_congr_left fun c _ => Prod.ext (plural_swapTypeName c.1) rfl

end DeltaDiff

theorem RepoDiff.typeCounts_get {D : RepoDiff K V} {counts} (h : D.typeCounts = .ok counts) (p s : String) :
    (counts.get p).bind (·.get s) = (((D.get p).bind (·.get s)).bind DatasetChild.resolved).map DeltaDiff.typeCounts := by
  have hr := RepoDiff.get_mapChildren h p s
  cases hx : (D.get p).bind (·.get s) with
  | none => rw [hx] at hr; rw [optionRel_none_left hr]; rfl
  | some c =>
    rw [hx] at hr
    obtain ⟨n, hn, hc⟩ := optionRel_some_left hr
    obtain ⟨d, rfl, rfl⟩ := DatasetChild.eq_deltaDiff_of_typeCounts hc
    rw [hn]
    rfl

/-- The type counts of the inverse of a resolved diff are its own with inserts and deletes
swapped, at every dataset and section, in the same order. -/
theorem typeCounts_invert {D iD : RepoDiff K V} (hD : D.Resolved) (h : D.invert = .ok iD) :
    ∃ counts iCounts, D.typeCounts = .ok counts ∧ iD.typeCounts = .ok iCounts ∧
      ∀ p s, ((iCounts.get p).bind (·.get s)).map PyDict.items =
        ((counts.get p).bind (·.get s)).map fun c => c.items.map fun n =>
          (if n.1 = "inserts" then "deletes" else if n.1 = "deletes" then "inserts" else n.1, n.2) := by
  obtain ⟨iD', h', hiD, e⟩ := RepoDiff.invert_of_resolved hD
  cases h.symm.trans h'
  have hok := fun {D : RepoDiff K V} (hD : D.Resolved) =>
    RepoDiff.mapChildren_ok_of_resolved (f := DatasetChild.typeCounts) (fun _ => ⟨_, rfl⟩) hD
  obtain ⟨counts, hc⟩ := hok hD
  obtain ⟨iCounts, hic⟩ := hok hiD
  refine ⟨counts, iCounts, hc, hic, fun p s => ?_⟩
  rw [RepoDiff.typeCounts_get hc, RepoDiff.typeCounts_get hic]
  rcases RepoDiff.get_of_equiv_invert hD e p with ⟨h₁, h₂⟩ | ⟨c, ic, h₁, hcr, hinv, -, h₂⟩
  · simp [h₁, h₂]
  · obtain ⟨ic', hic', -, e'⟩ := DatasetDiff.invert_of_resolved hcr
    cases hinv.symm.trans hic'
    rcases DatasetDiff.get_of_equiv_invert hcr e' s with ⟨h₃, h₄⟩ | ⟨d, h₃, hd, h₄⟩
    · simp [h₁, h₂, h₃, h₄]
    · simp [h₁, h₂, h₃, h₄, DatasetChild.resolved, DeltaDiff.items_typeCounts_invert hd]

theorem typeCounts_invert_roads :
    let d : DeltaDiff String Nat :=
      (DeltaDiff.addDelta .empty (Delta.insert ⟨"a", 5⟩)).addDelta (Delta.delete ⟨"b", 6⟩)
    let D : RepoDiff String Nat := PyDict.empty.setItem "roads" (PyDict.empty.setItem "feature" (.deltaDiff d))
    let iD : RepoDiff String Nat :=
      PyDict.empty.setItem "roads" (PyDict.empty.setItem "feature" (.deltaDiff d.invert))
    ∃ counts iCounts, D.typeCounts = .ok counts ∧ iD.typeCounts = .ok iCounts ∧
      ∀ p s, ((iCounts.get p).bind (·.get s)).map PyDict.items =
        ((counts.get p).bind (·.get s)).map fun c => c.items.map fun n =>
          (if n.1 = "inserts" then "deletes" else if n.1 = "deletes" then "inserts" else n.1, n.2) := by
  intro d D iD
  have hD : D.Resolved := fun p c hc => by
    simp only [D, PyDict.get_setItem, PyDict.get_empty] at hc
    split at hc <;> cases hc
    intro s ch hch
    simp only [PyDict.get_setItem, PyDict.get_empty] at hch
    split at hch <;> cases hch
    exact ⟨_, rfl, (DeltaDiff.wellFormed_empty.addDelta (d := Delta.insert ⟨"a", 5⟩) rfl).addDelta
      (d := Delta.delete ⟨"b", 6⟩) rfl⟩
  exact typeCounts_invert hD rfl

end TypeCounts

section Filter
variable (str : K → String)

omit [DecidableEq K] in
/-- The two sides of a sum of deltas are the first one's old side and the second one's new side. -/
theorem Delta.old_new_of_add [DecidableEq V] {d₁ d₂ r : Delta K V} (h : d₁.add d₂ = .ok (some r)) :
    r.old = d₁.old ∧ r.new = d₂.new := by
  obtain ⟨r', hc, hr⟩ := Delta.change_of_add_eq_some h
  simp only [Delta.old, Delta.new, hr]
  rcases d₁ with ⟨_ | ⟨_, _⟩ | _, _⟩ <;> rcases d₂ with ⟨_ | ⟨_, _⟩ | _, _⟩ <;>
    simp only [Delta.concat, Delta.maybeUpdate] at hc <;> (try split_ifs at hc) <;> cases hc <;>
    simp [Delta.insert, Delta.update, Delta.delete]

namespace DeltaDiff

omit [DecidableEq K] in
theorem mem_addKeyOf {result : List String} {kv : Option (KeyValue K V)} {x : String} :
    x ∈ addKeyOf str result kv ↔ x ∈ result ∨ ∃ e ∈ kv, str e.key = x := by
  cases kv <;> simp [addKeyOf, eq_comm, or_comm]

omit [DecidableEq K] in
/-- `to_filter` holds the keys of both sides of every delta, and nothing else. -/
theorem mem_toFilter {D : DeltaDiff K V} {x : String} :
    x ∈ D.toFilter str ↔
      ∃ kd ∈ D.items, (∃ e ∈ kd.2.old, str e.key = x) ∨ ∃ e ∈ kd.2.new, str e.key = x := by
  suffices ∀ (l : List (K × Delta K V)) (r : List String),
      x ∈ l.foldl (fun result kd => addKeyOf str (addKeyOf str result kd.2.old) kd.2.new) r ↔
        x ∈ r ∨ ∃ kd ∈ l, (∃ e ∈ kd.2.old, str e.key = x) ∨ ∃ e ∈ kd.2.new, str e.key = x by
    simpa only [List.not_mem_nil, false_or] using this D.items []
  intro l
  induction l with
  | nil => simp
  | cons kd l ih =>
    intro r
    rw [List.foldl_cons, ih, mem_addKeyOf, mem_addKeyOf]
    simp only [List.mem_cons, or_and_right, exists_or, exists_eq_left, or_assoc]

end DeltaDiff

/-- Inverting a well-formed `DeltaDiff` keeps its filter: each side of a delta becomes the other
side of its inverse. -/
theorem toFilter_invert {D : DeltaDiff K V} (hD : D.WellFormed) (x : String) :
    x ∈ D.invert.toFilter str ↔ x ∈ D.toFilter str := by
  simp only [DeltaDiff.mem_toFilter, DeltaDiff.items_invert hD, List.mem_map]
  constructor
  · rintro ⟨_, ⟨kd, hkd, rfl⟩, h⟩
    exact ⟨kd, hkd, by simpa only [Delta.old_invert, Delta.new_invert] using h.symm⟩
  · rintro ⟨kd, hkd, h⟩
    exact ⟨_, ⟨kd, hkd, rfl⟩, by simpa only [Delta.old_invert, Delta.new_invert] using h.symm⟩

theorem toFilter_invert_update :
    let D : DeltaDiff String Nat := DeltaDiff.addDelta .empty (Delta.update ⟨"a", 5⟩ ⟨"a", 6⟩)
    ("a" ∈ D.invert.toFilter id ↔ "a" ∈ D.toFilter id) :=
  toFilter_invert id (DeltaDiff.wellFormed_empty.addDelta (d := Delta.update ⟨"a", 5⟩ ⟨"a", 6⟩) (by decide)) "a"

/-- The filter of a sum holds only keys of its two terms; a key whose deltas cancel drops out. -/
theorem toFilter_add [DecidableEq V] {A B C : DeltaDiff K V} (h : A.add B = .ok C) {x : String}
    (hx : x ∈ C.toFilter str) : x ∈ A.toFilter str ∨ x ∈ B.toFilter str := by
  obtain ⟨⟨k, c⟩, hkc, hc⟩ := (DeltaDiff.mem_toFilter str).1 hx
  have hin := fun {D : DeltaDiff K V} {d : Delta K V} (hd : D.get k = some d)
      (h : (∃ e ∈ d.old, str e.key = x) ∨ ∃ e ∈ d.new, str e.key = x) =>
    (DeltaDiff.mem_toFilter str).2 ⟨_, PyDict.get_eq_some_iff.1 hd, h⟩
  rcases Diff.get_add_eq_some h (PyDict.get_eq_some_iff.2 hkc) with ⟨hA, -⟩ | ⟨-, hB⟩ | ⟨a, b, hA, hB, hab⟩
  · exact .inl (hin hA hc)
  · exact .inr (hin hB hc)
  · obtain ⟨ho, hn⟩ := Delta.old_new_of_add hab
    rcases hc with hc | hc
    · exact .inl (hin hA (.inl (ho ▸ hc)))
    · exact .inr (hin hB (.inr (hn ▸ hc)))

theorem toFilter_add_insert_update :
    let A : DeltaDiff String Nat := DeltaDiff.addDelta .empty (Delta.insert ⟨"a", 5⟩)
    let B : DeltaDiff String Nat := DeltaDiff.addDelta .empty (Delta.update ⟨"a", 5⟩ ⟨"a", 6⟩)
    let C : DeltaDiff String Nat := DeltaDiff.addDelta .empty (Delta.insert ⟨"a", 6⟩)
    A.add B = .ok C ∧ "a" ∈ C.toFilter id ∧ ("a" ∈ A.toFilter id ∨ "a" ∈ B.toFilter id) := by
  intro A B C
  have h : A.add B = .ok C := rfl
  have hx : "a" ∈ C.toFilter id := by decide
  exact ⟨h, hx, toFilter_add id h hx⟩

/-- `RepoDiff.to_filter` holds, at each dataset and section, exactly the keys of both sides of the
deltas there. -/
theorem toFilter_covers {D : RepoDiff K V} {F : PyDict String (PyDict String (List String))}
    (h : D.toFilter str = .ok F) (p s x : String) :
    (∃ f, (F.get p).bind (·.get s) = some f ∧ x ∈ f) ↔
      ∃ k d, D.deltaAt p s k = some d ∧ ((∃ e ∈ d.old, str e.key = x) ∨ ∃ e ∈ d.new, str e.key = x) := by
  simp only [RepoDiff.deltaAt_eq]
  have hr := RepoDiff.get_mapChildren h p s
  cases hx : (D.get p).bind (·.get s) with
  | none => rw [hx] at hr; rw [optionRel_none_left hr]; simp
  | some c =>
    rw [hx] at hr
    obtain ⟨f, hf, hc⟩ := optionRel_some_left hr
    obtain ⟨d, rfl, rfl⟩ := DatasetChild.eq_deltaDiff_of_toFilter hc
    simp only [hf, Option.some.injEq, exists_eq_left', DatasetChild.resolved, Option.some_bind,
      DeltaDiff.mem_toFilter]
    constructor
    · rintro ⟨⟨k, dd⟩, hkd, hP⟩
      exact ⟨k, dd, PyDict.get_eq_some_iff.2 hkd, hP⟩
    · rintro ⟨k, dd, hkd, hP⟩
      exact ⟨(k, dd), PyDict.get_eq_some_iff.1 hkd, hP⟩

theorem toFilter_covers_roads :
    let D : RepoDiff String Nat := PyDict.empty.setItem "roads"
      (PyDict.empty.setItem "feature" (.deltaDiff (DeltaDiff.addDelta .empty (Delta.update ⟨"a", 5⟩ ⟨"a", 6⟩))))
    let F : PyDict String (PyDict String (List String)) :=
      PyDict.empty.setItem "roads" (PyDict.empty.setItem "feature" ["a"])
    D.toFilter id = .ok F ∧ ((∃ f, (F.get "roads").bind (·.get "feature") = some f ∧ "a" ∈ f) ↔
      ∃ k d, D.deltaAt "roads" "feature" k = some d ∧
        ((∃ e ∈ d.old, id e.key = "a") ∨ ∃ e ∈ d.new, id e.key = "a")) := by
  intro D F
  have h : D.toFilter id = .ok F := rfl
  exact ⟨h, toFilter_covers id h "roads" "feature" "a"⟩

end Filter

section Length

theorem foldlM_add_ok {α : Type} (l : List α) (g : α → Nat) (n : Nat) :
    l.foldlM (fun total a => (Except.ok (total + g a) : Except PyError Nat)) n = .ok (n + (l.map g).sum) := by
  induction l generalizing n with
  | nil => rfl
  | cons a l ih =>
    rw [List.foldlM_cons]
    exact (ih _).trans (by simp [Nat.add_assoc])

omit [DecidableEq K] in
theorem DatasetDiff.recursiveLen_of_ne_one (D : DatasetDiff K V) {maxDepth : Option Int}
    (h : maxDepth ≠ some 1) : D.recursiveLen maxDepth = D.recursiveLen none := by
  unfold DatasetDiff.recursiveLen Diff.recursiveLen
  rw [if_neg h, if_neg (by simp)]
  congr 1
  funext total kc
  exact congrArg _ ((kc.2.recursiveLen_depth _).trans (kc.2.recursiveLen_depth _).symm)

omit [DecidableEq K] in
/-- `recursive_len` of a `RepoDiff`: a `max_depth` of `1` counts its datasets and `2` their
sections; every other depth counts the deltas as no depth does: `0` because it is falsy, and a
negative depth because it never reaches `1`. -/
theorem recursiveLen_maxDepth (D : RepoDiff K V) (maxDepth : Int) :
    D.recursiveLen (some maxDepth) =
      if maxDepth = 1 then .ok D.items.length
      else if maxDepth = 2 then .ok (D.items.map fun p => p.2.items.length).sum
      else D.recursiveLen none := by
  by_cases h₁ : maxDepth = 1
  · subst h₁; rfl
  by_cases h₂ : maxDepth = 2
  · subst h₂
    have e : ∀ c : DatasetDiff K V, c.recursiveLen (nextDepth (some 2)) = pure c.items.length :=
      fun _ => rfl
    simp [RepoDiff.recursiveLen, Diff.recursiveLen, e, foldlM_add_ok]
  have hnext : nextDepth (some maxDepth) ≠ some 1 := by
    simp only [nextDepth]
    split_ifs <;> simp
    omega
  rw [if_neg h₁, if_neg h₂]
  unfold RepoDiff.recursiveLen Diff.recursiveLen
  rw [if_neg (by simpa using h₁), if_neg (by simp)]
  congr 1
  funext total kc
  exact congrArg _ (kc.2.recursiveLen_of_ne_one hnext)

end Length

end Kart.DiffStructs
