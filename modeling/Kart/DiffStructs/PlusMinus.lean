import Kart.DiffStructs.Delta
import Kart.KeyFilters

set_option autoImplicit false

/-!
# Plus/minus encodings of a delta

The dicts `Delta.to_plus_minus_dict` writes for the JSON diff output, and the decoder
`Delta.from_key_and_plus_minus_dict` that reads them back under a given key. Values are those
of the value type, lazy values taken as the value they compute; `pyNone` is the value that
stands for Python's `None`, which the advanced format writes for a part the filter drops.
-/

namespace Kart.DiffStructs

open Kart.KeyFilters

namespace Delta
variable {K V : Type}

/-- `to_plus_minus_dict__simple`: `-` is the old value and `+` the new one; with `minimal`, an
update is only `{"*": new value}`. -/
def toPlusMinusDictSimple (d : Delta K V) (minimal : Bool) : PyDict String V :=
  match minimal, d.old, d.new with
  | true, some _, some n => PyDict.empty.setItem "*" n.value
  | _, o, n =>
    let result := o.elim PyDict.empty fun o => PyDict.empty.setItem "-" o.value
    n.elim result fun n => result.setItem "+" n.value

/-- `to_plus_minus_dict__advanced`: `-` and `+` for an update, `--` for a delete, `++` for an
insert; a part the filter does not contain is written as `None`. -/
def toPlusMinusDictAdvanced (d : Delta K V) (deltaFilter : DeltaFilter) (pyNone : V) :
    PyDict String V :=
  let part (name : String) (v : V) : V := if deltaFilter.contains name then v else pyNone
  match d.change with
  | .update o n => (PyDict.empty.setItem "-" (part "-" o.value)).setItem "+" (part "+" n.value)
  | .delete o => PyDict.empty.setItem "--" (part "--" o.value)
  | .insert n => PyDict.empty.setItem "++" (part "++" n.value)

/-- `to_plus_minus_dict`: the simple format without a filter, the advanced one with. -/
def toPlusMinusDict (d : Delta K V) (deltaFilter : Option DeltaFilter) (pyNone : V) :
    PyDict String V :=
  match deltaFilter with
  | none => d.toPlusMinusDictSimple false
  | some f => d.toPlusMinusDictAdvanced f pyNone

/-- `from_key_and_plus_minus_dict`. Its `--` branch reads `d["++"]`. -/
def fromKeyAndPlusMinusDict (key : K) (d : PyDict String V) : Except PyError (Delta K V) :=
  if "--" ∈ d.keys then (fun v => delete ⟨key, v⟩) <$> d.getItem "++"
  else if "++" ∈ d.keys then (fun v => insert ⟨key, v⟩) <$> d.getItem "++"
  else init ((d.get "-").map (⟨key, ·⟩)) ((d.get "+").map (⟨key, ·⟩))

/-- The advanced encoding of a delete never decodes, whatever the filter: the `--` branch
looks up `++`, which only an insert's encoding has. -/
theorem fromKeyAndPlusMinusDict_advanced_delete (key : K) (old : KeyValue K V)
    (deltaFilter : DeltaFilter) (pyNone : V) :
    fromKeyAndPlusMinusDict key ((delete old).toPlusMinusDictAdvanced deltaFilter pyNone) =
      .error (.keyError "++") := by
  simp [fromKeyAndPlusMinusDict, toPlusMinusDictAdvanced, delete, PyDict.getItem,
    PyDict.mem_keys_setItem]

/-- The simple encoding decodes back to the same sides, for every delta keyed at `k`. -/
theorem fromKeyAndPlusMinusDict_simple_round_trip (k : K) (d : Delta K V)
    (ho : ∀ o ∈ d.old, o.key = k) (hn : ∀ n ∈ d.new, n.key = k) :
    change <$> fromKeyAndPlusMinusDict k (d.toPlusMinusDictSimple false) = .ok d.change := by
  obtain ⟨⟨⟨_, _⟩⟩ | ⟨⟨_, _⟩, ⟨_, _⟩⟩ | ⟨⟨_, _⟩⟩, _⟩ := d <;>
    simp_all [old, new, toPlusMinusDictSimple, fromKeyAndPlusMinusDict, init,
      PyDict.mem_keys_setItem, PyDict.getItem]

theorem simple_round_trip_update :
    change <$> fromKeyAndPlusMinusDict 1
      ((update ⟨1, 5⟩ ⟨1, 6⟩ : Delta Nat Nat).toPlusMinusDictSimple false) =
      .ok (.update ⟨1, 5⟩ ⟨1, 6⟩) :=
  fromKeyAndPlusMinusDict_simple_round_trip 1 _ (by simp [old, update]) (by simp [new, update])

/-- The advanced encoding under `MATCH_ALL` decodes back for inserts and updates. -/
theorem fromKeyAndPlusMinusDict_advanced_round_trip (k : K) (d : Delta K V) (pyNone : V)
    (hd : d.type ≠ .delete) (ho : ∀ o ∈ d.old, o.key = k) (hn : ∀ n ∈ d.new, n.key = k) :
    change <$> fromKeyAndPlusMinusDict k (d.toPlusMinusDictAdvanced DeltaFilter.MATCH_ALL pyNone) =
      .ok d.change := by
  obtain ⟨⟨⟨_, _⟩⟩ | ⟨⟨_, _⟩, ⟨_, _⟩⟩ | ⟨⟨_, _⟩⟩, _⟩ := d <;>
    simp_all [old, new, type, toPlusMinusDictAdvanced, fromKeyAndPlusMinusDict, init, insert,
      PyDict.mem_keys_setItem, PyDict.getItem, DeltaFilter.contains, DeltaFilter.MATCH_ALL]

theorem advanced_round_trip_insert :
    change <$> fromKeyAndPlusMinusDict 1
      ((insert ⟨1, 5⟩ : Delta Nat Nat).toPlusMinusDictAdvanced DeltaFilter.MATCH_ALL 0) =
      .ok (.insert ⟨1, 5⟩) :=
  fromKeyAndPlusMinusDict_advanced_round_trip 1 _ 0 (by decide) (by simp [old, insert])
    (by simp [new, insert])

end Delta

end Kart.DiffStructs
