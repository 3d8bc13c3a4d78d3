import Kart.DiffStructs.Dict
set_option autoImplicit false

/-!
# The do-not-checkout flags in the repository config

`KartRepo.configure_do_checkout_datasets` records a dataset that is not to be checked out as the
config entry `dataset.<path>.checkout = false`, and removes the entry to check it out again.
`KartRepo.non_checkout_datasets` reads the paths back from the entry names: a name splits at its
first and its last dot, so a path may hold any number of dots.

The config is a map from entry names to values, in the order git iterates them. Reading a value as
a boolean is git's, not the repository's: it is a parameter, which reads the `false` the code writes
as false.

Over any sequence of calls, from a config with no such entry, the paths read back are exactly
those whose most recent call said not to check them out.
-/
namespace Kart.Repo
open Kart.DiffStructs

/-- The git config: entry names and their values. -/
abbrev Config := PyDict String String

/-! ### `str.split` and `str.rsplit` on one separator -/

/-- The text before the first `sep` and the text after it. -/
def splitFirst (sep : Char) : List Char → Option (List Char × List Char)
  | [] => none
  | c :: cs => if c = sep then some ([], cs) else (splitFirst sep cs).map fun r => (c :: r.1, r.2)

/-- The text before the last `sep` and the text after it. -/
def splitLast (sep : Char) (s : List Char) : Option (List Char × List Char) :=
  (splitFirst sep s.reverse).map fun r => (r.2.reverse, r.1.reverse)

/-- `s.split(sep, maxsplit)`. -/
def pySplit (sep : Char) : Nat → List Char → List (List Char)
  | 0, s => [s]
  | n + 1, s =>
    match splitFirst sep s with
    | none => [s]
    | some (a, b) => a :: pySplit sep n b

/-- `s.rsplit(sep, maxsplit=1)`. -/
def pyRsplitOnce (sep : Char) (s : List Char) : List (List Char) :=
  match splitLast sep s with
  | none => [s]
  | some (a, b) => [a, b]

theorem splitFirst_eq_none {sep : Char} {s : List Char} : splitFirst sep s = none ↔ sep ∉ s := by
  induction s with
  | nil => simp [splitFirst]
  | cons c s ih =>
    by_cases hc : c = sep
    · simp [splitFirst, hc]
    · rw [splitFirst, if_neg hc, Option.map_eq_none', ih]
      simp [Ne.symm hc]

theorem splitFirst_eq_some {sep : Char} {s a b : List Char} :
    splitFirst sep s = some (a, b) ↔ s = a ++ sep :: b ∧ sep ∉ a := by
  induction s generalizing a with
  | nil => simp [splitFirst]
  | cons c s ih =>
    by_cases hc : c = sep
    · subst hc
      cases a with
      | nil => simp [splitFirst]
      | cons c' a =>
        simp only [splitFirst, if_true, Option.some.injEq, Prod.mk.injEq, List.cons_append,
          List.cons.injEq, List.mem_cons, not_or]
        exact ⟨nofun, fun h => absurd h.1.1 h.2.1⟩
    · cases a with
      | nil => simp [splitFirst, hc, Ne.symm hc]
      | cons c' a => simp [splitFirst, hc, ih, and_assoc, eq_comm (a := c)]; aesop

theorem splitLast_eq_some {sep : Char} {s a b : List Char} :
    splitLast sep s = some (a, b) ↔ s = a ++ sep :: b ∧ sep ∉ b := by
  simp only [splitLast, Option.map_eq_some', splitFirst_eq_some, Prod.exists, Prod.mk.injEq]
  constructor
  · rintro ⟨x, y, ⟨hs, hx⟩, rfl, rfl⟩
    refine ⟨?_, by simpa using hx⟩
    simpa using congrArg List.reverse hs
  · rintro ⟨rfl, hb⟩
    exact ⟨b.reverse, a.reverse, ⟨by simp, by simpa using hb⟩, by simp, by simp⟩

theorem splitFirst_append_of_eq {sep : Char} {a x y : List Char} (h : splitFirst sep a = some (x, y))
    (b : List Char) : splitFirst sep (a ++ b) = some (x, y ++ b) := by
  obtain ⟨rfl, hx⟩ := splitFirst_eq_some.1 h
  exact splitFirst_eq_some.2 ⟨by simp, hx⟩

theorem splitFirst_append_of_not_mem {sep : Char} {a : List Char} (ha : sep ∉ a) (b : List Char) :
    splitFirst sep (a ++ b) = (splitFirst sep b).map fun r => (a ++ r.1, r.2) := by
  cases hb : splitFirst sep b with
  | none => exact splitFirst_eq_none.2 (by simp [ha, splitFirst_eq_none.1 hb])
  | some r =>
    obtain ⟨rfl, hx⟩ := splitFirst_eq_some.1 hb
    exact splitFirst_eq_some.2 ⟨by simp, by simp [ha, hx]⟩

theorem pySplit_one (sep : Char) (s : List Char) :
    pySplit sep 1 s = match splitFirst sep s with
      | none => [s]
      | some (a, b) => [a, b] := by
  simp only [pySplit]

theorem pySplit_ne_nil (sep : Char) (n : Nat) (s : List Char) : pySplit sep n s ≠ [] := by
  cases n with
  | zero => simp [pySplit]
  | succ n => simp only [pySplit]; split <;> simp

/-- `sep.join(s.split(sep, maxsplit)) == s`. -/
theorem intercalate_pySplit (sep : Char) (n : Nat) (s : List Char) :
    List.intercalate [sep] (pySplit sep n s) = s := by
  induction n generalizing s with
  | zero => simp [pySplit, List.intercalate]
  | succ n ih =>
    simp only [pySplit]
    split
    · simp [List.intercalate]
    · rename_i a b h
      obtain ⟨x, xs, hx⟩ := List.exists_cons_of_ne_nil (pySplit_ne_nil sep n b)
      have := ih b
      rw [hx] at this ⊢
      rw [(splitFirst_eq_some.1 h).1, ← this]
      simp [List.intercalate]

theorem intercalate_pyRsplitOnce (sep : Char) (s : List Char) :
    List.intercalate [sep] (pyRsplitOnce sep s) = s := by
  unfold pyRsplitOnce
  split
  · simp [List.intercalate]
  · rename_i a b h
    simp [List.intercalate, (splitLast_eq_some.1 h).1]

/-! ### The two methods -/

/-- `f"dataset.{dataset_path}.checkout"`. -/
def checkoutKey (datasetPath : String) : String := "dataset." ++ datasetPath ++ ".checkout"

/-- `entry.name.split(".", maxsplit=3)`, taken again as `[prefix, *rest.rsplit(".", maxsplit=1)]`
when it has more than three parts. -/
def nameParts (name : String) : List String :=
  let parts := pySplit '.' 3 name.toList
  (if parts.length > 3 then
    match pySplit '.' 1 name.toList with
    | [pre, rest] => pre :: pyRsplitOnce '.' rest
    | _ => parts
  else parts).map String.mk

/-- `KartRepo.configure_do_checkout_datasets`: `del_config(key)` or `config[key] = False`, which git
stores as `false`. -/
def configureDoCheckoutDatasets (config : Config) (datasetPaths : List String) (doCheckout : Bool) :
    Config :=
  datasetPaths.foldl (fun config datasetPath =>
    if doCheckout then config.pop (checkoutKey datasetPath)
    else config.setItem (checkoutKey datasetPath) "false") config

theorem checkoutKey_toList (datasetPath : String) :
    (checkoutKey datasetPath).toList =
      "dataset".toList ++ '.' :: (datasetPath.toList ++ '.' :: "checkout".toList) := by
  simp [checkoutKey]

/-- Joined again at the dots, the parts of a name are the name. -/
theorem intercalate_nameParts (name : String) :
    List.intercalate ['.'] ((nameParts name).map String.toList) = name.toList := by
  simp only [nameParts, List.map_map]
  split
  · split
    · rename_i pre rest h
      have h₁ := intercalate_pySplit '.' 1 name.toList
      rw [h] at h₁
      obtain ⟨x, xs, hx⟩ := List.exists_cons_of_ne_nil (show pyRsplitOnce '.' rest ≠ [] by
        unfold pyRsplitOnce; split <;> simp)
      have h₂ := intercalate_pyRsplitOnce '.' rest
      rw [hx] at h₂ ⊢
      simp only [List.map_cons, Function.comp_def, List.map_id']
      rw [← h₁, ← h₂]
      simp [List.intercalate]
    · simpa [Function.comp_def] using intercalate_pySplit '.' 3 name.toList
  · simpa [Function.comp_def] using intercalate_pySplit '.' 3 name.toList

/-- Every path reads back from its checkout key, whatever dots it holds. -/
theorem nameParts_checkoutKey (datasetPath : String) :
    nameParts (checkoutKey datasetPath) = ["dataset", datasetPath, "checkout"] := by
  have hc : '.' ∉ "checkout".toList := by decide
  have h₁ : splitFirst '.' (checkoutKey datasetPath).toList =
      some ("dataset".toList, datasetPath.toList ++ '.' :: "checkout".toList) :=
    splitFirst_eq_some.2 ⟨checkoutKey_toList _, by decide⟩
  by_cases hp : '.' ∈ datasetPath.toList
  · -- four parts: split again at the first dot and at the last
    obtain ⟨⟨x, y⟩, hxy⟩ := Option.ne_none_iff_exists'.1 (mt splitFirst_eq_none.1 (not_not.2 hp))
    obtain ⟨⟨u, v⟩, huv⟩ := Option.ne_none_iff_exists'.1 (mt splitFirst_eq_none.1
      (not_not.2 (List.mem_append_right y (List.mem_cons_self '.' "checkout".toList))))
    have h₃ : pySplit '.' 3 (checkoutKey datasetPath).toList = ["dataset".toList, x, u, v] := by
      simp only [pySplit, h₁, splitFirst_append_of_eq hxy, huv]
    have h₄ : pySplit '.' 1 (checkoutKey datasetPath).toList =
        ["dataset".toList, datasetPath.toList ++ '.' :: "checkout".toList] := by
      simp only [pySplit, h₁]
    have h₅ : pyRsplitOnce '.' (datasetPath.toList ++ '.' :: "checkout".toList) =
        [datasetPath.toList, "checkout".toList] := by
      simp only [pyRsplitOnce, splitLast_eq_some.2 ⟨rfl, hc⟩]
    simp only [nameParts, h₃, h₄, h₅, List.length_cons, List.length_nil]
    rfl
  · -- three parts
    have h₂ : splitFirst '.' (datasetPath.toList ++ '.' :: "checkout".toList) =
        some (datasetPath.toList, "checkout".toList) := splitFirst_eq_some.2 ⟨rfl, hp⟩
    have h₃ : pySplit '.' 3 (checkoutKey datasetPath).toList =
        ["dataset".toList, datasetPath.toList, "checkout".toList] := by
      simp only [pySplit, h₁, h₂, splitFirst_eq_none.2 hc]
    simp only [nameParts, h₃, List.length_cons, List.length_nil]
    rfl

theorem checkoutKey_inj {p q : String} (h : checkoutKey p = checkoutKey q) : p = q := by
  have := nameParts_checkoutKey p
  rw [h, nameParts_checkoutKey] at this
  simpa using this.symm

/-- The only names that read as a path's checkout flag are the checkout keys. -/
theorem eq_checkoutKey_of_nameParts {name datasetPath : String}
    (h : nameParts name = ["dataset", datasetPath, "checkout"]) : name = checkoutKey datasetPath := by
  have := intercalate_nameParts name
  rw [h] at this
  apply String.ext
  show name.toList = (checkoutKey datasetPath).toList
  rw [checkoutKey_toList, ← this]
  simp [List.intercalate]

/-- The `do_checkout` of the most recent call naming the path, if any. -/
def lastCall (calls : List (List String × Bool)) (datasetPath : String) : Option Bool :=
  calls.foldl (fun acc call => if datasetPath ∈ call.1 then some call.2 else acc) none

/-- The value of a path's checkout entry after calls whose last, for that path, said `doCheckout`. -/
def flagEntry : Option Bool → Option String
  | some false => some "false"
  | _ => none

theorem flagEntry_eq_some {x : Option Bool} {v : String} :
    flagEntry x = some v ↔ x = some false ∧ v = "false" := by
  rcases x with _ | _ | _ <;> simp [flagEntry, eq_comm]

/-- One call, at one path's checkout entry. -/
theorem get_configureDoCheckoutDatasets (config : Config) (datasetPaths : List String)
    (doCheckout : Bool) (p : String) :
    (configureDoCheckoutDatasets config datasetPaths doCheckout).get (checkoutKey p) =
      if p ∈ datasetPaths then flagEntry (some doCheckout) else config.get (checkoutKey p) := by
  induction datasetPaths generalizing config with
  | nil => simp [configureDoCheckoutDatasets]
  | cons q qs ih =>
    simp only [configureDoCheckoutDatasets, List.foldl_cons] at ih ⊢
    rw [ih]
    by_cases hpq : p = q
    · subst hpq
      cases doCheckout <;> simp [flagEntry]
    · have hk : checkoutKey p ≠ checkoutKey q := fun h => hpq (checkoutKey_inj h)
      cases doCheckout <;> simp [hk, hpq]

/-- A run of calls, at one path's checkout entry. -/
theorem get_configure_run (calls : List (List String × Bool)) (config : Config) (acc : Option Bool)
    (p : String) (h : config.get (checkoutKey p) = flagEntry acc) :
    (calls.foldl (fun c call => configureDoCheckoutDatasets c call.1 call.2) config).get (checkoutKey p) =
      flagEntry (calls.foldl (fun acc call => if p ∈ call.1 then some call.2 else acc) acc) := by
  induction calls generalizing config acc with
  | nil => exact h
  | cons call calls ih =>
    refine ih _ _ ?_
    rw [get_configureDoCheckoutDatasets, h]
    by_cases hp : p ∈ call.1 <;> simp [hp]

section Read
variable (getBool : String → Except PyError Bool)

/-- One turn of the loop of `KartRepo.non_checkout_datasets`, with `config.get_bool` on the entry's
value. -/
def nonCheckoutStep (result : List String) (entry : String × String) : Except PyError (List String) :=
  match nameParts entry.1 with
  | [pre, datasetPath, post] =>
    if pre = "dataset" ∧ post = "checkout" then do
      let b ← getBool entry.2
      pure (if !b then result.insert datasetPath else result)
    else pure result
  | _ => pure result

/-- `KartRepo.non_checkout_datasets`, the set as a list without repeats. -/
def nonCheckoutDatasets (config : Config) : Except PyError (List String) :=
  config.items.foldlM (nonCheckoutStep getBool) []

variable {getBool}

theorem nonCheckoutStep_of_shape (hfalse : getBool "false" = .ok false) (result : List String)
    {entry : String × String} {datasetPath : String}
    (h : nameParts entry.1 = ["dataset", datasetPath, "checkout"]) (hv : entry.2 = "false") :
    nonCheckoutStep getBool result entry = .ok (result.insert datasetPath) := by
  simp [nonCheckoutStep, h, hv, hfalse]

theorem nonCheckoutStep_of_not_shape (result : List String) {entry : String × String}
    (h : ∀ datasetPath, nameParts entry.1 ≠ ["dataset", datasetPath, "checkout"]) :
    nonCheckoutStep getBool result entry = .ok result := by
  unfold nonCheckoutStep
  split
  · rename_i pre m post hparts
    rw [if_neg]
    · rfl
    · rintro ⟨rfl, rfl⟩
      exact h m hparts
  · rfl

/-- The loop of `non_checkout_datasets` over entries whose checkout flags all read `false`: it adds
the path of every entry named as a checkout flag. -/
theorem foldlM_nonCheckoutStep (hfalse : getBool "false" = .ok false) (l : List (String × String))
    (hl : ∀ e ∈ l, ∀ p, nameParts e.1 = ["dataset", p, "checkout"] → e.2 = "false")
    (acc : List String) :
    ∃ r, l.foldlM (nonCheckoutStep getBool) acc = .ok r ∧
      ∀ p, p ∈ r ↔ p ∈ acc ∨ ∃ e ∈ l, nameParts e.1 = ["dataset", p, "checkout"] := by
  induction l generalizing acc with
  | nil => exact ⟨acc, rfl, by simp⟩
  | cons e l ih =>
    have hl' : ∀ e ∈ l, ∀ p, nameParts e.1 = ["dataset", p, "checkout"] → e.2 = "false" :=
      fun e' he' => hl e' (List.mem_cons_of_mem _ he')
    by_cases hshape : ∃ m, nameParts e.1 = ["dataset", m, "checkout"]
    · obtain ⟨m, hm⟩ := hshape
      obtain ⟨r, hr, hmem⟩ := ih hl' (acc.insert m)
      refine ⟨r, by rw [List.foldlM_cons, nonCheckoutStep_of_shape hfalse acc hm
        (hl e (List.mem_cons_self _ _) m hm)]; exact hr, fun p => ?_⟩
      have hpm : nameParts e.1 = ["dataset", p, "checkout"] ↔ p = m := by simp [hm, eq_comm]
      simp only [hmem, List.mem_insert_iff, List.exists_mem_cons_iff, hpm, or_assoc]
      exact or_left_comm
    · obtain ⟨r, hr, hmem⟩ := ih hl' acc
      refine ⟨r, by rw [List.foldlM_cons, nonCheckoutStep_of_not_shape acc
        (fun m hm => hshape ⟨m, hm⟩)]; exact hr, fun p => ?_⟩
      simp only [hmem, List.exists_mem_cons_iff, or_iff_right fun hp => hshape ⟨p, hp⟩]

end Read

/-- Over any sequence of `configure_do_checkout_datasets` calls, from a config with no checkout
flag, `non_checkout_datasets` is exactly the set of paths whose most recent call said not to check
them out, for paths with any number of dots, whatever other entries the config holds. -/
theorem nonCheckoutDatasets_configure (getBool : String → Except PyError Bool)
    (hfalse : getBool "false" = .ok false) (config : Config)
    (hconfig : ∀ p, config.get (checkoutKey p) = none) (calls : List (List String × Bool)) :
    ∃ r, nonCheckoutDatasets getBool
        (calls.foldl (fun c call => configureDoCheckoutDatasets c call.1 call.2) config) = .ok r ∧
      ∀ p, p ∈ r ↔ lastCall calls p = some false := by
  set c := calls.foldl (fun c call => configureDoCheckoutDatasets c call.1 call.2) config
  have hget : ∀ p, c.get (checkoutKey p) = flagEntry (lastCall calls p) := fun p =>
    get_configure_run calls config none p (hconfig p)
  have hentry : ∀ e ∈ c.items, ∀ p, nameParts e.1 = ["dataset", p, "checkout"] →
      lastCall calls p = some false ∧ e.2 = "false" := fun e he p hp => by
    have hg : c.get (checkoutKey p) = some e.2 :=
      eq_checkoutKey_of_nameParts hp ▸ PyDict.get_eq_some_iff.2 he
    rwa [hget, flagEntry_eq_some] at hg
  obtain ⟨r, hr, hmem⟩ := foldlM_nonCheckoutStep hfalse c.items
    (fun e he p hp => (hentry e he p hp).2) []
  refine ⟨r, hr, fun p => ?_⟩
  rw [hmem, or_iff_right (List.not_mem_nil p)]
  constructor
  · rintro ⟨e, he, hp⟩
    exact (hentry e he p hp).1
  · intro h
    have hg := hget p
    rw [h] at hg
    exact ⟨(checkoutKey p, "false"), PyDict.get_eq_some_iff.1 hg, nameParts_checkoutKey p⟩

/-- A path with dots, flagged and then another path flagged and unflagged. -/
theorem nonCheckoutDatasets_configure_dots :
    let getBool : String → Except PyError Bool := fun v => pure (v = "true")
    let calls : List (List String × Bool) := [(["a.b", "c"], false), (["c"], true)]
    (getBool "false" = .ok false ∧ ∀ p, (PyDict.empty : Config).get (checkoutKey p) = none) ∧
    ∃ r, nonCheckoutDatasets getBool
        (calls.foldl (fun c call => configureDoCheckoutDatasets c call.1 call.2) PyDict.empty) = .ok r ∧
      ∀ p, p ∈ r ↔ lastCall calls p = some false :=
  have h : (fun v => pure (v = "true") : String → Except PyError Bool) "false" = .ok false ∧
      ∀ p, (PyDict.empty : Config).get (checkoutKey p) = none := ⟨rfl, fun _ => rfl⟩
  ⟨h, nonCheckoutDatasets_configure _ h.1 _ h.2 _⟩

example : nonCheckoutDatasets (fun v => pure (v = "true"))
    ([(["a.b", "c"], false), (["c"], true)].foldl (fun c call => configureDoCheckoutDatasets c call.1 call.2)
      PyDict.empty) = .ok ["a.b"] := by
  rfl

end Kart.Repo
