import Kart.KeyFilters.Parse
import Mathlib.Data.Char
set_option autoImplicit false

/-!
# Which dataset paths a filter holds

A dataset glob means what a shell glob with `*` as its only metacharacter means (`StarMatch`).
`RepoKeyFilter.__setitem__` escapes `?`, `[` and `]` for `fnmatch` by three passes of
`str.replace`. The pass for `]` escapes again the brackets the pass for `[` wrote, so a `[`
becomes `[[[]]`, which `fnmatch` reads as a class holding `[` and then a literal `]`: the filter
holds a path exactly when the glob, each of its `[` read as `[]`, matches it. Globs without `[`
mean what they say.

`filter_keys` answers through the stored keys and the glob table alone. Every filter built from
patterns or by `RepoKeyFilter.datasets` filters a set of keys down to the keys it holds, except
`MATCH_ALL`, which `build_from_user_patterns` returns for no patterns: it holds every key and
filters every set down to nothing.
-/
namespace Kart.KeyFilters
open Kart.DiffStructs

/-! ## Globs with `*` alone -/

/-- The meaning of a glob whose only metacharacter is `*`: each `*` matches a run of characters,
possibly empty, and every other character matches itself. -/
inductive StarMatch : List Char → List Char → Prop
  | nil : StarMatch [] []
  | star {g p : List Char} (s : List Char) : StarMatch g p → StarMatch ('*' :: g) (s ++ p)
  | char {g p : List Char} (c : Char) : c ≠ '*' → StarMatch g p → StarMatch (c :: g) (c :: p)

theorem starMatch_nil_iff {p : List Char} : StarMatch [] p ↔ p = [] := by
  constructor
  · rintro ⟨⟩; rfl
  · rintro rfl; exact .nil

theorem starMatch_star_iff {g p : List Char} :
    StarMatch ('*' :: g) p ↔ ∃ s t, p = s ++ t ∧ StarMatch g t := by
  constructor
  · rintro (_ | ⟨s, h⟩ | ⟨_, hc, _⟩)
    · exact ⟨s, _, rfl, h⟩
    · exact absurd rfl hc
  · rintro ⟨s, t, rfl, h⟩
    exact .star s h

theorem starMatch_char_iff {c : Char} (hc : c ≠ '*') {g p : List Char} :
    StarMatch (c :: g) p ↔ ∃ t, p = c :: t ∧ StarMatch g t := by
  constructor
  · rintro (_ | ⟨s, h⟩ | ⟨_, -, h⟩)
    · exact absurd rfl hc
    · exact ⟨_, rfl, h⟩
  · rintro ⟨t, rfl, h⟩
    exact .char c hc h

/-- The items `fnmatch.translate` makes of a glob without metacharacters but `*`. -/
def starGlob (g : List Char) : List GlobItem := g.map fun c => if c = '*' then .star else .lit c

theorem globMatch_starGlob_iff (g p : List Char) : globMatch (starGlob g) p = true ↔ StarMatch g p := by
  induction g generalizing p with
  | nil => simp [starGlob, globMatch, starMatch_nil_iff]
  | cons c g ih =>
    by_cases hc : c = '*'
    · subst hc
      simp only [starGlob, List.map_cons, if_true, globMatch, List.any_eq_true, List.mem_tails,
        starMatch_star_iff]
      constructor
      · rintro ⟨t, ⟨s, rfl⟩, h⟩
        exact ⟨s, t, rfl, (ih t).1 h⟩
      · rintro ⟨s, t, rfl, h⟩
        exact ⟨t, List.suffix_append s t, (ih t).2 h⟩
    · rw [starMatch_char_iff hc]
      cases p with
      | nil => simp [starGlob, globMatch, hc]
      | cons d p =>
        simp only [starGlob, List.map_cons, if_neg hc, globMatch, GlobItem.matchesChar,
          Bool.and_eq_true, beq_iff_eq, List.cons.injEq]
        rw [← starGlob, ih]
        constructor
        · rintro ⟨rfl, h⟩; exact ⟨p, ⟨rfl, rfl⟩, h⟩
        · rintro ⟨t, ⟨rfl, rfl⟩, h⟩; exact ⟨rfl, h⟩

instance (g p : List Char) : Decidable (StarMatch g p) :=
  decidable_of_iff _ (globMatch_starGlob_iff g p)

/-! ## What `fnmatch` makes of an escaped glob -/

/-- What `__setitem__`'s three passes write for one character of a glob. -/
def escapeGlobChar (c : Char) : List Char :=
  ['?', '[', ']'].foldl (fun s c' => s.flatMap fun d => if d = c' then ['[', c', ']'] else [d]) [c]

/-- The glob each of whose `[` is read as `[]`. -/
def bracketed (g : List Char) : List Char := g.flatMap fun c => if c = '[' then ['[', ']'] else [c]

/-- The items `fnmatch.translate` makes of what `__setitem__` writes for one character. -/
def escapedItems (c : Char) : List GlobItem :=
  if c = '[' then [bracketItem ['[', '['], .lit ']'] else if c = ']' then [bracketItem [']']]
  else if c = '*' then [.star] else [.lit c]

theorem foldl_flatMap_passes (cs l : List Char) :
    cs.foldl (fun s c' => s.flatMap fun d => if d = c' then ['[', c', ']'] else [d]) l =
      l.flatMap fun d =>
        cs.foldl (fun s c' => s.flatMap fun d => if d = c' then ['[', c', ']'] else [d]) [d] := by
  induction cs generalizing l with
  | nil => simp
  | cons c cs ih =>
    simp only [List.foldl_cons]
    rw [ih, List.flatMap_assoc]
    congr 1
    funext d
    rw [ih ([d].flatMap _), List.flatMap_singleton]

theorem escapeGlob_toList (key : String) :
    (RepoKeyFilter.escapeGlob key).toList = key.toList.flatMap escapeGlobChar :=
  foldl_flatMap_passes _ _

theorem escapeGlobChar_of_ne {c : Char} (h₁ : c ≠ '?') (h₂ : c ≠ '[') (h₃ : c ≠ ']') :
    escapeGlobChar c = [c] := by
  simp [escapeGlobChar, h₁, h₂, h₃]

theorem translateAux_escape {g : List Char} (hg : '?' ∉ g) {fuel : Nat}
    (hfuel : (g.flatMap escapeGlobChar).length ≤ fuel) :
    translateAux fuel (g.flatMap escapeGlobChar) = g.flatMap escapedItems := by
  induction g generalizing fuel with
  | nil => cases fuel <;> rfl
  | cons c g ih =>
    simp only [List.mem_cons, not_or] at hg
    simp only [List.flatMap_cons, List.length_append] at hfuel ⊢
    by_cases h₂ : c = '['
    · subst h₂
      obtain ⟨f, rfl⟩ : ∃ f, fuel = f + 2 := ⟨fuel - 2, by simp [escapeGlobChar] at hfuel; omega⟩
      have e : escapeGlobChar '[' = ['[', '[', '[', ']', ']'] := rfl
      rw [e] at hfuel ⊢
      simp only [List.cons_append, List.nil_append, List.length_cons] at hfuel
      simp [translateAux, bracketBody, escapedItems, ih hg.2 (by omega : _ ≤ f)]
    by_cases h₃ : c = ']'
    · subst h₃
      obtain ⟨f, rfl⟩ : ∃ f, fuel = f + 1 := ⟨fuel - 1, by simp [escapeGlobChar] at hfuel; omega⟩
      have e : escapeGlobChar ']' = ['[', ']', ']'] := rfl
      rw [e] at hfuel ⊢
      simp only [List.cons_append, List.nil_append, List.length_cons] at hfuel
      simp [translateAux, bracketBody, escapedItems, ih hg.2 (by omega : _ ≤ f)]
    rw [escapeGlobChar_of_ne (Ne.symm hg.1) h₂ h₃] at hfuel ⊢
    obtain ⟨f, rfl⟩ : ∃ f, fuel = f + 1 := ⟨fuel - 1, by simp at hfuel; omega⟩
    simp only [List.length_singleton] at hfuel
    by_cases h₄ : c = '*'
    · subst h₄
      simp [translateAux, escapedItems, ih hg.2 (by omega : _ ≤ f)]
    · simp [translateAux, escapedItems, h₂, h₃, h₄, Ne.symm hg.1, ih hg.2 (by omega : _ ≤ f)]

theorem translate_escapeGlob {g : String} (hg : '?' ∉ g.toList) :
    translate (RepoKeyFilter.escapeGlob g).toList = g.toList.flatMap escapedItems := by
  rw [translate, escapeGlob_toList]
  exact translateAux_escape hg le_rfl

/-- Matching after an item depends only on what the items after it match. -/
theorem globMatch_cons_congr {X Y : List GlobItem} (h : ∀ s, globMatch X s = globMatch Y s)
    (i : GlobItem) (s : List Char) : globMatch (i :: X) s = globMatch (i :: Y) s := by
  have hf : globMatch X = globMatch Y := funext h
  cases i <;> cases s <;> simp only [globMatch, hf]

/-- An item that matches one character, and that character only, is that character. -/
theorem globMatch_cons_of_matchesChar {i : GlobItem} {c : Char} (hi : i ≠ .star)
    (hc : ∀ d, i.matchesChar d = (c == d)) (X : List GlobItem) (s : List Char) :
    globMatch (i :: X) s = globMatch (.lit c :: X) s := by
  cases i with
  | star => exact absurd rfl hi
  | _ =>
    cases s with
    | nil => rfl
    | cons d s => simp only [globMatch]; rw [hc]; rfl

theorem le_and_le_eq_beq (c d : Char) : (decide (c ≤ d) && decide (d ≤ c)) = (c == d) := by
  refine Bool.eq_iff_iff.2 ?_
  simp only [Bool.and_eq_true, decide_eq_true_eq, beq_iff_eq]
  exact ⟨fun hcd => le_antisymm hcd.1 hcd.2, fun e => e ▸ ⟨le_rfl, le_rfl⟩⟩

/-- The class `[\[[]` that `fnmatch` reads from the escape of `[` holds `[` alone. -/
theorem bracketItem_lbracket_matchesChar (d : Char) :
    (bracketItem ['[', '[']).matchesChar d = ('[' == d) := by
  simp [bracketItem, classRanges, GlobItem.matchesChar, le_and_le_eq_beq]

/-- The class `[]]` that `fnmatch` reads from the escape of `]` holds `]` alone. -/
theorem bracketItem_rbracket_matchesChar (d : Char) :
    (bracketItem [']']).matchesChar d = (']' == d) := by
  simp [bracketItem, classRanges, GlobItem.matchesChar, le_and_le_eq_beq]

/-- The escaped glob matches what the glob does once each of its `[` is read as `[]`. -/
theorem globMatch_escapedItems (g p : List Char) :
    globMatch (g.flatMap escapedItems) p = globMatch (starGlob (bracketed g)) p := by
  induction g generalizing p with
  | nil => rfl
  | cons c g ih =>
    simp only [List.flatMap_cons, bracketed, starGlob, List.map_append] at ih ⊢
    by_cases h₂ : c = '['
    · subst h₂
      simp only [escapedItems, if_true, List.cons_append, List.nil_append, List.map_cons]
      rw [globMatch_cons_of_matchesChar (by simp [bracketItem]) bracketItem_lbracket_matchesChar]
      simp only [ite_true, show (']' = '*') = False from by decide, ite_false]
      exact globMatch_cons_congr (globMatch_cons_congr ih _) _ p
    by_cases h₃ : c = ']'
    · subst h₃
      simp only [escapedItems, h₂, if_false, if_true, List.cons_append, List.nil_append,
        List.map_cons, List.map_nil, show (']' = '*') = False from by decide, ite_false]
      rw [globMatch_cons_of_matchesChar (by simp [bracketItem]) bracketItem_rbracket_matchesChar]
      exact globMatch_cons_congr ih _ p
    · simp only [escapedItems, h₂, h₃, if_false, List.singleton_append, List.map_cons, List.map_nil]
      by_cases h₄ : c = '*'
      · simp only [h₄, if_true]; exact globMatch_cons_congr ih _ p
      · simp only [h₄, if_false]; exact globMatch_cons_congr ih _ p

/-- `fnmatch.fnmatch(path, escaped)` for the glob `__setitem__` escapes. -/
theorem fnmatch_escapeGlob {g : String} (hg : '?' ∉ g.toList) (p : String) :
    fnmatch p (RepoKeyFilter.escapeGlob g) = true ↔ StarMatch (bracketed g.toList) p.toList := by
  rw [fnmatch, translate_escapeGlob hg, globMatch_escapedItems, globMatch_starGlob_iff]

theorem bracketed_of_not_mem {g : List Char} (h : '[' ∉ g) : bracketed g = g := by
  induction g with
  | nil => rfl
  | cons c g ih =>
    simp only [List.mem_cons, not_or] at h
    simp only [bracketed, List.flatMap_cons, if_neg (Ne.symm h.1)] at ih ⊢
    rw [ih h.2]
    rfl

/-! ## The filter of one pattern -/

theorem filterPatternMatch_datasetGlob_valid {s : List Char} {m : FilterPatternMatch}
    (h : filterPatternMatch s = some m) : ∀ c ∈ m.datasetGlob.toList, isDatasetGlobChar c = true := by
  dsimp only [filterPatternMatch] at h
  split_ifs at h
  split at h <;> cases h <;> exact fun c hc => List.mem_takeWhile_imp hc

theorem parseUserPattern_datasetGlob_valid {pattern g : String} {sub rest : Option String}
    (h : parseUserPattern pattern = .ok (g, sub, rest)) : ∀ c ∈ g.toList, isDatasetGlobChar c = true := by
  unfold parseUserPattern at h
  split at h
  next m hm =>
    split_ifs at h <;> simp at h <;> split_ifs at h <;> cases h <;>
      exact filterPatternMatch_datasetGlob_valid hm
  next => cases h

theorem star_mem_escapeGlob {g : String} (h : '*' ∈ g.toList) : '*' ∈ (RepoKeyFilter.escapeGlob g).toList := by
  rw [escapeGlob_toList]
  exact List.mem_flatMap.2 ⟨'*', h, List.mem_singleton_self _⟩

theorem setItem_items_ne_nil {V : Type} (d : PyDict String V) (k : String) (v : V) :
    (d.setItem k v).items ≠ [] :=
  fun e => by simpa using PyDict.get_eq_none_of_items e k

namespace RepoKeyFilter

theorem bool_empty_setItem (key : String) (value : DatasetKeyFilter) : (empty.setItem key value).bool = true := by
  unfold setItem
  split_ifs <;> simp_all [empty, KeyFilterDict.bool, PyDict.setItem, PyDict.keys, PyDict.empty]

/-- The filter of one pattern: the empty filter with the pattern's dataset part set. -/
theorem buildFromUserPatterns_singleton {pattern g : String} {sub rest : Option String}
    (h : parseUserPattern pattern = .ok (g, sub, rest)) :
    ∃ value, buildFromUserPatterns [pattern] = .ok (empty.setItem g value) := by
  have hlookup : empty.lookup g = .error (.keyError g) := rfl
  cases sub with
  | none => exact ⟨_, by simp [buildFromUserPatterns, addUserPattern, h, bool_empty_setItem]; rfl⟩
  | some s => exact ⟨_, by simp [buildFromUserPatterns, addUserPattern, h, hlookup, bool_empty_setItem]; rfl⟩

/-- The filter `__setitem__` makes of an empty one for a glob: the escaped glob is its one key
and its one glob. -/
theorem contains_empty_setItem {key : String} (hkey : '*' ∈ key.toList) (value : DatasetKeyFilter)
    (p : String) : (empty.setItem key value).contains p = true ↔
      p = escapeGlob key ∨ fnmatch p (escapeGlob key) = true := by
  have hkey' : '*' ∈ key.data := hkey
  simp [setItem, hkey', empty, contains, KeyFilterDict.contains, datasetGlobPatternMatchingKey,
    PyDict.setItem, PyDict.keys, PyDict.empty, List.find?_cons]
  cases fnmatch p (escapeGlob key) <;> simp

/-- The filter of one pattern whose dataset part is a glob holds a dataset path exactly when the
glob matches the path with each of its `[` read as `[]`. -/
theorem buildFromUserPatterns_glob_contains {pattern g : String} {sub rest : Option String}
    (h : parseUserPattern pattern = .ok (g, sub, rest)) (hstar : '*' ∈ g.toList) (p : String)
    (hp : '*' ∉ p.toList) :
    ∃ F, buildFromUserPatterns [pattern] = .ok F ∧
      (F.contains p = true ↔ StarMatch (bracketed g.toList) p.toList) := by
  obtain ⟨value, hF⟩ := buildFromUserPatterns_singleton h
  have hq : '?' ∉ g.toList := fun hq =>
    absurd (parseUserPattern_datasetGlob_valid h '?' hq) (by decide)
  refine ⟨_, hF, ?_⟩
  rw [contains_empty_setItem hstar, fnmatch_escapeGlob hq, or_iff_right]
  rintro rfl
  exact hp (star_mem_escapeGlob hstar)

/-- The glob `a[b]*` does not hold `a[b]c`: it reads as `a[]b]*`. -/
theorem buildFromUserPatterns_glob_contains_bracket :
    (parseUserPattern "a[b]*" = .ok ("a[b]*", none, none) ∧ '*' ∈ "a[b]*".toList ∧
      '*' ∉ "a[b]c".toList) ∧
    (∃ F, buildFromUserPatterns ["a[b]*"] = .ok F ∧
      (F.contains "a[b]c" = true ↔ StarMatch (bracketed "a[b]*".toList) "a[b]c".toList)) ∧
    ¬ StarMatch (bracketed "a[b]*".toList) "a[b]c".toList :=
  have h : parseUserPattern "a[b]*" = .ok ("a[b]*", none, none) ∧ '*' ∈ "a[b]*".toList ∧
      '*' ∉ "a[b]c".toList := ⟨rfl, by decide, by decide⟩
  ⟨h, buildFromUserPatterns_glob_contains h.1 h.2.1 _ h.2.2, by decide⟩

/-! ## `filter_keys` -/

/-- The glob pass of `filter_keys` adds nothing: a key a glob matches is `in` the filter, so
`keys & self.keys()` has it already. -/
theorem filter_glob_eq_nil (F : RepoKeyFilter) (keys : List String) :
    ((keys.filter fun k => k ∉ keys.filter F.contains).filter fun k =>
      (F.datasetGlobPatternMatchingKey k).isSome) = [] := by
  refine List.filter_eq_nil_iff.2 fun k hk hg => ?_
  obtain ⟨hk, hm⟩ := List.mem_filter.1 hk
  exact of_decide_eq_true hm (List.mem_filter.2 ⟨hk, by simp [contains, by simpa using hg]⟩)

theorem mem_filterKeys (F : RepoKeyFilter) (keys : List String) (k : String) :
    k ∈ F.filterKeys keys ↔ k ∈ keys ∧ F.contains k = true := by
  rw [filterKeys, filter_glob_eq_nil, List.append_nil, List.mem_filter]

/-- `filter_keys` is the filter by `__contains__`, for every filter and every set of keys. -/
theorem filterKeys_eq_filter_contains (F : RepoKeyFilter) (keys : List String) :
    F.filterKeys keys = keys.filter F.contains := by
  rw [filterKeys, filter_glob_eq_nil, List.append_nil]

theorem matchAll_setItem (F : RepoKeyFilter) (key : String) (value : DatasetKeyFilter) :
    (F.setItem key value).matchAll = F.matchAll := by
  unfold setItem
  split_ifs <;> rfl

theorem items_setItem_ne_nil {F : RepoKeyFilter} (hF : F.matchAll = false) (key : String)
    (value : DatasetKeyFilter) : (F.setItem key value).dict.items ≠ [] := by
  unfold setItem
  rw [if_neg (by simp [hF])]
  split
  · exact setItem_items_ne_nil _ _ _
  · exact setItem_items_ne_nil _ _ _

theorem lookup_loc {F : RepoKeyFilter} (hF : F.matchAll = false) {key : String}
    {loc : Option String} {ds : DatasetKeyFilter} (h : F.lookup key = .ok (loc, ds)) : loc.isSome := by
  unfold lookup at h
  rw [if_neg (by simp [hF])] at h
  split at h
  · cases h; rfl
  · split at h
    · cases h
    · obtain ⟨_, -, h⟩ := bind_eq_ok.1 h
      cases h; rfl

/-- `add_user_pattern` keeps a filter from matching all and leaves it holding a key. -/
theorem addUserPattern_matchAll {F F' : RepoKeyFilter} (hF : F.matchAll = false) {pattern : String}
    (h : F.addUserPattern pattern = .ok F') : F'.matchAll = false ∧ F'.dict.items ≠ [] := by
  unfold addUserPattern at h
  obtain ⟨⟨g, sub, rest⟩, -, h⟩ := bind_eq_ok.1 h
  cases sub with
  | none =>
    cases h
    exact ⟨(matchAll_setItem _ _ _).trans hF, items_setItem_ne_nil hF _ _⟩
  | some s =>
    dsimp only at h
    split at h
    · next loc ds hl =>
      by_cases hb : KeyFilterDict.bool ds = true
      · rw [if_pos hb] at h
        obtain ⟨child, -, h⟩ := bind_eq_ok.1 h
        obtain ⟨l, rfl⟩ := Option.isSome_iff_exists.1 (lookup_loc hF hl)
        cases h
        exact ⟨hF, setItem_items_ne_nil _ _ _⟩
      · rw [if_neg hb] at h
        cases h
        exact ⟨(matchAll_setItem _ _ _).trans hF, items_setItem_ne_nil hF _ _⟩
    · cases h
      exact ⟨(matchAll_setItem _ _ _).trans hF, items_setItem_ne_nil hF _ _⟩

theorem foldlM_addUserPattern_matchAll (ps : List String) {F R : RepoKeyFilter}
    (hF : F.matchAll = false) (h : ps.foldlM addUserPattern F = .ok R) :
    R.matchAll = false ∧ (ps = [] ∨ R.dict.items ≠ []) := by
  induction ps generalizing F with
  | nil => cases h; exact ⟨hF, .inl rfl⟩
  | cons p ps ih =>
    obtain ⟨F', hF', h⟩ := bind_eq_ok.1 (by simpa only [List.foldlM_cons] using h)
    obtain ⟨hm, hne⟩ := addUserPattern_matchAll hF hF'
    obtain ⟨hR, hR'⟩ := ih hm h
    refine ⟨hR, .inr ?_⟩
    rcases hR' with rfl | hR'
    · cases h; exact hne
    · exact hR'

theorem matchAll_buildFromUserPatterns {ps : List String} (hps : ps ≠ []) {F : RepoKeyFilter}
    (h : buildFromUserPatterns ps = .ok F) : F.matchAll = false := by
  obtain ⟨R, hR, h⟩ := bind_eq_ok.1 h
  obtain ⟨hm, hne⟩ := foldlM_addUserPattern_matchAll ps rfl hR
  have hb : R.bool = true := by simpa [KeyFilterDict.bool, hm] using hne.resolve_left hps
  cases h
  rw [if_pos hb]
  exact hm

theorem matchAll_datasets (paths : List String) : (datasets paths).matchAll = false := by
  suffices ∀ F : RepoKeyFilter, F.matchAll = false →
      (paths.foldl (fun r p => r.setItem p DatasetKeyFilter.MATCH_ALL) F).matchAll = false from
    this _ rfl
  induction paths with
  | nil => exact fun F h => h
  | cons p ps ih => exact fun F h => ih _ ((matchAll_setItem _ _ _).trans h)

theorem matchAll_eq_true_iff {F : RepoKeyFilter}
    (hF : (∃ ps, buildFromUserPatterns ps = .ok F) ∨ ∃ paths, F = datasets paths) :
    F.matchAll = true ↔ F = MATCH_ALL := by
  refine ⟨fun hm => ?_, fun h => h ▸ rfl⟩
  rcases hF with ⟨ps, h⟩ | ⟨paths, rfl⟩
  · by_cases hps : ps = []
    · subst hps; cases h; rfl
    · simp [matchAll_buildFromUserPatterns hps h] at hm
  · simp [matchAll_datasets] at hm

/-- A filter built from user patterns, or by `RepoKeyFilter.datasets`, keeps every key when it is
`MATCH_ALL` (no patterns) and otherwise the keys its tables hold: it matches all only when built
from no patterns. -/
theorem filterKeys_of_built {F : RepoKeyFilter}
    (hF : (∃ ps, buildFromUserPatterns ps = .ok F) ∨ ∃ paths, F = datasets paths)
    (keys : List String) (k : String) :
    k ∈ F.filterKeys keys ↔ k ∈ keys ∧
      (F = MATCH_ALL ∨ k ∈ F.dict.keys ∨ (F.datasetGlobPatternMatchingKey k).isSome) := by
  simp only [mem_filterKeys, contains, KeyFilterDict.contains, Bool.or_eq_true, decide_eq_true_eq,
    matchAll_eq_true_iff hF, or_assoc]

theorem filterKeys_of_built_datasets :
    "b1" ∈ (datasets ["a", "b*"]).filterKeys ["a", "b1", "c"] ↔ "b1" ∈ ["a", "b1", "c"] ∧
      (datasets ["a", "b*"] = MATCH_ALL ∨ "b1" ∈ (datasets ["a", "b*"]).dict.keys ∨
        ((datasets ["a", "b*"]).datasetGlobPatternMatchingKey "b1").isSome) :=
  filterKeys_of_built (.inr ⟨_, rfl⟩) _ _

end RepoKeyFilter

end Kart.KeyFilters
