import Mathlib.Data.List.Lex
import Mathlib.Data.List.Infix
import Mathlib.Data.Char
set_option autoImplicit false

/-!
# The dataset path an import infers

`TileImporter.infer_dataset_path` names a dataset after what the names of its sources have in
common, or else what the names of their directories have in common: `os.path.commonprefix` of
the set of names, cut at the first `*`, with separators stripped from its end, and given up when
shorter than four characters.

`os.path.commonprefix` compares only the least and the greatest string of its argument. Every
string lies between those two, and a prefix of both is a prefix of everything between them, so
it returns the longest prefix common to all the strings, and never reads past the end of the
greatest one. What the import infers therefore depends only on which sources it is given: not on
the order in which a `set` yields them.
-/
namespace Kart.Tile

section Commonprefix

/-- `min(m)` of `str`s, which compare code point by code point: each later item replaces the
current one when it is smaller. -/
def pyMin (s : List Char) (ss : List (List Char)) : List Char :=
  ss.foldl (fun current item => if item < current then item else current) s

/-- `max(m)`: each later item replaces the current one when it is greater. -/
def pyMax (s : List Char) (ss : List (List Char)) : List Char :=
  ss.foldl (fun current item => if current < item then item else current) s

/-- The loop of `os.path.commonprefix` over `enumerate(s1)`: the characters before the first one
that differs from `s2`; `none` where `s2[i]` raises `IndexError`. -/
def commonprefixLoop : List Char → List Char → Option (List Char)
  | [], _ => some []
  | _ :: _, [] => none
  | c :: s1, d :: s2 => if c ≠ d then some [] else (c :: ·) <$> commonprefixLoop s1 s2

/-- `os.path.commonprefix(m)` of `str`s; `none` where it raises. -/
def osPathCommonprefix (m : List String) : Option String :=
  match m.map String.data with
  | [] => some ""
  | s :: ss => String.mk <$> commonprefixLoop (pyMin s ss) (pyMax s ss)

theorem pyMin_cons (s t : List Char) (ts : List (List Char)) :
    pyMin s (t :: ts) = pyMin (if t < s then t else s) ts := rfl

theorem pyMax_cons (s t : List Char) (ts : List (List Char)) :
    pyMax s (t :: ts) = pyMax (if s < t then t else s) ts := rfl

theorem pyMin_spec (s : List Char) (ss : List (List Char)) :
    pyMin s ss ∈ s :: ss ∧ ∀ t ∈ s :: ss, pyMin s ss ≤ t := by
  induction ss generalizing s with
  | nil => simp [pyMin]
  | cons t ts ih =>
    -- the current item after `t`: the smaller of `s` and `t`
    have hs : (if t < s then t else s) ≤ s := by split_ifs with h; exacts [h.le, le_rfl]
    have ht : (if t < s then t else s) ≤ t := by split_ifs with h; exacts [le_rfl, not_lt.1 h]
    obtain ⟨hmem, hle⟩ := ih (if t < s then t else s)
    rw [pyMin_cons]
    refine ⟨?_, List.forall_mem_cons.2 ⟨(hle _ (.head _)).trans hs,
      List.forall_mem_cons.2 ⟨(hle _ (.head _)).trans ht, fun u hu => hle u (.tail _ hu)⟩⟩⟩
    rcases List.mem_cons.1 hmem with h | h
    · rw [h]
      split_ifs <;> simp
    · exact .tail _ (.tail _ h)

theorem pyMax_spec (s : List Char) (ss : List (List Char)) :
    pyMax s ss ∈ s :: ss ∧ ∀ t ∈ s :: ss, t ≤ pyMax s ss := by
  induction ss generalizing s with
  | nil => simp [pyMax]
  | cons t ts ih =>
    -- the current item after `t`: the greater of `s` and `t`
    have hs : s ≤ (if s < t then t else s) := by split_ifs with h; exacts [h.le, le_rfl]
    have ht : t ≤ (if s < t then t else s) := by split_ifs with h; exacts [le_rfl, not_lt.1 h]
    obtain ⟨hmem, hle⟩ := ih (if s < t then t else s)
    rw [pyMax_cons]
    refine ⟨?_, List.forall_mem_cons.2 ⟨hs.trans (hle _ (.head _)),
      List.forall_mem_cons.2 ⟨ht.trans (hle _ (.head _)), fun u hu => hle u (.tail _ hu)⟩⟩⟩
    rcases List.mem_cons.1 hmem with h | h
    · rw [h]
      split_ifs <;> simp
    · exact .tail _ (.tail _ h)

theorem exists_of_cons_prefix {c : Char} {p l : List Char} (h : c :: p <+: l) :
    ∃ l', l = c :: l' ∧ p <+: l' := by
  cases l with
  | nil => exact absurd (List.prefix_nil.1 h) (List.cons_ne_nil _ _)
  | cons d l =>
    obtain ⟨rfl, hl⟩ := List.cons_prefix_cons.1 h
    exact ⟨l, rfl, hl⟩

theorem le_of_cons_le_cons {c : Char} {s t : List Char} (h : c :: s ≤ c :: t) : s ≤ t :=
  not_lt.1 fun h' => not_lt.2 h (List.Lex.cons h')

/-- A prefix of two strings is a prefix of every string that lies between them. -/
theorem prefix_of_le_of_le {p a b c : List Char} (ha : p <+: a) (hc : p <+: c) (hab : a ≤ b)
    (hbc : b ≤ c) : p <+: b := by
  induction p generalizing a b c with
  | nil => exact List.nil_prefix
  | cons x p ih =>
    obtain ⟨a, rfl, ha'⟩ := exists_of_cons_prefix ha
    obtain ⟨c, rfl, hc'⟩ := exists_of_cons_prefix hc
    cases b with
    | nil => exact absurd (List.nil_lt_cons x a) (not_lt.2 hab)
    | cons y b =>
      -- `x :: a ≤ y :: b ≤ x :: c` forces `y = x`
      have hxy : x ≤ y := hab.lt_or_eq.elim List.head_le_of_lt fun h => (List.cons.inj h).1.le
      have hyx : y ≤ x := hbc.lt_or_eq.elim List.head_le_of_lt fun h => (List.cons.inj h).1.le
      obtain rfl := le_antisymm hxy hyx
      exact List.cons_prefix_cons.2 ⟨rfl, ih ha' hc' (le_of_cons_le_cons hab) (le_of_cons_le_cons hbc)⟩

/-- Where `s1 ≤ s2`, the loop does not raise and returns the longest common prefix of the two. -/
theorem commonprefixLoop_spec : ∀ {s1 s2 : List Char}, s1 ≤ s2 → ∃ r,
    commonprefixLoop s1 s2 = some r ∧ r <+: s1 ∧ r <+: s2 ∧ ∀ q, q <+: s1 → q <+: s2 → q <+: r
  | [], _, _ => ⟨[], rfl, List.nil_prefix, List.nil_prefix, fun _ hq _ => hq⟩
  | c :: s1, [], h => absurd (List.nil_lt_cons c s1) (not_lt.2 h)
  | c :: s1, d :: s2, h => by
    by_cases hcd : c = d
    · subst hcd
      obtain ⟨r, hr, h1, h2, hmax⟩ := commonprefixLoop_spec (le_of_cons_le_cons h)
      refine ⟨c :: r, by simp [commonprefixLoop, hr], List.cons_prefix_cons.2 ⟨rfl, h1⟩,
        List.cons_prefix_cons.2 ⟨rfl, h2⟩, fun q hq1 hq2 => ?_⟩
      rcases q with _ | ⟨e, q⟩
      · exact List.nil_prefix
      · obtain ⟨rfl, hq⟩ := List.cons_prefix_cons.1 hq1
        exact List.cons_prefix_cons.2 ⟨rfl, hmax q hq (List.cons_prefix_cons.1 hq2).2⟩
    · refine ⟨[], by simp [commonprefixLoop, hcd], List.nil_prefix, List.nil_prefix,
        fun q hq1 hq2 => ?_⟩
      rcases q with _ | ⟨e, q⟩
      · exact List.nil_prefix
      · exact absurd ((List.cons_prefix_cons.1 hq1).1.symm.trans (List.cons_prefix_cons.1 hq2).1) hcd

/-- On a non-empty list of strings, the loop between the least and the greatest does not raise
and returns the longest prefix common to all of them. -/
theorem commonprefixLoop_pyMin_pyMax (s : List Char) (ss : List (List Char)) :
    ∃ r, commonprefixLoop (pyMin s ss) (pyMax s ss) = some r ∧ (∀ t ∈ s :: ss, r <+: t) ∧
      ∀ q, (∀ t ∈ s :: ss, q <+: t) → q <+: r := by
  obtain ⟨hmin, hlo⟩ := pyMin_spec s ss
  obtain ⟨hmax, hhi⟩ := pyMax_spec s ss
  obtain ⟨r, hr, h1, h2, hlongest⟩ :=
    commonprefixLoop_spec ((hlo s (.head _)).trans (hhi s (.head _)))
  exact ⟨r, hr, fun t ht => prefix_of_le_of_le h1 h2 (hlo t ht) (hhi t ht),
    fun q hq => hlongest q (hq _ hmin) (hq _ hmax)⟩

/-- `os.path.commonprefix` never raises; on a non-empty list it returns the longest prefix common
to all the strings. -/
theorem osPathCommonprefix_spec (m : List String) : ∃ p, osPathCommonprefix m = some p ∧
    (∀ s ∈ m, p.data <+: s.data) ∧ (m ≠ [] → ∀ q, (∀ s ∈ m, q <+: s.data) → q <+: p.data) := by
  unfold osPathCommonprefix
  split
  · rename_i h
    obtain rfl := List.map_eq_nil_iff.1 h
    exact ⟨"", rfl, nofun, fun h => absurd rfl h⟩
  · rename_i s ss h
    obtain ⟨r, hr, hpre, hlongest⟩ := commonprefixLoop_pyMin_pyMax s ss
    refine ⟨⟨r⟩, by rw [hr]; rfl, fun t ht => hpre _ (h ▸ List.mem_map_of_mem _ ht),
      fun _ q hq => hlongest q fun t ht => ?_⟩
    obtain ⟨u, hu, rfl⟩ := List.mem_map.1 (h ▸ ht)
    exact hq u hu

/-- Its result depends only on which strings the list holds. -/
theorem osPathCommonprefix_congr {m₁ m₂ : List String} (h : ∀ s, s ∈ m₁ ↔ s ∈ m₂) :
    osPathCommonprefix m₁ = osPathCommonprefix m₂ := by
  rcases m₁ with _ | ⟨s, m₁⟩
  · obtain rfl : m₂ = [] := List.eq_nil_iff_forall_not_mem.2 fun s hs => nomatch (h s).2 hs
    rfl
  · -- two longest common prefixes of the same strings are prefixes of each other
    obtain ⟨p₁, h₁, hpre₁, hlongest₁⟩ := osPathCommonprefix_spec (s :: m₁)
    obtain ⟨p₂, h₂, hpre₂, hlongest₂⟩ := osPathCommonprefix_spec m₂
    have hm₂ : m₂ ≠ [] := List.ne_nil_of_mem ((h s).1 (.head _))
    have h12 : p₁.data <+: p₂.data := hlongest₂ hm₂ _ fun t ht => hpre₁ t ((h t).2 ht)
    have h21 : p₂.data <+: p₁.data :=
      hlongest₁ (List.cons_ne_nil _ _) _ fun t ht => hpre₂ t ((h t).1 ht)
    rw [h₁, h₂, String.ext (h12.eq_of_length (le_antisymm h12.length_le h21.length_le))]

end Commonprefix

section CommonPrefix

/-- `str.rstrip(chars)`. -/
def rstrip (chars s : List Char) : List Char := (s.reverse.dropWhile (· ∈ chars)).reverse

/-- The separators `_common_prefix` strips from the end of a prefix. -/
def separators : List Char := "_-.,/\\".data

/-- `TileImporter._common_prefix(collection, min_length)`: the outer `none` where it raises, the
inner one for `None`. -/
def commonPrefix (collection : List String) (minLength : Nat) : Option (Option String) :=
  (fun pfx =>
    let pfx := rstrip separators (pfx.data.takeWhile (· ≠ '*'))
    if pfx.length < minLength then none else some ⟨pfx⟩) <$> osPathCommonprefix collection

theorem rstrip_prefix (chars s : List Char) : rstrip chars s <+: s := by
  simpa [rstrip] using List.reverse_prefix.2 (List.dropWhile_suffix (l := s.reverse) (· ∈ chars))

theorem getLast_rstrip (chars s : List Char) : ∀ c ∈ (rstrip chars s).getLast?, c ∉ chars := by
  intro c hc
  rw [rstrip, List.getLast?_reverse] at hc
  have := List.head?_dropWhile_not (· ∈ chars) s.reverse
  rw [Option.mem_def.1 hc] at this
  simpa using this

theorem star_not_mem_takeWhile (s : List Char) : '*' ∉ s.takeWhile (· ≠ '*') := fun h => by
  simpa using List.mem_takeWhile_imp h

/-- What `_common_prefix` returns: at least `min_length` characters, no `*`, no separator at its
end, and a prefix of every string of the collection. -/
theorem commonPrefix_spec (collection : List String) (minLength : Nat) :
    ∃ r, commonPrefix collection minLength = some r ∧ ∀ p ∈ r, minLength ≤ p.length ∧
      '*' ∉ p.data ∧ (∀ c ∈ p.data.getLast?, c ∉ separators) ∧
      ∀ s ∈ collection, p.data <+: s.data := by
  obtain ⟨pfx, h, hpre, -⟩ := osPathCommonprefix_spec collection
  have hstrip := rstrip_prefix separators (pfx.data.takeWhile (· ≠ '*'))
  refine ⟨_, by rw [commonPrefix, h]; rfl, fun p hp => ?_⟩
  dsimp only at hp
  split_ifs at hp with hlen
  · cases hp
  · cases hp
    exact ⟨not_lt.1 hlen, fun h => star_not_mem_takeWhile _ (hstrip.subset h),
      getLast_rstrip _ _, fun s hs => hstrip.trans ((List.takeWhile_prefix _).trans (hpre s hs))⟩

theorem commonPrefix_congr {c₁ c₂ : List String} (h : ∀ s, s ∈ c₁ ↔ s ∈ c₂) (minLength : Nat) :
    commonPrefix c₁ minLength = commonPrefix c₂ minLength := by
  rw [commonPrefix, commonPrefix, osPathCommonprefix_congr h]

end CommonPrefix

section Infer

/-- The parts `pathlib.PurePosixPath(source)` keeps below its anchor: empty parts and `.` go. -/
def pathParts (source : String) : List (List Char) :=
  (source.data.splitOn '/').filter fun part => !part.isEmpty && part != ['.']

/-- `Path(source).name`. -/
def pathName (source : String) : String := ⟨(pathParts source).getLastD []⟩

/-- `path.parents[0].name if path.parents else "*"`. -/
def parentName (source : String) : String :=
  match pathParts source with
  | [] => "*"
  | parts => ⟨parts.dropLast.getLastD []⟩

/-- `TileImporter.infer_dataset_path(sources)`, with the two sets as lists in the order of the
sources; `DATASET_CLASS.remove_tile_extension` is not part of the modelled sources. -/
def inferDatasetPath (removeTileExtension : String → String) (sources : List String) :
    Option (Option String) := do
  let names := sources.map fun source => removeTileExtension (pathName source)
  let parentNames := sources.map parentName
  match ← commonPrefix names 4 with
  | some result => pure (some result)
  | none => commonPrefix parentNames 4

/-- The inferred path has at least four characters, no `*` and no separator at its end, and is a
prefix of the name of every source, or of the name of the directory of every source. -/
theorem inferDatasetPath_spec (removeTileExtension : String → String) (sources : List String) :
    ∃ r, inferDatasetPath removeTileExtension sources = some r ∧ ∀ p ∈ r, 4 ≤ p.length ∧
      '*' ∉ p.data ∧ (∀ c ∈ p.data.getLast?, c ∉ separators) ∧
      ((∀ s ∈ sources, p.data <+: (removeTileExtension (pathName s)).data) ∨
        ∀ s ∈ sources, p.data <+: (parentName s).data) := by
  obtain ⟨r₁, h₁, hspec₁⟩ := commonPrefix_spec (sources.map fun s => removeTileExtension (pathName s)) 4
  obtain ⟨r₂, h₂, hspec₂⟩ := commonPrefix_spec (sources.map parentName) 4
  cases r₁ with
  | some p =>
    refine ⟨some p, by simp [inferDatasetPath, h₁], fun q hq => ?_⟩
    cases hq
    obtain ⟨hlen, hstar, hlast, hpre⟩ := hspec₁ p rfl
    exact ⟨hlen, hstar, hlast, .inl fun s hs => hpre _ (List.mem_map_of_mem _ hs)⟩
  | none =>
    refine ⟨r₂, by simp [inferDatasetPath, h₁, h₂], fun q hq => ?_⟩
    obtain ⟨hlen, hstar, hlast, hpre⟩ := hspec₂ q hq
    exact ⟨hlen, hstar, hlast, .inr fun s hs => hpre _ (List.mem_map_of_mem _ hs)⟩

example : inferDatasetPath id ["data/auckland_0_0.laz", "data/auckland_0_1.laz"] =
    some (some "auckland_0") := by decide

/-- The inferred path depends only on which sources are given: not on their order, in which the
`set`s of names are built, nor on repeats. -/
theorem inferDatasetPath_congr (removeTileExtension : String → String) {sources₁ sources₂ : List String}
    (h : ∀ s, s ∈ sources₁ ↔ s ∈ sources₂) :
    inferDatasetPath removeTileExtension sources₁ = inferDatasetPath removeTileExtension sources₂ := by
  have hmap (f : String → String) (n : String) : n ∈ sources₁.map f ↔ n ∈ sources₂.map f := by
    simp only [List.mem_map, h]
  simp only [inferDatasetPath, commonPrefix_congr (hmap _) 4]

theorem inferDatasetPath_congr_reordered :
    let sources₁ := ["a/tiles_01.laz", "b/tiles_02.laz"]
    let sources₂ := ["b/tiles_02.laz", "a/tiles_01.laz", "b/tiles_02.laz"]
    (∀ s, s ∈ sources₁ ↔ s ∈ sources₂) ∧
      inferDatasetPath id sources₁ = inferDatasetPath id sources₂ :=
  have h : ∀ s, s ∈ ["a/tiles_01.laz", "b/tiles_02.laz"] ↔
      s ∈ ["b/tiles_02.laz", "a/tiles_01.laz", "b/tiles_02.laz"] := fun s => by
    simp only [List.mem_cons, List.mem_singleton, List.not_mem_nil, or_false]
    tauto
  ⟨h, inferDatasetPath_congr id h⟩

end Infer

end Kart.Tile
