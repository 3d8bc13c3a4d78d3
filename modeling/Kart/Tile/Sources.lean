import Mathlib.Data.List.Perm.Subperm
import Mathlib.Data.List.Basic
import Kart.DiffStructs.Dict
set_option autoImplicit false

/-!
# Checking and expanding the sources of a tile import

`TileImporter.preprocess_sources` checks every source, and then replaces each source holding `*`
by what it expands to: the matches of `glob.glob` for a local path, those of `expand_s3_glob` for
an S3 URL. The check comes first, and it asks of every local source, `*` or not, that it names a
file. So a local wildcard is rejected unless a file is named by the pattern itself, however many
files it matches, and the expansion of local wildcards is reached only in that case.

When the sources are accepted, the list they leave holds, up to order, every source without `*`
and the expansion of every source with one.
-/
namespace Kart.Tile
open Kart.DiffStructs

/-- The exceptions of `preprocess_sources`: click's `UsageError`, and Kart's `NotFound` with its
exit code. -/
inductive SourceError
  | usageError (msg : String)
  | notFound (msg : String) (exitCode : Nat)
deriving DecidableEq, Repr

/-- `NO_IMPORT_SOURCE`. -/
def noImportSource : Nat := 47

/-- What `preprocess_sources` asks of the file system and of S3, none of it part of the modelled
sources: `(Path() / source).is_file()`, `glob.glob` and `expand_s3_glob`. -/
structure SourceEnv where
  isFile : String → Bool
  glob : String → List String
  expandS3Glob : String → List String

/-- A character of the class `[A-Za-z0-9-]`. -/
def isSchemeChar (c : Char) : Bool := c.isAlphanum || c = '-'

/-- `URI_PATTERN.match(source)` and its group: up to 20 scheme characters, then `://`. -/
def uriScheme (source : String) : Option String :=
  let scheme := source.toList.takeWhile isSchemeChar
  if scheme.length ≤ 20 ∧ (source.toList.drop scheme.length).take 3 = "://".toList then
    some (String.mk scheme)
  else none

/-- The `UsageError` for a source whose scheme is not in `ALLOWED_SCHEMES`. -/
def badScheme (source scheme : String) : SourceError :=
  .usageError s!"SOURCE {source} should be a path to a file or an S3 URL, not a {scheme} URI"

/-- The `NotFound` for a source that names no data. -/
def noData (source : String) : SourceError :=
  .notFound s!"No data found at {source}" noImportSource

section
variable (env : SourceEnv)

/-- The sanity check of one source, in the first loop of `preprocess_sources`: its scheme is
`None` or `s3`, and a source without one names a file. -/
def checkSource (source : String) : Except SourceError Unit :=
  match uriScheme source with
  | none => if env.isFile source then pure () else throw (noData source)
  | some "s3" => pure ()
  | some scheme => throw (badScheme source scheme)

/-- `TileImporter.expand_source_wildcard`. -/
def expandSourceWildcard (source : String) : Except SourceError (List String) :=
  match uriScheme source with
  | some "s3" => pure (env.expandS3Glob source)
  | none =>
    let expanded := env.glob source
    if expanded.isEmpty then throw (noData source) else pure expanded
  | some scheme => throw (badScheme source scheme)

/-- One turn of the second loop: a source with `*` is removed from the list, and its expansion
appended. -/
def expandStep (sources : List String) (source : String) : Except SourceError (List String) :=
  if '*' ∈ source.toList then do
    let expanded ← expandSourceWildcard env source
    pure (sources.erase source ++ expanded)
  else pure sources

/-- `TileImporter.preprocess_sources`, with the list it leaves in `sources`. -/
def preprocessSources (sources : List String) : Except SourceError (List String) := do
  sources.forM (checkSource env)
  sources.foldlM (expandStep env) sources

end

section Spec
variable {env : SourceEnv}

/-- What a source with `*` is replaced by, once accepted. -/
def expansion (env : SourceEnv) (source : String) : List String :=
  if uriScheme source = some "s3" then env.expandS3Glob source else env.glob source

theorem checkSource_eq_ok {source : String} :
    checkSource env source = .ok () ↔
      (uriScheme source = none ∧ env.isFile source = true) ∨ uriScheme source = some "s3" := by
  unfold checkSource
  split
  · rename_i h; by_cases hf : env.isFile source <;> simp [h, hf]
  · simp_all
  · rename_i scheme h hs
    simp only [hs, throw_eq_error, reduceCtorEq, false_iff, not_or, Option.some.injEq]
    exact ⟨nofun, h⟩

theorem forM_checkSource_eq_ok {sources : List String} :
    sources.forM (checkSource env) = .ok () ↔ ∀ s ∈ sources, checkSource env s = .ok () := by
  induction sources with
  | nil => simp [List.forM]
  | cons s l ih =>
    simp only [List.forM]
    cases h : checkSource env s with
    | error e => simp [h]
    | ok u => cases u; simp [ih, h]

theorem expandSourceWildcard_eq_ok {source : String} {expanded : List String}
    (h : expandSourceWildcard env source = .ok expanded) : expanded = expansion env source := by
  unfold expandSourceWildcard at h
  unfold expansion
  split at h
  · rename_i hs; simp_all
  · rename_i hs
    dsimp only at h
    split at h <;> simp_all
  · simp at h

theorem expandSourceWildcard_ok_of {source : String} (hs : checkSource env source = .ok ())
    (hglob : uriScheme source = none → env.glob source ≠ []) :
    expandSourceWildcard env source = .ok (expansion env source) := by
  rcases checkSource_eq_ok.1 hs with ⟨h, -⟩ | h
  · have := hglob h
    simp [expandSourceWildcard, expansion, h, this]
  · simp [expandSourceWildcard, expansion, h]

open List in
/-- The second loop, over the sources `l` left of its snapshot, from a list that still holds every
one of them with `*`: the list it leaves, with those sources, is the list it started from with
their expansions. -/
theorem foldlM_expandStep {l acc r : List String} (h : l.foldlM (expandStep env) acc = .ok r)
    (hacc : l.filter (fun s => '*' ∈ s.toList) <+~ acc) :
    (∀ s ∈ l, '*' ∈ s.toList → expandSourceWildcard env s = .ok (expansion env s)) ∧
    (r ++ l.filter fun s => '*' ∈ s.toList).Perm
      (acc ++ (l.filter fun s => '*' ∈ s.toList).flatMap (expansion env)) := by
  induction l generalizing acc with
  | nil => simp_all
  | cons s l ih =>
    rw [List.foldlM_cons, bind_eq_ok] at h
    obtain ⟨acc', hstep, h⟩ := h
    unfold expandStep at hstep
    split at hstep
    · rename_i hw
      obtain ⟨e, he, hacc'⟩ := bind_eq_ok.1 hstep
      rw [pure_eq_ok, Except.ok.injEq] at hacc'
      subst hacc'
      have he' := expandSourceWildcard_eq_ok he
      subst he'
      rw [List.filter_cons_of_pos (by simpa using hw)] at hacc ⊢
      have hmem : s ∈ acc := hacc.subset (List.mem_cons_self _ _)
      have hacc' : l.filter (fun s => '*' ∈ s.toList) <+~ acc.erase s ++ expansion env s :=
        (by simpa using hacc.erase s : _ <+~ acc.erase s).trans (List.sublist_append_left _ _).subperm
      obtain ⟨hl, hp⟩ := ih h hacc'
      refine ⟨List.forall_mem_cons.2 ⟨fun _ => he, hl⟩, ?_⟩
      have hperm : (s :: acc.erase s).Perm acc := (List.perm_cons_erase hmem).symm
      rw [List.flatMap_cons, ← List.append_assoc]
      refine List.perm_middle.trans ((hp.cons s).trans ?_)
      simpa only [List.cons_append, List.append_assoc] using hperm.append_right _
    · rename_i hw
      cases hstep
      rw [List.filter_cons_of_neg (by simpa using hw)] at hacc ⊢
      obtain ⟨hl, hp⟩ := ih h hacc
      exact ⟨List.forall_mem_cons.2 ⟨fun hw' => absurd hw' hw, hl⟩, hp⟩

theorem foldlM_expandStep_ok_of (l : List String)
    (hl : ∀ s ∈ l, '*' ∈ s.toList → ∃ e, expandSourceWildcard env s = .ok e) (acc : List String) :
    ∃ r, l.foldlM (expandStep env) acc = .ok r := by
  induction l generalizing acc with
  | nil => exact ⟨acc, rfl⟩
  | cons s l ih =>
    have hl' := fun s' hs' => hl s' (List.mem_cons_of_mem _ hs')
    rw [List.foldlM_cons]
    unfold expandStep
    split
    · obtain ⟨e, he⟩ := hl s (List.mem_cons_self _ _) ‹_›
      simpa [he] using ih hl' _
    · simpa using ih hl' acc

theorem glob_ne_nil_of_expandSourceWildcard {source : String} {expanded : List String}
    (h : expandSourceWildcard env source = .ok expanded) (hlocal : uriScheme source = none) :
    env.glob source ≠ [] := by
  unfold expandSourceWildcard at h
  rw [hlocal] at h
  dsimp only at h
  split at h <;> simp_all

/-- What `preprocess_sources` accepts, and what it leaves: every source passes the sanity check and
every local source with `*` matches some file; the list left holds, up to order, the sources
without `*` and the expansions of those with one. -/
theorem preprocessSources_spec (sources : List String) :
    ((∃ r, preprocessSources env sources = .ok r) ↔
      (∀ s ∈ sources, checkSource env s = .ok ()) ∧
      ∀ s ∈ sources, '*' ∈ s.toList → uriScheme s = none → env.glob s ≠ []) ∧
    ∀ r, preprocessSources env sources = .ok r →
      r.Perm (sources.filter (fun s => '*' ∉ s.toList) ++
        (sources.filter fun s => '*' ∈ s.toList).flatMap (expansion env)) := by
  have hsnap : (sources.filter fun s => '*' ∈ s.toList).Subperm sources :=
    (List.filter_sublist _).subperm
  have hsplit : (sources.filter (fun s => '*' ∈ s.toList) ++
      sources.filter fun s => '*' ∉ s.toList).Perm sources := by
    simpa using List.filter_append_perm (fun s => decide ('*' ∈ s.toList)) sources
  unfold preprocessSources
  refine ⟨⟨fun ⟨r, h⟩ => ?_, fun ⟨hc, hg⟩ => ?_⟩, fun r h => ?_⟩
  · obtain ⟨⟨⟩, hf, h⟩ := bind_eq_ok.1 h
    have hw := (foldlM_expandStep h hsnap).1
    exact ⟨forM_checkSource_eq_ok.1 hf, fun s hs hs' hlocal =>
      glob_ne_nil_of_expandSourceWildcard (hw s hs hs') hlocal⟩
  · obtain ⟨r, h⟩ := foldlM_expandStep_ok_of sources (fun s hs _ =>
      ⟨_, expandSourceWildcard_ok_of (hc s hs) (hg s hs ‹_›)⟩) sources
    exact ⟨r, bind_eq_ok.2 ⟨(), forM_checkSource_eq_ok.2 hc, h⟩⟩
  · obtain ⟨⟨⟩, -, h⟩ := bind_eq_ok.1 h
    have hp := (foldlM_expandStep h hsnap).2
    rw [← List.perm_append_right_iff (sources.filter fun s => '*' ∈ s.toList)]
    refine hp.trans ((hsplit.symm.append_right _).trans ?_)
    rw [List.append_assoc]
    exact List.perm_append_comm

/-- A local source with `*` that does not itself name a file makes `preprocess_sources` raise,
whatever files the pattern matches: the sanity check reaches it before its expansion does. Alone,
it raises the `NotFound` of the sanity check. -/
theorem preprocessSources_local_wildcard {sources : List String} {source : String}
    (hs : source ∈ sources) (hlocal : uriScheme source = none)
    (hfile : env.isFile source = false) :
    (∀ r, preprocessSources env sources ≠ .ok r) ∧
    (sources = [source] → preprocessSources env sources = .error (noData source)) := by
  have hcheck : checkSource env source = .error (noData source) := by
    simp [checkSource, hlocal, hfile]
  refine ⟨fun r h => ?_, fun h => ?_⟩
  · obtain ⟨hc, -⟩ := (preprocessSources_spec sources).1.1 ⟨r, h⟩
    simpa [hcheck] using hc source hs
  · subst h
    simp [preprocessSources, List.forM, hcheck]

/-- The sanity check rejects the pattern of the only file it matches: `*.laz`, with `a.laz` the
only file. -/
theorem preprocessSources_local_wildcard_laz :
    let env : SourceEnv := ⟨fun s => s = "a.laz", fun s => if s = "*.laz" then ["a.laz"] else [],
      fun _ => []⟩
    env.glob "*.laz" = ["a.laz"] ∧ (∀ r, preprocessSources env ["*.laz"] ≠ .ok r) ∧
      preprocessSources env ["*.laz"] = .error (noData "*.laz") :=
  have h := @preprocessSources_local_wildcard ⟨fun s => s = "a.laz",
    fun s => if s = "*.laz" then ["a.laz"] else [], fun _ => []⟩ ["*.laz"] "*.laz"
    (List.mem_singleton_self _) (by decide) (by decide)
  ⟨rfl, h.1, h.2 rfl⟩

end Spec

end Kart.Tile
