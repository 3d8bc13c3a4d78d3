import Kart.FastImport
import Kart.DiffStructs.Dict
import Mathlib.Data.String.Basic
import Mathlib.Data.List.Pairwise
set_option autoImplicit false

/-!
# The tree a table import commits

`fast_import_tables` streams one commit to `git fast-import`: the extra blobs of a first commit,
then for each source the clearing of the dataset it replaces, its features and its meta items.
`Kart.FastImport` gives the stream's commands their meaning, a tree from path to blob; this module
models what the import writes, from `fast_import_tables`, `_import_single_source` and
`fast_import_clear_tree`, and proves what the commit's tree holds for each `ReplaceExisting`: with
the sources' datasets separate, each dataset holds what its source wrote and, with `replace_ids`,
only the replaced keys, attachments, meta items and legends change; everything else keeps what the
tree of `from_commit` held. Which errors the import raises before its commit is shown too. The
source's own reading of features (`import_iter_feature_blobs` and the sources' classes) is not part
of the modelled code: a source is given by the blobs it yields, and what the import learns from the
other code it calls (`check_valid`, `wrap_sources_if_needed`, the signatures) by a `TablesEnv`.
-/

namespace Kart.FastImport

open String in
/-- The loop of `String.substrEq` from a common prefix `l` of both strings reads the rest of the
first as a prefix of the rest of the second. -/
theorem substrEq_loop_iff (l cs ds : List Char) (hlen : utf8Len cs ≤ utf8Len ds) :
    substrEq.loop ⟨l ++ cs⟩ ⟨l ++ ds⟩ ⟨utf8Len l⟩ ⟨utf8Len l⟩
      ⟨utf8Len l + utf8Len cs⟩ = true ↔
      cs <+: ds := by
  induction cs generalizing l ds with
  | nil =>
    unfold substrEq.loop
    simp
  | cons c cs ih =>
    cases ds with
    | nil => simp at hlen; have := c.utf8Size_pos; omega
    | cons d ds =>
      unfold substrEq.loop
      have hc : (⟨l ++ c :: cs⟩ : String).get ⟨utf8Len l⟩ = c := by
        rw [get_of_valid]; rfl
      have hd : (⟨l ++ d :: ds⟩ : String).get ⟨utf8Len l⟩ = d := by
        rw [get_of_valid]; rfl
      have hlt : utf8Len l < utf8Len l + utf8Len (c :: cs) := by
        simp; have := c.utf8Size_pos; omega
      simp only [dif_pos hlt, hc, hd]
      by_cases hcd : c = d
      · subst hcd
        have := ih (l ++ [c]) ds (by simp at hlen; omega)
        simp only [List.append_assoc, List.singleton_append, utf8Len_append, utf8Len_cons,
          utf8Len_nil] at this
        simp only [beq_self_eq_true, Bool.true_and, List.cons_prefix_cons, true_and]
        rw [← this, String.Pos.addChar_eq, Nat.zero_add, utf8Len_cons,
          show utf8Len l + (utf8Len cs + c.utf8Size) = utf8Len l + c.utf8Size + utf8Len cs by omega]
      · simp [hcd]

open String in
theorem isPrefixOf_iff (p s : String) : p.isPrefixOf s = true ↔ p.data <+: s.data := by
  obtain ⟨cs⟩ := p
  obtain ⟨ds⟩ := s
  unfold String.isPrefixOf String.substrEq
  by_cases hlen : utf8Len cs ≤ utf8Len ds
  · have h := substrEq_loop_iff [] cs ds hlen
    simp only [List.nil_append, utf8Len_nil, Nat.zero_add] at h
    simpa [hlen] using h
  · simpa [hlen] using fun h => hlen ( utf8Len_le_of_prefix h)

theorem deletes_iff {p q : String} :
    deletes p q = true ↔ q = p ∨ p.data ++ ['/'] <+: q.data := by
  simp only [deletes, Bool.or_eq_true, beq_iff_eq, isPrefixOf_iff]
  rfl

/-- `deletes` as a decidable statement about the paths' characters, which `decide` evaluates. -/
theorem deletes_eq_decide (p q : String) :
    deletes p q = decide (q = p ∨ p.data ++ ['/'] <+: q.data) := by
  rw [Bool.eq_iff_iff, deletes_iff, decide_eq_true_iff]

theorem deletes_self (p : String) : deletes p p = true := deletes_iff.2 (.inl rfl)

/-- What a delete of a path below `d` removes is below `d`. -/
theorem deletes_trans {d p q : String} (h₁ : deletes d p = true) (h₂ : deletes p q = true) :
    deletes d q = true := by
  rw [deletes_iff] at *
  rcases h₂ with rfl | h₂
  · exact h₁
  rcases h₁ with rfl | h₁
  · exact .inr h₂
  · exact .inr (h₁.trans ((List.prefix_append _ _).trans h₂))

/-- Two paths that are not one below the other have nothing below both. -/
theorem deletes_overlap {d₁ d₂ q : String} (h₁ : deletes d₁ q = true)
    (h₂ : deletes d₂ q = true) :
    deletes d₁ d₂ = true ∨ deletes d₂ d₁ = true := by
  simp only [deletes_iff] at *
  rcases h₁ with rfl | h₁
  · exact .inr h₂
  rcases h₂ with rfl | h₂
  · exact .inl (.inr h₁)
  have key : ∀ {a b : List Char}, a ++ ['/'] <+: b ++ ['/'] → b = a ∨ a ++ ['/'] <+: b := by
    intro a b h
    rcases List.prefix_concat_iff.1 h with h | h
    · exact .inl (List.append_inj_left' h rfl).symm
    · exact .inr h
  rcases List.prefix_or_prefix_of_prefix h₁ h₂ with h | h
  · rcases key h with h | h
    · exact .inl (.inl (String.ext h))
    · exact .inl (.inr h)
  · rcases key h with h | h
    · exact .inr (.inl (String.ext h))
    · exact .inr (.inr h)

theorem deletes_append_slash (d x : String) : deletes d (d ++ "/" ++ x) = true :=
  deletes_iff.2 (.inr ⟨x.data, rfl⟩)

/-- `ReplaceExisting`: which datasets of the repository an import replaces. -/
inductive ReplaceExisting
  | dontReplace
  | given
  | all
deriving DecidableEq, Repr

/-- `from_commit`: left unspecified (`UNSPECIFIED`), `None`, or a commit, given by its id. -/
inductive FromCommit
  | unspecified
  | noCommit
  | commit (oid : String)
deriving DecidableEq, Repr

/-- The exceptions `fast_import_tables` raises before `git fast-import` has its commit; `outside`
is one raised by code that is not part of the modelled sources, by its class name. -/
inductive TablesError
  | runtimeError (msg : String)
  | invalidOperation (msg : String)
  | assertionError
  | valueError (msg : String)
  | stopIteration
  | outside (exc : String)
deriving DecidableEq, Repr

/-- What `fast_import_clear_tree` reads of the dataset an import replaces: the names of the blobs
at the top of its tree, its `DATASET_DIRNAME`, and `iter_legend_blob_data()`. -/
structure ReplacingDataset where
  attachmentNames : List String
  dirname : String
  legendBlobs : List (String × List UInt8)

/-- What the import reads of a `TableImportSource` through the dataset it writes, which is not part
of the modelled sources: its `dest_path`; its features, in the order `source.features()` yields
them, each with its primary key and the path and blob the dataset writes for it (the id of a blob
already written, for a source whose blobs are reused); the path of a primary key,
`dataset.encode_pks_to_path(dataset.schema.sanitise_pks(pk))`; and its meta blobs. -/
structure TableSource (Pk : Type) where
  destPath : String
  features : List (Pk × String × Blob)
  encodePks : Pk → String
  metaBlobs : List (String × List UInt8)

variable {Pk : Type}

/-- `source.get_features([pk], ignore_missing=True)`: the source's feature with that key, if any. -/
def TableSource.getFeature [DecidableEq Pk] (source : TableSource Pk) (pk : Pk) :
    Option (String × Blob) :=
  (source.features.find? fun f => f.1 = pk).map (·.2)

/-- `write_blob_to_stream` of a blob given by path and bytes. -/
def blobCommand (blob : String × List UInt8) : Command String := .inline blob.1 blob.2

/-- The write of a feature: `write_blob_to_stream` for its bytes, `copy_existing_blob_to_stream`
for a blob already written. -/
def featureCommand : String × Blob → Command String
  | (path, .bytes data) => .inline path data
  | (path, .existing sha) => .copy sha path

/-- `fast_import_clear_tree(proc, replace_ids, replacing_dataset, source)`. -/
def fastImportClearTree (replaceIds : Option (List Pk)) (replacingDataset : Option ReplacingDataset)
    (source : TableSource Pk) : List (Command String) :=
  match replacingDataset with
  | none => []
  | some dataset =>
    let destPath := source.destPath
    let destInnerPath := destPath ++ "/" ++ dataset.dirname
    (match replaceIds with
      | none => [.delete source.destPath]
      | some _ => dataset.attachmentNames.map (fun name => .delete (destPath ++ "/" ++ name)) ++
          [.delete (destInnerPath ++ "/meta")]) ++
      dataset.legendBlobs.map blobCommand

/-- The feature loop of `_import_single_source`, from the feature numbered `i`: each feature is
written, and the loop stops after the one numbered `limit - 1` (a `limit` of `0` stops nowhere). -/
def writeFeatures (limit : Option Nat) : Nat → List (String × Blob) → List (Command String)
  | _, [] => []
  | i, f :: fs => featureCommand f ::
    if limit = some (i + 1) then [] else writeFeatures limit (i + 1) fs

/-- The feature loop with `replace_ids`: `source.get_features` pulls the ids one by one, the `_ids`
generator writing each one's delete as it is pulled, and yields the id's feature when the source
has one; the loop stops after the feature numbered `limit - 1`. -/
def writeReplacedFeatures [DecidableEq Pk] (source : TableSource Pk) (limit : Option Nat) :
    Nat → List Pk → List (Command String)
  | _, [] => []
  | i, pk :: pks => .delete (source.encodePks pk) ::
    match source.getFeature pk with
    | none => writeReplacedFeatures source limit i pks
    | some f => featureCommand f ::
      if limit = some (i + 1) then [] else writeReplacedFeatures source limit (i + 1) pks

/-- `_import_single_source(repo, source, replace_existing, from_commit, proc, replace_ids, limit,
verbosity)`: what it writes; `datasetAt` is `repo.datasets(refish=from_commit)`. -/
def importSingleSource [DecidableEq Pk] (datasetAt : String → Option ReplacingDataset)
    (replaceExisting : ReplaceExisting) (replaceIds : Option (List Pk)) (limit : Option Nat)
    (source : TableSource Pk) : List (Command String) :=
  (if replaceExisting = .given then
    fastImportClearTree replaceIds (datasetAt source.destPath) source else []) ++
  (match replaceIds with
    | some ids => writeReplacedFeatures source limit 0 ids
    | none => writeFeatures limit 0 (source.features.map (·.2))) ++
  source.metaBlobs.map blobCommand

/-- What `fast_import_tables` reads of the repository: the tree of each commit, as the blobs at
its paths, with `path in tree` (true for a path with anything at or below it); the datasets of a
commit (`repo.datasets(refish=from_commit)`); and `extra_blobs_for_version(...)`. -/
structure TablesRepo where
  treeOf : String → String → Option Blob
  treeHas : String → String → Bool
  treeHas_of : ∀ oid path q, deletes path q = true → treeOf oid q ≠ none →
    treeHas oid path = true
  datasetAt : Option String → String → Option ReplacingDataset
  extraBlobs : List (String × List UInt8)

/-- What one run of `fast_import_tables` learns from code outside the modelled sources: whether
`repo.table_dataset_version` is in `SUPPORTED_VERSIONS`; the outcomes of `check_valid` and of
`wrap_sources_if_needed` (a source is given by what the wrapped source yields); the `uuid4()` of
the temporary branch; the two signatures, which run `git var`; the first source's
`aggregate_import_source_desc(sources)`; and `minutes_to_tz_offset`. -/
structure TablesEnv where
  tableDatasetVersionSupported : Bool
  checkValid : Except TablesError Unit
  wrapSourcesIfNeeded : Except TablesError Unit
  uuid4 : String
  authorSignature : Except TablesError Signature
  committerSignature : Except TablesError Signature
  aggregateImportSourceDesc : String
  minutesToTzOffset : Int → String

/-- `generate_message(sources)`: `next(iter(sources))` raises `StopIteration` when there is no
source. -/
def generateMessage (env : TablesEnv) : List (TableSource Pk) → Except TablesError String
  | [] => throw .stopIteration
  | _ :: _ => pure env.aggregateImportSourceDesc

/-- `generate_header(repo, sources, message, branch, from_commit)`. -/
def TablesEnv.generateHeader (env : TablesEnv) (sources : List (TableSource Pk))
    (message : Option String) (branch : String) (fromOid : Option String) :
    Except TablesError String := do
  let message ← (match message with
    | none => generateMessage env sources
    | some message => pure message)
  let author ← env.authorSignature
  let committer ← env.committerSignature
  pure (Kart.FastImport.generateHeader env.minutesToTzOffset author committer message branch fromOid)

/-- `path in from_tree`, the empty tree when there is no `from_commit`. -/
def TablesRepo.inFromTree (repo : TablesRepo) : Option String → String → Bool
  | some oid, path => repo.treeHas oid path
  | none, _ => false

/-- The commit `fast_import_tables` starts from: `None` when all datasets are replaced, and
`RuntimeError` when the caller left it unspecified. -/
def resolveFromCommit (replaceExisting : ReplaceExisting) (fromCommit : FromCommit) :
    Except TablesError (Option String) :=
  match if replaceExisting = .all then FromCommit.noCommit else fromCommit with
  | .unspecified => throw (.runtimeError ("Caller should specify from_commit when requesting an " ++
      "import that doesn't start from scratch"))
  | .noCommit => pure none
  | .commit oid => pure (some oid)

/-- The checks of `ReplaceExisting.DONT_REPLACE`: no source goes where the tree has something, and
there are no ids to replace. -/
def checkDontReplace (replaceExisting : ReplaceExisting) (inFromTree : String → Bool)
    (sources : List (TableSource Pk)) (replaceIds : Option (List Pk)) : Except TablesError Unit :=
  if replaceExisting = .dontReplace then do
    sources.forM fun source =>
      if inFromTree source.destPath then
        throw (.invalidOperation ("Cannot import to " ++ source.destPath ++
          "/ - already exists in repository"))
      else pure ()
    if replaceIds.isSome then throw .assertionError else pure ()
  else pure ()

/-- The check made as each extra blob is written. -/
def checkExtraBlobs (replaceExisting : ReplaceExisting) (inFromTree : String → Bool)
    (extraBlobs : List (String × List UInt8)) : Except TablesError Unit :=
  extraBlobs.forM fun blob =>
    if replaceExisting ≠ .all && inFromTree blob.1 then
      throw (.valueError (blob.1 ++ " already exists"))
    else pure ()

/-- `fast_import_tables(repo, sources, message=..., replace_existing=..., from_commit=...,
replace_ids=..., limit=..., header=...)` up to the end of the stream: the header it writes, the
commit the stream starts from and the commands it holds after the header. -/
def fastImportTables [DecidableEq Pk] (env : TablesEnv) (repo : TablesRepo)
    (sources : List (TableSource Pk)) (message : Option String) (replaceExisting : ReplaceExisting)
    (fromCommit : FromCommit) (replaceIds : Option (List Pk)) (limit : Option Nat)
    (header : Option String) :
    Except TablesError (String × Option String × List (Command String)) := do
  let fromOid ← resolveFromCommit replaceExisting fromCommit
  (if env.tableDatasetVersionSupported then pure () else throw .assertionError)
  let extraBlobs := if fromOid.isNone then repo.extraBlobs else []
  env.checkValid
  checkDontReplace replaceExisting (repo.inFromTree fromOid) sources replaceIds
  env.wrapSourcesIfNeeded
  let header ← (match header with
    | none => env.generateHeader sources message ("refs/kart-import/" ++ env.uuid4) fromOid
    | some header => pure header)
  checkExtraBlobs replaceExisting (repo.inFromTree fromOid) extraBlobs
  pure (header, fromOid, extraBlobs.map blobCommand ++
    sources.flatMap (importSingleSource (repo.datasetAt fromOid) replaceExisting replaceIds limit))

section Tree
open Kart.DiffStructs

/-- The path a command writes or deletes. -/
def Command.target : Command String → String
  | .inline p _ | .copy _ p | .delete p => p

theorem Command.touches_below {d q : String} (c : Command String) (hc : deletes d c.target = true)
    (ht : c.Touches q = true) : deletes d q = true := by
  cases c with
  | inline p _ | copy _ p => rw [beq_iff_eq.1 ht]; exact hc
  | delete p => exact deletes_trans hc ht

/-- What the tree holds at a path after a command depends only on what it held there before. -/
theorem applyCommands_congr_at (cs : List (Command String)) {t t' : String → Option Blob}
    {q : String}
    (h : t q = t' q) : applyCommands t cs q = applyCommands t' cs q := by
  induction cs generalizing t t' with
  | nil => exact h
  | cons c cs ih =>
    apply ih
    cases c <;> simp only [Command.apply, Function.update_apply, h]

/-- At a path only one block of a stream touches, the stream leaves what that block alone makes of
the tree before it. -/
theorem applyCommands_flatMap_at {ι : Type} (block : ι → List (Command String)) {l : List ι}
    {i : ι}
    (hi : i ∈ l) (hnodup : l.Nodup) {q : String}
    (hothers : ∀ j ∈ l, j ≠ i → ∀ c ∈ block j, c.Touches q = false)
    (t : String → Option Blob) :
    applyCommands t (l.flatMap block) q = applyCommands t (block i) q := by
  induction l generalizing t with
  | nil => cases hi
  | cons j l ih =>
    rw [List.flatMap_cons, applyCommands_append]
    obtain ⟨hj, hl⟩ := List.nodup_cons.1 hnodup
    rcases List.mem_cons.1 hi with rfl | hi
    · refine applyCommands_of_not_touches _ _ q fun c hc => ?_
      obtain ⟨j, hj', hc⟩ := List.mem_flatMap.1 hc
      exact hothers j (.tail _ hj') (fun h => hj (h ▸ hj')) c hc
    · have hji : j ≠ i := fun h => hj (h ▸ hi)
      rw [ih hi hl (fun j' hj' => hothers j' (.tail _ hj')), applyCommands_congr_at _
        (applyCommands_of_not_touches _ _ q (hothers j (.head _) hji))]

end Tree

section Blocks
open Kart.DiffStructs
variable {Pk : Type} [DecidableEq Pk]

/-- Every path the import writes for a source is at or below its `dest_path`: the paths of its
features, of its keys and of its meta blobs, and those of the legends of the dataset it
replaces. -/
structure TableSource.Within (source : TableSource Pk)
    (datasetAt : String → Option ReplacingDataset) :
    Prop where
  features : ∀ f ∈ source.features, deletes source.destPath f.2.1 = true
  keys : ∀ pk, deletes source.destPath (source.encodePks pk) = true
  metaBlobs : ∀ blob ∈ source.metaBlobs, deletes source.destPath blob.1 = true
  legends : ∀ dataset, datasetAt source.destPath = some dataset →
    ∀ blob ∈ dataset.legendBlobs, deletes source.destPath blob.1 = true

@[simp] theorem featureCommand_target (f : String × Blob) : (featureCommand f).target = f.1 := by
  rcases f with ⟨_, _ | _⟩ <;> rfl

theorem TableSource.getFeature_mem {source : TableSource Pk} {pk : Pk} {f : String × Blob}
    (h : source.getFeature pk = some f) : ∃ g ∈ source.features, g.2 = f := by
  obtain ⟨g, hg, rfl⟩ := Option.map_eq_some'.1 h
  exact ⟨g, List.mem_of_find?_eq_some hg, rfl⟩

theorem mem_writeFeatures {limit : Option Nat} {c : Command String} :
    ∀ {i : Nat} {fs : List (String × Blob)}, c ∈ writeFeatures limit i fs →
      ∃ f ∈ fs, c = featureCommand f
  | _, [], h => nomatch h
  | i, f :: fs, h => by
    simp only [writeFeatures] at h
    rcases List.mem_cons.1 h with rfl | h
    · exact ⟨f, .head _, rfl⟩
    split at h
    · cases h
    · obtain ⟨f', hf', rfl⟩ := mem_writeFeatures h
      exact ⟨f', .tail _ hf', rfl⟩

theorem mem_writeReplacedFeatures {source : TableSource Pk} {limit : Option Nat}
    {c : Command String} :
    ∀ {i : Nat} {ids : List Pk}, c ∈ writeReplacedFeatures source limit i ids →
      ∃ pk ∈ ids, c = .delete (source.encodePks pk) ∨
        ∃ f, source.getFeature pk = some f ∧ c = featureCommand f
  | _, [], h => nomatch h
  | i, pk :: ids, h => by
    simp only [writeReplacedFeatures] at h
    rcases List.mem_cons.1 h with rfl | h
    · exact ⟨pk, .head _, .inl rfl⟩
    have tail : ∀ j, c ∈ writeReplacedFeatures source limit j ids →
        ∃ k ∈ pk :: ids, c = .delete (source.encodePks k) ∨
          ∃ f, source.getFeature k = some f ∧ c = featureCommand f := fun _ h => by
      obtain ⟨pk', hpk', hc⟩ := mem_writeReplacedFeatures h
      exact ⟨pk', .tail _ hpk', hc⟩
    split at h
    · exact tail _ h
    · next f hf =>
      rcases List.mem_cons.1 h with rfl | h
      · exact ⟨pk, .head _, .inr ⟨f, hf, rfl⟩⟩
      split at h
      · cases h
      · exact tail _ h

/-- Everything the import writes for a source lies at or below its `dest_path`. -/
theorem importSingleSource_below {datasetAt : String → Option ReplacingDataset}
    {source : TableSource Pk} (hw : source.Within datasetAt) (replaceExisting : ReplaceExisting)
    (replaceIds : Option (List Pk)) (limit : Option Nat) :
    ∀ c ∈ importSingleSource datasetAt replaceExisting replaceIds limit source,
      deletes source.destPath c.target = true := by
  have hfeature : ∀ f ∈ source.features.map (·.2),
      deletes source.destPath (featureCommand f).target = true := by
    intro f hf
    obtain ⟨g, hg, rfl⟩ := List.mem_map.1 hf
    simpa using hw.features g hg
  intro c hc
  simp only [importSingleSource, List.mem_append] at hc
  rcases hc with (hc | hc) | hc
  · split at hc
    · simp only [fastImportClearTree] at hc
      split at hc
      · cases hc
      next dataset hdataset =>
      rw [List.mem_append] at hc
      rcases hc with hc | hc
      · split at hc
        · rw [List.mem_singleton.1 hc]
          exact deletes_self _
        · rcases List.mem_append.1 hc with hc | hc
          · obtain ⟨name, -, rfl⟩ := List.mem_map.1 hc
            exact deletes_append_slash _ _
          · rw [List.mem_singleton.1 hc]
            show deletes _ (source.destPath ++ "/" ++ dataset.dirname ++ "/meta") = true
            rw [String.append_assoc]
            exact deletes_append_slash _ _
      · obtain ⟨blob, hblob, rfl⟩ := List.mem_map.1 hc
        exact hw.legends dataset hdataset blob hblob
    · cases hc
  · split at hc
    · obtain ⟨pk, -, rfl | ⟨f, hf, rfl⟩⟩ := mem_writeReplacedFeatures hc
      · exact hw.keys pk
      · obtain ⟨g, hg, rfl⟩ := TableSource.getFeature_mem hf
        simpa using hw.features g hg
    · obtain ⟨f, hf, rfl⟩ := mem_writeFeatures hc
      exact hfeature f hf
  · obtain ⟨blob, hblob, rfl⟩ := List.mem_map.1 hc
    exact hw.metaBlobs blob hblob

/-- The features a `limit` lets through: the first `limit` of them, or all of them when there is no
limit or it is `0`. -/
def takeLimit {α : Type} : Option Nat → List α → List α
  | some (n + 1), l => l.take (n + 1)
  | _, l => l

theorem writeFeatures_eq (limit : Option Nat) :
    ∀ (i : Nat) (fs : List (String × Blob)), writeFeatures limit i fs =
      (match limit with
        | some n => if i < n then fs.take (n - i) else fs
        | none => fs).map featureCommand
  | _, [] => by split <;> (try split) <;> simp [writeFeatures]
  | i, f :: fs => by
    rw [writeFeatures, writeFeatures_eq limit (i + 1) fs]
    rcases limit with _ | n
    · simp
    · by_cases hn : n = i + 1
      · subst hn; simp
      · have hsub : n - i = n - (i + 1) + 1 ∨ ¬ i < n := by omega
        rcases hsub with hsub | hsub
        · simp [hn, hsub, show i + 1 < n by omega, show i < n by omega]
        · simp [hn, hsub, show ¬ i + 1 < n by omega]

/-- The feature loop writes the features its `limit` lets through. -/
theorem writeFeatures_zero (limit : Option Nat) (fs : List (String × Blob)) :
    writeFeatures limit 0 fs = (takeLimit limit fs).map featureCommand := by
  rw [writeFeatures_eq]
  rcases limit with _ | _ | n <;> simp [takeLimit]

theorem forM_eq_ok {ε α : Type} {l : List α} {f : α → Except ε Unit} :
    l.forM f = .ok () ↔ ∀ x ∈ l, f x = .ok () := by
  induction l with
  | nil => simp [List.forM]
  | cons a l ih =>
    simp only [List.forM, List.forall_mem_cons]
    cases h : f a with
    | error e => simp [h]
    | ok u => cases u; simp [ih]

/-- A stream `fast_import_tables` completes: the commit it starts from, the checks of
`DONT_REPLACE` passed, and its commands, the extra blobs of a first commit and then each source's
in turn. -/
theorem fastImportTables_eq_ok {env : TablesEnv} {repo : TablesRepo}
    {sources : List (TableSource Pk)} {message : Option String} {replaceExisting : ReplaceExisting}
    {fromCommit : FromCommit} {replaceIds : Option (List Pk)} {limit : Option Nat}
    {header : Option String} {hdr : String} {fromOid : Option String} {cmds : List (Command String)}
    (h : fastImportTables env repo sources message replaceExisting fromCommit replaceIds limit header =
      .ok (hdr, fromOid, cmds)) :
    resolveFromCommit replaceExisting fromCommit = .ok fromOid ∧
      (replaceExisting = .dontReplace →
        (∀ s ∈ sources, repo.inFromTree fromOid s.destPath = false) ∧ replaceIds = none) ∧
      cmds = (if fromOid.isNone then repo.extraBlobs else []).map blobCommand ++
        sources.flatMap
          (importSingleSource (repo.datasetAt fromOid) replaceExisting replaceIds limit) := by
  unfold fastImportTables at h
  obtain ⟨oid, hoid, h⟩ := bind_eq_ok.1 h
  obtain ⟨-, -, h⟩ := bind_eq_ok.1 h
  obtain ⟨-, -, h⟩ := bind_eq_ok.1 h
  obtain ⟨u, hcheck, h⟩ := bind_eq_ok.1 h
  obtain ⟨-, -, h⟩ := bind_eq_ok.1 h
  obtain ⟨_, -, h⟩ := bind_eq_ok.1 h
  obtain ⟨-, -, h⟩ := bind_eq_ok.1 h
  cases h
  refine ⟨hoid, fun hmode => ?_, rfl⟩
  unfold checkDontReplace at hcheck
  rw [if_pos hmode] at hcheck
  obtain ⟨w, hall, hids⟩ := bind_eq_ok.1 hcheck
  cases w
  refine ⟨fun s hs => ?_, ?_⟩
  · have := forM_eq_ok.1 hall s hs
    by_contra hin
    rw [if_pos (Bool.not_eq_false _ ▸ hin)] at this
    cases this
  · cases replaceIds
    · rfl
    · cases hids

end Blocks

section Replaces
open Kart.DiffStructs
variable {Pk : Type} [DecidableEq Pk]

/-- The tree `git fast-import` starts the commit from: that of its `from` commit, or none. -/
def TablesRepo.startTree (repo : TablesRepo) : Option String → String → Option Blob
  | some oid => repo.treeOf oid
  | none => fun _ => none

theorem TablesRepo.startTree_below {repo : TablesRepo} {fromOid : Option String} {d q : String}
    (hd : repo.inFromTree fromOid d = false) (hq : deletes d q = true) :
    repo.startTree fromOid q = none := by
  cases fromOid with
  | none => rfl
  | some oid =>
    by_contra h
    exact absurd (repo.treeHas_of oid d q hq h) (by simpa [TablesRepo.inFromTree] using hd)

theorem resolveFromCommit_all {fromCommit : FromCommit} {fromOid : Option String}
    (h : resolveFromCommit .all fromCommit = .ok fromOid) : fromOid = none := by
  simpa [resolveFromCommit] using h.symm

/-- How the paths of an import must lie for its datasets to be separate: each source writes only
below its `dest_path`, no source's `dest_path` lies at or below another's, and the extra blobs lie
outside all of them. -/
structure TablesRepo.Separate (repo : TablesRepo) (fromOid : Option String)
    (sources : List (TableSource Pk)) : Prop where
  within : ∀ s ∈ sources, s.Within (repo.datasetAt fromOid)
  disjoint : sources.Pairwise fun s t =>
    deletes s.destPath t.destPath = false ∧ deletes t.destPath s.destPath = false
  extra : ∀ blob ∈ repo.extraBlobs, ∀ s ∈ sources, deletes s.destPath blob.1 = false

section Stream
variable {env : TablesEnv} {repo : TablesRepo} {sources : List (TableSource Pk)}
  {message : Option String} {replaceExisting : ReplaceExisting} {fromCommit : FromCommit}
  {replaceIds : Option (List Pk)} {limit : Option Nat} {header : Option String} {hdr : String}
  {fromOid : Option String} {cmds : List (Command String)}

/-- Outside every source's dataset the stream writes only the extra blobs. -/
theorem fastImportTables_outside
    (hok : fastImportTables env repo sources message replaceExisting fromCommit replaceIds limit
      header = .ok (hdr, fromOid, cmds))
    (hsep : repo.Separate fromOid sources) {q : String}
    (hq : ∀ s ∈ sources, deletes s.destPath q = false) :
    applyCommands (repo.startTree fromOid) cmds q =
      applyCommands (repo.startTree fromOid)
        ((if fromOid.isNone then repo.extraBlobs else []).map blobCommand) q := by
  obtain ⟨-, -, rfl⟩ := fastImportTables_eq_ok hok
  rw [applyCommands_append]
  refine applyCommands_of_not_touches _ _ q fun c hc => ?_
  obtain ⟨s, hs, hc⟩ := List.mem_flatMap.1 hc
  cases ht : c.Touches q
  · rfl
  · have := c.touches_below (importSingleSource_below (hsep.within s hs) _ _ _ c hc) ht
    simp [hq s hs] at this

/-- Inside a source's dataset the stream does what that source's commands alone do. -/
theorem fastImportTables_inside
    (hok : fastImportTables env repo sources message replaceExisting fromCommit replaceIds limit
      header = .ok (hdr, fromOid, cmds))
    (hsep : repo.Separate fromOid sources) {s : TableSource Pk} (hs : s ∈ sources) {q : String}
    (hq : deletes s.destPath q = true) :
    applyCommands (repo.startTree fromOid) cmds q =
      applyCommands (repo.startTree fromOid)
        (importSingleSource (repo.datasetAt fromOid) replaceExisting replaceIds limit s) q := by
  obtain ⟨-, -, rfl⟩ := fastImportTables_eq_ok hok
  set block : TableSource Pk → List (Command String) :=
    importSingleSource (repo.datasetAt fromOid) replaceExisting replaceIds limit
  have hnodup : sources.Nodup := hsep.disjoint.imp fun h heq => by
    subst heq
    exact absurd (deletes_self _) (Bool.eq_false_iff.1 h.1)
  have hothers : ∀ t ∈ sources, t ≠ s → ∀ c ∈ block t, c.Touches q = false := by
    intro t ht hts c hc
    cases htouch : c.Touches q
    · rfl
    have hpair := hsep.disjoint.forall (fun a b h => ⟨h.2, h.1⟩) ht hs hts
    have hbelow := c.touches_below (importSingleSource_below (hsep.within t ht) _ _ _ c hc) htouch
    rcases deletes_overlap hbelow hq with h | h
    · exact absurd h (Bool.eq_false_iff.1 hpair.1)
    · exact absurd h (Bool.eq_false_iff.1 hpair.2)
  have hextra : ∀ c ∈ (if fromOid.isNone then repo.extraBlobs else []).map blobCommand,
      c.Touches q = false := by
    intro c hc
    obtain ⟨blob, hblob, rfl⟩ := List.mem_map.1 hc
    have hb : blob ∈ repo.extraBlobs := by
      split at hblob
      · exact hblob
      · cases hblob
    have hne : q ≠ blob.1 := fun h => absurd (h ▸ hq) (Bool.eq_false_iff.1 (hsep.extra blob hb s hs))
    simpa only [blobCommand, Command.Touches, beq_eq_false_iff_ne] using hne
  rw [applyCommands_append, applyCommands_flatMap_at block hs hnodup hothers,
    applyCommands_congr_at _ (applyCommands_of_not_touches _ _ q hextra)]

end Stream

@[simp] theorem apply_delete_empty (p : String) :
    Command.apply (fun _ => none) (.delete p) = fun _ => none := by
  funext q
  simp [Command.apply]

/-- What `fast_import_tables` without `replace_ids` does to the tree, as `ReplaceExisting` says.
Where the datasets are separate: with `ALL` the commit starts from nothing; every path outside the
sources' datasets keeps what the tree of `from_commit` held, or holds only an extra blob when there
is no such commit; and the dataset of each source (one the import replaces, with `GIVEN`) holds
exactly what the import writes for it, the legends of the replaced dataset, the features its
`limit` lets through and its meta items, and nothing it held before. -/
theorem fastImportTables_replaces {env : TablesEnv} {repo : TablesRepo}
    {sources : List (TableSource Pk)} {message : Option String} {replaceExisting : ReplaceExisting}
    {fromCommit : FromCommit} {limit : Option Nat} {header : Option String} {hdr : String}
    {fromOid : Option String} {cmds : List (Command String)}
    (hok : fastImportTables env repo sources message replaceExisting fromCommit none limit header =
      .ok (hdr, fromOid, cmds))
    (hsep : repo.Separate fromOid sources) :
    let tree := applyCommands (repo.startTree fromOid) cmds
    (replaceExisting = .all → fromOid = none) ∧
    (∀ oid, fromOid = some oid →
      ∀ q, (∀ s ∈ sources, deletes s.destPath q = false) → tree q = repo.treeOf oid q) ∧
    (fromOid = none → ∀ q, (∀ s ∈ sources, deletes s.destPath q = false) →
      tree q = applyCommands (fun _ => none) (repo.extraBlobs.map blobCommand) q) ∧
    ∀ s ∈ sources, (replaceExisting = .given → repo.datasetAt fromOid s.destPath ≠ none) →
      ∀ q, deletes s.destPath q = true →
      tree q = applyCommands (fun _ => none)
        ((if replaceExisting = .given then
            ((repo.datasetAt fromOid s.destPath).map (·.legendBlobs)).getD [] else []).map
            blobCommand ++
          (takeLimit limit (s.features.map (·.2))).map featureCommand ++
          s.metaBlobs.map blobCommand) q := by
  dsimp only
  obtain ⟨hfrom, hdont, -⟩ := fastImportTables_eq_ok hok
  refine ⟨fun hall => ?_, fun oid hoid q hq => ?_, fun hnone q hq => ?_,
    fun s hs hgiven q hq => ?_⟩
  · subst hall
    exact resolveFromCommit_all hfrom
  · rw [fastImportTables_outside hok hsep hq, hoid]
    rfl
  · rw [fastImportTables_outside hok hsep hq, hnone]
    rfl
  rw [fastImportTables_inside hok hsep hs hq]
  simp only [importSingleSource, writeFeatures_zero]
  by_cases hmode : replaceExisting = .given
  · obtain ⟨dataset, hdataset⟩ := Option.ne_none_iff_exists'.1 (hgiven hmode)
    simp only [hmode, if_true, fastImportClearTree, hdataset, Option.map_some', Option.getD_some]
    rw [applyCommands_of_touches _ _ (fun _ => none) q
      ⟨.delete s.destPath, by simp, by simpa [Command.Touches] using hq⟩]
    simp [applyCommands, List.foldl_append]
  · have hstart : repo.startTree fromOid q = none := by
      rcases replaceExisting with _ | _ | _
      · exact TablesRepo.startTree_below ((hdont rfl).1 s hs) hq
      · exact absurd rfl hmode
      · rw [resolveFromCommit_all hfrom]
        rfl
    simp only [hmode, if_false, List.nil_append]
    exact applyCommands_congr_at _ hstart

/-- An outside world in which every call of the import succeeds. -/
def exampleTablesEnv : TablesEnv :=
  ⟨true, .ok (), .ok (), "1", .ok ⟨"Kart", "kart@example.com", 0, 0⟩,
    .ok ⟨"Kart", "kart@example.com", 0, 0⟩, "Import", fun _ => "+0000"⟩

/-- The header the import writes in `exampleTablesEnv` onto the commit `c0`. -/
def exampleHeader : String :=
  "commit refs/kart-import/1\nauthor Kart <kart@example.com> 0 +0000\n" ++
    "committer Kart <kart@example.com> 0 +0000\ndata 6\nImport\nfrom c0\n"

/-- A dataset replaced with `GIVEN`: its old feature is gone, the new one is there, and a path of
another dataset keeps its blob. -/
theorem fastImportTables_replaces_given :
    let repo : TablesRepo :=
      ⟨fun _ q => if q = "ds/.table-dataset/feature/0" ∨ q = "other/x" then some (.bytes [9])
        else none,
       fun _ d => deletes d "ds/.table-dataset/feature/0" || deletes d "other/x",
       fun _ d q hq h => by
         by_cases h₁ : q = "ds/.table-dataset/feature/0" <;>
           by_cases h₂ : q = "other/x" <;> simp_all,
       fun _ d => if d = "ds" then some ⟨["README"], ".table-dataset",
         [("ds/.table-dataset/meta/legend/L", [7])]⟩ else none,
       [(".kart.repostructure.version", [51])]⟩
    let source : TableSource Bool :=
      ⟨"ds", [(true, "ds/.table-dataset/feature/1", .bytes [1])],
       fun pk => if pk then "ds/.table-dataset/feature/1" else "ds/.table-dataset/feature/0",
       [("ds/.table-dataset/meta/title", [2])]⟩
    let cmds : List (Command String) := [.delete "ds",
      .inline "ds/.table-dataset/meta/legend/L" [7],
      .inline "ds/.table-dataset/feature/1" [1], .inline "ds/.table-dataset/meta/title" [2]]
    let tree := applyCommands (repo.startTree (some "c0")) cmds
    fastImportTables exampleTablesEnv repo [source] none .given (.commit "c0") none none none =
        .ok (exampleHeader, some "c0", cmds) ∧
      repo.Separate (some "c0") [source] ∧
      tree "ds/.table-dataset/feature/0" = none ∧ tree "other/x" = some (.bytes [9]) := by
  intro repo source cmds tree
  have hok : fastImportTables exampleTablesEnv repo [source] none .given (.commit "c0") none none
      none = .ok (exampleHeader, some "c0", cmds) := rfl
  have hsep : repo.Separate (some "c0") [source] := by
    refine ⟨?_, List.pairwise_singleton _ _, ?_⟩
    · simp only [List.mem_singleton, forall_eq]
      refine ⟨?_, fun pk => ?_, ?_, fun dataset h => ?_⟩
      · simp only [source, deletes_eq_decide]; decide
      · cases pk <;> simp only [source, deletes_eq_decide] <;> decide
      · simp only [source, deletes_eq_decide]; decide
      · cases h
        simp only [source, deletes_eq_decide]; decide
    · simp only [repo, source, deletes_eq_decide]; decide
  have h := fastImportTables_replaces hok hsep
  refine ⟨hok, hsep, ?_, ?_⟩
  · exact h.2.2.2 source (.head _) (fun _ => Option.some_ne_none _) _
      (by simp only [source, deletes_eq_decide]; decide)
  · exact h.2.1 "c0" rfl _
      (by simp only [List.mem_singleton, forall_eq, source, deletes_eq_decide]; decide)

end Replaces

section ReplaceIds
open Kart.DiffStructs
variable {Pk : Type} [DecidableEq Pk]

/-- How a source's keys and features lie: each feature at the path of its key, no key's path at or
below another key's, and no meta item at a key's path. -/
structure TableSource.Keyed (source : TableSource Pk) : Prop where
  features : ∀ f ∈ source.features, f.2.1 = source.encodePks f.1
  keys : ∀ pk pk', deletes (source.encodePks pk) (source.encodePks pk') = true → pk = pk'
  metaBlobs : ∀ blob ∈ source.metaBlobs, ∀ pk, blob.1 ≠ source.encodePks pk

theorem TableSource.Keyed.getFeature_path {source : TableSource Pk} (hk : source.Keyed) {pk : Pk}
    {f : String × Blob} (h : source.getFeature pk = some f) : f.1 = source.encodePks pk := by
  obtain ⟨g, hg, rfl⟩ := Option.map_eq_some'.1 h
  have hpk : g.1 = pk := by simpa using List.find?_some hg
  rw [hk.features g (List.mem_of_find?_eq_some hg), hpk]

/-- The commands the loop writes for one replaced key: the delete of its path, then the source's
feature for it, if any. -/
def keyCommands (source : TableSource Pk) (pk : Pk) : List (Command String) :=
  .delete (source.encodePks pk) :: ((source.getFeature pk).map featureCommand).toList

/-- Without a `limit`, the loop writes each key's commands in turn. -/
theorem writeReplacedFeatures_none (source : TableSource Pk) :
    ∀ (i : Nat) (ids : List Pk),
      writeReplacedFeatures source none i ids = ids.flatMap (keyCommands source)
  | _, [] => rfl
  | i, pk :: ids => by
    simp only [writeReplacedFeatures, List.flatMap_cons, keyCommands]
    cases source.getFeature pk <;> simp [writeReplacedFeatures_none]

theorem keyCommands_below {source : TableSource Pk} (hk : source.Keyed) (pk : Pk) :
    ∀ c ∈ keyCommands source pk, deletes (source.encodePks pk) c.target = true := by
  intro c hc
  rcases List.mem_cons.1 hc with rfl | hc
  · exact deletes_self _
  · obtain ⟨f, hf, rfl⟩ : ∃ f, source.getFeature pk = some f ∧ featureCommand f = c := by
      simpa using hc
    rw [featureCommand_target, hk.getFeature_path hf]
    exact deletes_self _

theorem featureCommand_apply_self (f : String × Blob) (t : String → Option Blob) :
    (featureCommand f).apply t f.1 = some f.2 := by
  rcases f with ⟨_, _ | _⟩ <;> simp [featureCommand, Command.apply]

/-- At the path of a replaced key the loop leaves the source's feature for that key, or nothing
when the source has none. -/
theorem applyCommands_keyCommands {source : TableSource Pk} (hk : source.Keyed) {pk : Pk} :
    ∀ {ids : List Pk}, pk ∈ ids → ∀ t, applyCommands t (ids.flatMap (keyCommands source))
      (source.encodePks pk) = (source.getFeature pk).map (·.2)
  | [], h, _ => nomatch h
  | pk' :: ids, h, t => by
    rw [List.flatMap_cons, applyCommands_append]
    by_cases hin : pk ∈ ids
    · exact applyCommands_keyCommands hk hin _
    obtain rfl : pk = pk' := by simpa [hin] using h
    rw [applyCommands_of_not_touches _ _ _ fun c hc => ?_]
    · cases hf : source.getFeature pk with
      | none => simp [keyCommands, hf, applyCommands, Command.apply, deletes_self]
      | some f =>
        simp only [keyCommands, hf, Option.map_some', Option.toList_some, applyCommands,
          List.foldl_cons, List.foldl_nil]
        rw [← hk.getFeature_path hf, featureCommand_apply_self]
    · obtain ⟨pk'', hpk'', hc⟩ := List.mem_flatMap.1 hc
      cases ht : c.Touches (source.encodePks pk)
      · rfl
      · have := hk.keys _ _ (c.touches_below (keyCommands_below hk pk'' c hc) ht)
        exact absurd (this ▸ hpk'') hin

/-- With `replace_ids` and no `limit`, the path of each replaced key in a source's dataset ends up
holding the source's feature for that key, or nothing when the source has none: whatever the tree
of `from_commit` held there is gone. -/
theorem fastImportTables_replaceIds {env : TablesEnv} {repo : TablesRepo}
    {sources : List (TableSource Pk)} {message : Option String} {replaceExisting : ReplaceExisting}
    {fromCommit : FromCommit} {ids : List Pk} {header : Option String} {hdr : String}
    {fromOid : Option String} {cmds : List (Command String)}
    (hok : fastImportTables env repo sources message replaceExisting fromCommit (some ids) none
      header = .ok (hdr, fromOid, cmds))
    (hsep : repo.Separate fromOid sources) {s : TableSource Pk} (hs : s ∈ sources)
    (hk : s.Keyed) {pk : Pk} (hpk : pk ∈ ids) :
    applyCommands (repo.startTree fromOid) cmds (s.encodePks pk) =
      (s.getFeature pk).map (·.2) := by
  rw [fastImportTables_inside hok hsep hs ((hsep.within s hs).keys pk)]
  simp only [importSingleSource, writeReplacedFeatures_none, applyCommands_append]
  rw [applyCommands_of_not_touches _ _ _ fun c hc => ?_, applyCommands_keyCommands hk hpk]
  obtain ⟨blob, hblob, rfl⟩ := List.mem_map.1 hc
  simpa [blobCommand, Command.Touches] using (hk.metaBlobs blob hblob pk).symm

/-- Two keys replaced from a dataset: the one the source has holds its feature, the one it lacks
holds nothing any more. -/
theorem fastImportTables_replaceIds_given :
    let repo : TablesRepo :=
      ⟨fun _ q => if q = "ds/.table-dataset/feature/0" ∨ q = "other/x" then some (.bytes [9])
        else none,
       fun _ d => deletes d "ds/.table-dataset/feature/0" || deletes d "other/x",
       fun _ d q hq h => by
         by_cases h₁ : q = "ds/.table-dataset/feature/0" <;>
           by_cases h₂ : q = "other/x" <;> simp_all,
       fun _ d => if d = "ds" then some ⟨["README"], ".table-dataset",
         [("ds/.table-dataset/meta/legend/L", [7])]⟩ else none,
       [(".kart.repostructure.version", [51])]⟩
    let source : TableSource Bool :=
      ⟨"ds", [(true, "ds/.table-dataset/feature/1", .bytes [1])],
       fun pk => if pk then "ds/.table-dataset/feature/1" else "ds/.table-dataset/feature/0",
       [("ds/.table-dataset/meta/title", [2])]⟩
    let cmds : List (Command String) := [.delete "ds/README", .delete "ds/.table-dataset/meta",
      .inline "ds/.table-dataset/meta/legend/L" [7], .delete "ds/.table-dataset/feature/1",
      .inline "ds/.table-dataset/feature/1" [1], .delete "ds/.table-dataset/feature/0",
      .inline "ds/.table-dataset/meta/title" [2]]
    let tree := applyCommands (repo.startTree (some "c0")) cmds
    fastImportTables exampleTablesEnv repo [source] none .given (.commit "c0") (some [true, false])
        none none = .ok (exampleHeader, some "c0", cmds) ∧
      repo.Separate (some "c0") [source] ∧ source.Keyed ∧ false ∈ [true, false] ∧
      tree "ds/.table-dataset/feature/0" = none := by
  intro repo source cmds tree
  have hok : fastImportTables exampleTablesEnv repo [source] none .given (.commit "c0")
      (some [true, false]) none none = .ok (exampleHeader, some "c0", cmds) := rfl
  have hsep : repo.Separate (some "c0") [source] := by
    refine ⟨?_, List.pairwise_singleton _ _, ?_⟩
    · simp only [List.mem_singleton, forall_eq]
      refine ⟨?_, fun pk => ?_, ?_, fun dataset h => ?_⟩
      · simp only [source, deletes_eq_decide]; decide
      · cases pk <;> simp only [source, deletes_eq_decide] <;> decide
      · simp only [source, deletes_eq_decide]; decide
      · cases h
        simp only [source, deletes_eq_decide]; decide
    · simp only [repo, source, deletes_eq_decide]; decide
  have hk : source.Keyed := by
    refine ⟨by decide, fun pk pk' => ?_, by decide⟩
    cases pk <;> cases pk' <;> simp only [source, deletes_eq_decide] <;> decide
  exact ⟨hok, hsep, hk, by decide, fastImportTables_replaceIds hok hsep (.head _) hk
    (show false ∈ [true, false] by decide)⟩

/-- With `replace_ids`, a path of a source's dataset that no replaced key's path, attachment, meta
directory, legend or meta item of the import reaches keeps what the tree of `from_commit` held
there: the import changes nothing else of the dataset. -/
theorem fastImportTables_replaceIds_keeps {env : TablesEnv} {repo : TablesRepo}
    {sources : List (TableSource Pk)} {message : Option String} {replaceExisting : ReplaceExisting}
    {fromCommit : FromCommit} {ids : List Pk} {limit : Option Nat} {header : Option String}
    {hdr : String} {fromOid : Option String} {cmds : List (Command String)}
    (hok : fastImportTables env repo sources message replaceExisting fromCommit (some ids) limit
      header = .ok (hdr, fromOid, cmds))
    (hsep : repo.Separate fromOid sources) {s : TableSource Pk} (hs : s ∈ sources)
    (hk : s.Keyed) {q : String} (hq : deletes s.destPath q = true)
    (hkeys : ∀ pk ∈ ids, deletes (s.encodePks pk) q = false)
    (hmeta : ∀ blob ∈ s.metaBlobs, blob.1 ≠ q)
    (hclear : replaceExisting = .given → ∀ dataset,
      repo.datasetAt fromOid s.destPath = some dataset →
      (∀ name ∈ dataset.attachmentNames, deletes (s.destPath ++ "/" ++ name) q = false) ∧
      deletes (s.destPath ++ "/" ++ dataset.dirname ++ "/meta") q = false ∧
      ∀ blob ∈ dataset.legendBlobs, blob.1 ≠ q) :
    applyCommands (repo.startTree fromOid) cmds q = repo.startTree fromOid q := by
  rw [fastImportTables_inside hok hsep hs hq]
  refine applyCommands_of_not_touches _ _ q fun c hc => ?_
  simp only [importSingleSource, List.mem_append] at hc
  rcases hc with (hc | hc) | hc
  · -- the clearing of the replaced dataset
    split at hc
    next hmode =>
      cases hd : repo.datasetAt fromOid s.destPath with
      | none => simp [fastImportClearTree, hd] at hc
      | some dataset =>
        obtain ⟨hatt, hdir, hleg⟩ := hclear hmode dataset hd
        simp only [fastImportClearTree, hd, List.mem_append, List.mem_map, List.mem_singleton] at hc
        rcases hc with (⟨name, hname, rfl⟩ | rfl) | ⟨blob, hblob, rfl⟩
        · exact hatt name hname
        · exact hdir
        · simpa [blobCommand, Command.Touches] using (hleg blob hblob).symm
    · cases hc
  · -- the replaced keys
    obtain ⟨pk, hpk, rfl | ⟨f, hf, rfl⟩⟩ := mem_writeReplacedFeatures hc
    · exact hkeys pk hpk
    · cases ht : (featureCommand f).Touches q
      · rfl
      · have := (featureCommand f).touches_below (d := s.encodePks pk)
          (by rw [featureCommand_target, hk.getFeature_path hf]; exact deletes_self _) ht
        simp [hkeys pk hpk] at this
  · -- the meta items
    obtain ⟨blob, hblob, rfl⟩ := List.mem_map.1 hc
    simpa [blobCommand, Command.Touches] using (hmeta blob hblob).symm

/-- A key not replaced keeps the blob the tree of `from_commit` held for it. -/
theorem fastImportTables_replaceIds_keeps_other :
    let repo : TablesRepo :=
      ⟨fun _ q => if q = "ds/.table-dataset/feature/0" ∨ q = "other/x" then some (.bytes [9])
        else none,
       fun _ d => deletes d "ds/.table-dataset/feature/0" || deletes d "other/x",
       fun _ d q hq h => by
         by_cases h₁ : q = "ds/.table-dataset/feature/0" <;>
           by_cases h₂ : q = "other/x" <;> simp_all,
       fun _ d => if d = "ds" then some ⟨["README"], ".table-dataset",
         [("ds/.table-dataset/meta/legend/L", [7])]⟩ else none,
       [(".kart.repostructure.version", [51])]⟩
    let source : TableSource Bool :=
      ⟨"ds", [(true, "ds/.table-dataset/feature/1", .bytes [1])],
       fun pk => if pk then "ds/.table-dataset/feature/1" else "ds/.table-dataset/feature/0",
       [("ds/.table-dataset/meta/title", [2])]⟩
    let cmds : List (Command String) := [.delete "ds/README", .delete "ds/.table-dataset/meta",
      .inline "ds/.table-dataset/meta/legend/L" [7], .delete "ds/.table-dataset/feature/1",
      .inline "ds/.table-dataset/feature/1" [1], .inline "ds/.table-dataset/meta/title" [2]]
    let q := "ds/.table-dataset/feature/0"
    fastImportTables exampleTablesEnv repo [source] none .given (.commit "c0") (some [true]) none
        none = .ok (exampleHeader, some "c0", cmds) ∧
      repo.Separate (some "c0") [source] ∧ source.Keyed ∧ deletes source.destPath q = true ∧
      applyCommands (repo.startTree (some "c0")) cmds q = some (.bytes [9]) := by
  intro repo source cmds q
  have hok : fastImportTables exampleTablesEnv repo [source] none .given (.commit "c0")
      (some [true]) none none = .ok (exampleHeader, some "c0", cmds) := rfl
  have hsep : repo.Separate (some "c0") [source] := by
    refine ⟨?_, List.pairwise_singleton _ _, ?_⟩
    · simp only [List.mem_singleton, forall_eq]
      refine ⟨?_, fun pk => ?_, ?_, fun dataset h => ?_⟩
      · simp only [source, deletes_eq_decide]; decide
      · cases pk <;> simp only [source, deletes_eq_decide] <;> decide
      · simp only [source, deletes_eq_decide]; decide
      · cases h
        simp only [source, deletes_eq_decide]; decide
    · simp only [repo, source, deletes_eq_decide]; decide
  have hk : source.Keyed := by
    refine ⟨by decide, fun pk pk' => ?_, by decide⟩
    cases pk <;> cases pk' <;> simp only [source, deletes_eq_decide] <;> decide
  have hq : deletes source.destPath q = true := by simp only [source, q, deletes_eq_decide]; decide
  refine ⟨hok, hsep, hk, hq,
    fastImportTables_replaceIds_keeps hok hsep (.head _) hk hq ?_ ?_ ?_⟩
  · simp only [source, q, deletes_eq_decide]; decide
  · decide
  · intro _ dataset h
    cases h
    simp only [source, q, deletes_eq_decide]
    decide

end ReplaceIds

section Errors
open Kart.DiffStructs
variable {Pk : Type} [DecidableEq Pk]

/-- With neither a message nor a source, `generate_message` raises `StopIteration`. -/
example : fastImportTables exampleTablesEnv ⟨fun _ _ => none, fun _ _ => false, by simp,
    fun _ _ => none, []⟩ ([] : List (TableSource Bool)) none .given (.commit "c0") none none none =
    .error .stopIteration := rfl

end Errors

end Kart.FastImport
