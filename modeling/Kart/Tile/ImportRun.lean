import Kart.DiffStructs.Dict
set_option autoImplicit false

/-!
# What a tile import leaves in the repository

`TileImporter.import_tiles` fetches the remote sources and their sidecar files into the LFS tmp
area, checks the metadata, and streams the import to `git fast-import` onto a temporary branch
`refs/kart-import/<uuid>`. In a `try`/`finally` it then moves the HEAD branch to the new commit,
deletes the temporary branch and unlinks the fetched copies. `fast_import_tables` runs the
whole import inside its `try`/`finally`.

The state is what the two functions change: the LFS tmp area, the references,
`source_to_local_path` and the `uuid4()`s drawn. Every outside call (S3, the tile libraries,
`git fast-import`, the working copy) is a field of `ImportEnv`. A Python exception keeps the state
it is raised in, so a program is an `EStateM`. No temporary branch outlives a run, but some
fetched copies do.
-/
namespace Kart.Tile.ImportRun
open Kart.DiffStructs

/-! ### Programs whose exceptions keep their state -/

section Programs
variable {ε σ α β : Type}

/-- The state a program leaves, whether it returned or raised. -/
def stateOf : EStateM.Result ε σ α → σ
  | .ok _ s => s
  | .error _ s => s

@[simp] theorem stateOf_ok (a : α) (s : σ) : stateOf (.ok a s : EStateM.Result ε σ α) = s := rfl

@[simp] theorem stateOf_error (e : ε) (s : σ) :
    stateOf (.error e s : EStateM.Result ε σ α) = s := rfl

theorem bind_apply (x : EStateM ε σ α) (f : α → EStateM ε σ β) (s : σ) :
    (x >>= f) s = match x s with
      | .ok a s' => f a s'
      | .error e s' => .error e s' := rfl

theorem bind_apply_ok {x : EStateM ε σ α} {f : α → EStateM ε σ β} {s s' : σ} {a : α}
    (h : x s = .ok a s') : (x >>= f) s = f a s' := by
  rw [bind_apply, h]

theorem bind_apply_error {x : EStateM ε σ α} {f : α → EStateM ε σ β} {s s' : σ} {e : ε}
    (h : x s = .error e s') : (x >>= f) s = .error e s' := by
  rw [bind_apply, h]

/-- Python's `finally`: the finaliser runs on both exits, and an exception it raises replaces
the one of the block. -/
theorem tryFinally_apply (x : EStateM ε σ α) (h : EStateM ε σ β) (s : σ) :
    tryFinally x h s = match x s with
      | .ok a s' => (match h s' with
        | .ok _ s'' => .ok a s''
        | .error e s'' => .error e s'')
      | .error e s' => (match h s' with
        | .ok _ s'' => .error e s''
        | .error e' s'' => .error e' s'') := by
  simp only [tryFinally, tryFinally', Functor.map, EStateM.map]
  rcases x s with ⟨a, s'⟩ | ⟨e, s'⟩ <;> dsimp only <;> rcases h s' with ⟨b, s''⟩ | ⟨e', s''⟩ <;> rfl

theorem tryCatch_apply (x : EStateM ε σ α) (h : ε → EStateM ε σ α) (s : σ) :
    tryCatch x h s = match x s with
      | .ok a s' => .ok a s'
      | .error e s' => h e s' := by
  show EStateM.tryCatch x h s = _
  unfold EStateM.tryCatch
  cases x s <;> rfl

theorem forM_cons_apply (a : α) (l : List α) (f : α → EStateM ε σ PUnit) (s : σ) :
    (a :: l).forM f s = (f a >>= fun _ => l.forM f) s := rfl

@[simp] theorem pure_apply (a : α) (s : σ) : (pure a : EStateM ε σ α) s = .ok a s := rfl

@[simp] theorem throw_apply (e : ε) (s : σ) : (throw e : EStateM ε σ α) s = .error e s := rfl

@[simp] theorem modify_apply (f : σ → σ) (s : σ) :
    (modify f : EStateM ε σ PUnit) s = .ok ⟨⟩ (f s) := rfl

@[simp] theorem set_apply (t s : σ) : (set t : EStateM ε σ PUnit) s = .ok ⟨⟩ t := rfl

theorem map_apply (f : α → β) (x : EStateM ε σ α) (s : σ) :
    (f <$> x) s = match x s with
      | .ok a s' => .ok (f a) s'
      | .error e s' => .error e s' := rfl

@[simp] theorem get_apply (s : σ) : (get : EStateM ε σ σ) s = .ok s s := rfl

@[simp] theorem get_bind_apply (f : σ → EStateM ε σ β) (s : σ) : (get >>= f) s = f s s := rfl

/-- `x` keeps `P`: run from a state where `P` holds, it leaves one where `P` holds, whether it
returns or raises. -/
def Keeps (P : σ → Prop) (x : EStateM ε σ α) : Prop := ∀ s, P s → P (stateOf (x s))

variable {P : σ → Prop}

theorem keeps_pure (a : α) : Keeps P (pure a : EStateM ε σ α) := fun _ h => h

theorem keeps_throw (e : ε) : Keeps P (throw e : EStateM ε σ α) := fun _ h => h

theorem keeps_modify {f : σ → σ} (hf : ∀ s, P s → P (f s)) :
    Keeps P (modify f : EStateM ε σ PUnit) := hf

theorem keeps_ite {c : Prop} [Decidable c] {x y : EStateM ε σ α} (hx : Keeps P x)
    (hy : Keeps P y) : Keeps P (if c then x else y) := by
  split <;> assumption

theorem Keeps.bind {x : EStateM ε σ α} {f : α → EStateM ε σ β} (hx : Keeps P x)
    (hf : ∀ a, Keeps P (f a)) : Keeps P (x >>= f) := by
  intro s hs
  have h := hx s hs
  rw [bind_apply]
  cases hr : x s with
  | ok a s' => rw [hr] at h; exact hf a s' h
  | error e s' => rw [hr] at h; exact h

theorem Keeps.map {x : EStateM ε σ α} (hx : Keeps P x) (f : α → β) : Keeps P (f <$> x) := by
  intro s hs
  have h := hx s hs
  rw [map_apply]
  cases hr : x s <;> rw [hr] at h <;> exact h

/-- A program that reads the state first may rely on `P` of the state it reads. -/
theorem keeps_get_bind {f : σ → EStateM ε σ β} (hf : ∀ s, P s → P (stateOf (f s s))) :
    Keeps P (get >>= f) := hf

theorem keeps_forM {l : List α} {f : α → EStateM ε σ PUnit} (hf : ∀ a ∈ l, Keeps P (f a)) :
    Keeps P (l.forM f) := by
  induction l with
  | nil => exact keeps_pure _
  | cons a l ih =>
    exact Keeps.bind (hf a (List.mem_cons_self _ _))
      fun _ => ih fun b hb => hf b (List.mem_cons_of_mem _ hb)

theorem Keeps.tryFinally {x : EStateM ε σ α} {h : EStateM ε σ β} (hx : Keeps P x)
    (hh : Keeps P h) : Keeps P (tryFinally x h) := by
  intro s hs
  have h₁ := hx s hs
  rw [tryFinally_apply]
  rcases hr : x s with ⟨a, s'⟩ | ⟨e, s'⟩ <;> rw [hr] at h₁ <;> dsimp only <;>
    have h₂ := hh s' h₁ <;> rcases hr' : h s' with ⟨b, s''⟩ | ⟨e', s''⟩ <;> rw [hr'] at h₂ <;>
    exact h₂

theorem Keeps.tryCatch {x : EStateM ε σ α} {h : ε → EStateM ε σ α} (hx : Keeps P x)
    (hh : ∀ e, Keeps P (h e)) : Keeps P (tryCatch x h) := by
  intro s hs
  have h₁ := hx s hs
  rw [tryCatch_apply]
  rcases hr : x s with ⟨a, s'⟩ | ⟨e, s'⟩ <;> rw [hr] at h₁
  · exact h₁
  · exact hh e s' h₁

end Programs

/-! ### The model -/

/-- The exit codes the two functions give their exceptions, by their names in `kart.exceptions`;
`notFound` and `invalidOperation` are the defaults of `NotFound` and `InvalidOperation`. -/
inductive ExitCode
  | notFound
  | invalidOperation
  | noData
  | noChanges
  | workingCopyOrImportConflict
  /-- `exit_code=p.returncode`. -/
  | returnCode (code : Nat)
deriving DecidableEq, Repr

/-- How a call of `fetch_from_s3` ends: it returns, raises botocore's `ClientError` (as for an
object that does not exist), or raises another exception. -/
inductive FetchOutcome
  | ok
  | clientError
  | otherError
deriving DecidableEq, Repr

/-- The calls into the outside world that may raise. -/
inductive Outside
  | fetchFromS3 (url : String)
  | extractTileMetadata (path : String)
  | checkMetadataPreConvert
  | copyFileToLocalLfsCache (path : String)
  | generateHeader
  | createCommit
  | importSingleSource
  | deleteReference (ref : String)
  | unlink (path : String)
  | configureDoCheckoutDatasets
  | resetToHead
deriving DecidableEq, Repr

/-- The calls of the `finally` of `import_tiles` and after it, when the HEAD branch may have moved. -/
def Outside.afterTry : Outside → Bool
  | .deleteReference _ | .unlink _ | .configureDoCheckoutDatasets | .resetToHead => true
  | _ => false

inductive ImportError
  | notFound (msg : String) (exitCode : ExitCode)
  | invalidOperation (msg : String) (exitCode : ExitCode)
  | subprocessError (msg : String) (exitCode : ExitCode)
  /-- `repo.references[ref]` of a ref that does not exist. -/
  | keyError (key : String)
  /-- botocore's `ClientError`, from a fetch of the URL. -/
  | clientError (url : String)
  /-- Another exception of the outside world, at the call that raised it. -/
  | raisedBy (call : Outside)
deriving DecidableEq, Repr

/-- What the two functions change. -/
structure ImportState where
  /-- The files in `repo.lfs_tmp_path`. -/
  tmp : List String
  /-- `repo.references`, with the commit each ref points at. -/
  refs : PyDict String Nat
  /-- `self.source_to_local_path`. -/
  sourceToLocalPath : PyDict String (Option String)
  /-- How many `uuid.uuid4()` have been drawn. -/
  uuids : Nat

/-- The outside world: what each call that is not part of the modelled sources returns, and
whether it raises. -/
structure ImportEnv where
  lfsTmpPath : String
  /-- The `n`-th `uuid.uuid4()`, as a string. -/
  uuid : Nat → String
  fetch : String → FetchOutcome
  /-- `self.sidecar_files(path)`: each sidecar file, with its suffix. -/
  sidecarFiles : String → List (String × String)
  /-- `extract_tile_metadata_from_filesystem_path(path)` returns. -/
  metadataOk : String → Bool
  /-- `check_metadata_pre_convert()` returns. -/
  preConvertOk : Bool
  /-- The merged metadata of the sources holds no `ListOfConflicts`. -/
  sourcesHomogenous : Bool
  /-- The predicted merged metadata holds no `ListOfConflicts`. -/
  predictedHomogenous : Bool
  /-- The merged metadata of the imported tiles holds no `ListOfConflicts`. -/
  importedHomogenous : Bool
  /-- `repo.head_commit`. -/
  headCommit : Option Nat
  /-- `generate_header(...)` returns. -/
  headerOk : Bool
  /-- `root_tree / blob_path` finds the tile of this name. -/
  tileExists : String → Bool
  /-- The first pass of `import_tiles_to_stream` reuses the tile imported before for the source. -/
  alreadyImported : String → Bool
  /-- The copy into the LFS cache of the path, with its conversion, returns. -/
  copyOk : String → Bool
  /-- The stream of `fast_import_tables`, its extra blobs and `_import_single_source`, is written
  without an exception. -/
  streamOk : Bool
  /-- The exit status of `git fast-import`. -/
  returnCode : Nat
  /-- The commit `git fast-import` writes to the ref its header names. -/
  importedCommit : Nat
  /-- `repo.create_commit` returns, and the commit it makes. -/
  createCommitOk : Bool
  createdCommit : Nat
  /-- The head tree exists and is the tree imported. -/
  unchanged : Bool
  /-- `repo.references[ref].delete()` returns. -/
  deleteRefOk : Bool
  /-- `path.unlink(missing_ok=True)` returns. -/
  unlinkOk : String → Bool
  /-- `repo.configure_do_checkout_datasets(...)` returns. -/
  configureOk : Bool
  /-- `working_copy.reset_to_head` returns. -/
  resetOk : Bool
  /-- `self.num_workers`, which `check_num_workers` makes at least 1. -/
  numWorkers : Nat
  /-- The order in which a thread pool completes the tasks of the sources: each once. -/
  completionOrder : List String → List String
  completionOrder_perm : ∀ l, (completionOrder l).Perm l

/-- What `import_tiles` reads of its `TileImporter` once `preprocess_sources` has run. -/
structure TileImport where
  datasetPath : String
  sources : List String
  delete : List String
  /-- `self.existing_dataset is not None`. -/
  existingDataset : Bool
  amend : Bool
  allowEmpty : Bool
  /-- `repo.head_branch`. -/
  headBranch : String

abbrev ImportM := EStateM ImportError ImportState

/-- `f"refs/kart-import/{uuid}"`. -/
def kartImportRef (uuid : String) : String := "refs/kart-import/" ++ uuid

/-- `source.startswith("s3://")`. -/
def isS3Url (source : String) : Bool := "s3://".toList.isPrefixOf source.toList

/-- A call into the outside world: it returns, or raises. -/
def call (ok : Bool) (c : Outside) : ImportM Unit := if ok then pure () else throw (.raisedBy c)

/-- The file leaves the tmp area. -/
def removeFromTmp (path : String) : ImportM Unit :=
  modify fun s => { s with tmp := s.tmp.filter (· ≠ path) }

/-- `check_for_non_homogenous_metadata`, of metadata that is homogenous or not. -/
def checkForNonHomogenousMetadata (homogenous : Bool) : ImportM Unit :=
  if homogenous then pure ()
  else throw (.invalidOperation "Non-homogenous dataset supplied" .workingCopyOrImportConflict)

/-- The `NotFound` of a `--delete` of a tile that does not exist. -/
def missingTile (tileName : String) : ImportError :=
  .notFound s!"{tileName} does not exist, can't delete it" .notFound

/-- The `InvalidOperation` of a `--delete` from a dataset that does not exist. -/
def noDatasetToDelete (datasetPath : String) : ImportError :=
  .invalidOperation s!"Dataset {datasetPath} does not exist. Cannot delete paths from it."
    .invalidOperation

/-- The `SubprocessError` of `git_fast_import`. -/
def fastImportError (returnCode : Nat) : ImportError :=
  .subprocessError s!"git-fast-import error! {returnCode}" (.returnCode returnCode)

/-- `self.source_to_local_path[source] = local_path`. -/
def recordLocalPath (source : String) (localPath : Option String) : ImportM Unit :=
  modify fun s => { s with sourceToLocalPath := s.sourceToLocalPath.setItem source localPath }

/-! A thread pool runs its tasks to their end, since leaving the pool waits for all of them, and
the loop over `as_completed` reads their results in the order they complete, `future.result()`
raising the exception of a task that raised. The model runs the tasks in that order and then
reads the results: the tasks and the loop change different parts of the state. -/

/-- A task of a thread pool: its exception is kept in its future. -/
def runTask {α : Type} (x : ImportM α) : ImportM (Except ImportError α) :=
  tryCatch (Except.ok <$> x) fun e => pure (.error e)

def runTasks {α : Type} (task : String → ImportM α) :
    List String → ImportM (List (String × Except ImportError α))
  | [] => pure []
  | source :: sources => do
    let r ← runTask (task source)
    let rs ← runTasks task sources
    pure ((source, r) :: rs)

def forResults {α : Type} (f : String → α → ImportM Unit)
    (results : List (String × Except ImportError α)) : ImportM Unit :=
  results.forM fun r => match r.2 with
    | .ok a => f r.1 a
    | .error e => throw e

section
variable (env : ImportEnv)

/-- A thread pool over `sources`, whose results `f` reads as they complete. -/
def inPool {α : Type} (sources : List String) (task : String → ImportM α)
    (f : String → α → ImportM Unit) : ImportM Unit := do
  forResults f (← runTasks task (env.completionOrder sources))

/-- `uuid.uuid4()`. -/
def uuid4 : ImportM String :=
  modifyGet fun s => (env.uuid s.uuids, { s with uuids := s.uuids + 1 })

/-- `fetch_from_s3(url, path)`. -/
def fetchFromS3 (url path : String) : ImportM Unit :=
  match env.fetch url with
  | .ok => modify fun s => { s with tmp := path :: s.tmp }
  | .clientError => throw (.clientError url)
  | .otherError => throw (.raisedBy (.fetchFromS3 url))

/-- The fetch of a sidecar file, under `except botocore.exceptions.ClientError: pass`. -/
def fetchSidecar (url path : String) : ImportM Unit :=
  tryCatch (fetchFromS3 env url path) fun
    | .clientError _ => pure ()
    | e => throw e

/-- The loop of `extract_tile_metadata` over the sidecar files of a tile fetched to `localPath`. -/
def fetchSidecars (localPath : String) (sidecars : List (String × String)) : ImportM Unit :=
  sidecars.forM fun sidecar => fetchSidecar env sidecar.1 (localPath ++ sidecar.2)

/-- The fetch that begins `TileImporter.extract_tile_metadata`: a remote source is fetched into
the tmp area, with its sidecar files. -/
def fetchSource (source : String) : ImportM (Option String) :=
  if isS3Url source then do
    let localPath := env.lfsTmpPath ++ "/" ++ (← uuid4 env)
    fetchFromS3 env source localPath
    fetchSidecars env localPath (env.sidecarFiles source)
    pure (some localPath)
  else pure none

/-- `TileImporter.extract_tile_metadata`, with the local copy it fetched, if any. -/
def extractTileMetadata (source : String) : ImportM (Option String) := do
  let localPath ← fetchSource env source
  call (env.metadataOk (localPath.getD source)) (.extractTileMetadata (localPath.getD source))
  pure localPath

/-- `extract_multiple_tiles_metadata`, with the loop of `import_tiles` that records each local
copy: one worker fetches and records the sources in turn, a thread pool fetches them all. -/
def extractMultipleTilesMetadata (sources : List String) : ImportM Unit :=
  if env.numWorkers = 1 then
    sources.forM fun source => do recordLocalPath source (← extractTileMetadata env source)
  else inPool env sources (extractTileMetadata env) recordLocalPath

/-- The checks of `import_tiles` on the metadata of the sources. -/
def checkMetadata : ImportM Unit := do
  call env.preConvertOk .checkMetadataPreConvert
  checkForNonHomogenousMetadata env.sourcesHomogenous
  checkForNonHomogenousMetadata env.predictedHomogenous

/-- `path.unlink(missing_ok=True)`. -/
def unlink (path : String) : ImportM Unit := do
  call (env.unlinkOk path) (.unlink path)
  removeFromTmp path

/-- `lfs_util.copy_file_to_local_lfs_cache`: the file is copied into the LFS cache, and moved
there unless `preserve_original`. The conversion it runs may raise. -/
def lfsCopy (path : String) (preserveOriginal : Bool) : ImportM Unit := do
  call (env.copyOk path) (.copyFileToLocalLfsCache path)
  if !preserveOriginal then removeFromTmp path

/-- `TileImporter.copy_file_to_local_lfs_cache`: a remote source is copied from its local copy,
which is not preserved; any other path is copied from where it is, and preserved. -/
def copyFileToLocalLfsCache (source : String) : ImportM Unit := do
  match ((← get).sourceToLocalPath.get source).join with
  | some localPath => lfsCopy env localPath false
  | none => lfsCopy env source true

/-- The sidecar files of a copied source, copied by the loop that reads the copies. -/
def copySidecars (source : String) : ImportM Unit := do
  let path := ((← get).sourceToLocalPath.get source).join.getD source
  (env.sidecarFiles path).forM fun sidecar => copyFileToLocalLfsCache env sidecar.1

/-- The copies `import_tiles_to_stream` makes: the task of each source that is not reused, in turn
with one worker or in a thread pool, and the sidecar files of each as its copy is read. -/
def importTilesToStream (sources : List String) : ImportM Unit :=
  let tasks := (sources.filter fun source => !env.alreadyImported source).eraseDups
  if env.numWorkers = 1 then
    tasks.forM fun source => do
      copyFileToLocalLfsCache env source
      copySidecars env source
  else inPool env tasks (copyFileToLocalLfsCache env) fun source _ => copySidecars env source

/-- The `--delete` loop of the streaming block. -/
def checkDeletes (delete : List String) : ImportM Unit :=
  delete.forM fun tileName =>
    if env.tileExists tileName then pure () else throw (missingTile tileName)

/-- `git_fast_import` around the `with` block that streams an import onto `ref`. An exception of
the block leaves the context manager at once: `done` is never written, and no ref moves. Once the
block completes, `git fast-import` writes its commit to `ref`, or exits with an error. -/
def gitFastImport (ref : String) (body : ImportM Unit) : ImportM Unit := do
  body
  if env.returnCode = 0 then
    modify fun s => { s with refs := s.refs.setItem ref env.importedCommit }
  else throw (fastImportError env.returnCode)

/-- The check of `import_tiles` that a `--delete` is from a dataset that exists. -/
def checkDeleteDataset (opts : TileImport) : ImportM Unit :=
  if !opts.delete.isEmpty && !opts.existingDataset then throw (noDatasetToDelete opts.datasetPath)
  else pure ()

/-- `import_tiles` from its check of `--delete` to the checks of the metadata. -/
def prepareSources (opts : TileImport) : ImportM Unit := do
  checkDeleteDataset opts
  modify fun s => { s with sourceToLocalPath := PyDict.empty }
  if !opts.sources.isEmpty then
    extractMultipleTilesMetadata env opts.sources
    checkMetadata env

/-- The streaming block of `import_tiles`. -/
def streamImport (opts : TileImport) (importRef : String) : ImportM Unit :=
  gitFastImport env importRef do
    checkDeletes env opts.delete
    if !opts.sources.isEmpty then
      importTilesToStream env opts.sources
      checkForNonHomogenousMetadata env.importedHomogenous

/-- The check that an import without `--allow-empty` changes the tree. -/
def checkChanges (allowEmpty : Bool) : ImportM Unit :=
  if !allowEmpty && env.unchanged then throw (.notFound "No changes to commit" .noChanges)
  else pure ()

/-- The commit the HEAD branch moves to: the squash of the commit imported into the head commit
when amending, the commit imported otherwise. -/
def newCommitFor (opts : TileImport) (imported : Nat) : ImportM Nat :=
  if opts.amend then do
    call env.createCommitOk .createCommit
    pure env.createdCommit
  else do
    checkChanges env opts.allowEmpty
    pure imported

/-- The `try` block of `import_tiles`. -/
def commitImport (opts : TileImport) (importRef : String) : ImportM Unit := do
  let some imported := (← get).refs.get importRef | throw (.keyError importRef)
  let newCommit ← newCommitFor env opts imported
  modify fun s => { s with refs := s.refs.setItem opts.headBranch newCommit }

/-- The loop of the `finally` block of `import_tiles` over `source_to_local_path.values()`. -/
def unlinkLocalCopies (entries : List (String × Option String)) : ImportM Unit :=
  entries.forM fun entry =>
    match entry.2 with
    | some path => unlink env path
    | none => pure ()

/-- The `finally` block of `import_tiles`. -/
def cleanUp (importRef : String) : ImportM Unit := do
  let s ← get
  let some _ := s.refs.get importRef | throw (.keyError importRef)
  call env.deleteRefOk (.deleteReference importRef)
  set { s with refs := s.refs.pop importRef }
  unlinkLocalCopies env s.sourceToLocalPath.items

/-- The check of `import_tiles` that there is a commit to amend. -/
def checkAmend (opts : TileImport) : ImportM Unit :=
  if opts.amend && env.headCommit.isNone then
    throw (.invalidOperation "Cannot amend in an empty repository" .noData)
  else pure ()

/-- `TileImporter.import_tiles`, from its check of `--delete` on. -/
def importTiles (opts : TileImport) : ImportM Unit := do
  prepareSources env opts
  let importRef := kartImportRef (← uuid4 env)
  checkAmend env opts
  call env.headerOk .generateHeader
  streamImport env opts importRef
  tryFinally (commitImport env opts importRef) (cleanUp env importRef)
  call env.configureOk .configureDoCheckoutDatasets
  call env.resetOk .resetToHead

/-- The temporary branch of `fast_import_tables`: a new `refs/kart-import/<uuid>` when it is
given no header. -/
def importRefFor (header : Option String) : ImportM (Option String) :=
  match header with
  | none => do pure (some (kartImportRef (← uuid4 env)))
  | some _ => pure none

/-- The `try` block of `fast_import_tables`: the header made for the temporary branch, the import
onto that branch or onto the branch of the header it was given, and the move of `orig_branch` (or
`HEAD`) to a commit of the tree imported. -/
def importTables (header origBranch importRef : Option String) (allowEmpty : Bool) :
    ImportM Unit := do
  (if header.isNone then call env.headerOk .generateHeader else pure ())
  gitFastImport env (importRef.getD (header.getD "")) (call env.streamOk .importSingleSource)
  match importRef with
  | some ref => do
    let some _ := (← get).refs.get ref | throw (.keyError ref)
    checkChanges env allowEmpty
    call env.createCommitOk .createCommit
    modify fun s => { s with refs := s.refs.setItem (origBranch.getD "HEAD") env.createdCommit }
  | none => pure ()

/-- The `finally` block of `fast_import_tables`: the temporary branch is deleted if it exists. -/
def removeImportRef (importRef : Option String) : ImportM Unit := do
  let s ← get
  match importRef with
  | some ref =>
    if (s.refs.get ref).isSome then do
      call env.deleteRefOk (.deleteReference ref)
      set { s with refs := s.refs.pop ref }
    else pure ()
  | none => pure ()

/-- `fast_import_tables`, from its `try` on. Without a header it imports onto a new
`refs/kart-import/<uuid>` and then moves `orig_branch` (or `HEAD`); a `header` it is given is
modelled by the branch the header commits to. -/
def fastImportTables (header origBranch : Option String) (allowEmpty : Bool) : ImportM Unit := do
  let importRef ← importRefFor env header
  tryFinally (importTables env header origBranch importRef allowEmpty) (removeImportRef env importRef)

end

/-! ### Step lemmas: the checks leave the state, and what each step changes -/

section Steps
variable {env : ImportEnv} {P : ImportState → Prop}

theorem stateOf_call (ok : Bool) (c : Outside) (s : ImportState) : stateOf (call ok c s) = s := by
  unfold call; cases ok <;> rfl

theorem keeps_call (ok : Bool) (c : Outside) : Keeps P (call ok c) :=
  fun s hs => (stateOf_call ok c s).symm ▸ hs

theorem keeps_checkForNonHomogenousMetadata (homogenous : Bool) :
    Keeps P (checkForNonHomogenousMetadata homogenous) :=
  keeps_ite (keeps_pure _) (keeps_throw _)

theorem keeps_checkMetadata : Keeps P (checkMetadata env) :=
  (keeps_call _ _).bind fun _ => (keeps_checkForNonHomogenousMetadata _).bind fun _ =>
    keeps_checkForNonHomogenousMetadata _

theorem keeps_checkDeletes (delete : List String) : Keeps P (checkDeletes env delete) :=
  keeps_forM fun _ _ => keeps_ite (keeps_pure _) (keeps_throw _)

theorem keeps_checkDeleteDataset (opts : TileImport) : Keeps P (checkDeleteDataset opts) :=
  keeps_ite (keeps_throw _) (keeps_pure _)

theorem keeps_checkAmend (opts : TileImport) : Keeps P (checkAmend env opts) :=
  keeps_ite (keeps_throw _) (keeps_pure _)

theorem keeps_checkChanges (allowEmpty : Bool) : Keeps P (checkChanges env allowEmpty) :=
  keeps_ite (keeps_throw _) (keeps_pure _)

/-- A check leaves the state as it was: it returns, or raises, where it was called. -/
theorem check_cases {x : ImportM Unit} (hx : ∀ s, Keeps (· = s) x) (s : ImportState) :
    x s = .ok () s ∨ ∃ e, x s = .error e s := by
  have h := hx s s rfl
  rcases hr : x s with ⟨⟨⟩, t⟩ | ⟨e, t⟩ <;> rw [hr] at h <;> cases h
  · exact .inl rfl
  · exact .inr ⟨e, rfl⟩

theorem uuid4_apply (s : ImportState) :
    uuid4 env s = .ok (env.uuid s.uuids) { s with uuids := s.uuids + 1 } := rfl

theorem keeps_uuid4 (h : ∀ s, P s → P { s with uuids := s.uuids + 1 }) : Keeps P (uuid4 env) := h

theorem keeps_fetchFromS3 {url path : String} (h : ∀ s, P s → P { s with tmp := path :: s.tmp }) :
    Keeps P (fetchFromS3 env url path) := by
  unfold fetchFromS3
  split
  · exact keeps_modify h
  · exact keeps_throw _
  · exact keeps_throw _

theorem keeps_fetchSidecar {url path : String} (h : ∀ s, P s → P { s with tmp := path :: s.tmp }) :
    Keeps P (fetchSidecar env url path) :=
  Keeps.tryCatch (keeps_fetchFromS3 h) fun e => by
    cases e <;> first | exact keeps_pure _ | exact keeps_throw _

theorem keeps_set {t : ImportState} (ht : P t) : Keeps P (set t : ImportM PUnit) := fun _ _ => ht

theorem keeps_removeFromTmp {path : String}
    (h : ∀ s, P s → P { s with tmp := s.tmp.filter (· ≠ path) }) : Keeps P (removeFromTmp path) := h

theorem keeps_unlink {path : String} (h : ∀ s, P s → P { s with tmp := s.tmp.filter (· ≠ path) }) :
    Keeps P (unlink env path) :=
  (keeps_call _ _).bind fun _ => keeps_removeFromTmp h

theorem keeps_lfsCopy {path : String} (preserveOriginal : Bool)
    (h : ∀ s, P s → P { s with tmp := s.tmp.filter (· ≠ path) }) :
    Keeps P (lfsCopy env path preserveOriginal) :=
  (keeps_call _ _).bind fun _ => keeps_ite (keeps_removeFromTmp h) (keeps_pure _)

/-- A copy that preserves its original leaves the tmp area as it was. -/
theorem keeps_lfsCopy_preserved (path : String) : Keeps P (lfsCopy env path true) :=
  (keeps_call _ _).bind fun _ => keeps_pure (P := P) ()

theorem Keeps.runTask {α : Type} {x : ImportM α} (hx : Keeps P x) : Keeps P (runTask x) :=
  Keeps.tryCatch (hx.map _) fun _ => keeps_pure _

theorem keeps_runTasks {α : Type} {task : String → ImportM α} {l : List String}
    (h : ∀ source ∈ l, Keeps P (task source)) : Keeps P (runTasks task l) := by
  induction l with
  | nil => exact keeps_pure _
  | cons source l ih =>
    exact (h source (List.mem_cons_self _ _)).runTask.bind fun _ =>
      (ih fun x hx => h x (List.mem_cons_of_mem _ hx)).bind fun _ => keeps_pure _

theorem keeps_forResults {α : Type} {f : String → α → ImportM Unit}
    {rs : List (String × Except ImportError α)} (h : ∀ r ∈ rs, ∀ a, r.2 = .ok a → Keeps P (f r.1 a)) :
    Keeps P (forResults f rs) :=
  keeps_forM fun r hr => by
    split
    · exact h r hr _ ‹_›
    · exact keeps_throw _

/-- A thread pool keeps what each task and each read of a result keeps. -/
theorem keeps_inPool {α : Type} {sources : List String} {task : String → ImportM α}
    {f : String → α → ImportM Unit} (htask : ∀ source, Keeps P (task source))
    (hf : ∀ source a, Keeps P (f source a)) : Keeps P (inPool env sources task f) :=
  (keeps_runTasks fun source _ => htask source).bind fun _ =>
    keeps_forResults fun _ _ _ _ => hf _ _

end Steps

/-! ### The refs -/

section Refs
variable {env : ImportEnv}

/-- The refs are `r`. -/
def RefsAre (r : PyDict String Nat) (s : ImportState) : Prop := s.refs = r

variable {r : PyDict String Nat}

theorem keeps_refs_fetchSource (source : String) : Keeps (RefsAre r) (fetchSource env source) :=
  keeps_ite ((keeps_uuid4 fun _ h => h).bind fun _ => (keeps_fetchFromS3 fun _ h => h).bind fun _ =>
    (keeps_forM fun _ _ => keeps_fetchSidecar fun _ h => h).bind fun _ => keeps_pure _) (keeps_pure _)

theorem keeps_refs_extractTileMetadata (source : String) :
    Keeps (RefsAre r) (extractTileMetadata env source) :=
  (keeps_refs_fetchSource _).bind fun _ => (keeps_call _ _).bind fun _ => keeps_pure _

theorem keeps_refs_extractMultipleTilesMetadata (sources : List String) :
    Keeps (RefsAre r) (extractMultipleTilesMetadata env sources) :=
  keeps_ite (keeps_forM fun _ _ => (keeps_refs_extractTileMetadata _).bind fun _ =>
      keeps_modify fun _ h => h)
    (keeps_inPool (fun _ => keeps_refs_extractTileMetadata _) fun _ _ => keeps_modify fun _ h => h)

variable (env) in
theorem keeps_refs_prepareSources (opts : TileImport) : Keeps (RefsAre r) (prepareSources env opts) := by
  unfold prepareSources
  refine (keeps_checkDeleteDataset _).bind fun _ => Keeps.bind ?_ fun _ =>
    keeps_ite ((keeps_refs_extractMultipleTilesMetadata _).bind fun _ => keeps_checkMetadata)
      (keeps_pure _)
  exact keeps_modify fun _ h => h

theorem keeps_refs_copyFileToLocalLfsCache (source : String) :
    Keeps (RefsAre r) (copyFileToLocalLfsCache env source) :=
  keeps_get_bind fun s hs => by
    rcases (s.sourceToLocalPath.get source).join with _ | path <;>
      exact keeps_lfsCopy _ (fun _ h => h) s hs

theorem keeps_refs_copySidecars (source : String) : Keeps (RefsAre r) (copySidecars env source) :=
  keeps_get_bind fun s hs => keeps_forM (fun _ _ => keeps_refs_copyFileToLocalLfsCache _) s hs

theorem keeps_refs_importTilesToStream (sources : List String) :
    Keeps (RefsAre r) (importTilesToStream env sources) :=
  keeps_ite (keeps_forM fun _ _ => (keeps_refs_copyFileToLocalLfsCache _).bind fun _ =>
      keeps_refs_copySidecars _)
    (keeps_inPool (fun _ => keeps_refs_copyFileToLocalLfsCache _) fun _ _ => keeps_refs_copySidecars _)

variable (env) in
theorem gitFastImport_refs (ref : String) {body : ImportM Unit}
    (hbody : ∀ r, Keeps (RefsAre r) body) (s : ImportState) :
    match gitFastImport env ref body s with
    | .ok _ t => t.refs = s.refs.setItem ref env.importedCommit
    | .error _ t => t.refs = s.refs := by
  unfold gitFastImport
  rw [bind_apply]
  have h := hbody s.refs s rfl
  rcases hb : body s with ⟨⟨⟩, t⟩ | ⟨e, t⟩ <;> rw [hb] at h <;> simp only [stateOf, RefsAre] at h
  · by_cases hc : env.returnCode = 0 <;> simp [hc, h]
  · exact h

variable (env) in
theorem streamImport_refs (opts : TileImport) (ref : String) (s : ImportState) :
    match streamImport env opts ref s with
    | .ok _ t => t.refs = s.refs.setItem ref env.importedCommit
    | .error _ t => t.refs = s.refs :=
  gitFastImport_refs env ref (fun _ => (keeps_checkDeletes _).bind fun _ =>
    keeps_ite ((keeps_refs_importTilesToStream _).bind fun _ =>
      keeps_checkForNonHomogenousMetadata _) (keeps_pure _)) s

variable (env) in
/-- The `try` block either moves the HEAD branch to the new commit, or raises where it was
called. -/
theorem commitImport_cases (opts : TileImport) {ref : String} {s : ImportState} {c : Nat}
    (hs : s.refs.get ref = some c) :
    commitImport env opts ref s =
        .ok () { s with
          refs := s.refs.setItem opts.headBranch (if opts.amend then env.createdCommit else c) } ∨
      ∃ e, commitImport env opts ref s = .error e s := by
  unfold commitImport newCommitFor
  simp only [get_bind_apply, hs]
  cases opts.amend
  · rcases check_cases (fun _ => keeps_checkChanges _) (x := checkChanges env opts.allowEmpty) s
      with h | ⟨e, h⟩
    · exact .inl (by simp only [Bool.false_eq_true, ite_false, bind_apply, h, pure_apply]; rfl)
    · exact .inr ⟨e, by simp only [Bool.false_eq_true, ite_false, bind_apply, h]⟩
  · cases env.createCommitOk <;> simp [bind_apply, map_apply, call]

variable (env) in
/-- The unlinks of the `finally` block change the tmp area only, and raise as `unlink` does. -/
theorem unlinkLocalCopies_cases (l : List (String × Option String)) (s : ImportState) :
    ∃ tmp, unlinkLocalCopies env l s = .ok () { s with tmp := tmp } ∨
      ∃ path, unlinkLocalCopies env l s = .error (.raisedBy (.unlink path)) { s with tmp := tmp } := by
  induction l generalizing s with
  | nil => exact ⟨s.tmp, .inl rfl⟩
  | cons entry l ih =>
    unfold unlinkLocalCopies at ih ⊢
    rw [forM_cons_apply, bind_apply]
    rcases entry with ⟨_, _ | path⟩
    · exact ih s
    · dsimp only
      unfold unlink
      rw [bind_apply]
      cases env.unlinkOk path
      · exact ⟨s.tmp, .inr ⟨path, rfl⟩⟩
      · exact ih { s with tmp := s.tmp.filter (· ≠ path) }

variable (env) in
/-- The `finally` block of `import_tiles` on a state that has the import's ref: the ref's deletion
raises and nothing changes, or the ref is deleted and the unlinks change the tmp area, raising as
`unlink` does. -/
theorem cleanUp_cases (ref : String) {s : ImportState} {c : Nat} (hs : s.refs.get ref = some c) :
    cleanUp env ref s = .error (.raisedBy (.deleteReference ref)) s ∨
      ∃ tmp, cleanUp env ref s = .ok () { s with refs := s.refs.pop ref, tmp := tmp } ∨
        ∃ path, cleanUp env ref s =
          .error (.raisedBy (.unlink path)) { s with refs := s.refs.pop ref, tmp := tmp } := by
  unfold cleanUp
  simp only [get_bind_apply, hs]
  cases env.deleteRefOk
  · exact .inl rfl
  · exact .inr (unlinkLocalCopies_cases env _ { s with refs := s.refs.pop ref })

/-- The refs `r` with the import's ref deleted, or kept where its deletion raised `e`. -/
def RefDeleted (ref : String) (e : ImportError) (r : PyDict String Nat) (t : ImportState) : Prop :=
  t.refs = r.pop ref ∨ e = .raisedBy (.deleteReference ref) ∧ t.refs = r

variable (env) in
/-- From the `try` on: the HEAD branch has moved unless the `try` block raised, and the import's
ref is deleted unless its deletion raised. An exception raised once the HEAD branch has moved comes
from the `finally` or after it. -/
theorem commitTail_refs (opts : TileImport) {ref : String} {s : ImportState} {c : Nat}
    (hs : s.refs.get ref = some c) (hhead : opts.headBranch ≠ ref) :
    let moved := s.refs.setItem opts.headBranch (if opts.amend then env.createdCommit else c)
    match (tryFinally (commitImport env opts ref) (cleanUp env ref) >>= fun _ =>
        call env.configureOk .configureDoCheckoutDatasets >>= fun _ =>
        call env.resetOk .resetToHead) s with
    | .ok _ t => t.refs = moved.pop ref
    | .error e t => RefDeleted ref e s.refs t ∨
        (∃ c, e = .raisedBy c ∧ c.afterTry = true) ∧ RefDeleted ref e moved t := by
  intro moved
  rw [bind_apply, tryFinally_apply]
  rcases commitImport_cases env opts hs with h | ⟨e, h⟩ <;> rw [h] <;> dsimp only
  · have hs' : moved.get ref = some c := by
      rw [PyDict.get_setItem, if_neg (Ne.symm hhead)]; exact hs
    rcases cleanUp_cases env ref (s := { s with refs := moved }) hs' with hc | ⟨tmp, hc | ⟨path, hc⟩⟩ <;>
      rw [hc] <;> dsimp only
    · exact .inr ⟨⟨_, rfl, rfl⟩, .inr ⟨rfl, rfl⟩⟩
    · rw [bind_apply]
      cases env.configureOk <;> cases env.resetOk <;> simp [call, RefDeleted, Outside.afterTry]
    · exact .inr ⟨⟨_, rfl, rfl⟩, .inl rfl⟩
  · rcases cleanUp_cases env ref hs with hc | ⟨tmp, hc | ⟨path, hc⟩⟩ <;> rw [hc]
    · exact .inl (.inr ⟨rfl, rfl⟩)
    · exact .inl (.inl rfl)
    · exact .inl (.inl rfl)

variable (env) in
/-- No `refs/kart-import/...` ref outlives `import_tiles` unless deleting it raised. A failed run
leaves the HEAD branch where it was, unless it failed in the `finally` or after it. -/
theorem importTiles_refs (opts : TileImport) (s : ImportState)
    (hfresh : ∀ u, s.refs.get (kartImportRef u) = none)
    (hhead : ∀ u, opts.headBranch ≠ kartImportRef u) :
    (∀ u, (stateOf (importTiles env opts s)).refs.get (kartImportRef u) = none ∨
      importTiles env opts s =
        .error (.raisedBy (.deleteReference (kartImportRef u))) (stateOf (importTiles env opts s))) ∧
    ∀ e t, importTiles env opts s = .error e t →
      t.refs.get opts.headBranch = s.refs.get opts.headBranch ∨
      (∃ c, e = .raisedBy c ∧ c.afterTry = true) ∧ t.refs.get opts.headBranch =
        some (if opts.amend then env.createdCommit else env.importedCommit) := by
  have hhead' : ∀ u, kartImportRef u ≠ opts.headBranch := fun u h => hhead u h.symm
  unfold importTiles
  have hp := keeps_refs_prepareSources env opts s rfl
  rw [bind_apply]
  rcases hpr : prepareSources env opts s with ⟨⟨⟩, s1⟩ | ⟨e, s1⟩ <;> rw [hpr] at hp <;>
    simp only [stateOf, RefsAre] at hp ⊢
  swap
  · exact ⟨fun u => .inl (hp ▸ hfresh u), fun _ _ h => by cases h; exact .inl (by rw [hp])⟩
  rw [bind_apply, uuid4_apply]
  dsimp only
  set ref := kartImportRef (env.uuid s1.uuids)
  set s2 : ImportState := { s1 with uuids := s1.uuids + 1 }
  rw [bind_apply]
  rcases check_cases (fun _ => keeps_checkAmend opts) s2 with ha | ⟨e, ha⟩ <;> rw [ha] <;> dsimp only
  swap
  · exact ⟨fun u => .inl (hp ▸ hfresh u), fun _ _ h => by cases h; exact .inl (by rw [hp])⟩
  rw [bind_apply]
  rcases check_cases (fun _ => keeps_call env.headerOk .generateHeader) s2 with hh | ⟨e, hh⟩ <;>
    rw [hh] <;> dsimp only
  swap
  · exact ⟨fun u => .inl (hp ▸ hfresh u), fun _ _ h => by cases h; exact .inl (by rw [hp])⟩
  rw [bind_apply]
  have hst := streamImport_refs env opts ref s2
  rcases hsr : streamImport env opts ref s2 with ⟨⟨⟩, s4⟩ | ⟨e, s4⟩ <;>
    rw [hsr] at hst <;> dsimp only at hst ⊢
  swap
  · exact ⟨fun u => .inl (hst ▸ hp ▸ hfresh u), fun _ _ h => by cases h; exact .inl (by rw [hst, hp])⟩
  have hs4 : s4.refs.get ref = some env.importedCommit := by
    rw [hst, PyDict.get_setItem, if_pos rfl]
  have htail := commitTail_refs env opts hs4 (hhead _)
  rcases htr : (tryFinally (commitImport env opts ref) (cleanUp env ref) >>= fun _ =>
      call env.configureOk .configureDoCheckoutDatasets >>= fun _ =>
      call env.resetOk .resetToHead) s4 with ⟨⟨⟩, t⟩ | ⟨e, t⟩ <;>
    rw [htr] at htail <;> dsimp only at htail ⊢
  · refine ⟨fun u => .inl ?_, fun _ _ h => nomatch h⟩
    by_cases hu : kartImportRef u = ref <;> simp [htail, hst, hp, hu, hhead', hfresh]
  · refine ⟨fun u => ?_, fun _ _ h => ?_⟩
    · by_cases hu : kartImportRef u = ref
      · rcases htail with (h | ⟨he, h⟩) | ⟨-, h | ⟨he, h⟩⟩
        · exact .inl (by simp [h, hu])
        · exact .inr (by rw [he, hu])
        · exact .inl (by simp [h, hu])
        · exact .inr (by rw [he, hu])
      · left
        rcases htail with (h | ⟨-, h⟩) | ⟨-, h | ⟨-, h⟩⟩ <;>
          simp [h, hst, hp, hu, hhead', hfresh]
    · cases h
      rcases htail with (h | ⟨-, h⟩) | ⟨hafter, h | ⟨-, h⟩⟩
      · exact .inl (by simp [h, hst, hp, hhead])
      · exact .inl (by simp [h, hst, hp, hhead])
      · exact .inr ⟨hafter, by simp [h, hst, hhead]⟩
      · exact .inr ⟨hafter, by simp [h, hst, hhead]⟩

/-- The environment of the examples: one worker, every call returns, `git fast-import` writes
commit `2`, and `create_commit` makes commit `3`. -/
def exampleEnv : ImportEnv where
  lfsTmpPath := "tmp"
  uuid _ := "u"
  fetch _ := .ok
  sidecarFiles _ := []
  metadataOk _ := true
  preConvertOk := true
  sourcesHomogenous := true
  predictedHomogenous := true
  importedHomogenous := true
  headCommit := some 1
  headerOk := true
  tileExists _ := true
  alreadyImported _ := false
  copyOk _ := true
  streamOk := true
  returnCode := 0
  importedCommit := 2
  createCommitOk := true
  createdCommit := 3
  unchanged := false
  deleteRefOk := true
  unlinkOk _ := true
  configureOk := true
  resetOk := true
  numWorkers := 1
  completionOrder := id
  completionOrder_perm := List.Perm.refl

/-- `refs/heads/main` is no `refs/kart-import/...` ref. -/
theorem main_ne_kartImportRef (u : String) : "refs/heads/main" ≠ kartImportRef u := fun h => by
  have := congrArg String.length h
  have h₁ : "refs/heads/main".length = 15 := by decide
  have h₂ : "refs/kart-import/".length = 17 := by decide
  simp only [kartImportRef, String.length_append, h₁, h₂] at this
  omega

/-- An import onto `refs/heads/main` of a repository with no refs, whose checkout configuration
then fails: the run raises with the HEAD branch at the imported commit, and no import ref left. -/
theorem importTiles_refs_configureFails :
    let env : ImportEnv := { exampleEnv with configureOk := false }
    let opts : TileImport := ⟨"ds", ["s3://b/a.laz"], [], true, false, false, "refs/heads/main"⟩
    let s : ImportState := ⟨[], PyDict.empty, PyDict.empty, 0⟩
    (∀ u, s.refs.get (kartImportRef u) = none) ∧ (∀ u, opts.headBranch ≠ kartImportRef u) ∧
    (∀ u, (stateOf (importTiles env opts s)).refs.get (kartImportRef u) = none ∨
      importTiles env opts s =
        .error (.raisedBy (.deleteReference (kartImportRef u))) (stateOf (importTiles env opts s))) ∧
    ∀ e t, importTiles env opts s = .error e t →
      t.refs.get opts.headBranch = s.refs.get opts.headBranch ∨
      (∃ c, e = .raisedBy c ∧ c.afterTry = true) ∧ t.refs.get opts.headBranch =
        some (if opts.amend then env.createdCommit else env.importedCommit) := by
  intro env opts s
  have hfresh : ∀ u, s.refs.get (kartImportRef u) = none := fun _ => rfl
  exact ⟨hfresh, main_ne_kartImportRef, importTiles_refs env opts s hfresh main_ne_kartImportRef⟩

theorem get_pop_setItem_of_fresh {d : PyDict String Nat} {k : String} (hk : d.get k = none)
    (v : Nat) (k' : String) : ((d.setItem k v).pop k).get k' = d.get k' := by
  by_cases h : k' = k <;> simp [h, hk]

variable (env) in
/-- The `finally` block of `fast_import_tables`: the temporary branch is deleted if it exists,
unless its deletion raises, which changes nothing. -/
theorem removeImportRef_cases (importRef : Option String) (s : ImportState) :
    removeImportRef env importRef s = .ok () { s with refs := importRef.elim s.refs s.refs.pop } ∨
      ∃ ref, importRef = some ref ∧ (s.refs.get ref).isSome ∧
        removeImportRef env importRef s = .error (.raisedBy (.deleteReference ref)) s := by
  unfold removeImportRef
  rcases importRef with _ | ref
  · exact .inl rfl
  · cases h : s.refs.get ref
    · exact .inl (by simp [h, PyDict.pop_of_get_none])
    · cases hd : env.deleteRefOk
      · exact .inr ⟨ref, rfl, by simp [h], by simp [h, hd, call, bind_apply]⟩
      · exact .inl (by simp [h, hd, call, bind_apply])

variable (env) in
/-- The `try` block of `fast_import_tables` moves the temporary branch and then `orig_branch`, or
raises having moved at most the temporary branch. -/
theorem importTables_refs (header origBranch importRef : Option String) (allowEmpty : Bool)
    (s : ImportState) :
    match importTables env header origBranch importRef allowEmpty s with
    | .ok _ t => ∀ ref, importRef = some ref →
      t.refs = (s.refs.setItem ref env.importedCommit).setItem (origBranch.getD "HEAD")
        env.createdCommit
    | .error _ t => t.refs = s.refs ∨
      ∃ ref, importRef = some ref ∧ t.refs = s.refs.setItem ref env.importedCommit := by
  unfold importTables
  rw [bind_apply]
  rcases check_cases (fun _ => keeps_ite (keeps_call _ _) (keeps_pure _))
    (x := if header.isNone then call env.headerOk .generateHeader else pure ()) s
    with hh | ⟨e, hh⟩ <;> rw [hh] <;> dsimp only
  swap
  · exact .inl rfl
  have hg := gitFastImport_refs env (importRef.getD (header.getD ""))
    (fun _ => keeps_call (P := RefsAre _) env.streamOk .importSingleSource) s
  rw [bind_apply]
  rcases hgr : gitFastImport env (importRef.getD (header.getD "")) (call env.streamOk .importSingleSource)
    s with ⟨⟨⟩, t⟩ | ⟨e, t⟩ <;> rw [hgr] at hg <;> dsimp only at hg ⊢
  · rcases importRef with _ | ref
    · exact nofun
    · have ht : t.refs.get ref = some env.importedCommit := by
        rw [hg, Option.getD_some, PyDict.get_setItem, if_pos rfl]
      simp only [get_bind_apply, ht, Option.getD_some] at hg ⊢
      rcases check_cases (fun _ => keeps_checkChanges allowEmpty) (x := checkChanges env allowEmpty)
        t with hc | ⟨e, hc⟩ <;> simp only [bind_apply, hc]
      · cases env.createCommitOk <;> simp [call, hg]
      · exact .inr ⟨ref, rfl, hg⟩
  · exact .inl hg

variable (env) in
/-- A failed `fast_import_tables` moves no ref, unless it is deleting the temporary branch that
raised. Without a header, no `refs/kart-import/...` ref outlives a run, unless deleting it raised,
and the run then raises that. -/
theorem fastImportTables_refs (header origBranch : Option String) (allowEmpty : Bool)
    (s : ImportState) (hfresh : ∀ u, s.refs.get (kartImportRef u) = none) :
    (∀ e t, fastImportTables env header origBranch allowEmpty s = .error e t →
      (∀ ref, t.refs.get ref = s.refs.get ref) ∨ ∃ ref, e = .raisedBy (.deleteReference ref)) ∧
    (header = none → (∀ u, origBranch.getD "HEAD" ≠ kartImportRef u) →
      ∀ u, (stateOf (fastImportTables env header origBranch allowEmpty s)).refs.get
        (kartImportRef u) = none ∨
        fastImportTables env header origBranch allowEmpty s = .error
          (.raisedBy (.deleteReference (kartImportRef u)))
          (stateOf (fastImportTables env header origBranch allowEmpty s))) := by
  unfold fastImportTables
  rw [bind_apply]
  cases header with
  | some branch =>
    simp only [importRefFor, pure_apply, tryFinally_apply]
    have hi := importTables_refs env (some branch) origBranch none allowEmpty s
    rcases hr : importTables env (some branch) origBranch none allowEmpty s with ⟨⟨⟩, t⟩ | ⟨e, t⟩ <;>
      rw [hr] at hi <;> dsimp only at hi ⊢ <;>
      rcases removeImportRef_cases env none t with hrm | ⟨_, h, -⟩ <;> try cases h
    all_goals rw [hrm]; dsimp only
    · exact ⟨nofun, nofun⟩
    · refine ⟨fun _ _ h => .inl fun ref => ?_, nofun⟩
      cases h
      rcases hi with hi | ⟨_, h, _⟩
      · rw [← hi]; rfl
      · cases h
  | none =>
    simp only [importRefFor, bind_apply, uuid4_apply, pure_apply, tryFinally_apply]
    set ref := kartImportRef (env.uuid s.uuids)
    have hi := importTables_refs env none origBranch (some ref) allowEmpty
      { s with uuids := s.uuids + 1 }
    rcases hr : importTables env none origBranch (some ref) allowEmpty { s with uuids := s.uuids + 1 }
      with ⟨⟨⟩, t⟩ | ⟨e, t⟩ <;> rw [hr] at hi <;> dsimp only at hi ⊢
    · rcases removeImportRef_cases env (some ref) t with hrm | ⟨_, h, -, hrm⟩ <;> rw [hrm] <;>
        dsimp only
      · refine ⟨nofun, fun _ hb u => .inl ?_⟩
        by_cases hu : kartImportRef u = ref <;> simp [hi ref rfl, hu, hfresh, Ne.symm (hb u)]
      · cases h
        refine ⟨fun _ _ h => by cases h; exact .inr ⟨_, rfl⟩, fun _ hb u => ?_⟩
        by_cases hu : kartImportRef u = ref
        · exact .inr (by rw [hu]; rfl)
        · exact .inl (by simp [hi ref rfl, hu, hfresh, Ne.symm (hb u)])
    · have hpop : ∀ k, (t.refs.pop ref).get k = s.refs.get k := by
        rcases hi with hi | ⟨_, h, hi⟩
        · intro k; by_cases hk : k = ref <;> simp [hi, hk, hfresh]
        · cases h; rw [hi]; exact get_pop_setItem_of_fresh (hfresh (env.uuid s.uuids)) _
      rcases removeImportRef_cases env (some ref) t with hrm | ⟨_, h, -, hrm⟩ <;> rw [hrm] <;>
        dsimp only
      · refine ⟨fun _ _ h => ?_, fun _ _ u => .inl ?_⟩
        · cases h; exact .inl hpop
        · exact (hpop _).trans (hfresh u)
      · cases h
        have hkeep : ∀ k, k ≠ ref → t.refs.get k = s.refs.get k := fun k hk => by
          rw [← hpop k, PyDict.get_pop, if_neg hk]
        refine ⟨fun _ _ h => by cases h; exact .inr ⟨_, rfl⟩, fun _ _ u => ?_⟩
        by_cases hu : kartImportRef u = ref
        · exact .inr (by rw [hu]; rfl)
        · exact .inl ((hkeep _ hu).trans (hfresh u))

/-- `fast_import_tables` without a header, onto `refs/heads/main` of a repository with no refs,
whose commit fails: it raises, leaving the refs as they were. -/
theorem fastImportTables_refs_commitFails :
    let env : ImportEnv := { exampleEnv with createCommitOk := false }
    let s : ImportState := ⟨[], PyDict.empty, PyDict.empty, 0⟩
    (∀ u, s.refs.get (kartImportRef u) = none) ∧
    (∀ e t, fastImportTables env none (some "refs/heads/main") false s = .error e t →
      (∀ ref, t.refs.get ref = s.refs.get ref) ∨ ∃ ref, e = .raisedBy (.deleteReference ref)) ∧
    ∀ u, (stateOf (fastImportTables env none (some "refs/heads/main") false s)).refs.get
        (kartImportRef u) = none ∨
      fastImportTables env none (some "refs/heads/main") false s = .error
        (.raisedBy (.deleteReference (kartImportRef u)))
        (stateOf (fastImportTables env none (some "refs/heads/main") false s)) := by
  intro env s
  have hfresh : ∀ u, s.refs.get (kartImportRef u) = none := fun _ => rfl
  have h := fastImportTables_refs env none (some "refs/heads/main") false s hfresh
  exact ⟨hfresh, h.1, h.2 rfl main_ne_kartImportRef⟩

end Refs

/-! ### The fetched copies -/

section Fetched
variable {env : ImportEnv}

/-- A path of a fetched tile: `lfs_tmp_path / str(uuid.uuid4())`. -/
def TilePath (env : ImportEnv) (path : String) : Prop :=
  ∃ n, path = env.lfsTmpPath ++ "/" ++ env.uuid n

/-- Every local copy recorded in `source_to_local_path` is a fetched tile, and each sidecar file
fetched with it is in the tmp area. -/
def SidecarsKept (env : ImportEnv) (s : ImportState) : Prop :=
  ∀ source path, s.sourceToLocalPath.get source = some (some path) → TilePath env path ∧
    ∀ sidecar ∈ env.sidecarFiles source, env.fetch sidecar.1 = .ok → path ++ sidecar.2 ∈ s.tmp

/-- The fetch phase only adds files to the tmp area. -/
def Grows (s t : ImportState) : Prop :=
  t.sourceToLocalPath = s.sourceToLocalPath ∧ s.tmp ⊆ t.tmp

theorem Grows.refl (s : ImportState) : Grows s s := ⟨rfl, List.Subset.refl _⟩

theorem Grows.trans {s t u : ImportState} (h₁ : Grows s t) (h₂ : Grows t u) : Grows s u :=
  ⟨h₂.1.trans h₁.1, h₁.2.trans h₂.2⟩

theorem SidecarsKept.grow {s t : ImportState} (hs : SidecarsKept env s) (h : Grows s t) :
    SidecarsKept env t := fun source path hp =>
  let ⟨htile, hside⟩ := hs source path (h.1 ▸ hp)
  ⟨htile, fun sidecar hm hok => h.2 (hside sidecar hm hok)⟩

/-- What the fetch of `source` leaves in the tmp area of `t`: a remote source has a local copy, a
tile copy fetched with the sidecar files that exist. -/
def LocalCopyIn (env : ImportEnv) (source : String) (localPath : Option String) (t : ImportState) :
    Prop :=
  (isS3Url source = true → localPath.isSome) ∧
    ∀ path, localPath = some path → TilePath env path ∧ path ∈ t.tmp ∧
      ∀ sidecar ∈ env.sidecarFiles source, env.fetch sidecar.1 = .ok → path ++ sidecar.2 ∈ t.tmp

theorem LocalCopyIn.grow {source : String} {localPath : Option String} {s t : ImportState}
    (h : LocalCopyIn env source localPath s) (hst : s.tmp ⊆ t.tmp) :
    LocalCopyIn env source localPath t :=
  ⟨h.1, fun path hp => let ⟨htile, hmem, hside⟩ := h.2 path hp
    ⟨htile, hst hmem, fun sidecar hm hok => hst (hside sidecar hm hok)⟩⟩

/-- What makes `extract_tile_metadata` of `source` raise: S3 raising on the tile, S3 raising
something other than `ClientError` on a sidecar file, or the metadata reader raising. -/
def ExtractFails (env : ImportEnv) (source : String) : Prop :=
  env.fetch source ≠ .ok ∨ (∃ sidecar ∈ env.sidecarFiles source, env.fetch sidecar.1 = .otherError) ∨
    ∃ path, env.metadataOk path = false

theorem fetchSidecar_apply (url path : String) (s : ImportState) :
    fetchSidecar env url path s = match env.fetch url with
      | .ok => .ok () { s with tmp := path :: s.tmp }
      | .clientError => .ok () s
      | .otherError => .error (.raisedBy (.fetchFromS3 url)) s := by
  unfold fetchSidecar fetchFromS3
  rw [tryCatch_apply]
  cases env.fetch url <;> rfl

variable (env) in
/-- The sidecar loop of `extract_tile_metadata` fetches each sidecar file that exists, and raises
only where S3 raises something other than `ClientError`. -/
theorem fetchSidecars_spec (path : String) (l : List (String × String)) (s : ImportState) :
    (∃ t, fetchSidecars env path l s = .ok () t ∧ Grows s t ∧
      ∀ sidecar ∈ l, env.fetch sidecar.1 = .ok → path ++ sidecar.2 ∈ t.tmp) ∨
    ∃ e t, fetchSidecars env path l s = .error e t ∧ Grows s t ∧
      ∃ sidecar ∈ l, env.fetch sidecar.1 = .otherError := by
  unfold fetchSidecars
  induction l generalizing s with
  | nil => exact .inl ⟨s, rfl, Grows.refl s, nofun⟩
  | cons sidecar l ih =>
    rw [forM_cons_apply, bind_apply, fetchSidecar_apply]
    cases hf : env.fetch sidecar.1 <;> dsimp only
    case otherError => exact .inr ⟨_, s, rfl, Grows.refl s, sidecar, List.mem_cons_self _ _, hf⟩
    case ok =>
      have hg₀ : Grows s { s with tmp := (path ++ sidecar.2) :: s.tmp } :=
        ⟨rfl, List.subset_cons_self _ _⟩
      rcases ih { s with tmp := (path ++ sidecar.2) :: s.tmp }
        with ⟨t, ht, hg, hmem⟩ | ⟨e, t, ht, hg, sc, hsc, hother⟩
      · refine .inl ⟨t, ht, hg₀.trans hg, fun sc hsc hok => ?_⟩
        rcases List.mem_cons.1 hsc with rfl | hsc
        · exact hg.2 (List.mem_cons_self _ _)
        · exact hmem sc hsc hok
      · exact .inr ⟨e, t, ht, hg₀.trans hg, sc, List.mem_cons_of_mem _ hsc, hother⟩
    case clientError =>
      rcases ih s with ⟨t, ht, hg, hmem⟩ | ⟨e, t, ht, hg, sc, hsc, hother⟩
      · refine .inl ⟨t, ht, hg, fun sc hsc hok => ?_⟩
        rcases List.mem_cons.1 hsc with rfl | hsc
        · exact absurd (hf.symm.trans hok) nofun
        · exact hmem sc hsc hok
      · exact .inr ⟨e, t, ht, hg, sc, List.mem_cons_of_mem _ hsc, hother⟩

/-- What the fetch of `source` leaves in `t` from `s`: the tmp area grows, and the local copy, if
any, is as `LocalCopyIn` says. -/
def FetchedFrom (env : ImportEnv) (source : String) (s : ImportState) (localPath : Option String)
    (t : ImportState) : Prop :=
  Grows s t ∧ LocalCopyIn env source localPath t

variable (env) in
/-- The fetch of a source raises only if S3 does. -/
theorem fetchSource_spec (source : String) (s : ImportState) :
    (∀ localPath t, fetchSource env source s = .ok localPath t →
      FetchedFrom env source s localPath t) ∧
    ∀ e t, fetchSource env source s = .error e t → Grows s t ∧ (env.fetch source ≠ .ok ∨
      ∃ sidecar ∈ env.sidecarFiles source, env.fetch sidecar.1 = .otherError) := by
  unfold fetchSource
  cases hr : isS3Url source
  · refine ⟨fun _ _ h => ?_, fun _ _ h => nomatch h⟩
    cases h
    exact ⟨Grows.refl s, fun h => (nomatch hr.symm.trans h), nofun⟩
  · rw [if_pos rfl, bind_apply, uuid4_apply]
    dsimp only
    rw [bind_apply]
    unfold fetchFromS3
    set path := env.lfsTmpPath ++ "/" ++ env.uuid s.uuids
    cases hok : env.fetch source <;> dsimp only
    case ok =>
      rw [modify_apply]
      dsimp only
      rw [bind_apply]
      rcases fetchSidecars_spec env path (env.sidecarFiles source)
          { s with uuids := s.uuids + 1, tmp := path :: s.tmp }
        with ⟨t, ht, hg, hmem⟩ | ⟨e, t, ht, hg, hother⟩ <;> rw [ht] <;> dsimp only
      · refine ⟨fun _ _ h => ?_, nofun⟩
        cases h
        refine ⟨⟨hg.1, fun p hp => hg.2 (List.mem_cons_of_mem _ hp)⟩, fun _ => rfl, ?_⟩
        rintro _ ⟨⟩
        exact ⟨⟨s.uuids, rfl⟩, hg.2 (List.mem_cons_self _ _), hmem⟩
      · refine ⟨nofun, fun _ _ h => ?_⟩
        cases h
        exact ⟨⟨hg.1, fun p hp => hg.2 (List.mem_cons_of_mem _ hp)⟩, .inr hother⟩
    all_goals exact ⟨nofun, fun _ _ h => by cases h; exact ⟨Grows.refl s, .inl (by simp)⟩⟩

variable (env) in
/-- `extract_tile_metadata` leaves what its fetch leaves; it raises only as `ExtractFails` says. -/
theorem extractTileMetadata_spec (source : String) (s : ImportState) :
    (∀ localPath t, extractTileMetadata env source s = .ok localPath t →
      FetchedFrom env source s localPath t) ∧
    ∀ e t, extractTileMetadata env source s = .error e t → Grows s t ∧ ExtractFails env source := by
  unfold extractTileMetadata
  obtain ⟨hok, herr⟩ := fetchSource_spec env source s
  rw [bind_apply]
  rcases hf : fetchSource env source s with ⟨localPath, t⟩ | ⟨e, t⟩ <;> dsimp only
  · rw [bind_apply]
    cases hm : env.metadataOk (localPath.getD source) <;> simp only [call, hm]
    · exact ⟨nofun, fun _ _ h => by cases h; exact ⟨(hok _ _ hf).1, .inr (.inr ⟨_, hm⟩)⟩⟩
    · exact ⟨fun _ _ h => by cases h; exact hok _ _ hf, nofun⟩
  · refine ⟨nofun, fun _ _ h => ?_⟩
    cases h
    obtain ⟨hg, hcause⟩ := herr _ _ hf
    exact ⟨hg, hcause.elim .inl (.inr ∘ .inl)⟩

theorem runTask_apply {α : Type} (x : ImportM α) (s : ImportState) :
    runTask x s = match x s with
      | .ok a t => .ok (.ok a) t
      | .error e t => .ok (.error e) t := by
  unfold runTask
  rw [tryCatch_apply, map_apply]
  cases x s <;> rfl

variable (env) in
/-- The extraction tasks of a thread pool all run: the tmp area grows, and each result is a local
copy as `LocalCopyIn` says, or an exception as `ExtractFails` says. -/
theorem runTasks_extractTileMetadata (l : List String) (s : ImportState) :
    ∃ rs t, runTasks (extractTileMetadata env) l s = .ok rs t ∧ Grows s t ∧ rs.map Prod.fst = l ∧
      ∀ r ∈ rs, (∀ localPath, r.2 = .ok localPath → LocalCopyIn env r.1 localPath t) ∧
        (∀ e, r.2 = .error e → ExtractFails env r.1) := by
  induction l generalizing s with
  | nil => exact ⟨[], s, rfl, Grows.refl s, rfl, nofun⟩
  | cons source l ih =>
    obtain ⟨hok, herr⟩ := extractTileMetadata_spec env source s
    unfold runTasks
    rw [bind_apply, runTask_apply]
    rcases hx : extractTileMetadata env source s with ⟨localPath, t₁⟩ | ⟨e, t₁⟩ <;> dsimp only <;>
      rw [bind_apply] <;> obtain ⟨rs, t, hrs, hg, hmap, hr⟩ := ih t₁ <;> rw [hrs] <;> dsimp only
    · have h := hok _ _ hx
      refine ⟨_, t, rfl, h.1.trans hg, by simp [hmap], fun r hr' => ?_⟩
      rcases List.mem_cons.1 hr' with rfl | hr'
      · exact ⟨fun _ h' => by cases h'; exact h.2.grow hg.2, nofun⟩
      · exact hr r hr'
    · have h := herr _ _ hx
      refine ⟨_, t, rfl, h.1.trans hg, by simp [hmap], fun r hr' => ?_⟩
      rcases List.mem_cons.1 hr' with rfl | hr'
      · exact ⟨nofun, fun _ _ => h.2⟩
      · exact hr r hr'

/-- Recording the results of the pool keeps every recorded local copy a fetched tile with its
sidecar files, since each result is. -/
theorem keeps_sidecars_forResults {rs : List (String × Except ImportError (Option String))}
    {t : ImportState} (hrs : ∀ r ∈ rs, ∀ localPath, r.2 = .ok localPath → LocalCopyIn env r.1 localPath t) :
    Keeps (fun u => SidecarsKept env u ∧ u.tmp = t.tmp) (forResults recordLocalPath rs) :=
  keeps_forResults fun r hr localPath hlp u ⟨hu, htmp⟩ => by
    refine ⟨fun source path hp => ?_, htmp⟩
    simp only [recordLocalPath, modify_apply, stateOf_ok, PyDict.get_setItem] at hp ⊢
    split_ifs at hp with hsource
    · subst hsource
      obtain ⟨htile, -, hside⟩ := (hrs r hr localPath hlp).2 path (Option.some.inj hp)
      exact ⟨htile, htmp ▸ hside⟩
    · exact hu source path hp

/-- The extraction loop records each local copy with its sidecar files. -/
theorem keeps_sidecars_extractMultipleTilesMetadata (sources : List String) :
    Keeps (SidecarsKept env) (extractMultipleTilesMetadata env sources) := by
  unfold extractMultipleTilesMetadata
  split
  · exact keeps_forM fun source _ s hs => by
      obtain ⟨hok, herr⟩ := extractTileMetadata_spec env source s
      rw [bind_apply]
      rcases hx : extractTileMetadata env source s with ⟨localPath, t⟩ | ⟨e, t⟩ <;> dsimp only
      · have h := hok _ _ hx
        intro source' path hp
        simp only [recordLocalPath, modify_apply, stateOf_ok, PyDict.get_setItem] at hp ⊢
        split_ifs at hp with hsource
        · subst hsource
          obtain ⟨htile, -, hside⟩ := (h.2.2 path (Option.some.inj hp))
          exact ⟨htile, hside⟩
        · exact (hs.grow h.1) source' path hp
      · exact hs.grow (herr _ _ hx).1
  · intro s hs
    unfold inPool
    rw [bind_apply]
    obtain ⟨rs, t, hrs, hg, -, hr⟩ := runTasks_extractTileMetadata env (env.completionOrder sources) s
    rw [hrs]
    exact (keeps_sidecars_forResults fun r h => (hr r h).1) t ⟨hs.grow hg, rfl⟩ |>.1

/-- Every remote source of `sources` has its local copy recorded, and the copy is in the tmp
area. -/
def Fetched (sources : List String) (s : ImportState) : Prop :=
  ∀ source ∈ sources, isS3Url source = true →
    ∃ path, s.sourceToLocalPath.get source = some (some path) ∧ path ∈ s.tmp

/-- Reading results that are all local copies records each of them, and changes no other key. -/
theorem forResults_record_ok {rs : List (String × Except ImportError (Option String))}
    {t : ImportState} (hrs : ∀ r ∈ rs, ∃ localPath, r.2 = .ok localPath ∧ LocalCopyIn env r.1 localPath t)
    (u : ImportState) (hu : u.tmp = t.tmp) :
    ∃ v, forResults recordLocalPath rs u = .ok () v ∧ v.tmp = t.tmp ∧
      (∀ k, k ∉ rs.map Prod.fst → v.sourceToLocalPath.get k = u.sourceToLocalPath.get k) ∧
      ∀ r ∈ rs, ∃ localPath, v.sourceToLocalPath.get r.1 = some localPath ∧
        LocalCopyIn env r.1 localPath t := by
  induction rs generalizing u with
  | nil => exact ⟨u, rfl, hu, fun _ _ => rfl, nofun⟩
  | cons r rs ih =>
    obtain ⟨localPath, hlp, hlocal⟩ := hrs r (List.mem_cons_self _ _)
    unfold forResults at ih ⊢
    rw [forM_cons_apply, bind_apply, hlp]
    obtain ⟨v, hv, htmp, hframe, hall⟩ := ih (fun r' h => hrs r' (List.mem_cons_of_mem _ h))
      { u with sourceToLocalPath := u.sourceToLocalPath.setItem r.1 localPath } hu
    refine ⟨v, hv, htmp, fun k hk => ?_, fun r' hr' => ?_⟩
    · simp only [List.map_cons, List.mem_cons, not_or] at hk
      rw [hframe k hk.2, PyDict.get_setItem, if_neg hk.1]
    · by_cases hin : r'.1 ∈ rs.map Prod.fst
      · obtain ⟨r'', hr'', he⟩ := List.mem_map.1 hin
        exact he ▸ hall r'' hr''
      · rcases List.mem_cons.1 hr' with rfl | hr'
        · exact ⟨localPath, by rw [hframe _ hin, PyDict.get_setItem, if_pos rfl], hlocal⟩
        · exact absurd (List.mem_map_of_mem _ hr') hin

/-- When no extraction raises, the extraction loop returns, having recorded the local copy of every
remote source, with one worker or with a thread pool. -/
theorem extractMultipleTilesMetadata_ok {sources : List String}
    (hfetch : ∀ source ∈ sources, env.fetch source = .ok)
    (hside : ∀ source ∈ sources, ∀ sidecar ∈ env.sidecarFiles source, env.fetch sidecar.1 ≠ .otherError)
    (hmeta : ∀ path, env.metadataOk path = true) (s : ImportState) :
    ∃ t, extractMultipleTilesMetadata env sources s = .ok () t ∧ Fetched sources t := by
  have hnot : ∀ source ∈ sources, ¬ExtractFails env source := by
    rintro source hs (h | ⟨sidecar, hm, h⟩ | ⟨path, h⟩)
    · exact h (hfetch source hs)
    · exact hside source hs sidecar hm h
    · simp [hmeta path] at h
  unfold extractMultipleTilesMetadata
  split
  · suffices ∀ s, ∃ t, (sources.forM fun source => do
          recordLocalPath source (← extractTileMetadata env source)) s = .ok () t ∧ s.tmp ⊆ t.tmp ∧
        (∀ k ∉ sources, t.sourceToLocalPath.get k = s.sourceToLocalPath.get k) ∧ Fetched sources t
      from (this s).imp fun _ h => ⟨h.1, h.2.2.2⟩
    induction sources with
    | nil => exact fun s => ⟨s, rfl, List.Subset.refl _, fun _ _ => rfl, nofun⟩
    | cons source l ih =>
      intro s
      obtain ⟨hok, herr⟩ := extractTileMetadata_spec env source s
      rw [forM_cons_apply, bind_apply, bind_apply]
      rcases hx : extractTileMetadata env source s with ⟨localPath, t⟩ | ⟨e, t⟩
      · have h := hok _ _ hx
        obtain ⟨u, hu, htmp, hframe, hl⟩ :=
          ih (fun x hx => hfetch x (List.mem_cons_of_mem _ hx))
            (fun x hx => hside x (List.mem_cons_of_mem _ hx))
            (fun x hx => hnot x (List.mem_cons_of_mem _ hx))
            { t with sourceToLocalPath := t.sourceToLocalPath.setItem source localPath }
        refine ⟨u, hu, h.1.2.trans htmp, fun k hk => ?_, fun x hx hr => ?_⟩
        · rw [hframe k (fun h' => hk (List.mem_cons_of_mem _ h')), PyDict.get_setItem,
            if_neg (by rintro rfl; exact hk (List.mem_cons_self _ _)), h.1.1]
        · by_cases hxl : x ∈ l
          · exact hl x hxl hr
          obtain rfl : x = source := (List.mem_cons.1 hx).resolve_right hxl
          obtain ⟨path, rfl⟩ := Option.isSome_iff_exists.1 (h.2.1 hr)
          refine ⟨path, ?_, htmp (h.2.2 path rfl).2.1⟩
          rw [hframe x hxl, PyDict.get_setItem, if_pos rfl]
      · exact absurd (herr _ _ hx).2 (hnot source (List.mem_cons_self _ _))
  · unfold inPool
    rw [bind_apply]
    obtain ⟨rs, t, hrs, -, hmap, hr⟩ := runTasks_extractTileMetadata env (env.completionOrder sources) s
    rw [hrs]
    have hin : ∀ source ∈ sources, source ∈ rs.map Prod.fst := fun source hs =>
      hmap ▸ (env.completionOrder_perm sources).mem_iff.2 hs
    have hall : ∀ r ∈ rs, ∃ localPath, r.2 = .ok localPath ∧ LocalCopyIn env r.1 localPath t := by
      intro r hr'
      have hsrc : r.1 ∈ sources :=
        (env.completionOrder_perm sources).mem_iff.1 (hmap ▸ List.mem_map_of_mem _ hr')
      rcases hres : r.2 with e | localPath
      · exact absurd ((hr r hr').2 e hres) (hnot _ hsrc)
      · exact ⟨localPath, rfl, (hr r hr').1 _ hres⟩
    obtain ⟨v, hv, htmp, -, hrec⟩ := forResults_record_ok hall t rfl
    refine ⟨v, hv, fun source hs hs3 => ?_⟩
    obtain ⟨r, hr', rfl⟩ := List.mem_map.1 (hin source hs)
    obtain ⟨localPath, hget, hlocal⟩ := hrec r hr'
    obtain ⟨path, rfl⟩ := Option.isSome_iff_exists.1 (hlocal.1 hs3)
    exact ⟨path, hget, htmp ▸ (hlocal.2 path rfl).2.1⟩

theorem length_pos_of_ne_empty {s : String} (h : s ≠ "") : 0 < s.length := by
  rcases s with ⟨_ | ⟨c, cs⟩⟩
  · exact absurd rfl h
  · simp [String.length]

/-- A sidecar copy is not a tile copy: every `uuid4()` string has the same length, and a suffix
is never empty. -/
theorem append_ne_tilePath (huuid : ∀ m n, (env.uuid m).length = (env.uuid n).length)
    {path path' suffix : String} (hp : TilePath env path) (hp' : TilePath env path')
    (hsuffix : suffix ≠ "") : path ++ suffix ≠ path' := by
  obtain ⟨m, rfl⟩ := hp
  obtain ⟨n, rfl⟩ := hp'
  intro h
  have := congrArg String.length h
  simp only [String.length_append, huuid m n] at this
  have := length_pos_of_ne_empty hsuffix
  omega

section
variable (huuid : ∀ m n, (env.uuid m).length = (env.uuid n).length)
  (hsuffix : ∀ source, ∀ sidecar ∈ env.sidecarFiles source, sidecar.2 ≠ "")
include huuid hsuffix

/-- Removing a tile copy from the tmp area keeps every sidecar copy. -/
theorem SidecarsKept.remove {s : ImportState} (hs : SidecarsKept env s) {path : String}
    (hp : TilePath env path) : SidecarsKept env { s with tmp := s.tmp.filter (· ≠ path) } :=
  fun source path' hp' =>
    let ⟨htile, hside⟩ := hs source path' hp'
    ⟨htile, fun sidecar hm hok => List.mem_filter.2 ⟨hside sidecar hm hok,
      decide_eq_true (append_ne_tilePath huuid htile hp (hsuffix source sidecar hm))⟩⟩

theorem keeps_sidecars_copyFileToLocalLfsCache (source : String) :
    Keeps (SidecarsKept env) (copyFileToLocalLfsCache env source) :=
  keeps_get_bind fun s hs => by
    rcases h : (s.sourceToLocalPath.get source).join with _ | path
    · exact keeps_lfsCopy_preserved _ s hs
    · have hp := (hs source path (Option.join_eq_some.1 h)).1
      exact keeps_lfsCopy _ (fun t ht => ht.remove huuid hsuffix hp) s hs

theorem keeps_sidecars_copySidecars (source : String) :
    Keeps (SidecarsKept env) (copySidecars env source) :=
  keeps_get_bind fun s hs =>
    keeps_forM (fun _ _ => keeps_sidecars_copyFileToLocalLfsCache huuid hsuffix _) s hs

theorem keeps_sidecars_importTilesToStream (sources : List String) :
    Keeps (SidecarsKept env) (importTilesToStream env sources) :=
  keeps_ite (keeps_forM fun _ _ => (keeps_sidecars_copyFileToLocalLfsCache huuid hsuffix _).bind
      fun _ => keeps_sidecars_copySidecars huuid hsuffix _)
    (keeps_inPool (fun _ => keeps_sidecars_copyFileToLocalLfsCache huuid hsuffix _)
      fun _ _ => keeps_sidecars_copySidecars huuid hsuffix _)

theorem keeps_sidecars_streamImport (opts : TileImport) (importRef : String) :
    Keeps (SidecarsKept env) (streamImport env opts importRef) := by
  unfold streamImport gitFastImport
  refine Keeps.bind ((keeps_checkDeletes _).bind fun _ =>
    keeps_ite ((keeps_sidecars_importTilesToStream huuid hsuffix _).bind fun _ =>
      keeps_checkForNonHomogenousMetadata _) (keeps_pure _)) fun _ => keeps_ite ?_ (keeps_throw _)
  exact keeps_modify fun _ h => h

/-- The `finally` block unlinks recorded tile copies only. -/
theorem keeps_sidecars_cleanUp (importRef : String) :
    Keeps (SidecarsKept env) (cleanUp env importRef) :=
  keeps_get_bind fun s hs => by
    rcases s.refs.get importRef with _ | _
    · exact hs
    · refine ((keeps_call _ _).bind fun _ =>
        (keeps_set (t := { s with refs := s.refs.pop importRef }) (by exact hs)).bind
        fun _ => keeps_forM fun entry hentry => ?_) s hs
      rcases entry with ⟨source, _ | path⟩
      · exact keeps_pure _
      · exact keeps_unlink fun t ht =>
          ht.remove huuid hsuffix (hs source path (PyDict.get_eq_some_iff.2 hentry)).1

end

theorem keeps_sidecars_prepareSources (opts : TileImport) :
    Keeps (SidecarsKept env) (prepareSources env opts) := by
  unfold prepareSources
  refine (keeps_checkDeleteDataset _).bind fun _ => Keeps.bind ?_ fun _ =>
    keeps_ite ((keeps_sidecars_extractMultipleTilesMetadata _).bind fun _ => keeps_checkMetadata)
      (keeps_pure _)
  exact keeps_modify fun _ _ _ _ h => by simp at h

theorem keeps_sidecars_commitImport (opts : TileImport) (importRef : String) :
    Keeps (SidecarsKept env) (commitImport env opts importRef) := by
  unfold commitImport newCommitFor
  refine keeps_get_bind fun s hs => ?_
  rcases s.refs.get importRef with _ | imported
  · exact hs
  · refine (Keeps.bind (keeps_ite ((keeps_call _ _).bind fun _ => keeps_pure _)
      ((keeps_checkChanges _).bind fun _ => keeps_pure _)) fun _ => ?_) s hs
    exact keeps_modify fun _ h => h

/-- Every run of `import_tiles` keeps the sidecar copies of the sources it records. -/
theorem keeps_sidecars_importTiles
    (huuid : ∀ m n, (env.uuid m).length = (env.uuid n).length)
    (hsuffix : ∀ source, ∀ sidecar ∈ env.sidecarFiles source, sidecar.2 ≠ "") (opts : TileImport) :
    Keeps (SidecarsKept env) (importTiles env opts) := by
  unfold importTiles
  exact (keeps_sidecars_prepareSources _).bind fun _ => (keeps_uuid4 fun _ h => h).bind fun _ =>
    (keeps_checkAmend _).bind fun _ => (keeps_call _ _).bind fun _ =>
      (keeps_sidecars_streamImport huuid hsuffix _ _).bind fun _ =>
      ((keeps_sidecars_commitImport _ _).tryFinally (keeps_sidecars_cleanUp huuid hsuffix _)).bind
        fun _ => (keeps_call _ _).bind fun _ => keeps_call _ _

theorem checkMetadata_ok {s t : ImportState} (h : checkMetadata env s = .ok () t) :
    env.preConvertOk = true ∧ env.sourcesHomogenous = true ∧ env.predictedHomogenous = true := by
  unfold checkMetadata checkForNonHomogenousMetadata at h
  revert h
  cases env.preConvertOk <;> cases env.sourcesHomogenous <;> cases env.predictedHomogenous <;>
    simp [bind_apply, call]

theorem checkAmend_ok {opts : TileImport} {s t : ImportState} (h : checkAmend env opts s = .ok () t) :
    ¬(opts.amend = true ∧ env.headCommit = none) := by
  rintro ⟨ha, hc⟩
  simp [checkAmend, ha, hc] at h

theorem checkDeletes_error {delete : List String} (h : ∃ tile ∈ delete, env.tileExists tile = false)
    (s : ImportState) : ∃ e, checkDeletes env delete s = .error e s := by
  unfold checkDeletes
  induction delete with
  | nil => simp at h
  | cons tile l ih =>
    rw [forM_cons_apply, bind_apply]
    cases ht : env.tileExists tile
    · exact ⟨missingTile tile, by simp [ht]⟩
    · obtain ⟨e, he⟩ := ih (by simpa [ht] using h)
      exact ⟨e, by simpa [ht] using he⟩

/-- A failure of `import_tiles` between the fetch and the `try`: a check of the metadata, the
check that there is a commit to amend, or a `--delete` of a tile that does not exist. The run
raises, and every fetched tile is still recorded and in the tmp area. -/
theorem importTiles_error_of_check {opts : TileImport} (hsources : opts.sources ≠ [])
    (hfetch : ∀ source ∈ opts.sources, env.fetch source = .ok)
    (hside : ∀ source ∈ opts.sources, ∀ sidecar ∈ env.sidecarFiles source,
      env.fetch sidecar.1 ≠ .otherError)
    (hmeta : ∀ path, env.metadataOk path = true)
    (hdelete : opts.delete ≠ [] → opts.existingDataset = true)
    (hfail : env.preConvertOk = false ∨ env.sourcesHomogenous = false ∨
      env.predictedHomogenous = false ∨ (opts.amend = true ∧ env.headCommit = none) ∨
      ∃ tile ∈ opts.delete, env.tileExists tile = false) (s : ImportState) :
    ∃ e t, importTiles env opts s = .error e t ∧ Fetched opts.sources t := by
  obtain ⟨s1, hx, hf⟩ :=
    extractMultipleTilesMetadata_ok hfetch hside hmeta { s with sourceToLocalPath := PyDict.empty }
  have hprep : prepareSources env opts s = checkMetadata env s1 := by
    have hd : checkDeleteDataset opts s = .ok () s := by
      unfold checkDeleteDataset
      cases hl : opts.delete with
      | nil => rfl
      | cons => simp [hdelete (by simp [hl])]
    have hne : (!opts.sources.isEmpty) = true := by simpa using hsources
    unfold prepareSources
    simp only [bind_apply, hd, modify_apply, hne, if_true, hx]
  unfold importTiles
  rw [bind_apply, hprep]
  rcases check_cases (fun _ => keeps_checkMetadata) s1 with hm | ⟨e, hm⟩ <;> rw [hm] <;>
    dsimp only
  swap
  · exact ⟨e, s1, rfl, hf⟩
  rw [bind_apply, uuid4_apply]
  dsimp only
  rw [bind_apply]
  rcases check_cases (fun _ => keeps_checkAmend opts) { s1 with uuids := s1.uuids + 1 }
    with ha | ⟨e, ha⟩ <;> rw [ha] <;> dsimp only
  swap
  · exact ⟨e, _, rfl, hf⟩
  rw [bind_apply]
  rcases check_cases (fun _ => keeps_call env.headerOk .generateHeader) { s1 with uuids := s1.uuids + 1 }
    with hh | ⟨e, hh⟩ <;> rw [hh] <;> dsimp only
  swap
  · exact ⟨e, _, rfl, hf⟩
  obtain ⟨h1, h2, h3⟩ := checkMetadata_ok hm
  have hmissing : ∃ tile ∈ opts.delete, env.tileExists tile = false := by
    have := checkAmend_ok ha
    simp_all
  obtain ⟨e, hd⟩ := checkDeletes_error hmissing { s1 with uuids := s1.uuids + 1 }
  rw [bind_apply]
  unfold streamImport gitFastImport
  rw [bind_apply, bind_apply, hd]
  exact ⟨e, _, rfl, hf⟩

variable (env) in
/-- Some fetched copies outlive every run of `import_tiles`: each fetched sidecar file, copied with
`preserve_original` and never unlinked, and every fetched tile when the run fails before the
`try`. -/
theorem importTiles_leaves_fetched_copies (opts : TileImport)
    (huuid : ∀ m n, (env.uuid m).length = (env.uuid n).length)
    (hsuffix : ∀ source, ∀ sidecar ∈ env.sidecarFiles source, sidecar.2 ≠ "") :
    (∀ s, SidecarsKept env s → SidecarsKept env (stateOf (importTiles env opts s))) ∧
    (opts.sources ≠ [] → (∀ source ∈ opts.sources, env.fetch source = .ok) →
      (∀ source ∈ opts.sources, ∀ sidecar ∈ env.sidecarFiles source,
        env.fetch sidecar.1 ≠ .otherError) →
      (∀ path, env.metadataOk path = true) → (opts.delete ≠ [] → opts.existingDataset = true) →
      (env.preConvertOk = false ∨ env.sourcesHomogenous = false ∨
        env.predictedHomogenous = false ∨ (opts.amend = true ∧ env.headCommit = none) ∨
        ∃ tile ∈ opts.delete, env.tileExists tile = false) →
      ∀ s, ∃ e t, importTiles env opts s = .error e t ∧ Fetched opts.sources t) :=
  ⟨keeps_sidecars_importTiles huuid hsuffix opts, fun hsources hfetch hside hmeta hdelete hfail =>
    importTiles_error_of_check hsources hfetch hside hmeta hdelete hfail⟩

/-- An import of `s3://b/a.laz`, whose sidecar `.aux.xml` exists: with a `--delete` of a tile that
does not exist it raises with the fetched tile `tmp/u` left behind, and without one it returns with
the fetched sidecar `tmp/u.aux.xml` left behind. -/
theorem importTiles_leaves_fetched_copies_s3 :
    let env : ImportEnv := { exampleEnv with
      sidecarFiles := fun source => [(source ++ ".aux.xml", ".aux.xml")], tileExists := fun _ => false }
    let opts : TileImport := ⟨"ds", ["s3://b/a.laz"], ["a"], true, false, false, "refs/heads/main"⟩
    let s : ImportState := ⟨[], PyDict.empty, PyDict.empty, 0⟩
    (∃ e t, importTiles env opts s = .error e t ∧ Fetched opts.sources t) ∧
      (stateOf (importTiles env { opts with delete := [] } s)).tmp = ["tmp/u.aux.xml"] := by
  intro env opts s
  exact ⟨(importTiles_leaves_fetched_copies env opts (fun _ _ => rfl) (by simp [env])).2
    (by simp [opts]) (by simp [env, exampleEnv]) (by simp [env, exampleEnv])
    (fun _ => rfl) (fun _ => rfl) (by simp [env, opts]) s, by decide⟩

end Fetched

end Kart.Tile.ImportRun
