import Kart.DiffStructs.Dict
set_option autoImplicit false

/-!
# The merge workflow

`kart merge` either finishes at once (nothing to merge, a fast-forward, or a merge commit) or,
when the trees conflict, moves the repository into the "merging" state: the `MERGE_*` files and
the merged index record the merge and its conflicts. `kart resolve` records a resolution for one
conflict at a time, `kart merge --continue` commits the merge once every conflict is resolved,
and `kart merge --abort` gives it up. The repository is "merging" exactly when `MERGE_HEAD`
exists, and `KartRepo.state` raises when it exists without `MERGED_INDEX`.

Each command maps the repository to its outcome and the repository it leaves; what it wrote
before it raised stays written. The calls to git, `merge_util`, the working copy and the editor
are the fields of `Env`.
-/
namespace Kart.Merge
open Kart.DiffStructs

/-- The exceptions of the workflow: Kart's `InvalidOperation`, `NotFound` and `NotYetImplemented`
with the exit code they are raised with (`none` for the class's own), click's `BadParameter` with
its parameter hint and `UsageError`, a failed `assert`, and the `SystemExit` of `sys.exit`. -/
inductive MergeError
  | invalidOperation (msg : String) (exitCode : Option String)
  | notFound (msg : String) (exitCode : Option String)
  | notYetImplemented (msg : String)
  | badParameter (msg : String) (paramHint : Option String)
  | usageError (msg : String)
  | assertionError
  | systemExit (code : Int)
deriving DecidableEq, Repr

/-- `KartRepoState`. -/
inductive RepoState
  | normal
  | merging
deriving DecidableEq, Repr

/-- `AncestorOursTheirs`: one value for each version of a three-way merge. -/
structure AncestorOursTheirs (α : Type) where
  ancestor : α
  ours : α
  theirs : α
deriving DecidableEq, Repr

/-- `AncestorOursTheirs.map`. -/
def AncestorOursTheirs.map {α β : Type} (f : α → β) (v : AncestorOursTheirs α) :
    AncestorOursTheirs β :=
  ⟨f v.ancestor, f v.ours, f v.theirs⟩

/-- `CommitWithReference`: a commit, the reference it was reached through, and that reference's
branch name. -/
structure CommitWithReference where
  id : String
  reference : Option String
  branchShorthand : Option String
deriving DecidableEq, Repr

/-- The merged index: the conflicts of the merge, each with the entries of its three versions,
and the resolves recorded so far. -/
structure MergeIndex (Key Entry : Type) where
  conflicts : PyDict Key (AncestorOursTheirs (Option Entry))
  resolves : PyDict Key (List Entry)

namespace MergeIndex
variable {Key Entry : Type} [DecidableEq Key]

/-- `merged_index.unresolved_conflicts`: the conflicts without a resolve. -/
def unresolvedConflicts (index : MergeIndex Key Entry) : List Key :=
  index.conflicts.keys.filter fun key => key ∉ index.resolves.keys

/-- `merge_index.add_resolve(key, res)`. -/
def addResolve (index : MergeIndex Key Entry) (key : Key) (res : List Entry) : MergeIndex Key Entry :=
  { index with resolves := index.resolves.setItem key res }

end MergeIndex

/-- What the workflow reads and writes of a `KartRepo`: the target of each reference, the
reference `HEAD` names, the parents of each commit, and the files of the gitdir that record a
merge in progress. -/
structure Repo (Key Entry : Type) where
  refs : String → Option String
  head : String
  parents : String → Option (List String)
  /-- `MERGE_HEAD`, with the other files `merge_context.write_to_repo` writes: the versions merged. -/
  mergeContext : Option (AncestorOursTheirs CommitWithReference)
  /-- `MERGE_MSG`. -/
  mergeMsg : Option String
  /-- `MERGED_INDEX`. -/
  mergedIndex : Option (MergeIndex Key Entry)
  /-- `MERGED_TREE`. -/
  mergedTree : Option String

/-- What the workflow calls that is not part of the modelled sources. -/
structure Env (Key Entry : Type) where
  /-- `repo.merge_base(theirs.id, ours.id)`. -/
  mergeBase : String → String → Option String
  /-- `CommitWithReference.resolve(repo, ancestor_id)`. -/
  resolveCommit : String → CommitWithReference
  /-- `merge_context.get_message()`. -/
  getMessage : AncestorOursTheirs CommitWithReference → String
  /-- The conflicts of `repo.merge_trees(...)`, as `MergedIndex.from_pygit2_index` records them. -/
  mergeTrees : AncestorOursTheirs String → PyDict Key (AncestorOursTheirs (Option Entry))
  /-- `index.write_tree(...)` of a merge without conflicts. -/
  writeTree : AncestorOursTheirs String → String
  /-- `merged_index.write_resolved_tree(repo)`. -/
  writeResolvedTree : MergeIndex Key Entry → String
  /-- `working_copy_merger.write_merged_tree(merged_index)`. -/
  writeMergedTree : MergeIndex Key Entry → String
  /-- The id of the commit `repo.create_commit` writes, from its message, tree and parents. -/
  commitId : String → String → List String → String
  /-- `commit.get_commit_message(repo, diff, draft_message=...)`: the editor on a draft. -/
  editMessage : String → String
  /-- `RichConflict(conflict3, merge_context).label`. -/
  label : Key → AncestorOursTheirs (Option Entry) → String
  /-- `load_file_resolve(rich_conflict, file_path)`. -/
  loadFileResolve : AncestorOursTheirs (Option Entry) → String → Except MergeError (List Entry)
  /-- `load_workingcopy_resolve(rich_conflict)`. -/
  loadWorkingcopyResolve : AncestorOursTheirs (Option Entry) → Except MergeError (List Entry)
  /-- `click.get_current_context().command_path`. -/
  commandPath : String
  /-- `ctx.obj.check_not_dirty()`. -/
  checkNotDirty : Except MergeError Unit
  /-- `check_git_user(repo)`. -/
  checkGitUser : Except MergeError Unit
  /-- `repo.working_copy.exists()`. -/
  workingCopyExists : Bool
  /-- `working_copy_merger.update_working_copy(merged_index, merged_tree)`. -/
  updateWorkingCopy : MergeIndex Key Entry → String → Except MergeError Unit
  /-- `repo.working_copy.reset_to_head()`. -/
  resetToHead : Except MergeError Unit
  /-- The code `invoke_git` passes to `sys.exit` when `git gc --auto` fails, if it does. -/
  gcExitCode : Option Int

/-- What a command leaves: its result or the exception it raised, and the repository as it left
it. -/
abbrev Outcome (Key Entry α : Type) := Except MergeError α × Repo Key Entry

section Repo
variable {Key Entry : Type}

/-- `KartRepo.state`. -/
def Repo.state (repo : Repo Key Entry) : Except MergeError RepoState :=
  match repo.mergeContext, repo.mergedIndex with
  | some _, none => .error (.notFound ("Kart repo is in \"merging\" state, but required file " ++
      "MERGED_INDEX is missing.\nTry `kart merge --abort` to return to a good state.") none)
  | some _, some _ => .ok .merging
  | none, _ => .ok .normal

/-- `KartRepoState.bad_state_message(bad_state, allowed_states, command_extra)`. -/
def badStateMessage (commandPath : String) (badState : RepoState) (commandExtra : String) : String :=
  let cmd := if commandExtra.isEmpty then commandPath else commandPath ++ " " ++ commandExtra
  match badState with
  | .merging => "`" ++ cmd ++ "` does not work while the Kart repo is in \"merging\" state.\n" ++
      "Use `kart merge --abort` to abandon the merge and get back to the previous state."
  | .normal => "`" ++ cmd ++ "` only works when the Kart repo is in \"merging\" state, but it " ++
      "is in \"normal\" state."

/-- The check of the state `ctx.obj.get_repo(allowed_states=...)` makes, raising with the
command's own message or else `bad_state_message`. -/
def Repo.checkState (repo : Repo Key Entry) (allowedStates : List RepoState)
    (message : RepoState → String) : Except MergeError Unit :=
  repo.state.bind fun state =>
    if state ∈ allowedStates then .ok () else .error (.invalidOperation (message state) none)

/-- `reference.set_target(oid)`. -/
def Repo.setTarget (repo : Repo Key Entry) (reference oid : String) : Repo Key Entry :=
  { repo with refs := Function.update repo.refs reference (some oid) }

/-- `repo.create_commit(reference, author, committer, message, tree, parents)`: the commit is
written and the reference moved to it. -/
def Repo.createCommit (env : Env Key Entry) (repo : Repo Key Entry) (reference message tree : String)
    (parents : List String) : String × Repo Key Entry :=
  let oid := env.commitId message tree parents
  (oid, { repo.setTarget reference oid with parents := Function.update repo.parents oid (some parents) })

/-- `MergedIndex.read_from_repo(repo)`; where `MERGED_INDEX` is missing it raises, with an
exception that is not part of the modelled sources and that `notFound` of the file stands for. -/
def Repo.readMergedIndex (repo : Repo Key Entry) : Except MergeError (MergeIndex Key Entry) :=
  match repo.mergedIndex with
  | some index => .ok index
  | none => .error (.notFound "MERGED_INDEX" none)

/-- `MergeContext.read_from_repo(repo)`, likewise for the `MERGE_*` files. -/
def Repo.readMergeContext (repo : Repo Key Entry) :
    Except MergeError (AncestorOursTheirs CommitWithReference) :=
  match repo.mergeContext with
  | some mergeContext => .ok mergeContext
  | none => .error (.notFound "MERGE_HEAD" none)

/-- `for filename in ALL_MERGE_FILES: repo.remove_gitdir_file(filename)`. -/
def Repo.removeMergeFiles (repo : Repo Key Entry) : Repo Key Entry :=
  { repo with mergeContext := none, mergeMsg := none, mergedIndex := none, mergedTree := none }

/-- `repo.gc("--auto")`, then `repo.working_copy.reset_to_head()`: how `kart merge` and
`kart merge --continue` end once the merge is committed. -/
def Env.gcThenResetToHead {Key Entry : Type} (env : Env Key Entry) : Except MergeError Unit :=
  match env.gcExitCode with
  | some code => .error (.systemExit code)
  | none => env.resetToHead

/-- `KartRepo.write_gitdir_file`: the text, ending in a line feed. -/
def ensureNewline (text : String) : String :=
  if text.endsWith "\n" then text else text ++ "\n"

end Repo

section Merge
variable {Key Entry : Type} (env : Env Key Entry)

/-- The fields of `merge_jdict` the workflow sets; a key that is not set reads as `False` or
`None` (`merging`, `merge_context.as_json()`, is not part of the modelled sources). -/
structure MergeJdict (Key : Type) where
  commit : String
  branch : Option String
  message : Option String
  conflicts : Option (List Key)
  dryRun : Bool
  noOp : Bool
  fastForward : Bool
  state : Option String

/-- What `move_repo_to_merging_state` writes: `MERGED_INDEX`, the files of the merge context,
`MERGE_MSG` and `MERGED_TREE`. -/
def Repo.writeMergeFiles (repo : Repo Key Entry) (mergedIndex : MergeIndex Key Entry)
    (mergeContext : AncestorOursTheirs CommitWithReference) (message : String) : Repo Key Entry :=
  { repo with
    mergedIndex := some mergedIndex, mergeContext := some mergeContext,
    mergeMsg := some (ensureNewline message), mergedTree := some (env.writeMergedTree mergedIndex) }

/-- `move_repo_to_merging_state(repo, merged_index, merge_context, message)`. -/
def moveRepoToMergingState (mergedIndex : MergeIndex Key Entry)
    (mergeContext : AncestorOursTheirs CommitWithReference) (message : String)
    (repo : Repo Key Entry) : Outcome Key Entry Unit :=
  match repo.state with
  | .error e => (.error e, repo)
  | .ok .merging => (.error .assertionError, repo)
  | .ok .normal =>
    let repo := repo.writeMergeFiles env mergedIndex mergeContext message
    let updated := if env.workingCopyExists then
      env.updateWorkingCopy mergedIndex (env.writeMergedTree mergedIndex) else .ok ()
    match updated, repo.state with
    | .error e, _ => (.error e, repo)
    | .ok (), .ok .merging => (.ok (), repo)
    | .ok (), .ok .normal => (.error .assertionError, repo)
    | .ok (), .error e => (.error e, repo)

/-- `get_commit_message(merge_context, merge_tree_id, repo, launch_editor=..., read_msg_file=...)`,
with the contents of `MERGE_MSG` if it is read. -/
def getCommitMessage (mergeContext : AncestorOursTheirs CommitWithReference) (launchEditor : Bool)
    (msgFile : Option String) : Except MergeError String :=
  let message := msgFile.getD ""
  let message := if message.isEmpty then env.getMessage mergeContext else message
  let message := if launchEditor then env.editMessage message else message
  if message.isEmpty then .error (.usageError "Aborting commit due to empty commit message.")
  else .ok message

/-- `do_merge(repo, ff, ff_only, dry_run, commit, message, into, fail_on_conflict, launch_editor)`,
with `commit` and `into` resolved to `theirs` and `ours`; an empty `message` is `None`. -/
def doMerge [DecidableEq Key] (ff ffOnly dryRun : Bool) (theirs ours : CommitWithReference)
    (message into : String) (failOnConflict launchEditor : Bool) (repo : Repo Key Entry) :
    Outcome Key Entry (MergeJdict Key) :=
  if ffOnly && !ff then
    (.error (.badParameter "Conflicting parameters: --no-ff & --ff-only" (some "--ff-only")), repo)
  else if !message.isEmpty && ffOnly then
    (.error (.badParameter "Conflicting parameters: --message & --ff-only" (some "--ff-only")), repo)
  else
  match ours.reference, env.mergeBase theirs.id ours.id with
  | none, _ => (.error (.badParameter ("--into: Ref '" ++ into ++ "' doesn't exist") none), repo)
  | some _, none => (.error (.invalidOperation
      ("Commits " ++ theirs.id ++ " and " ++ ours.id ++ " aren't related.") none), repo)
  | some reference, some ancestorId =>
    let mergeContext : AncestorOursTheirs CommitWithReference :=
      ⟨env.resolveCommit ancestorId, ours, theirs⟩
    let mergeMessage := if message.isEmpty then env.getMessage mergeContext else message
    let jdict : MergeJdict Key := ⟨ours.id, ours.branchShorthand, some mergeMessage, none, dryRun,
      false, false, none⟩
    let canFf := ancestorId = ours.id
    if ffOnly && !canFf then
      (.error (.invalidOperation "Can't resolve as a fast-forward merge and --ff-only specified"
        none), repo)
    else if ancestorId = theirs.id then
      (.ok { jdict with noOp := true, message := none, fastForward := true }, repo)
    else if canFf && ff then
      (.ok { jdict with commit := theirs.id, fastForward := true },
        if dryRun then repo else repo.setTarget reference theirs.id)
    else
    let tree3 := mergeContext.map (·.id)
    let conflicts := env.mergeTrees tree3
    if !conflicts.items.isEmpty then
      let jdict := { jdict with
        conflicts := some conflicts.keys
        state := if failOnConflict then none else some "merging" }
      if !failOnConflict && !dryRun then
        let (r, repo) := moveRepoToMergingState env ⟨conflicts, PyDict.empty⟩ mergeContext
          mergeMessage repo
        (r.map fun _ => jdict, repo)
      else (.ok jdict, repo)
    else if dryRun then (.ok { jdict with commit := "(dryRun)" }, repo)
    else
    let tree := env.writeTree tree3
    let message := if message.isEmpty then getCommitMessage env mergeContext launchEditor none
      else .ok message
    match message with
    | .error e => (.error e, repo)
    | .ok message =>
      let (oid, repo) := repo.createCommit env reference message tree [ours.id, theirs.id]
      (.ok { jdict with commit := oid }, repo)

/-- `merge(ctx, ff, ff_only, dry_run, message, into, fail_on_conflict, launch_editor, commit)`:
the `kart merge` command, without its `--continue` and `--abort` callbacks. -/
def merge [DecidableEq Key] (ff ffOnly dryRun : Bool) (theirs ours : CommitWithReference)
    (message into : String) (failOnConflict launchEditor : Bool) (repo : Repo Key Entry) :
    Outcome Key Entry (MergeJdict Key) :=
  match repo.checkState [.normal] fun _ =>
      "A merge is already ongoing - see `kart merge --abort` or `kart merge --continue`" with
  | .error e => (.error e, repo)
  | .ok () =>
  match env.checkNotDirty with
  | .error e => (.error e, repo)
  | .ok () =>
    let failOnConflict := if into ≠ "HEAD" then true else failOnConflict
    let (r, repo) := doMerge env ff ffOnly dryRun theirs ours message into failOnConflict
      launchEditor repo
    match r with
    | .ok jdict =>
      let noOp := jdict.noOp || jdict.dryRun
      let cleanUp := if !noOp && jdict.conflicts.isNone && into = "HEAD" then env.gcThenResetToHead
        else .ok ()
      match cleanUp with
      | .error e => (.error e, repo)
      | .ok () =>
        if failOnConflict && jdict.conflicts.isSome then
          (.error (.invalidOperation "Merge failed due to conflicts" (some "MERGE_CONFLICT")), repo)
        else (.ok jdict, repo)
    | .error e => (.error e, repo)

/-- `abort_merging_state(ctx)`: the merge files go whether or not a merge was in progress, and the
working copy is reset when one was. -/
def abortMergingState (repo : Repo Key Entry) : Outcome Key Entry Unit :=
  match repo.checkState [.normal, .merging] (badStateMessage env.commandPath · "--abort") with
  | .error e => (.error e, repo)
  | .ok () =>
    let isOngoingMerge := repo.mergeContext.isSome
    let repo := repo.removeMergeFiles
    match repo.state with
    | .ok .merging => (.error .assertionError, repo)
    | .error e => (.error e, repo)
    | .ok .normal =>
      if !isOngoingMerge then
        (.error (.invalidOperation (badStateMessage env.commandPath .normal "--abort") none), repo)
      else (env.resetToHead, repo)

/-- `complete_merging_state(ctx)`: `kart merge --continue`, with its `--message` (empty for none). -/
def completeMergingState [DecidableEq Key] (message : String) (launchEditor : Bool)
    (repo : Repo Key Entry) : Outcome Key Entry Unit :=
  match repo.checkState [.merging] (badStateMessage env.commandPath · "--continue"),
    repo.readMergedIndex, repo.readMergeContext with
  | .error e, _, _ | _, .error e, _ | _, _, .error e => (.error e, repo)
  | .ok (), .ok mergedIndex, .ok mergeContext =>
    if !mergedIndex.unresolvedConflicts.isEmpty then
      (.error (.invalidOperation ("Merge cannot be completed until all conflicts are resolved - " ++
        "see `kart conflicts`.") none), repo)
    else
    match env.checkGitUser with
    | .error e => (.error e, repo)
    | .ok () =>
    let commitIds := mergeContext.map (·.id)
    let tree := env.writeResolvedTree mergedIndex
    let message := if message.isEmpty then getCommitMessage env mergeContext launchEditor repo.mergeMsg
      else .ok message
    match message with
    | .error e => (.error e, repo)
    | .ok message =>
      let (_, repo) := repo.createCommit env repo.head message tree [commitIds.ours, commitIds.theirs]
      let repo := repo.removeMergeFiles
      match repo.state with
      | .ok .normal => (env.gcThenResetToHead, repo)
      | .ok .merging => (.error .assertionError, repo)
      | .error e => (.error e, repo)

/-- The version `kart resolve --with` chooses. -/
inductive WithVersion
  | ancestor
  | ours
  | theirs
  | workingcopy
  | delete
deriving DecidableEq, Repr

/-- `conflict_label[:-1]` when it ends with `:`. -/
def stripColon (label : String) : String :=
  if label.data.getLast? = some ':' then ⟨label.data.dropLast⟩ else label

/-- The resolution `kart resolve` records for a conflict. -/
def resolution (conflict3 : AncestorOursTheirs (Option Entry)) (withVersion : Option WithVersion)
    (filePath : Option String) : Except MergeError (List Entry) :=
  match filePath, withVersion with
  | some path, _ => env.loadFileResolve conflict3 path
  | none, some .workingcopy => env.loadWorkingcopyResolve conflict3
  | none, some .delete => .ok []
  | none, some .ancestor => .ok conflict3.ancestor.toList
  | none, some .ours => .ok conflict3.ours.toList
  | none, some .theirs => .ok conflict3.theirs.toList
  | none, none => .ok []

/-- `resolve(ctx, with_version, file_path, conflict_label)`: the loop over the conflicts stops at
the first whose label matches, raising or exiting there. -/
def resolve [DecidableEq Key] (withVersion : Option WithVersion) (filePath : Option String)
    (conflictLabel : String) (repo : Repo Key Entry) : Outcome Key Entry Unit :=
  match repo.checkState [.merging] (badStateMessage env.commandPath · "") with
  | .error e => (.error e, repo)
  | .ok () =>
    if withVersion.isNone && filePath.isNone then
      (.error (.usageError "Choose a resolution using --with or --with-file"), repo)
    else
    match repo.readMergedIndex with
    | .error e => (.error e, repo)
    | .ok mergeIndex =>
      let conflictLabel := stripColon conflictLabel
      match mergeIndex.conflicts.items.find? fun kc => env.label kc.1 kc.2 = conflictLabel with
      | none => (.error (.notFound ("No conflict found at " ++ conflictLabel) (some "NO_CONFLICT")),
          repo)
      | some (key, conflict3) =>
        if key ∈ mergeIndex.resolves.keys then
          (.error (.invalidOperation ("Conflict at " ++ conflictLabel ++ " is already resolved")
            none), repo)
        else
        match resolution env conflict3 withVersion filePath with
        | .error e => (.error e, repo)
        | .ok res => (.ok (), { repo with mergedIndex := some (mergeIndex.addResolve key res) })

end Merge

end Kart.Merge
