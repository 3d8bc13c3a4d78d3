import Kart.Merge.Workflow
import Mathlib.Tactic.ExtractLets
import Mathlib.Tactic.LiftLets
set_option autoImplicit false

/-!
# Runs of the merge workflow

One lemma per command says all it can do to the repository. From them: the merge files stay
together over any run, so `KartRepo.state` never raises; while a merge is in progress no command
but `--continue` moves a reference or writes a commit, and `--continue` writes only the merge
commit, with the two merged commits as its parents; `--abort` puts the repository back as it was
before the merge began; and each `kart resolve` settles exactly one conflict.
-/
namespace Kart.Merge
open Kart.DiffStructs

variable {Key Entry : Type}

section State

/-- `MERGE_HEAD` is there only with `MERGED_INDEX`, so `KartRepo.state` does not raise. -/
def Repo.Consistent (repo : Repo Key Entry) : Prop :=
  repo.mergeContext.isSome → repo.mergedIndex.isSome

/-- No merge is recorded: none of the merge files exists. -/
def Repo.Clean (repo : Repo Key Entry) : Prop :=
  repo.mergeContext = none ∧ repo.mergeMsg = none ∧ repo.mergedIndex = none ∧ repo.mergedTree = none

theorem Repo.state_of_consistent {repo : Repo Key Entry} (h : repo.Consistent) :
    ∃ s, repo.state = .ok s := by
  rcases hc : repo.mergeContext with _ | c
  · exact ⟨.normal, by simp [Repo.state, hc]⟩
  · obtain ⟨i, hi⟩ := Option.isSome_iff_exists.1 (h (by simp [hc]))
    exact ⟨.merging, by simp [Repo.state, hc, hi]⟩

theorem Repo.state_eq_merging {repo : Repo Key Entry} :
    repo.state = .ok .merging ↔ repo.mergeContext.isSome ∧ repo.mergedIndex.isSome := by
  unfold Repo.state
  split <;> simp_all

theorem Repo.state_eq_normal {repo : Repo Key Entry} :
    repo.state = .ok .normal ↔ repo.mergeContext = none := by
  unfold Repo.state
  split <;> simp_all

theorem Repo.checkState_eq_ok {repo : Repo Key Entry} {allowed : List RepoState}
    {message : RepoState → String} :
    repo.checkState allowed message = .ok () ↔ ∃ s, repo.state = .ok s ∧ s ∈ allowed := by
  unfold Repo.checkState
  cases repo.state with
  | error e => simp [Except.bind]
  | ok s => by_cases hs : s ∈ allowed <;> simp [Except.bind, hs]

@[simp] theorem Repo.removeMergeFiles_state (repo : Repo Key Entry) :
    repo.removeMergeFiles.state = .ok .normal := rfl

theorem Repo.consistent_removeMergeFiles (repo : Repo Key Entry) :
    repo.removeMergeFiles.Consistent := nofun

end State

section Commands
variable (env : Env Key Entry)

@[simp] theorem Repo.writeMergeFiles_state (repo : Repo Key Entry) (index : MergeIndex Key Entry)
    (mergeContext : AncestorOursTheirs CommitWithReference) (message : String) :
    (repo.writeMergeFiles env index mergeContext message).state = .ok .merging := rfl

theorem moveRepoToMergingState_cases (index : MergeIndex Key Entry)
    (mergeContext : AncestorOursTheirs CommitWithReference) (message : String) (repo : Repo Key Entry) :
    (∃ e, moveRepoToMergingState env index mergeContext message repo = (.error e, repo)) ∨
      repo.state = .ok .normal ∧ (moveRepoToMergingState env index mergeContext message repo).2 =
        repo.writeMergeFiles env index mergeContext message := by
  unfold moveRepoToMergingState
  rcases h : repo.state with e | _ | _
  · exact .inl ⟨e, rfl⟩
  · refine .inr ⟨rfl, ?_⟩
    dsimp only
    split <;> rfl
  · exact .inl ⟨_, rfl⟩

/-- `--abort` on a consistent repository: the merge files go, and it raises when no merge was in
progress, and otherwise as the working copy's `reset_to_head` does. -/
theorem abortMergingState_of_consistent {repo : Repo Key Entry} (h : repo.Consistent) :
    abortMergingState env repo = (if repo.mergeContext.isSome then env.resetToHead else
      .error (.invalidOperation (badStateMessage env.commandPath .normal "--abort") none),
      repo.removeMergeFiles) := by
  obtain ⟨s, hs⟩ := repo.state_of_consistent h
  have hcheck : repo.checkState [.normal, .merging] (badStateMessage env.commandPath · "--abort") =
      .ok () := Repo.checkState_eq_ok.2 ⟨s, hs, by cases s <;> simp⟩
  unfold abortMergingState
  rw [hcheck]
  cases repo.mergeContext.isSome <;> rfl

theorem abortMergingState_cases (repo : Repo Key Entry) :
    (abortMergingState env repo).2 = repo.removeMergeFiles ∨ (abortMergingState env repo).2 = repo := by
  unfold abortMergingState
  split
  · exact .inr rfl
  · dsimp only [Repo.removeMergeFiles_state]
    split <;> exact .inl rfl

theorem Repo.readMergedIndex_eq_ok {repo : Repo Key Entry} {index : MergeIndex Key Entry} :
    repo.readMergedIndex = .ok index ↔ repo.mergedIndex = some index := by
  unfold Repo.readMergedIndex
  split <;> simp_all

/-- `kart resolve` raises leaving the repository as it was, or records one resolve, for a conflict
that had none. -/
theorem resolve_cases [DecidableEq Key] (withVersion : Option WithVersion) (filePath : Option String)
    (conflictLabel : String) (repo : Repo Key Entry) :
    (∃ e, resolve env withVersion filePath conflictLabel repo = (.error e, repo)) ∨
      ∃ index key res, repo.mergedIndex = some index ∧ key ∈ index.unresolvedConflicts ∧
        resolve env withVersion filePath conflictLabel repo =
          (.ok (), { repo with mergedIndex := some (index.addResolve key res) }) := by
  unfold resolve
  split
  · exact .inl ⟨_, rfl⟩
  split
  · exact .inl ⟨_, rfl⟩
  split
  · exact .inl ⟨_, rfl⟩
  next index hindex =>
  dsimp only
  split
  · exact .inl ⟨_, rfl⟩
  next key conflict3 hfind =>
  split
  · exact .inl ⟨_, rfl⟩
  next hresolved =>
  split
  · exact .inl ⟨_, rfl⟩
  next res _ =>
  refine .inr ⟨index, key, res, Repo.readMergedIndex_eq_ok.1 hindex, ?_, rfl⟩
  exact List.mem_filter.2 ⟨List.mem_map_of_mem _ (List.mem_of_find?_eq_some hfind),
    decide_eq_true hresolved⟩

theorem Repo.readMergeContext_eq_ok {repo : Repo Key Entry}
    {mergeContext : AncestorOursTheirs CommitWithReference} :
    repo.readMergeContext = .ok mergeContext ↔ repo.mergeContext = some mergeContext := by
  unfold Repo.readMergeContext
  split <;> simp_all

/-- `--continue` raises leaving the repository as it was, or, once no conflict is unresolved,
commits on `HEAD`'s reference with the two merged commits as parents and removes the merge files,
and then raises only as `git gc --auto` or the working copy's `reset_to_head` does. -/
theorem completeMergingState_cases [DecidableEq Key] (message : String) (launchEditor : Bool)
    (repo : Repo Key Entry) :
    (∃ e, completeMergingState env message launchEditor repo = (.error e, repo)) ∨
      ∃ mergeContext index commitMessage, repo.mergeContext = some mergeContext ∧
        repo.mergedIndex = some index ∧ index.unresolvedConflicts = [] ∧
        completeMergingState env message launchEditor repo = (env.gcThenResetToHead,
          (repo.createCommit env repo.head commitMessage (env.writeResolvedTree index)
            [mergeContext.ours.id, mergeContext.theirs.id]).2.removeMergeFiles) := by
  unfold completeMergingState
  split
  · exact .inl ⟨_, rfl⟩
  · exact .inl ⟨_, rfl⟩
  · exact .inl ⟨_, rfl⟩
  next index mergeContext _ hindex hcontext =>
  split
  · exact .inl ⟨_, rfl⟩
  next hresolved =>
  split
  · exact .inl ⟨_, rfl⟩
  dsimp only
  split
  · exact .inl ⟨_, rfl⟩
  next commitMessage _ =>
  exact .inr ⟨mergeContext, index, commitMessage, Repo.readMergeContext_eq_ok.1 hcontext,
    Repo.readMergedIndex_eq_ok.1 hindex, by simpa using hresolved, rfl⟩

end Commands

section Repo

theorem Repo.removeMergeFiles_congr {r₁ r₂ : Repo Key Entry} (hr : r₁.refs = r₂.refs)
    (hh : r₁.head = r₂.head) (hp : r₁.parents = r₂.parents) :
    r₁.removeMergeFiles = r₂.removeMergeFiles := by
  cases r₁; cases r₂; cases hr; cases hh; cases hp; rfl

theorem Repo.removeMergeFiles_of_clean {repo : Repo Key Entry} (h : repo.Clean) :
    repo.removeMergeFiles = repo := by
  obtain ⟨h₁, h₂, h₃, h₄⟩ := h
  cases repo
  cases h₁; cases h₂; cases h₃; cases h₄; rfl

theorem Repo.clean_createCommit {repo : Repo Key Entry} (env : Env Key Entry) (h : repo.Clean)
    (reference message tree : String) (parents : List String) :
    (repo.createCommit env reference message tree parents).2.Clean := h

/-- `repo` is `base` in the middle of a merge of `mergeContext` whose trees conflict at
`conflicts`: the refs, commits and `HEAD` of `base`, the merge files of that merge, and a merged
index that holds those conflicts. -/
structure InMerge (base : Repo Key Entry) (mergeContext : AncestorOursTheirs CommitWithReference)
    (conflicts : PyDict Key (AncestorOursTheirs (Option Entry))) (repo : Repo Key Entry) :
    Prop where
  refs : repo.refs = base.refs
  head : repo.head = base.head
  parents : repo.parents = base.parents
  context : repo.mergeContext = some mergeContext
  index : ∃ index : MergeIndex Key Entry,
    repo.mergedIndex = some index ∧ index.conflicts = conflicts

theorem InMerge.state {base repo : Repo Key Entry}
    {mergeContext : AncestorOursTheirs CommitWithReference}
    {conflicts : PyDict Key (AncestorOursTheirs (Option Entry))}
    (h : InMerge base mergeContext conflicts repo) : repo.state = .ok .merging := by
  obtain ⟨index, hi, -⟩ := h.index
  exact Repo.state_eq_merging.2 ⟨by simp [h.context], by simp [hi]⟩

end Repo

section Merge
variable [DecidableEq Key] (env : Env Key Entry)

/-- What `do_merge` can leave: the repository as it was, a fast-forward, a merge commit with the two
merged commits as parents, or the merging state, with the conflicts of the two trees unresolved. -/
theorem doMerge_cases (ff ffOnly dryRun : Bool) (theirs ours : CommitWithReference)
    (message into : String) (failOnConflict launchEditor : Bool) (repo : Repo Key Entry) :
    let left := (doMerge env ff ffOnly dryRun theirs ours message into failOnConflict launchEditor
      repo).2
    left = repo ∨ (∃ reference, left = repo.setTarget reference theirs.id) ∨
      (∃ reference commitMessage tree,
        left = (repo.createCommit env reference commitMessage tree [ours.id, theirs.id]).2) ∨
      failOnConflict = false ∧ repo.state = .ok .normal ∧
        ∃ (mergeContext : AncestorOursTheirs CommitWithReference) (mergeMessage : String),
          mergeContext.ours = ours ∧ mergeContext.theirs = theirs ∧
          left = repo.writeMergeFiles env
            ⟨env.mergeTrees (mergeContext.map (·.id)), PyDict.empty⟩ mergeContext
            mergeMessage := by
  intro left
  have h : left = (doMerge env ff ffOnly dryRun theirs ours message into failOnConflict
    launchEditor repo).2 := rfl
  clear_value left
  unfold doMerge at h
  split at h
  · exact .inl h
  split at h
  · exact .inl h
  split at h
  · exact .inl h
  · exact .inl h
  next reference ancestorId _ _ =>
  lift_lets at h
  extract_lets mergeContext mergeMessage jdict canFf tree3 conflicts jdict' tree commitMessage at h
  by_cases h1 : (ffOnly && !decide canFf) = true
  · rw [if_pos h1] at h
    exact .inl h
  rw [if_neg h1] at h
  by_cases h2 : ancestorId = theirs.id
  · rw [if_pos h2] at h
    exact .inl h
  rw [if_neg h2] at h
  by_cases h3 : (decide canFf && ff) = true
  · rw [if_pos h3] at h
    cases dryRun
    · exact .inr (.inl ⟨reference, h⟩)
    · exact .inl h
  rw [if_neg h3] at h
  by_cases h4 : (!conflicts.items.isEmpty) = true
  · rw [if_pos h4] at h
    by_cases h5 : (!failOnConflict && !dryRun) = true
    · rw [if_pos h5] at h
      have hcases := moveRepoToMergingState_cases env ⟨conflicts, PyDict.empty⟩ mergeContext
        mergeMessage repo
      generalize moveRepoToMergingState env ⟨conflicts, PyDict.empty⟩ mergeContext mergeMessage
        repo = m at h hcases
      obtain ⟨r, m⟩ := m
      rcases hcases with ⟨e, he⟩ | ⟨hs, he⟩
      · cases he
        exact .inl h
      · simp only [Bool.and_eq_true, Bool.not_eq_true'] at h5
        exact .inr (.inr (.inr ⟨h5.1, hs, mergeContext, mergeMessage, rfl, rfl, h.trans he⟩))
    · rw [if_neg h5] at h
      exact .inl h
  rw [if_neg h4] at h
  by_cases h6 : dryRun = true
  · rw [if_pos h6] at h
    exact .inl h
  rw [if_neg h6] at h
  clear_value commitMessage
  cases commitMessage with
  | error e => exact .inl h
  | ok commitMessage => exact .inr (.inr (.inl ⟨reference, commitMessage, tree, h⟩))
/-- What `merge` leaves: the repository as it was, or, once its checks pass, what `do_merge`
leaves, with conflicts failing any merge `--into` another ref. -/
theorem merge_cases (ff ffOnly dryRun : Bool) (theirs ours : CommitWithReference)
    (message into : String) (failOnConflict launchEditor : Bool) (repo : Repo Key Entry) :
    (merge env ff ffOnly dryRun theirs ours message into failOnConflict launchEditor
      repo).2 = repo ∨ repo.state = .ok .normal ∧
      (merge env ff ffOnly dryRun theirs ours message into failOnConflict launchEditor repo).2 =
        (doMerge env ff ffOnly dryRun theirs ours message into
          (if into ≠ "HEAD" then true else failOnConflict) launchEditor repo).2 := by
  unfold merge
  split
  · exact .inl rfl
  next hcheck =>
  split
  · exact .inl rfl
  obtain ⟨s, hs, hmem⟩ := Repo.checkState_eq_ok.1 hcheck
  rw [List.mem_singleton] at hmem
  refine .inr ⟨hmem ▸ hs, ?_⟩
  dsimp only
  generalize doMerge env ff ffOnly dryRun theirs ours message into
    (if into ≠ "HEAD" then true else failOnConflict) launchEditor repo = outcome
  rcases outcome with ⟨_ | jdict, left⟩
  · rfl
  · dsimp only
    split
    · rfl
    · exact (apply_ite Prod.snd _ _ _).trans (ite_self _)

theorem doMerge_consistent (ff ffOnly dryRun : Bool) (theirs ours : CommitWithReference)
    (message into : String) (failOnConflict launchEditor : Bool) {repo : Repo Key Entry}
    (h : repo.Consistent) :
    (doMerge env ff ffOnly dryRun theirs ours message into failOnConflict launchEditor
      repo).2.Consistent := by
  rcases doMerge_cases env ff ffOnly dryRun theirs ours message into failOnConflict launchEditor
    repo with h' | ⟨_, h'⟩ | ⟨_, _, _, h'⟩ | ⟨-, -, _, _, -, -, h'⟩ <;> rw [h']
  · exact h
  · exact h
  · exact h
  · exact fun _ => rfl

end Merge

/-- A command of the merge workflow with its arguments: `kart merge`, `kart merge --abort`,
`kart merge --continue` and `kart resolve`. -/
inductive Command
  | merge (ff ffOnly dryRun : Bool) (theirs ours : CommitWithReference) (message into : String)
      (failOnConflict launchEditor : Bool)
  | mergeAbort
  | mergeContinue (message : String) (launchEditor : Bool)
  | resolve (withVersion : Option WithVersion) (filePath : Option String) (conflictLabel : String)

/-- The two commands that end a merge in progress. -/
def Command.endsMerge : Command → Bool
  | .mergeAbort | .mergeContinue _ _ => true
  | .merge .. | .resolve .. => false

/-- `kart resolve`. -/
def Command.isResolve : Command → Bool
  | .resolve .. => true
  | _ => false

section Run
variable [DecidableEq Key] (env : Env Key Entry)

/-- What a command returns, its JSON output left out, and the repository it leaves. -/
def Command.step : Command → Repo Key Entry → Outcome Key Entry Unit
  | .merge ff ffOnly dryRun theirs ours message into failOnConflict launchEditor, repo =>
    let outcome :=
      Merge.merge env ff ffOnly dryRun theirs ours message into failOnConflict launchEditor repo
    (outcome.1.map fun _ => (), outcome.2)
  | .mergeAbort, repo => abortMergingState env repo
  | .mergeContinue message launchEditor, repo => completeMergingState env message launchEditor repo
  | .resolve withVersion filePath conflictLabel, repo =>
    Merge.resolve env withVersion filePath conflictLabel repo

/-- The repository a sequence of commands leaves, each run on what the one before left, whether
that one returned or raised. -/
def run (cmds : List Command) (repo : Repo Key Entry) : Repo Key Entry :=
  cmds.foldl (fun repo c => (c.step env repo).2) repo

theorem Command.step_consistent (c : Command) {repo : Repo Key Entry} (h : repo.Consistent) :
    (c.step env repo).2.Consistent := by
  cases c with
  | merge ff ffOnly dryRun theirs ours message into failOnConflict launchEditor =>
    show (Merge.merge env ff ffOnly dryRun theirs ours message into failOnConflict launchEditor
      repo).2.Consistent
    rcases merge_cases env ff ffOnly dryRun theirs ours message into failOnConflict launchEditor
      repo with h' | ⟨-, h'⟩ <;> rw [h']
    · exact h
    · exact doMerge_consistent env _ _ _ _ _ _ _ _ _ h
  | mergeAbort =>
    rcases abortMergingState_cases env repo with h' | h' <;> simp only [Command.step, h']
    · exact repo.consistent_removeMergeFiles
    · exact h
  | mergeContinue message launchEditor =>
    rcases completeMergingState_cases env message launchEditor repo
      with ⟨e, h'⟩ | ⟨_, _, _, -, -, -, h'⟩ <;> simp only [Command.step, h']
    · exact h
    · exact Repo.consistent_removeMergeFiles _
  | resolve withVersion filePath conflictLabel =>
    rcases resolve_cases env withVersion filePath conflictLabel repo
      with ⟨e, h'⟩ | ⟨_, _, _, -, -, h'⟩ <;> simp only [Command.step, h']
    · exact h
    · exact fun _ => rfl

/-- Over every run of the merge workflow from a repository where `MERGE_HEAD` is not without
`MERGED_INDEX`, the two stay together, so `KartRepo.state` raises in none of the repositories the
run reaches. -/
theorem run_consistent (cmds : List Command) {repo : Repo Key Entry} (h : repo.Consistent) :
    (run env cmds repo).Consistent ∧ ∃ s, (run env cmds repo).state = .ok s := by
  induction cmds generalizing repo with
  | nil => exact ⟨h, repo.state_of_consistent h⟩
  | cons c cmds ih => exact ih (c.step_consistent env h)

/-- The outside world of the examples: branch `b`, at `t`, merged into `main`, at `o`, with base
`a` and one conflict, at `f/1`; every call succeeds. -/
def exampleEnv : Env String String :=
  ⟨fun _ _ => some "a", fun id => ⟨id, none, none⟩, fun _ => "Merge",
    fun _ => ⟨[("f/1", ⟨some "x", some "y", some "z"⟩)], by decide⟩, fun _ => "t", fun _ => "r",
    fun _ => "m", fun _ _ _ => "c", id, fun k _ => k, fun _ _ => .ok [], fun _ => .ok [],
    "kart merge", .ok (), .ok (), true, fun _ _ => .ok (), .ok (), none⟩

/-- The repository of the examples: `HEAD` on `main`, at `o`, and no merge files. -/
def exampleBase : Repo String String :=
  ⟨fun r => if r = "refs/heads/main" then some "o" else none, "refs/heads/main", fun _ => none,
    none, none, none, none⟩

/-- The merge of the examples, its conflict resolved with our version, and the merge completed. -/
theorem run_consistent_resolved :
    let cmds : List Command := [.merge true false false ⟨"t", some "refs/heads/b", some "b"⟩
      ⟨"o", some "refs/heads/main", some "main"⟩ "" "HEAD" false false,
      .resolve (some .ours) none "f/1", .mergeContinue "" false]
    exampleBase.Consistent ∧ (run exampleEnv cmds exampleBase).Consistent ∧
      ∃ s, (run exampleEnv cmds exampleBase).state = .ok s := by
  intro cmds
  have h : exampleBase.Consistent := nofun
  exact ⟨h, run_consistent exampleEnv cmds h⟩

end Run

section InMerge
variable [DecidableEq Key] (env : Env Key Entry) {base repo : Repo Key Entry}
  {mergeContext : AncestorOursTheirs CommitWithReference}
  {conflicts : PyDict Key (AncestorOursTheirs (Option Entry))}

/-- A merge started while another is in progress raises at its check of the state. -/
theorem merge_of_merging (ff ffOnly dryRun : Bool) (theirs ours : CommitWithReference)
    (message into : String) (failOnConflict launchEditor : Bool) (h : repo.state = .ok .merging) :
    (merge env ff ffOnly dryRun theirs ours message into failOnConflict launchEditor repo).2 =
      repo := by
  rcases merge_cases env ff ffOnly dryRun theirs ours message into failOnConflict launchEditor repo
    with h' | ⟨hs, -⟩
  · exact h'
  · cases h.symm.trans hs

/-- Each `kart resolve` that returns settles exactly one conflict that had no resolve. -/
theorem MergeIndex.unresolvedConflicts_addResolve (index : MergeIndex Key Entry) (key : Key)
    (res : List Entry) :
    (index.addResolve key res).unresolvedConflicts = index.unresolvedConflicts.erase key := by
  have hnodup : index.unresolvedConflicts.Nodup := index.conflicts.nodup.filter _
  rw [hnodup.erase_eq_filter]
  simp only [MergeIndex.unresolvedConflicts, MergeIndex.addResolve, PyDict.mem_keys_setItem,
    List.filter_filter]
  congr 1
  funext k
  by_cases hk : k = key <;> simp [hk]

theorem InMerge.step (c : Command) (hc : c.endsMerge = false)
    (h : InMerge base mergeContext conflicts repo) :
    InMerge base mergeContext conflicts (c.step env repo).2 ∧ ∀ index index',
      repo.mergedIndex = some index → (c.step env repo).2.mergedIndex = some index' →
      index.unresolvedConflicts.length ≤
        index'.unresolvedConflicts.length + if c.isResolve then 1 else 0 := by
  cases c with
  | merge ff ffOnly dryRun theirs ours message into failOnConflict launchEditor =>
    have h' := merge_of_merging env ff ffOnly dryRun theirs ours message into failOnConflict
      launchEditor h.state
    simp only [Command.step, h', Command.isResolve]
    refine ⟨h, fun _ _ hi hi' => ?_⟩
    cases hi.symm.trans hi'
    exact Nat.le_add_right _ _
  | mergeAbort | mergeContinue => cases hc
  | resolve withVersion filePath conflictLabel =>
    simp only [Command.step, Command.isResolve, if_true]
    rcases resolve_cases env withVersion filePath conflictLabel repo
      with ⟨e, h'⟩ | ⟨index, key, res, hi, hkey, h'⟩ <;> rw [h']
    · refine ⟨h, fun _ _ hi hi' => ?_⟩
      cases hi.symm.trans hi'
      exact Nat.le_succ _
    · obtain ⟨index₀, hi₀, hconflicts⟩ := h.index
      cases hi.symm.trans hi₀
      refine ⟨⟨h.refs, h.head, h.parents, h.context, _, rfl, hconflicts⟩,
        fun _ _ hi hi' => ?_⟩
      cases hi₀.symm.trans hi
      cases hi'
      rw [MergeIndex.unresolvedConflicts_addResolve, List.length_erase_of_mem hkey]
      omega

/-- A run of `kart merge` and `kart resolve` commands in the middle of a merge keeps it in the
middle of that merge, and settles at most one conflict for each `kart resolve` it holds. -/
theorem InMerge.run (cmds : List Command) (hcmds : ∀ c ∈ cmds, c.endsMerge = false)
    (h : InMerge base mergeContext conflicts repo) :
    InMerge base mergeContext conflicts (run env cmds repo) ∧ ∀ index index',
      repo.mergedIndex = some index → (run env cmds repo).mergedIndex = some index' →
      index.unresolvedConflicts.length ≤
        index'.unresolvedConflicts.length + (cmds.filter Command.isResolve).length := by
  induction cmds generalizing repo with
  | nil =>
    refine ⟨h, fun _ _ hi hi' => ?_⟩
    cases hi.symm.trans hi'
    exact Nat.le_add_right _ _
  | cons c cmds ih =>
    obtain ⟨hstep, hcount⟩ := h.step env c (hcmds c (List.mem_cons_self _ _))
    obtain ⟨hrun, hcount'⟩ := ih (fun c' hc' => hcmds c' (List.mem_cons_of_mem _ hc')) hstep
    refine ⟨hrun, fun index index' hi hi' => ?_⟩
    obtain ⟨mid, hmid, -⟩ := hstep.index
    have h₁ := hcount index mid hi hmid
    have h₂ := hcount' mid index' hmid hi'
    revert h₁
    rw [List.filter_cons]
    cases c.isResolve <;> simp only [if_true, Bool.false_eq_true, if_false, List.length_cons] <;>
      omega

omit [DecidableEq Key] in
theorem InMerge.abort (h : InMerge base mergeContext conflicts repo) :
    abortMergingState env repo = (env.resetToHead, base.removeMergeFiles) := by
  obtain ⟨index, hi, -⟩ := h.index
  rw [abortMergingState_of_consistent env (fun _ => by simp [hi]), h.context,
    Repo.removeMergeFiles_congr h.refs h.head h.parents]
  rfl

theorem InMerge.complete (message : String) (launchEditor : Bool)
    (h : InMerge base mergeContext conflicts repo) :
    (∃ e, completeMergingState env message launchEditor repo = (.error e, repo)) ∨
      ∃ index commitMessage, repo.mergedIndex = some index ∧ index.unresolvedConflicts = [] ∧
        completeMergingState env message launchEditor repo = (env.gcThenResetToHead,
          (base.createCommit env base.head commitMessage (env.writeResolvedTree index)
            [mergeContext.ours.id, mergeContext.theirs.id]).2.removeMergeFiles) := by
  rcases completeMergingState_cases env message launchEditor repo
    with he | ⟨mergeContext', index, commitMessage, hc, hi, hu, h'⟩
  · exact .inl he
  cases h.context.symm.trans hc
  refine .inr ⟨index, commitMessage, hi, hu, h'.trans ?_⟩
  rw [h.head]
  congr 1
  exact Repo.removeMergeFiles_congr (by simp [Repo.createCommit, Repo.setTarget, h.refs]) h.head
    (by simp [Repo.createCommit, h.parents])

/-- A merge that leaves a repository with no merge in progress merging was a merge into `HEAD`,
and moved nothing: the repository is the one it started from, with the merge files of a merge of
`ours` and `theirs`, and a merged index with the conflicts of their trees and no resolve. -/
theorem merge_inMerge {ff ffOnly dryRun : Bool} {theirs ours : CommitWithReference}
    {message into : String} {failOnConflict launchEditor : Bool} (hbase : base.mergeContext = none)
    (hmerging : (merge env ff ffOnly dryRun theirs ours message into failOnConflict launchEditor
      base).2.state = .ok .merging) :
    into = "HEAD" ∧ ∃ mergeContext : AncestorOursTheirs CommitWithReference,
      mergeContext.ours = ours ∧ mergeContext.theirs = theirs ∧
      (merge env ff ffOnly dryRun theirs ours message into failOnConflict launchEditor
        base).2.mergedIndex = some ⟨env.mergeTrees (mergeContext.map (·.id)), PyDict.empty⟩ ∧
      InMerge base mergeContext (env.mergeTrees (mergeContext.map (·.id)))
        (merge env ff ffOnly dryRun theirs ours message into failOnConflict launchEditor
          base).2 := by
  have hnone : ∀ repo : Repo Key Entry, repo.mergeContext = none →
      repo.state ≠ .ok .merging :=
    fun repo h hs => by simpa [h] using (Repo.state_eq_merging.1 hs).1
  rcases merge_cases env ff ffOnly dryRun theirs ours message into failOnConflict launchEditor base
    with h' | ⟨-, h'⟩
  · exact absurd (h' ▸ hmerging) (hnone base hbase)
  rw [h'] at hmerging ⊢
  rcases doMerge_cases env ff ffOnly dryRun theirs ours message into
      (if into ≠ "HEAD" then true else failOnConflict) launchEditor base
    with h'' | ⟨_, h''⟩ | ⟨_, _, _, h''⟩ |
      ⟨hfail, -, mergeContext, mergeMessage, hours, htheirs, h''⟩ <;>
    rw [h''] at hmerging ⊢
  · exact absurd hmerging (hnone base hbase)
  · exact absurd hmerging (hnone _ hbase)
  · exact absurd hmerging (hnone _ hbase)
  refine ⟨?_, mergeContext, hours, htheirs, rfl, rfl, rfl, rfl, rfl, _, rfl, rfl⟩
  by_contra hinto
  rw [if_pos hinto] at hfail
  cases hfail

end InMerge

section Session
variable [DecidableEq Key] (env : Env Key Entry) {ff ffOnly dryRun : Bool}
  {theirs ours : CommitWithReference} {message into : String} {failOnConflict launchEditor : Bool}
  {base : Repo Key Entry}

/-- After a `kart merge` that leaves the repository merging and any run of `kart merge` and
`kart resolve`, `--abort` leaves exactly the repository the merge started from, and raises only as
`reset_to_head` does. -/
theorem mergeAbort_restores (hclean : base.Clean)
    (hmerging : (merge env ff ffOnly dryRun theirs ours message into failOnConflict launchEditor
      base).2.state = .ok .merging)
    (cmds : List Command) (hcmds : ∀ c ∈ cmds, c.endsMerge = false) :
    abortMergingState env (run env cmds
      (merge env ff ffOnly dryRun theirs ours message into failOnConflict launchEditor base).2) =
      (env.resetToHead, base) := by
  obtain ⟨-, _, -, -, -, hin⟩ := merge_inMerge env hclean.1 hmerging
  rw [(hin.run env cmds hcmds).1.abort env, Repo.removeMergeFiles_of_clean hclean]

/-- The merge of the examples, its conflict resolved with our version, then given up. -/
theorem mergeAbort_restores_resolved :
    let merge₀ := merge exampleEnv true false false ⟨"t", some "refs/heads/b", some "b"⟩
      ⟨"o", some "refs/heads/main", some "main"⟩ "" "HEAD" false false exampleBase
    let cmds : List Command := [.resolve (some .ours) none "f/1"]
    exampleBase.Clean ∧ merge₀.2.state = .ok .merging ∧ (∀ c ∈ cmds, c.endsMerge = false) ∧
      abortMergingState exampleEnv (run exampleEnv cmds merge₀.2) =
        (exampleEnv.resetToHead, exampleBase) := by
  intro merge₀ cmds
  have hclean : exampleBase.Clean := ⟨rfl, rfl, rfl, rfl⟩
  have hmerging : merge₀.2.state = .ok .merging := rfl
  have hcmds : ∀ c ∈ cmds, c.endsMerge = false := by decide
  exact ⟨hclean, hmerging, hcmds, mergeAbort_restores exampleEnv hclean hmerging cmds hcmds⟩

/-- After a `kart merge` that leaves the repository merging and any run of `kart merge` and
`kart resolve`, `--continue` either raises with the repository unchanged, or commits the merge on
`HEAD`'s branch and removes the merge files, raising then only as `git gc --auto` or
`reset_to_head` does; it commits only if every conflict was resolved. -/
theorem mergeContinue_commits (hclean : base.Clean)
    (hmerging : (merge env ff ffOnly dryRun theirs ours message into failOnConflict launchEditor
      base).2.state = .ok .merging)
    (cmds : List Command) (hcmds : ∀ c ∈ cmds, c.endsMerge = false) (message' : String)
    (launchEditor' : Bool) :
    let repo := run env cmds
      (merge env ff ffOnly dryRun theirs ours message into failOnConflict launchEditor base).2
    into = "HEAD" ∧ repo.refs = base.refs ∧ repo.head = base.head ∧
      repo.parents = base.parents ∧
      ((∃ e, completeMergingState env message' launchEditor' repo = (.error e, repo)) ∨
        ∃ conflicts commitMessage tree,
          (merge env ff ffOnly dryRun theirs ours message into failOnConflict launchEditor
            base).2.mergedIndex = some ⟨conflicts, PyDict.empty⟩ ∧
          conflicts.keys.length ≤ (cmds.filter Command.isResolve).length ∧
          completeMergingState env message' launchEditor' repo =
            (env.gcThenResetToHead,
              (base.createCommit env base.head commitMessage tree [ours.id, theirs.id]).2)) := by
  intro repo
  obtain ⟨hinto, mergeContext, hours, htheirs, hindex, hin⟩ :=
    merge_inMerge env hclean.1 hmerging
  obtain ⟨hrun, hcount⟩ := hin.run env cmds hcmds
  refine ⟨hinto, hrun.refs, hrun.head, hrun.parents, ?_⟩
  rcases hrun.complete env message' launchEditor' with he | ⟨index, commitMessage, hi, hu, h'⟩
  · exact .inl he
  refine .inr ⟨_, commitMessage, env.writeResolvedTree index, hindex, ?_, h'.trans ?_⟩
  · have h := hcount _ index hindex hi
    rw [hu] at h
    simpa [MergeIndex.unresolvedConflicts] using h
  · rw [hours, htheirs,
      Repo.removeMergeFiles_of_clean (Repo.clean_createCommit env hclean _ _ _ _)]

/-- The merge of the examples, its conflict resolved with our version, then completed. -/
theorem mergeContinue_commits_resolved :
    let merge₀ := merge exampleEnv true false false ⟨"t", some "refs/heads/b", some "b"⟩
      ⟨"o", some "refs/heads/main", some "main"⟩ "" "HEAD" false false exampleBase
    let cmds : List Command := [.resolve (some .ours) none "f/1"]
    let repo := run exampleEnv cmds merge₀.2
    exampleBase.Clean ∧ merge₀.2.state = .ok .merging ∧ (∀ c ∈ cmds, c.endsMerge = false) ∧
      repo.refs = exampleBase.refs ∧ repo.head = exampleBase.head ∧
      repo.parents = exampleBase.parents ∧
      ((∃ e, completeMergingState exampleEnv "" false repo = (.error e, repo)) ∨
        ∃ conflicts commitMessage tree,
          merge₀.2.mergedIndex = some ⟨conflicts, PyDict.empty⟩ ∧
          conflicts.keys.length ≤ (cmds.filter Command.isResolve).length ∧
          completeMergingState exampleEnv "" false repo = (exampleEnv.gcThenResetToHead,
            (exampleBase.createCommit exampleEnv exampleBase.head commitMessage tree ["o", "t"]).2)) := by
  intro merge₀ cmds repo
  have hclean : exampleBase.Clean := ⟨rfl, rfl, rfl, rfl⟩
  have hmerging : merge₀.2.state = .ok .merging := rfl
  have hcmds : ∀ c ∈ cmds, c.endsMerge = false := by decide
  exact ⟨hclean, hmerging, hcmds,
    (mergeContinue_commits exampleEnv hclean hmerging cmds hcmds "" false).2⟩

end Session

end Kart.Merge
