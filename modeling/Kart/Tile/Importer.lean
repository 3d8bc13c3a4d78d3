import Kart.FastImport
import Kart.DiffStructs.Dict
import Kart.Tile.Paths
set_option autoImplicit false

/-!
# Importing tiles

`TileImporter.import_tiles_to_stream` writes one pointer blob for every source, at the path of
the source's tile name, and one for each of its sidecar files. Tiles imported before are written
in a first pass, in the order of the sources; the others only once their copy-and-convert task
has completed, in whatever order the worker pool completes them.
-/
namespace Kart.Tile
open Kart.FastImport Kart.DiffStructs

/-- A tile name with a line feed in it: the import's pointer blob is not read back at all, and a
`--delete` of the tile is read back as two deletions, the second of the whole dataset. -/
theorem encodeTilePath_newline :
    let tz : Int → String := fun _ => "+0000"
    let sig : Signature := ⟨"Kart", "kart@example.com", 0, 0⟩
    let header := generateHeader tz sig sig "Import" "refs/kart-import/1" none
    let path := "ds/" ++ datasetDirname ++ "/" ++ encodeTilePath (fun _ => "ab") "x.laz\nD ds"
    parseStream (importStream header [.inline path [1, 2]]) = none ∧
      (parseStream (importStream header [.delete path])).map Prod.snd =
        some [.delete (utf8 "ds/.point-cloud-dataset.v1/tile/ab/x.laz"), .delete (utf8 "ds")] := by
  decide

/-- What `import_tiles_to_stream` reads of the importer and of its sources. The methods it calls
that are not part of the modelled sources are fields: each is a function of the source alone. -/
structure TileImporter where
  datasetPath : String
  /-- `DATASET_CLASS.tilename_from_path`. -/
  tilenameFromPath : String → String
  /-- `DATASET_CLASS.tilename_to_blob_path(tilename, relative=True)`. -/
  tilenameToBlobPath : String → String
  /-- The blob of a tile imported before, when `existing_tile_matches_source` accepts it. -/
  existingTile : String → Option (List UInt8)
  /-- The pointer file `merge_dicts_to_pointer_file_bytes` makes once the source's task has run. -/
  pointerData : String → List UInt8
  /-- `sidecar_files` of the source: each suffix, with the pointer file of the copied sidecar. -/
  sidecars : String → List (String × List UInt8)

namespace TileImporter
variable (self : TileImporter)

/-- `self.dataset_inner_path`. -/
def datasetInnerPath : String := self.datasetPath ++ "/" ++ datasetDirname

def blobPath (source : String) : String :=
  self.datasetInnerPath ++ "/" ++ self.tilenameToBlobPath (self.tilenameFromPath source)

/-- The first pass over the sources: the writes of tiles imported before, and the
`copy_and_convert_tasks` dict, keyed by source. -/
def firstPass (sources : List String) : List (Command String) × PyDict String Unit :=
  sources.foldl (fun (writes, tasks) source =>
    match self.existingTile source with
    | some data => (writes ++ [.inline (self.blobPath source) data], tasks)
    | none => (writes, tasks.setItem source ())) ([], PyDict.empty)

/-- The writes for a source once its task has completed: its pointer, then each sidecar's. -/
def taskWrites (source : String) : List (Command String) :=
  .inline (self.blobPath source) (self.pointerData source) ::
    (self.sidecars source).map fun (suffix, data) => .inline (self.blobPath source ++ suffix) data

/-- The paths a completed task writes to. -/
def taskPaths (source : String) : List String :=
  self.blobPath source :: (self.sidecars source).map fun (suffix, _) => self.blobPath source ++ suffix

/-- `copy_multiple_files_to_lfs_cache` yields every task once, in the order the pool completes
them; with one worker, in the order of the dict. -/
def CompletionOrder (sources order : List String) : Prop :=
  order.Perm (self.firstPass sources).2.keys

instance (sources order : List String) : Decidable (self.CompletionOrder sources order) :=
  inferInstanceAs (Decidable (List.Perm _ _))

/-- `import_tiles_to_stream(stream, sources)`, the tasks completing in `order`. -/
def importTilesToStream (sources order : List String) : List (Command String) :=
  (self.firstPass sources).1 ++ order.flatMap self.taskWrites

theorem touches_taskWrites (source q : String) :
    (∃ c ∈ self.taskWrites source, c.Touches q = true) ↔ q ∈ self.taskPaths source := by
  simp only [taskWrites, taskPaths, List.mem_cons, List.mem_map, Prod.exists]
  constructor
  · rintro ⟨c, rfl | ⟨a, b, hab, rfl⟩, hc⟩
    · exact .inl (beq_iff_eq.1 hc)
    · exact .inr ⟨a, b, hab, (beq_iff_eq.1 hc).symm⟩
  · rintro (rfl | ⟨a, b, hab, rfl⟩)
    · exact ⟨_, .inl rfl, beq_self_eq_true _⟩
    · exact ⟨_, .inr ⟨a, b, hab, rfl⟩, beq_self_eq_true _⟩

/-- However the pool schedules the tasks, the tree holds the same at every path, provided no two
sources with a task write to a common path. -/
theorem importTilesToStream_order_independent (sources order₁ order₂ : List String)
    (h₁ : self.CompletionOrder sources order₁) (h₂ : self.CompletionOrder sources order₂)
    (hdisjoint : ∀ s₁ ∈ (self.firstPass sources).2.keys, ∀ s₂ ∈ (self.firstPass sources).2.keys,
      s₁ ≠ s₂ → ∀ q ∈ self.taskPaths s₁, q ∉ self.taskPaths s₂)
    (t : String → Option Blob) :
    applyCommands t (self.importTilesToStream sources order₁) =
      applyCommands t (self.importTilesToStream sources order₂) := by
  simp only [importTilesToStream, applyCommands_append]
  refine applyCommands_flatMap_perm self.taskWrites (h₁.trans h₂.symm)
    (h₁.nodup_iff.2 (self.firstPass sources).2.nodup) (fun a ha b hb hab q hq c hc => ?_) _
  rw [touches_taskWrites] at hq
  by_contra hcq
  exact hdisjoint a (h₁.mem_iff.1 ha) b (h₁.mem_iff.1 hb) hab q hq
    ((self.touches_taskWrites b q).1 ⟨c, hc, Bool.not_eq_false _ ▸ hcq⟩)

theorem importTilesToStream_order_independent_two_tiles :
    let basename : String → String := fun s => ⟨(s.data.reverse.takeWhile (· ≠ '/')).reverse⟩
    let imp : TileImporter :=
      ⟨"ds", basename, encodeTilePath (fun _ => "ab"), fun _ => none, utf8, fun _ => [(".aux", [7])]⟩
    let sources := ["a/x.laz", "b/y.laz"]
    (imp.CompletionOrder sources sources ∧ imp.CompletionOrder sources ["b/y.laz", "a/x.laz"] ∧
      ∀ s₁ ∈ (imp.firstPass sources).2.keys, ∀ s₂ ∈ (imp.firstPass sources).2.keys,
        s₁ ≠ s₂ → ∀ q ∈ imp.taskPaths s₁, q ∉ imp.taskPaths s₂) ∧
    applyCommands (fun _ => none) (imp.importTilesToStream sources sources) =
      applyCommands (fun _ => none) (imp.importTilesToStream sources ["b/y.laz", "a/x.laz"]) :=
  have h : (_ ∧ _ ∧ _) := ⟨by decide, by decide, by decide⟩
  ⟨h, importTilesToStream_order_independent _ _ _ _ h.1 h.2.1 h.2.2 _⟩

end TileImporter

/-- Two sources with one tile name, as files of one name in two directories: the pointer the
tree keeps at the tile's path is the one of the task that completed last. -/
theorem importTilesToStream_same_tilename :
    let basename : String → String := fun s => ⟨(s.data.reverse.takeWhile (· ≠ '/')).reverse⟩
    let imp : TileImporter :=
      ⟨"ds", basename, encodeTilePath (fun _ => "ab"), fun _ => none, utf8, fun _ => []⟩
    let sources := ["a/x.laz", "b/x.laz"]
    let path := "ds/.point-cloud-dataset.v1/tile/ab/x.laz"
    imp.CompletionOrder sources sources ∧ imp.CompletionOrder sources ["b/x.laz", "a/x.laz"] ∧
      applyCommands (fun _ => none) (imp.importTilesToStream sources sources) path =
        some (.bytes (utf8 "b/x.laz")) ∧
      applyCommands (fun _ => none) (imp.importTilesToStream sources ["b/x.laz", "a/x.laz"]) path =
        some (.bytes (utf8 "a/x.laz")) := by
  decide

end Kart.Tile
