import Mathlib.Data.List.Infix
set_option autoImplicit false

/-!
# Tile paths of a point-cloud dataset

`PointCloudV1.encode_tile_path` stores the pointer of a tile under `tile/`, in a directory named
by two characters of the hash of the tile's name. `decode_tile_path`, which `diff_tile` uses to
turn the paths of the tile tree back into keys, keeps what follows the last `/`. The two are
inverse exactly on tile names without a `/`.
-/
namespace Kart.Tile

/-- `PointCloudV1.DATASET_DIRNAME`. -/
def datasetDirname : String := ".point-cloud-dataset.v1"

/-- `PointCloudV1.encode_tile_path(tilename, relative=True)`; `hexhash` is not part of the
modelled sources, so it is a parameter. -/
def encodeTilePath (hexhash : String → String) (tilename : String) : String :=
  "tile/" ++ (hexhash tilename).take 2 ++ "/" ++ tilename

/-- `s.rsplit("/", maxsplit=1)[-1]`: what follows the last `/`, or all of `s`. -/
def rsplitLast (s : List Char) : List Char := (s.reverse.takeWhile (· ≠ '/')).reverse

/-- `PointCloudV1.decode_tile_path(tile_path)`. -/
def decodeTilePath (tilePath : String) : String := ⟨rsplitLast tilePath.data⟩

/-- `PointCloudV1.decode_path(path)`: a path under `tile/` is a tile; `ensure_rel_path` and the
`decode_path` of the base class are not part of the modelled sources, so they are parameters. -/
def decodePath (ensureRelPath : String → String) (baseDecodePath : String → String × String)
    (path : String) : String × String :=
  let relPath := ensureRelPath path
  if "tile/".data.isPrefixOf relPath.data then ("tile", decodeTilePath relPath)
  else baseDecodePath relPath

theorem slash_not_mem_decodeTilePath (tilePath : String) : '/' ∉ (decodeTilePath tilePath).data :=
  fun h => by simpa using List.mem_takeWhile_imp (List.mem_reverse.1 h)

theorem rsplitLast_append_slash (a b : List Char) (hb : '/' ∉ b) : rsplitLast (a ++ '/' :: b) = b := by
  have hrev : ∀ c ∈ b.reverse, decide (c ≠ '/') = true := fun c hc =>
    decide_eq_true fun h => hb (h ▸ List.mem_reverse.1 hc)
  rw [rsplitLast, List.reverse_append, List.reverse_cons, List.append_assoc,
    List.takeWhile_append_of_pos hrev]
  simp

theorem decodeTilePath_encodeTilePath_of (hexhash : String → String) (tilename : String)
    (htilename : '/' ∉ tilename.data) : decodeTilePath (encodeTilePath hexhash tilename) = tilename :=
  String.ext <| by
    simpa [decodeTilePath, encodeTilePath] using
      rsplitLast_append_slash ("tile/".data ++ ((hexhash tilename).take 2).data) _ htilename

/-- The name is read back from the path it was stored at exactly when it holds no `/`. -/
theorem decodeTilePath_encodeTilePath (hexhash : String → String) (tilename : String) :
    decodeTilePath (encodeTilePath hexhash tilename) = tilename ↔ '/' ∉ tilename.data :=
  ⟨fun h => h ▸ slash_not_mem_decodeTilePath _, decodeTilePath_encodeTilePath_of hexhash tilename⟩

/-- `decode_path` of the relative path a tile is stored at is the tile and its name. -/
theorem decodePath_encodeTilePath (ensureRelPath : String → String)
    (baseDecodePath : String → String × String) (hexhash : String → String) (tilename : String)
    (hrel : ensureRelPath (encodeTilePath hexhash tilename) = encodeTilePath hexhash tilename)
    (htilename : '/' ∉ tilename.data) :
    decodePath ensureRelPath baseDecodePath (encodeTilePath hexhash tilename) = ("tile", tilename) := by
  have hpre : "tile/".data.isPrefixOf (encodeTilePath hexhash tilename).data = true :=
    List.isPrefixOf_iff_prefix.2 (by simp [encodeTilePath])
  simp only [decodePath, hrel, hpre, if_true,
    decodeTilePath_encodeTilePath_of hexhash tilename htilename]

end Kart.Tile
