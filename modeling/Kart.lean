import Kart.DiffStructs.Dict
import Kart.DiffStructs.Delta
import Kart.DiffStructs.Diff
import Kart.DiffStructs.Store
import Kart.DiffStructs.Algebra
import Kart.DiffStructs.Invert
import Kart.DiffStructs.Prune
import Kart.DiffStructs.Lazy
import Kart.DiffStructs.Recursive
import Kart.DiffStructs.Summary
import Kart.KeyFilters
import Kart.KeyFilters.Parse
import Kart.KeyFilters.Membership
import Kart.DiffStructs.PlusMinus
import Kart.DiffStructs.Typing
import Kart.DiffStructs.Concatenated
import Kart.FastImport
import Kart.FastImport.Tables
import Kart.Repo
import Kart.Tile.Paths
import Kart.Tile.Importer
import Kart.Tile.DatasetPath
import Kart.Tile.Sources
import Kart.Tile.ImportRun
import Kart.Merge.Workflow
import Kart.Merge.Runs
import Kart.Adapter.Postgis
