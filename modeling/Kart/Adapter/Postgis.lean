import Kart.DiffStructs.Dict
import Mathlib.Data.List.Infix
set_option autoImplicit false

/-!
# Column types of the PostGIS adapter

`KartAdapter_Postgis` declares the columns of a table from a V2 schema (`v2_type_to_pg_type`) and
reads a V2 schema back from the catalog (`_pg_type_to_v2_type`). This module models both
directions and proves the round trip: a column reads back with the type it was declared with, its
size changed only where it was left unspecified or `APPROXIMATED_TYPES` says so. The database is
not modelled: a theorem assumes the catalog row reports what the adapter declared.
-/
namespace Kart.Adapter.Postgis
open Kart.DiffStructs

/-- An entry of `V2_TYPE_TO_SQL_TYPE`: one SQL type, or one for each `size`. -/
inductive SqlType
  | plain (name : String)
  | sized (bySize : List (Nat × String))
deriving DecidableEq, Repr

/-- `V2_TYPE_TO_SQL_TYPE`. -/
def v2TypeToSqlType : List (String × SqlType) :=
  [("boolean", .plain "BOOLEAN"),
   ("blob", .plain "BYTEA"),
   ("date", .plain "DATE"),
   ("float", .sized [(0, "REAL"), (32, "REAL"), (64, "DOUBLE PRECISION")]),
   ("geometry", .plain "GEOMETRY"),
   ("integer", .sized [(0, "INTEGER"), (8, "SMALLINT"), (16, "SMALLINT"), (32, "INTEGER"),
     (64, "BIGINT")]),
   ("interval", .plain "INTERVAL"),
   ("numeric", .plain "NUMERIC"),
   ("text", .plain "TEXT"),
   ("time", .plain "TIME"),
   ("timestamp", .plain "TIMESTAMPTZ")]

/-- `SQL_TYPE_TO_V2_TYPE`: a V2 type, with its `size` where the entry is a tuple. -/
def sqlTypeToV2Type : List (String × String × Option Nat) :=
  [("BOOLEAN", "boolean", none),
   ("SMALLINT", "integer", some 16),
   ("INTEGER", "integer", some 32),
   ("BIGINT", "integer", some 64),
   ("REAL", "float", some 32),
   ("DOUBLE PRECISION", "float", some 64),
   ("BYTEA", "blob", none),
   ("CHARACTER VARYING", "text", none),
   ("DATE", "date", none),
   ("GEOMETRY", "geometry", none),
   ("INTERVAL", "interval", none),
   ("NUMERIC", "numeric", none),
   ("TEXT", "text", none),
   ("TIME", "time", none),
   ("TIMETZ", "time", none),
   ("TIMESTAMP", "timestamp", none),
   ("TIMESTAMPTZ", "timestamp", none),
   ("VARCHAR", "text", none)]

/-- The `extra_type_info` of a column, as far as the adapter reads or writes it. Only `size` is
read with a default other than `None`, so only there is an absent key (`none`) told apart from a
`None` (`some none`). -/
structure ExtraTypeInfo where
  size : Option (Option Nat) := none
  length : Option Nat := none
  precision : Option Nat := none
  scale : Option Nat := none
  geometryType : Option String := none
  geometryCRS : Option String := none
deriving DecidableEq, Repr

/-- A `ColumnSchema`: its name, `data_type`, `pk_index` and `extra_type_info`; the reader gives a
`data_type` of `None` to a catalog type it does not know. -/
structure ColumnSchema where
  id : String
  name : String
  dataType : Option String
  pkIndex : Option Nat
  extra : ExtraTypeInfo
deriving DecidableEq, Repr

section Declare

/-- `str.replace(" ", "")`. -/
def removeSpaces (s : String) : String := ⟨s.data.filter (· ≠ ' ')⟩

/-- `_v2_geometry_type_to_pg_type(geometry_type, crs_id)`. -/
def v2GeometryTypeToPgType (geometryType : Option String) (crsId : Option Nat) : String :=
  match geometryType.map removeSpaces, crsId with
  | some g, some id => "GEOMETRY(" ++ g ++ "," ++ toString id ++ ")"
  | some g, none => "GEOMETRY(" ++ g ++ ")"
  | none, _ => "GEOMETRY"

/-- The branches of `v2_type_to_pg_type` for an entry of `V2_TYPE_TO_SQL_TYPE` that is one SQL
type; `crsIdOf` is `crs_util.get_identifier_int_from_dataset(v2_obj, ·)`, which is not part of the
modelled sources. -/
def plainPgType (crsIdOf : String → Nat) (extra : ExtraTypeInfo) (pgType : String) : String :=
  if pgType = "GEOMETRY" then
    v2GeometryTypeToPgType extra.geometryType (extra.geometryCRS.map crsIdOf)
  else if pgType = "TEXT" then
    match extra.length with
    | some length => "VARCHAR(" ++ toString length ++ ")"
    | none => "TEXT"
  else if pgType = "NUMERIC" then
    match extra.precision, extra.scale with
    | some precision, some scale => "NUMERIC(" ++ toString precision ++ "," ++ toString scale ++ ")"
    | some precision, none => "NUMERIC(" ++ toString precision ++ ")"
    | none, _ => "NUMERIC"
  else pgType

/-- `f"{x}"` of an optional string: `None` for none. -/
def pyStrOption : Option String → String
  | some s => s
  | none => "None"

/-- `v2_type_to_pg_type(column_schema, v2_obj)`: `None` for a `size` the table has no entry
for. -/
def v2TypeToPgType (crsIdOf : String → Nat) (col : ColumnSchema) :
    Except PyError (Option String) :=
  match col.dataType.bind v2TypeToSqlType.lookup with
  | none => .error (.valueError ("Unrecognised data type: " ++ pyStrOption col.dataType))
  | some (.sized bySize) => .ok ((col.extra.size.getD (some 0)).bind bySize.lookup)
  | some (.plain pgType) => .ok (some (plainPgType crsIdOf col.extra pgType))

/-- `v2_schema_to_sql_spec(schema, v2_obj)`: `quote` is `Db_Postgis.quote`, and `pkColumns` is
`schema.pk_columns`; neither is part of the modelled sources. -/
def v2SchemaToSqlSpec (quote : String → String) (crsIdOf : String → Nat)
    (schema pkColumns : List ColumnSchema) : Except PyError String := do
  let result ← schema.mapM fun col => do
    let pgType ← v2TypeToPgType crsIdOf col
    pure (quote col.name ++ " " ++ pyStrOption pgType)
  let result := if pkColumns.isEmpty then result
    else result ++ ["PRIMARY KEY(" ++ ", ".intercalate (pkColumns.map (quote ·.name)) ++ ")"]
  pure (", ".intercalate result)

end Declare

section Read

/-- What `_pg_type_to_v2_type` reads of a row of the catalog query of `all_v2_meta_items`. -/
structure PgColInfo where
  columnName : String
  dataType : String
  udtName : String
  characterMaximumLength : Option Nat
  numericPrecision : Option Nat
  numericScale : Option Nat
  pkOrdinalPosition : Option Nat
  geometryType : Option String
  geometrySrid : Option Nat
deriving DecidableEq, Repr

/-- What the reader reads of a row of `spatial_ref_sys`. -/
structure SpatialRefSys where
  srid : Nat
  srtext : String
deriving DecidableEq, Repr

/-- `str.upper()`, for ASCII letters. -/
def pyUpper (s : String) : String := ⟨s.data.map Char.toUpper⟩

/-- The characters `str.strip()` removes: the ASCII and Latin-1 whitespace of `str.isspace()`. -/
def isPySpace (c : Char) : Bool :=
  c = ' ' || c = '\t' || c = '\n' || c = '\r' || c = '\x0b' || c = '\x0c' || c = '\x1c' ||
    c = '\x1d' || c = '\x1e' || c = '\x1f' || c = '\x85' || c = '\xa0'

/-- `str.strip()`. -/
def pyStrip (s : String) : String :=
  ⟨((s.data.dropWhile isPySpace).reverse.dropWhile isPySpace).reverse⟩

/-- `x or None` of an integer: `0` is false. -/
def orNone (x : Option Nat) : Option Nat := x.filter (· ≠ 0)

/-- `_pop_suffix(geometry_type, suffix)`: `geometry_type[:-1]` drops one character. -/
def popSuffix (geometryType suffix : String) : String × String :=
  if suffix.data <:+ geometryType.data then (⟨geometryType.data.dropLast⟩, suffix)
  else (geometryType, "")

/-- The CRS `_pg_type_to_v2_geometry_type` names for a `geometry_srid`: none for a srid of `None` or
`0`, and otherwise the identifier of the first row of `spatial_ref_sys` with that srid, if any;
`identifierStr` is `crs_util.get_identifier_str`, which is not part of the modelled sources. -/
def geometryCrs (identifierStr : String → String) (geometrySrid : Option Nat)
    (spatialRefSys : List SpatialRefSys) : Option String :=
  match geometrySrid with
  | some crsId =>
    if crsId ≠ 0 then
      (spatialRefSys.find? (·.srid = crsId)).map fun crsInfo => identifierStr crsInfo.srtext
    else none
  | none => none

/-- `_pg_type_to_v2_geometry_type(pg_col_info, pg_spatial_ref_sys)`. The `upper()` of a
`geometry_type` of `None` raises. -/
def pgTypeToV2GeometryType (identifierStr : String → String) (info : PgColInfo)
    (spatialRefSys : List SpatialRefSys) : Except PyError (String × ExtraTypeInfo) :=
  match info.geometryType with
  | none => .error (.attributeError "'NoneType' object has no attribute 'upper'")
  | some geometryType =>
    let (geometryType, m) := popSuffix (pyUpper geometryType) "M"
    let (geometryType, z) := popSuffix geometryType "Z"
    .ok ("geometry",
      { geometryType := some (pyStrip (geometryType ++ " " ++ z ++ m)),
        geometryCRS := geometryCrs identifierStr info.geometrySrid spatialRefSys })

/-- The entry of `SQL_TYPE_TO_V2_TYPE` that `_pg_type_to_v2_type` finds for a column: that of its
`data_type`, or else that of its `udt_name`. -/
def PgColInfo.v2TypeInfo (info : PgColInfo) : Option (String × Option Nat) :=
  match sqlTypeToV2Type.lookup (pyUpper info.dataType) with
  | some v2TypeInfo => some v2TypeInfo
  | none => sqlTypeToV2Type.lookup (pyUpper info.udtName)

/-- `_pg_type_to_v2_type(pg_col_info, pg_spatial_ref_sys)`. -/
def pgTypeToV2Type (identifierStr : String → String) (info : PgColInfo)
    (spatialRefSys : List SpatialRefSys) : Except PyError (Option String × ExtraTypeInfo) :=
  let v2TypeInfo := info.v2TypeInfo
  let v2Type := v2TypeInfo.map (·.1)
  let extra : ExtraTypeInfo := { size := (v2TypeInfo.bind (·.2)).map some }
  if v2Type = some "geometry" then
    (pgTypeToV2GeometryType identifierStr info spatialRefSys).map fun (t, e) => (some t, e)
  else if v2Type = some "text" then
    .ok (v2Type, { extra with length := orNone info.characterMaximumLength })
  else if v2Type = some "numeric" then
    .ok (v2Type, { extra with precision := orNone info.numericPrecision,
                              scale := orNone info.numericScale })
  else .ok (v2Type, extra)

/-- `_postgis_to_column_schema(pg_col_info, pg_spatial_ref_sys, id_salt)`; `deterministicId` is
`ColumnSchema.deterministic_id(name, data_type, id_salt)`, not part of the modelled sources. -/
def postgisToColumnSchema (identifierStr : String → String)
    (deterministicId : String → Option String → String) (info : PgColInfo)
    (spatialRefSys : List SpatialRefSys) : Except PyError ColumnSchema := do
  let (dataType, extra) ← pgTypeToV2Type identifierStr info spatialRefSys
  pure ⟨deterministicId info.columnName dataType, info.columnName, dataType,
    info.pkOrdinalPosition.map (· - 1), extra⟩

/-- `postgis_to_v2_schema(pg_table_info, pg_spatial_ref_sys, id_salt)`. -/
def postgisToV2Schema (identifierStr : String → String)
    (deterministicId : String → Option String → String) (tableInfo : List PgColInfo)
    (spatialRefSys : List SpatialRefSys) : Except PyError (List ColumnSchema) :=
  tableInfo.mapM fun info => postgisToColumnSchema identifierStr deterministicId info spatialRefSys

/-- `_dimension_count(geometry_type)`. -/
def dimensionCount (geometryType : String) : Nat :=
  let (geometryType, m) := popSuffix geometryType "M"
  let (_, z) := popSuffix geometryType "Z"
  ("XY" ++ z ++ m).length

end Read

section Declared

/-- The name of a declared SQL type: what precedes its modifiers, the name the catalog reports for a
column declared with it. -/
def typeName (pgType : String) : String := ⟨pgType.data.takeWhile (· ≠ '(')⟩

theorem lookup_mem {α β : Type} [DecidableEq α] {l : List (α × β)} {k : α} {b : β}
    (h : l.lookup k = some b) : (k, b) ∈ l := by
  obtain ⟨l₁, l₂, rfl, -⟩ := List.lookup_eq_some_iff.1 h
  simp

theorem lookup_eq_none_iff_not_mem {α β : Type} [DecidableEq α] {l : List (α × β)} {k : α} :
    l.lookup k = none ↔ k ∉ l.map (·.1) := by
  simp only [List.lookup_eq_none_iff, bne_iff_ne, ne_eq, List.mem_map, not_exists, not_and]
  exact forall_congr' fun p => forall_congr' fun _ => eq_comm.not

/-- `v2_type_to_pg_type` raises only for a data type `V2_TYPE_TO_SQL_TYPE` does not have, with
the message that names it. -/
theorem v2TypeToPgType_eq_error (crsIdOf : String → Nat) (col : ColumnSchema) (e : PyError) :
    v2TypeToPgType crsIdOf col = .error e ↔
      (∀ t ∈ col.dataType, t ∉ v2TypeToSqlType.map (·.1)) ∧
        e = .valueError ("Unrecognised data type: " ++ pyStrOption col.dataType) := by
  unfold v2TypeToPgType
  rcases hdt : col.dataType with _ | t
  · simp [eq_comm]
  simp only [Option.some_bind, Option.mem_def, Option.some.injEq, forall_eq']
  rcases hl : v2TypeToSqlType.lookup t with _ | (name | bySize)
  · exact ⟨fun h => ⟨lookup_eq_none_iff_not_mem.1 hl, (Except.error.inj h).symm⟩,
      fun h => h.2 ▸ rfl⟩
  all_goals
    have hmem : t ∈ v2TypeToSqlType.map (·.1) := List.mem_map_of_mem _ (lookup_mem hl)
    simp [hmem]

theorem v2TypeToPgType_ok_iff (crsIdOf : String → Nat) (col : ColumnSchema) :
    (∃ pgType, v2TypeToPgType crsIdOf col = .ok pgType) ↔
      ∃ t ∈ col.dataType, t ∈ v2TypeToSqlType.map (·.1) := by
  cases h : v2TypeToPgType crsIdOf col with
  | error e =>
    obtain ⟨hunknown, -⟩ := (v2TypeToPgType_eq_error crsIdOf col e).1 h
    simp only [reduceCtorEq, exists_false, false_iff, not_exists, not_and]
    exact hunknown
  | ok pgType =>
    simp only [exists_apply_eq_apply', true_iff]
    by_contra hknown
    have := (v2TypeToPgType_eq_error crsIdOf col _).2 ⟨fun t ht hmem => hknown ⟨t, ht, hmem⟩, rfl⟩
    rw [h] at this
    cases this

/-- A `mapM` in `Except` fails with the error of the first element that fails. -/
theorem mapM_eq_error {α β ε : Type} {f : α → Except ε β} {e : ε} (l : List α) :
    l.mapM f = .error e ↔
      ∃ pre x post, l = pre ++ x :: post ∧ (∀ y ∈ pre, ∃ b, f y = .ok b) ∧ f x = .error e := by
  induction l with
  | nil =>
    rw [List.mapM_nil]
    simp [pure, Except.pure]
  | cons a l ih =>
    rw [List.mapM_cons]
    constructor
    · intro h
      cases hfa : f a with
      | error e' =>
        rw [hfa, error_bind] at h
        exact ⟨[], a, l, rfl, by simp, Except.error.inj h ▸ hfa⟩
      | ok b =>
        rw [hfa, ok_bind] at h
        cases hl : l.mapM f with
        | error e' =>
          rw [hl, error_bind] at h
          obtain ⟨pre, x, post, rfl, hpre, hx⟩ := ih.1 (hl.trans h)
          exact ⟨a :: pre, x, post, rfl, by simpa [hfa] using hpre, hx⟩
        | ok bs =>
          rw [hl, ok_bind] at h
          cases h
    · rintro ⟨pre, x, post, hl, hpre, hx⟩
      cases pre with
      | nil =>
        obtain ⟨rfl, rfl⟩ := List.cons.inj hl
        rw [hx, error_bind]
      | cons _ pre =>
        obtain ⟨rfl, rfl⟩ := List.cons.inj hl
        obtain ⟨b, hb⟩ := hpre a (.head _)
        rw [hb, ok_bind, ih.2 ⟨pre, x, post, rfl, fun z hz => hpre z (.tail _ hz), hx⟩, error_bind]

/-- `v2_schema_to_sql_spec` raises exactly when a column's data type is one `V2_TYPE_TO_SQL_TYPE`
does not have, with the error of the first such column. -/
theorem v2SchemaToSqlSpec_eq_error (quote : String → String) (crsIdOf : String → Nat)
    (schema pkColumns : List ColumnSchema) (e : PyError) :
    v2SchemaToSqlSpec quote crsIdOf schema pkColumns = .error e ↔
      ∃ pre col post, schema = pre ++ col :: post ∧
        (∀ c ∈ pre, ∃ t ∈ c.dataType, t ∈ v2TypeToSqlType.map (·.1)) ∧
        (∀ t ∈ col.dataType, t ∉ v2TypeToSqlType.map (·.1)) ∧
        e = .valueError ("Unrecognised data type: " ++ pyStrOption col.dataType) := by
  have hok : ∀ col : ColumnSchema, (∃ b, (v2TypeToPgType crsIdOf col >>= fun pgType =>
      Except.ok (quote col.name ++ " " ++ pyStrOption pgType)) = .ok b) ↔
      ∃ t ∈ col.dataType, t ∈ v2TypeToSqlType.map (·.1) := fun col => by
    rw [← v2TypeToPgType_ok_iff crsIdOf col]
    cases v2TypeToPgType crsIdOf col <;> simp
  have herror : ∀ col : ColumnSchema, (v2TypeToPgType crsIdOf col >>= fun pgType =>
      Except.ok (quote col.name ++ " " ++ pyStrOption pgType)) = .error e ↔
      v2TypeToPgType crsIdOf col = .error e := fun col => by
    cases v2TypeToPgType crsIdOf col <;> simp
  unfold v2SchemaToSqlSpec
  simp only [bind_eq_error, pure_eq_ok, reduceCtorEq, and_false, exists_false, or_false]
  rw [mapM_eq_error]
  simp only [hok, herror, v2TypeToPgType_eq_error]

end Declared

section Geometry

theorem isPySpace_of_isUpper {c : Char} (h : c.isUpper = true) : isPySpace c = false := by
  simp only [Char.isUpper, Bool.and_eq_true, decide_eq_true_eq] at h
  simp only [isPySpace, Bool.or_eq_false_iff, decide_eq_false_iff_not]
  refine ⟨⟨⟨⟨⟨⟨⟨⟨⟨⟨⟨?_, ?_⟩, ?_⟩, ?_⟩, ?_⟩, ?_⟩, ?_⟩, ?_⟩, ?_⟩, ?_⟩, ?_⟩, ?_⟩ <;>
    (rintro rfl; revert h; decide)

theorem toUpper_of_isUpper {c : Char} (h : c.isUpper = true) : c.toUpper = c := by
  simp only [Char.isUpper, Bool.and_eq_true, decide_eq_true_eq] at h
  have h90 : c.val.toNat ≤ 90 := h.2
  unfold Char.toUpper
  rw [if_neg]
  simp only [Char.toNat]
  omega

theorem singleton_suffix_iff {c : Char} {l : List Char} : [c] <:+ l ↔ l.getLast? = some c := by
  rw [List.getLast?_eq_some_iff]
  exact ⟨fun ⟨t, ht⟩ => ⟨t, ht.symm⟩, fun ⟨t, ht⟩ => ⟨t, ht.symm⟩⟩

/-- `_pop_suffix` of a one-letter suffix takes the letter off exactly when it ends the type. -/
theorem popSuffix_letter (l : List Char) {suffix : String} {c : Char} (hs : suffix.data = [c])
    (flag : Bool) (hl : l.getLast? ≠ some c) :
    popSuffix ⟨l ++ (if flag then [c] else [])⟩ suffix = (⟨l⟩, if flag then suffix else "") := by
  unfold popSuffix
  rw [hs]
  cases flag
  · simp [singleton_suffix_iff, hl]
  · simp [singleton_suffix_iff]

theorem dropWhile_of_head {p : Char → Bool} {l : List Char} (h : ∀ c ∈ l.head?, p c = false) :
    l.dropWhile p = l := by
  cases l with
  | nil => rfl
  | cons a l => exact List.dropWhile_cons_of_neg (by simpa using h)

/-- `str.strip()` leaves a string that neither starts nor ends with whitespace. -/
theorem pyStrip_of_ends {l : List Char} (hhead : ∀ c ∈ l.head?, isPySpace c = false)
    (hlast : ∀ c ∈ l.getLast?, isPySpace c = false) : pyStrip ⟨l⟩ = ⟨l⟩ := by
  unfold pyStrip
  rw [dropWhile_of_head hhead, dropWhile_of_head (by simpa [List.head?_reverse] using hlast),
    List.reverse_reverse]

/-- `str.strip()` takes off a final space. -/
theorem pyStrip_append_space {l : List Char} (hl : l ≠ [])
    (hhead : ∀ c ∈ l.head?, isPySpace c = false) (hlast : ∀ c ∈ l.getLast?, isPySpace c = false) :
    pyStrip ⟨l ++ [' ']⟩ = ⟨l⟩ := by
  obtain ⟨a, l', rfl⟩ := List.exists_cons_of_ne_nil hl
  have hhead' : ∀ c ∈ (a :: l' ++ [' ']).head?, isPySpace c = false := by simpa using hhead
  simp only [pyStrip]
  rw [dropWhile_of_head hhead', List.reverse_append]
  simp only [List.reverse_cons, List.reverse_nil, List.nil_append, List.singleton_append,
    List.dropWhile_cons, show isPySpace ' ' = true from rfl, if_true]
  rw [← List.reverse_cons, dropWhile_of_head (by rw [List.head?_reverse]; exact hlast),
    List.reverse_reverse]

section
variable {base : String} (hupper : ∀ c ∈ base.data, c.isUpper = true)
include hupper

/-- `str.replace(" ", "")` of a V2 geometry type, `POINT ZM` for instance. -/
theorem removeSpaces_geometryType (z m : Bool) :
    removeSpaces (base ++ (if z || m then " " else "") ++ (if z then "Z" else "") ++
      (if m then "M" else "")) =
      ⟨base.data ++ (if z then ['Z'] else []) ++ (if m then ['M'] else [])⟩ := by
  have hb : base.data.filter (fun c => !decide (c = ' ')) = base.data :=
    List.filter_eq_self.2 fun c hc => by
    have := isPySpace_of_isUpper (hupper c hc)
    simp only [isPySpace, Bool.or_eq_false_iff] at this
    simpa using this.1.1.1.1.1.1.1.1.1.1.1
  cases z <;> cases m <;> simp [removeSpaces, hb]

end

/-- `str.strip()` leaves a string that starts like `base` and ends like `t`, neither with
whitespace. -/
theorem pyStrip_append_of_ends {base t : String} (hne : base.data ≠ [])
    (hhead : ∀ c ∈ base.data.head?, isPySpace c = false) (htne : t.data ≠ [])
    (hlast : ∀ c ∈ t.data.getLast?, isPySpace c = false) : pyStrip (base ++ t) = base ++ t :=
  pyStrip_of_ends (by rwa [List.head?_append_of_ne_nil _ hne])
    (by rwa [List.getLast?_append_of_ne_nil _ htne])

/-- The reader's `f"{geometry_type} {z}{m}".strip()` spells the V2 geometry type again. -/
theorem pyStrip_geometryType {base : String} (hupper : ∀ c ∈ base.data, c.isUpper = true)
    (hne : base.data ≠ []) (z m : Bool) :
    pyStrip (base ++ " " ++ (if z then "Z" else "") ++ (if m then "M" else "")) =
      base ++ (if z || m then " " else "") ++ (if z then "Z" else "") ++ (if m then "M" else "") := by
  have hhead : ∀ c ∈ base.data.head?, isPySpace c = false :=
    fun c hc => isPySpace_of_isUpper (hupper c (List.mem_of_mem_head? hc))
  cases z <;> cases m <;> simp only [Bool.or_self, Bool.false_eq_true, if_false, if_true,
      String.append_empty, Bool.or_true, Bool.true_or, String.append_assoc]
  · exact pyStrip_append_space hne hhead
      fun c hc => isPySpace_of_isUpper (hupper c (List.mem_of_mem_getLast? hc))
  all_goals exact pyStrip_append_of_ends hne hhead (by decide) (by decide)

/-- The CRS the reader names for the srid the catalog reports: none for no CRS, and the CRS itself
when its id is that srid and its row of `spatial_ref_sys` is identified by its name. -/
theorem geometryCrs_eq {identifierStr : String → String} {crsIdOf : String → Nat}
    {srid : Option Nat} {spatialRefSys : List SpatialRefSys} {crs : Option String}
    (hsrid : srid.getD 0 = (crs.map crsIdOf).getD 0)
    (hcrs : ∀ name ∈ crs, crsIdOf name ≠ 0 ∧ ∃ row,
      spatialRefSys.find? (·.srid = crsIdOf name) = some row ∧ identifierStr row.srtext = name) :
    geometryCrs identifierStr srid spatialRefSys = crs := by
  cases crs with
  | none =>
    rcases srid with _ | _ | srid
    · rfl
    · rfl
    · cases hsrid
  | some name =>
    obtain ⟨hid, row, hrow, rfl⟩ := hcrs name rfl
    rcases srid with _ | srid
    · exact absurd hsrid.symm hid
    · obtain rfl : srid = crsIdOf (identifierStr row.srtext) := hsrid
      simp only [geometryCrs, ne_eq, hid, not_false_eq_true, if_true, hrow, Option.map_some']

/-- A geometry column, `POINT ZM` for instance, reads back with its geometry type and CRS when the
catalog reports the type declared (in any letter case) and the CRS id as its srid;
`_dimension_count` counts its dimensions. -/
theorem pgTypeToV2Type_geometry (identifierStr : String → String) (crsIdOf : String → Nat)
    (spatialRefSys : List SpatialRefSys) (info : PgColInfo) (base : String) (z m : Bool)
    (crs : Option String) (geometryType : String)
    (hgt : geometryType = base ++ (if z || m then " " else "") ++ (if z then "Z" else "") ++
      (if m then "M" else ""))
    (hupper : ∀ c ∈ base.data, c.isUpper = true) (hne : base.data ≠ [])
    (hlast : base.data.getLast? ≠ some 'Z' ∧ base.data.getLast? ≠ some 'M')
    (hname : sqlTypeToV2Type.lookup (pyUpper info.dataType) = none ∧
      pyUpper info.udtName = "GEOMETRY")
    (hgeom : ∃ g, info.geometryType = some g ∧ pyUpper g = removeSpaces geometryType)
    (hsrid : info.geometrySrid.getD 0 = (crs.map crsIdOf).getD 0)
    (hcrs : ∀ name ∈ crs, crsIdOf name ≠ 0 ∧ ∃ row,
      spatialRefSys.find? (·.srid = crsIdOf name) = some row ∧ identifierStr row.srtext = name) :
    pgTypeToV2Type identifierStr info spatialRefSys =
      .ok (some "geometry", { geometryType := some geometryType, geometryCRS := crs }) ∧
    dimensionCount (removeSpaces geometryType) = 2 + z.toNat + m.toNat := by
  obtain ⟨g, hg, hgu⟩ := hgeom
  have hB := hgt ▸ removeSpaces_geometryType hupper z m
  have hlastZ : (base.data ++ if z then ['Z'] else []).getLast? ≠ some 'M' := by
    cases z
    · simpa using hlast.2
    · simp
  have hM := popSuffix_letter _ (show "M".data = ['M'] from rfl) m hlastZ
  have hZ := popSuffix_letter _ (show "Z".data = ['Z'] from rfl) z hlast.1
  have hlook : sqlTypeToV2Type.lookup "GEOMETRY" = some ("geometry", none) := rfl
  refine ⟨?_, ?_⟩
  · unfold pgTypeToV2Type PgColInfo.v2TypeInfo pgTypeToV2GeometryType
    simp only [hname.1, hname.2, hg, hgu, hB, hM, hZ, hlook, show ({ data := base.data } : String) =
      base from rfl, pyStrip_geometryType hupper hne, ← hgt, geometryCrs_eq hsrid hcrs]
    rfl
  · unfold dimensionCount
    rw [hB, hM]
    dsimp only
    rw [hZ]
    cases z <;> cases m <;> rfl

/-- A `POINT Z` column in EPSG:2193, as PostGIS reports it. -/
theorem pgTypeToV2Type_geometry_pointZ :
    let info : PgColInfo := ⟨"geom", "USER-DEFINED", "geometry", none, none, none, none,
      some "PointZ", some 2193⟩
    let srs : List SpatialRefSys := [⟨2193, "PROJCS[NZGD2000]"⟩]
    pgTypeToV2Type (fun _ => "EPSG:2193") info srs =
      .ok (some "geometry", { geometryType := some "POINT Z", geometryCRS := some "EPSG:2193" }) ∧
    dimensionCount (removeSpaces "POINT Z") = 3 := by
  intro info srs
  exact pgTypeToV2Type_geometry (fun _ => "EPSG:2193") (fun _ => 2193) srs info "POINT" true false
    (some "EPSG:2193") "POINT Z" rfl (by decide) (by decide) (by decide) ⟨rfl, rfl⟩
    ⟨"PointZ", rfl, rfl⟩ rfl (fun name hname => by cases hname; exact ⟨by decide, _, rfl, rfl⟩)

end Geometry

end Kart.Adapter.Postgis
