import Kart.DiffStructs.Dict
import Mathlib.Data.List.Infix

set_option autoImplicit false

/-!
# Key filters

The filters of `key_filters.py`: a `RepoKeyFilter` maps dataset paths (or `*` globs over
them) to a `DatasetKeyFilter`, which maps a section (`feature`, `meta`, `tile`) to a
`UserStringKeyFilter`, a set of item keys. Every level can match everything. Strings are
Python `str`s; item keys are taken in the `str` form `UserStringKeyFilter.__contains__`
compares, and `fnmatch` is the POSIX one, where `os.path.normcase` changes nothing.
-/

namespace Kart.KeyFilters

open Kart.DiffStructs

/-! ## fnmatch -/

/-- One item of the regular expression `fnmatch.translate` builds from a glob. -/
inductive GlobItem
  | star
  | any
  | lit (c : Char)
  | charClass (negate : Bool) (ranges : List (Char × Char))
deriving DecidableEq, Repr

/-- Whether the item matches one character (`.` matches a newline too, under `(?s:...)`). -/
def GlobItem.matchesChar : GlobItem → Char → Bool
  | .star, _ => false
  | .any, _ => true
  | .lit c, d => c == d
  | .charClass negate ranges, d => negate != ranges.any fun r => r.1 ≤ d && d ≤ r.2

/-- The ranges of a bracket expression's body: `a-b` is a range, any other character stands
for itself (the regular expression `fnmatch.translate` writes for the body means this). -/
def classRanges : List Char → List (Char × Char)
  | a :: '-' :: b :: rest => (a, b) :: classRanges rest
  | a :: rest => (a, a) :: classRanges rest
  | [] => []

/-- The scan for the `]` closing a bracket expression whose body starts at `s`: the body and
what follows the `]`, or `none` when there is none (and the `[` is a literal). A leading `!`,
then a leading `]`, belong to the body. -/
def bracketBody (s : List Char) : Option (List Char × List Char) :=
  let n₁ := if s.head? = some '!' then 1 else 0
  let n₂ := n₁ + if s.get? n₁ = some ']' then 1 else 0
  match (s.drop n₂).dropWhile (· != ']') with
  | [] => none
  | _ :: after => some (s.take n₂ ++ (s.drop n₂).takeWhile (· != ']'), after)

/-- The character class of a bracket expression's body; a leading `!` negates it. -/
def bracketItem : List Char → GlobItem
  | '!' :: rest => .charClass true (classRanges rest)
  | body => .charClass false (classRanges body)

/-- `fnmatch.translate`, one character at a time; `fuel` bounds the steps, and the length of
the pattern is enough. Runs of `*`, which it merges into one, are kept: they mean the same. -/
def translateAux : Nat → List Char → List GlobItem
  | 0, _ => []
  | _ + 1, [] => []
  | fuel + 1, c :: s =>
    if c = '*' then .star :: translateAux fuel s
    else if c = '?' then .any :: translateAux fuel s
    else if c = '[' then
      match bracketBody s with
      | none => .lit '[' :: translateAux fuel s
      | some (body, after) => bracketItem body :: translateAux fuel after
    else .lit c :: translateAux fuel s

def translate (pat : List Char) : List GlobItem := translateAux pat.length pat

/-- Whether the items match the whole string (`re.match` against `(?s:...)\Z`). -/
def globMatch : List GlobItem → List Char → Bool
  | [], s => s.isEmpty
  | .star :: p, s => s.tails.any (globMatch p)
  | _ :: _, [] => false
  | i :: p, c :: s => i.matchesChar c && globMatch p s

/-- `fnmatch.fnmatch(name, pat)`. -/
def fnmatch (name pat : String) : Bool := globMatch (translate pat.toList) name.toList

/-! ## The filters -/

/-- A set of item keys. `add_user_pattern` can add `None`, which then matches no key. -/
structure UserStringKeyFilter where
  elems : List (Option String)
  matchAll : Bool
deriving DecidableEq, Repr

namespace UserStringKeyFilter

def empty : UserStringKeyFilter := ⟨[], false⟩

def MATCH_ALL : UserStringKeyFilter := ⟨[], true⟩

def bool (f : UserStringKeyFilter) : Bool := f.matchAll || !f.elems.isEmpty

def contains (f : UserStringKeyFilter) (key : String) : Bool := f.matchAll || some key ∈ f.elems

def add (f : UserStringKeyFilter) (key : Option String) : UserStringKeyFilter :=
  if f.matchAll then f else { f with elems := f.elems.insert key }

end UserStringKeyFilter

/-- The common base of `DatasetKeyFilter` and `RepoKeyFilter`: a `RichDict` that, when it
matches all, seems to hold a match-all child at every key. -/
structure KeyFilterDict (C : Type) where
  dict : PyDict String C
  matchAll : Bool

namespace KeyFilterDict
variable {C : Type}

def bool (f : KeyFilterDict C) : Bool := f.matchAll || !f.dict.items.isEmpty

def contains (f : KeyFilterDict C) (key : String) : Bool := f.matchAll || key ∈ f.dict.keys

def getItem (childThatMatchesAll : C) (f : KeyFilterDict C) (key : String) : Except PyError C :=
  if f.matchAll then pure childThatMatchesAll else f.dict.getItem key

def setItem (f : KeyFilterDict C) (key : String) (value : C) : KeyFilterDict C :=
  if f.matchAll then f else { f with dict := f.dict.setItem key value }

end KeyFilterDict

abbrev DatasetKeyFilter := KeyFilterDict UserStringKeyFilter

namespace DatasetKeyFilter

def empty : DatasetKeyFilter := ⟨PyDict.empty, false⟩

def MATCH_ALL : DatasetKeyFilter := ⟨PyDict.empty, true⟩

def childThatMatchesAll : UserStringKeyFilter := ⟨[], true⟩

def getItem (f : DatasetKeyFilter) (key : String) : Except PyError UserStringKeyFilter :=
  KeyFilterDict.getItem childThatMatchesAll f key

end DatasetKeyFilter

/-- A `RepoKeyFilter`. `_dataset_glob_filters` maps each escaped glob to the very object
`self.data` holds at that key, so it is kept as its list of keys, all keys of `dict`. -/
structure RepoKeyFilter extends KeyFilterDict DatasetKeyFilter where
  datasetGlobFilters : List String
  globs_mem : ∀ g ∈ datasetGlobFilters, g ∈ dict.keys

/-! ## Parsing user patterns -/

/-- `[^:<>"|?\x00-\x1f]`: a character of the dataset part of a pattern. -/
def isDatasetGlobChar (c : Char) : Bool :=
  c ∉ [':', '<', '>', Char.ofNat 34, '|', '?'] && 0x1f < c.toNat

/-- The groups of a match of `FILTER_PATTERN`. -/
structure FilterPatternMatch where
  datasetGlob : String
  subdataset : Option String
  rest : Option String
deriving DecidableEq, Repr

/-- The alternation `(feature|meta|tile)` at the start of `s`, and what follows it. -/
def matchSubdataset (s : List Char) : Option (String × List Char) :=
  ["feature", "meta", "tile"].findSome? fun name =>
    if name.toList.isPrefixOf s then some (name, s.drop name.length) else none

/-- `FILTER_PATTERN.match`: the dataset part is the longest run of its characters, then each
optional group is taken when it matches; `.` of the last group stops at a newline, and the
match need not reach the end of the string. -/
def filterPatternMatch (s : List Char) : Option FilterPatternMatch :=
  let glob := s.takeWhile isDatasetGlobChar
  if glob = [] then none else
  let afterGlob := s.drop glob.length
  let (subdataset, afterSub) : Option String × List Char :=
    match afterGlob with
    | ':' :: r =>
      match matchSubdataset r with
      | some (name, r') => (some name, r')
      | none => (none, afterGlob)
    | _ => (none, afterGlob)
  let rest := match afterSub with
    | ':' :: r => some (String.mk (r.takeWhile (· != '\n')))
    | _ => none
  some ⟨String.mk glob, subdataset, rest⟩

/-- Python's `repr` of a string, for ASCII text (other characters are kept as they are). -/
def pyRepr (s : String) : String :=
  let apostrophe := Char.ofNat 39
  let quote := if apostrophe ∈ s.toList ∧ Char.ofNat 34 ∉ s.toList then Char.ofNat 34 else apostrophe
  let hex (n : Nat) : List Char := (if n < 16 then ['0'] else []) ++ Nat.toDigits 16 n
  let escape (c : Char) : List Char :=
    if c = quote ∨ c = '\\' then ['\\', c]
    else if c = '\n' then ['\\', 'n']
    else if c = '\r' then ['\\', 'r']
    else if c = '\t' then ['\\', 't']
    else if c.toNat < 0x20 ∨ c.toNat = 0x7f then '\\' :: 'x' :: hex c.toNat
    else [c]
  String.mk (quote :: s.toList.flatMap escape ++ [quote])

def badPattern (userPattern : String) : PyError :=
  .usageError ("Invalid filter format, should be '<dataset>' or '<dataset>:<primary_key>': got " ++
    pyRepr userPattern)

/-- `_parse_user_pattern`: the dataset glob, the section and the rest of a pattern. -/
def parseUserPattern (userPattern : String) :
    Except PyError (String × Option String × Option String) := do
  let some m := filterPatternMatch userPattern.toList | throw (badPattern userPattern)
  let g := m.datasetGlob.toList
  if g.head? ∈ [some '/', some '.'] ∨ g.getLast? ∈ [some '/', some '.'] ∨
      "./".toList <:+: g ∨ "/.".toList <:+: g then
    throw (badPattern userPattern)
  let subdataset :=
    if m.subdataset.isNone ∧ m.rest.any (· ≠ "") then some "feature" else m.subdataset
  pure (m.datasetGlob, subdataset, if m.rest = some "" then none else m.rest)

/-! ## RepoKeyFilter -/

namespace RepoKeyFilter

def empty : RepoKeyFilter := ⟨⟨PyDict.empty, false⟩, [], by simp⟩

def MATCH_ALL : RepoKeyFilter := ⟨⟨PyDict.empty, true⟩, [], by simp⟩

def childThatMatchesAll : DatasetKeyFilter := ⟨PyDict.empty, true⟩

def datasetGlobPatternMatchingKey (F : RepoKeyFilter) (key : String) : Option String :=
  F.datasetGlobFilters.find? (fnmatch key)

def contains (F : RepoKeyFilter) (key : String) : Bool :=
  F.toKeyFilterDict.contains key || (F.datasetGlobPatternMatchingKey key).isSome

/-- `self[key]`, with the key of `self.data` the returned object sits at (`none` for the
match-all child), which `add_user_pattern` changes in place. -/
def lookup (F : RepoKeyFilter) (key : String) : Except PyError (Option String × DatasetKeyFilter) :=
  if F.matchAll then pure (none, childThatMatchesAll) else
  match F.dict.get key with
  | some v => pure (some key, v)
  | none =>
    match F.datasetGlobPatternMatchingKey key with
    | none => throw (.keyError key)
    | some g => (some g, ·) <$> F.dict.getItem g

def getItem (F : RepoKeyFilter) (key : String) : Except PyError DatasetKeyFilter :=
  Prod.snd <$> F.lookup key

def get (F : RepoKeyFilter) (key : String) : Option DatasetKeyFilter :=
  match F.getItem key with
  | .ok v => some v
  | .error _ => none

/-- The escaping `__setitem__` applies to a glob: each of `?`, `[`, `]` in turn is replaced
everywhere by itself in brackets (`str.replace`). -/
def escapeGlob (key : String) : String :=
  String.mk (['?', '[', ']'].foldl
    (fun s c => s.flatMap fun d => if d = c then ['[', c, ']'] else [d]) key.toList)

private theorem mem_keys_setItem_of {d : PyDict String DatasetKeyFilter} {k : String}
    {v : DatasetKeyFilter} {gs : List String} (h : ∀ g ∈ gs, g ∈ d.keys) :
    ∀ g ∈ gs, g ∈ (d.setItem k v).keys :=
  fun g hg => PyDict.mem_keys_setItem.2 (.inr (h g hg))

def setItem (F : RepoKeyFilter) (key : String) (value : DatasetKeyFilter) : RepoKeyFilter :=
  if F.matchAll then F
  else if '*' ∈ key.toList then
    let k := escapeGlob key
    -- a dict keeps a key already set where it is, and appends a new one
    ⟨⟨F.dict.setItem k value, F.matchAll⟩,
      if k ∈ F.datasetGlobFilters then F.datasetGlobFilters else F.datasetGlobFilters ++ [k], by
      intro g hg
      split at hg
      · exact mem_keys_setItem_of F.globs_mem g hg
      · rcases List.mem_append.1 hg with hg | hg
        · exact mem_keys_setItem_of F.globs_mem g hg
        · exact PyDict.mem_keys_setItem.2 (.inl (List.mem_singleton.1 hg))⟩
  else ⟨⟨F.dict.setItem key value, F.matchAll⟩, F.datasetGlobFilters, mem_keys_setItem_of F.globs_mem⟩

/-- The object `self.data` holds at `loc`, changed in place to `value`. -/
def modify (F : RepoKeyFilter) (loc : String) (value : DatasetKeyFilter) : RepoKeyFilter :=
  ⟨⟨F.dict.setItem loc value, F.matchAll⟩, F.datasetGlobFilters, mem_keys_setItem_of F.globs_mem⟩

def addUserPattern (F : RepoKeyFilter) (userPattern : String) : Except PyError RepoKeyFilter := do
  let (datasetGlob, subdataset, rest) ← parseUserPattern userPattern
  let some sub := subdataset | pure (F.setItem datasetGlob DatasetKeyFilter.MATCH_ALL)
  -- a new filter for the dataset; `ds_filter[subdataset].add(rest)` then changes its child
  let child := if rest.isSome then UserStringKeyFilter.empty else UserStringKeyFilter.MATCH_ALL
  let created := F.setItem datasetGlob (DatasetKeyFilter.empty.setItem sub (child.add rest))
  match F.lookup datasetGlob with
  | .ok (loc, dsFilter) =>
    if dsFilter.bool then
      let child ← dsFilter.getItem sub
      let dsFilter := dsFilter.setItem sub (child.add rest)
      pure (match loc with
        | some l => F.modify l dsFilter
        | none => F)
    else pure created
  | .error _ => pure created

def buildFromUserPatterns (userPatterns : List String) : Except PyError RepoKeyFilter := do
  let result ← userPatterns.foldlM addUserPattern empty
  pure (if result.bool then result else MATCH_ALL)

/-- A pattern naming a second section of a dataset that a first pattern filtered by section
raises: `ds_filter[subdataset]` looks up a section the existing filter does not have. -/
theorem buildFromUserPatterns_second_section :
    buildFromUserPatterns ["ds:feature:1", "ds:meta:title"] = .error (.keyError "meta") := by
  rfl

/-- A filter matching everything in the given datasets. -/
def datasets (datasetPaths : List String) : RepoKeyFilter :=
  datasetPaths.foldl (fun result p => result.setItem p DatasetKeyFilter.MATCH_ALL) empty

/-- `filter_keys`, on sets given as lists. `keys & self.keys()` is `KeysView.__rand__`, which keeps
the keys `k in self` holds, so it already asks `__contains__`; then those a glob matches. -/
def filterKeys (F : RepoKeyFilter) (keys : List String) : List String :=
  let matched := keys.filter F.contains
  matched ++ (keys.filter (· ∉ matched)).filter fun k => (F.datasetGlobPatternMatchingKey k).isSome

/-- Whether the filter matches an item: `p in F`, `s in F[p]` and `k in F[p][s]`. -/
def matchesItem (F : RepoKeyFilter) (p s k : String) : Bool :=
  F.contains p &&
    match F.getItem p with
    | .ok ds => ds.contains s && match ds.getItem s with
      | .ok u => u.contains k
      | .error _ => false
    | .error _ => false

end RepoKeyFilter

/-- A filter matching what its delegate does not. -/
structure NegateKeyFilter where
  delegate : RepoKeyFilter

def NegateKeyFilter.contains (f : NegateKeyFilter) (key : String) : Bool := !f.delegate.contains key

def RepoKeyFilter.excludeDatasets (datasetPaths : List String) : NegateKeyFilter :=
  ⟨RepoKeyFilter.datasets datasetPaths⟩

/-- Which parts of a delta to keep: `--`, `-`, `+`, `++`. -/
structure DeltaFilter where
  elems : List String
  matchAll : Bool
deriving DecidableEq, Repr

def DeltaFilter.contains (f : DeltaFilter) (key : String) : Bool := f.matchAll || key ∈ f.elems

def DeltaFilter.MATCH_ALL : DeltaFilter := ⟨[], true⟩

end Kart.KeyFilters
