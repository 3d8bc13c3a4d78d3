import Kart.KeyFilters
set_option autoImplicit false

/-!
# What `_parse_user_pattern` reads of a pattern

The grammar of a filter pattern is `<dataset-glob>[:(feature|meta|tile)][:<rest>]`, where the
dataset part keeps to the characters and the rules of a dataset path. `FILTER_PATTERN.match`
reads every pattern of that grammar back into its parts, provided the rest holds no line feed and
does not itself start with a section name. It is not anchored at the end, though, and `.` stops
at a line feed: what follows a section name other than `:`, what follows a line feed, and what
follows a dataset part that ends at a character other than `:` are all dropped without an error.
-/
namespace Kart.KeyFilters

/-- The section names of the alternation `(feature|meta|tile)`. -/
def sectionNames : List String := ["feature", "meta", "tile"]

/-- A dataset part of a pattern: characters of `[^:<>"|?\x00-\x1f]`, not starting or ending with
`/` or `.`, and holding neither `./` nor `/.`. -/
structure DatasetGlob where
  chars : List Char
  ne_nil : chars ≠ []
  chars_valid : ∀ c ∈ chars, isDatasetGlobChar c = true
  head_ok : chars.head? ∉ [some '/', some '.']
  last_ok : chars.getLast? ∉ [some '/', some '.']
  no_dot_slash : ¬ "./".toList <:+: chars
  no_slash_dot : ¬ "/.".toList <:+: chars

/-- A pattern of the grammar: its dataset part, the section it names, and its rest (`some []` for
a trailing `:`). A rest holds no line feed; without a section, it does not start with a section
name, which would make the pattern read as naming one. -/
structure UserPattern where
  glob : DatasetGlob
  subdataset : Option String
  rest : Option (List Char)
  subdataset_mem : ∀ s ∈ subdataset, s ∈ sectionNames
  rest_lf : ∀ r ∈ rest, '\n' ∉ r
  rest_unambiguous : ∀ r ∈ rest, subdataset = none → ∀ name ∈ sectionNames, ¬ name.toList <+: r

namespace UserPattern

/-- The text of the pattern. -/
def render (p : UserPattern) : List Char :=
  p.glob.chars ++ ((p.subdataset.map fun s => ':' :: s.toList).getD [] ++
    (p.rest.map fun r => ':' :: r).getD [])

/-- The parts the grammar gives the pattern: an empty rest is none, and a rest without a section
is a feature's. -/
def parts (p : UserPattern) : String × Option String × Option String :=
  let rest := p.rest.bind fun r => if r = [] then none else some (String.mk r)
  (String.mk p.glob.chars, if p.subdataset = none ∧ rest.isSome then some "feature" else p.subdataset,
    rest)

end UserPattern

theorem takeWhile_datasetGlob (g : DatasetGlob) {x : List Char}
    (hx : ∀ c ∈ x.head?, isDatasetGlobChar c = false) :
    (g.chars ++ x).takeWhile isDatasetGlobChar = g.chars := by
  rw [List.takeWhile_append_of_pos g.chars_valid]
  cases x with
  | nil => simp
  | cons c x => simp [hx c rfl]

theorem filterPatternMatch_datasetGlob_end (g : DatasetGlob) {x : List Char}
    (hx : ∀ c ∈ x.head?, isDatasetGlobChar c = false ∧ c ≠ ':') :
    filterPatternMatch (g.chars ++ x) = some ⟨String.mk g.chars, none, none⟩ := by
  simp only [filterPatternMatch, takeWhile_datasetGlob g fun c hc => (hx c hc).1, g.ne_nil, if_false,
    List.drop_left]
  rcases x with _ | ⟨c, r⟩
  · rfl
  · have := (hx c rfl).2
    split <;> simp_all

theorem filterPatternMatch_datasetGlob_section_rest (g : DatasetGlob) {y r : List Char} {name : String}
    (hy : matchSubdataset y = some (name, ':' :: r)) :
    filterPatternMatch (g.chars ++ ':' :: y) =
      some ⟨String.mk g.chars, some name, some (String.mk (r.takeWhile (· != '\n')))⟩ := by
  simp only [filterPatternMatch, takeWhile_datasetGlob g (x := ':' :: y) (by simp; rfl), g.ne_nil,
    if_false, List.drop_left, hy]

theorem filterPatternMatch_datasetGlob_section (g : DatasetGlob) {y y' : List Char} {name : String}
    (hy : matchSubdataset y = some (name, y')) (hy' : y'.head? ≠ some ':') :
    filterPatternMatch (g.chars ++ ':' :: y) = some ⟨String.mk g.chars, some name, none⟩ := by
  simp only [filterPatternMatch, takeWhile_datasetGlob g (x := ':' :: y) (by simp; rfl), g.ne_nil,
    if_false, List.drop_left, hy]
  split <;> simp_all

theorem filterPatternMatch_datasetGlob_rest (g : DatasetGlob) {y : List Char}
    (hy : matchSubdataset y = none) :
    filterPatternMatch (g.chars ++ ':' :: y) =
      some ⟨String.mk g.chars, none, some (String.mk (y.takeWhile (· != '\n')))⟩ := by
  simp only [filterPatternMatch, takeWhile_datasetGlob g (x := ':' :: y) (by simp; rfl), g.ne_nil,
    if_false, List.drop_left, hy]

theorem matchSubdataset_append {sec : String} (hsec : sec ∈ sectionNames) (t : List Char) :
    matchSubdataset (sec.toList ++ t) = some (sec, t) := by
  simp only [sectionNames, List.mem_cons, List.mem_singleton, List.not_mem_nil, or_false] at hsec
  rcases hsec with rfl | rfl | rfl <;> simp only [matchSubdataset, List.findSome?_cons] <;> simp <;> rfl

theorem matchSubdataset_eq_none {y : List Char} (h : ∀ name ∈ sectionNames, ¬ name.toList <+: y) :
    matchSubdataset y = none := by
  simp only [matchSubdataset, List.findSome?_eq_none_iff]
  exact fun name hname => if_neg fun hpre => h name hname (List.isPrefixOf_iff_prefix.1 hpre)

/-- What `_parse_user_pattern` returns once `FILTER_PATTERN` has matched a valid dataset part. -/
theorem parseUserPattern_of_match (g : DatasetGlob) {s : List Char} {sub rest : Option String}
    (h : filterPatternMatch s = some ⟨String.mk g.chars, sub, rest⟩) :
    parseUserPattern (String.mk s) = .ok (String.mk g.chars,
      if sub.isNone ∧ rest.any (· ≠ "") then some "feature" else sub,
      if rest = some "" then none else rest) := by
  have hvalid : ¬ (g.chars.head? ∈ [some '/', some '.'] ∨ g.chars.getLast? ∈ [some '/', some '.'] ∨
      "./".toList <:+: g.chars ∨ "/.".toList <:+: g.chars) := by
    simp only [not_or]
    exact ⟨g.head_ok, g.last_ok, g.no_dot_slash, g.no_slash_dot⟩
  simp only [parseUserPattern, show (String.mk s).toList = s from rfl, h,
    show (String.mk g.chars).toList = g.chars from rfl]
  rw [if_neg hvalid]
  rfl

theorem prefix_of_prefix_append_lf {n r t : List Char} (hn : '\n' ∉ n) (h : n <+: r ++ '\n' :: t) :
    n <+: r := by
  rcases List.prefix_or_prefix_of_prefix h (List.prefix_append r _) with h' | ⟨x, rfl⟩
  · exact h'
  · cases x with
    | nil => simp
    | cons c x =>
      obtain ⟨rfl, -⟩ := List.cons_prefix_cons.1 ((List.prefix_append_right_inj r).1 h)
      simp at hn

/-- A rest that does not start with a section name does not start with one either once a line
feed and anything else follow it. -/
theorem not_sectionName_prefix_append {r tail : List Char}
    (hr : ∀ name ∈ sectionNames, ¬ name.toList <+: r) (htail : ∀ c ∈ tail.head?, c = '\n') :
    ∀ name ∈ sectionNames, ¬ name.toList <+: r ++ tail := by
  have hlf : ∀ name ∈ sectionNames, '\n' ∉ name.toList := by decide
  intro name hname hpre
  rcases tail with _ | ⟨c, t⟩
  · exact hr name hname (by simpa using hpre)
  · obtain rfl := htail c rfl
    exact hr name hname (prefix_of_prefix_append_lf (hlf name hname) hpre)

/-- `FILTER_PATTERN` reads a pattern of the grammar back into its groups, and so it does when the
pattern goes on with a line feed (after a rest), with anything but `:` (after a section name), or
with anything but `:` and a dataset character (after the dataset part alone). -/
theorem filterPatternMatch_render_append (p : UserPattern) {tail : List Char}
    (htail : ∀ c ∈ tail.head?, if p.rest.isSome then c = '\n'
      else c ≠ ':' ∧ (p.subdataset.isSome ∨ isDatasetGlobChar c = false)) :
    filterPatternMatch (p.render ++ tail) =
      some ⟨String.mk p.glob.chars, p.subdataset, p.rest.map String.mk⟩ := by
  obtain ⟨g, sub, rest, hsub, hlf, hamb⟩ := p
  simp only [UserPattern.render] at htail ⊢
  rcases rest with _ | r
  · simp only [Option.isSome_none, Bool.false_eq_true, if_false, Option.map_none',
      Option.getD_none, List.append_nil] at htail ⊢
    rcases sub with _ | s
    · simpa using filterPatternMatch_datasetGlob_end g fun c hc => by simpa [and_comm] using htail c hc
    · simp only [Option.map_some', Option.getD_some, List.append_assoc, List.cons_append]
      refine filterPatternMatch_datasetGlob_section g (matchSubdataset_append (hsub s rfl) tail) ?_
      intro h
      exact (htail ':' (by simp [h])).1 rfl
  · simp only [Option.isSome_some, if_true] at htail
    have htw : (r ++ tail).takeWhile (· != '\n') = r := by
      rw [List.takeWhile_append_of_pos fun c hc => by simpa using ne_of_mem_of_not_mem hc (hlf r rfl)]
      rcases tail with _ | ⟨c, t⟩
      · simp
      · simp [htail c rfl]
    rcases sub with _ | s
    · simp only [Option.map_none', Option.getD_none, Option.map_some', Option.getD_some,
        List.nil_append, List.append_assoc, List.cons_append]
      rw [filterPatternMatch_datasetGlob_rest g
        (matchSubdataset_eq_none (not_sectionName_prefix_append (hamb r rfl rfl) htail)), htw]
    · simp only [Option.map_some', Option.getD_some, List.append_assoc, List.cons_append]
      rw [filterPatternMatch_datasetGlob_section_rest g (matchSubdataset_append (hsub s rfl) _), htw]

/-- `_parse_user_pattern` of a pattern of the grammar, followed by what `FILTER_PATTERN` does not
read. -/
theorem parseUserPattern_render_append (p : UserPattern) {tail : List Char}
    (htail : ∀ c ∈ tail.head?, if p.rest.isSome then c = '\n'
      else c ≠ ':' ∧ (p.subdataset.isSome ∨ isDatasetGlobChar c = false)) :
    parseUserPattern (String.mk (p.render ++ tail)) = .ok p.parts := by
  rw [parseUserPattern_of_match p.glob (filterPatternMatch_render_append p htail)]
  rcases p with ⟨g, sub, _ | r, -, -, -⟩
  · simp [UserPattern.parts]
  · by_cases hr : r = []
    · subst hr
      simp [UserPattern.parts]
    · simp [UserPattern.parts, hr, String.ext_iff, Option.isNone_iff_eq_none]

/-- Every pattern of the grammar is read back into its parts. -/
theorem parseUserPattern_render (p : UserPattern) :
    parseUserPattern (String.mk p.render) = .ok p.parts := by
  simpa using @parseUserPattern_render_append p [] nofun

/-- The parse does not account for the whole pattern: a line feed ends the rest, a section name
followed by anything but `:` ends the pattern, and so does the dataset part followed by anything
but `:` and a dataset character. What follows is dropped without an error. -/
theorem parseUserPattern_ignores_tail (p : UserPattern) (t : List Char) :
    (p.rest.isSome → parseUserPattern (String.mk (p.render ++ '\n' :: t)) = .ok p.parts) ∧
    (p.rest = none → p.subdataset.isSome → t.head? ≠ some ':' →
      parseUserPattern (String.mk (p.render ++ t)) = .ok p.parts) ∧
    (p.rest = none → (∀ c ∈ t.head?, c ≠ ':' ∧ isDatasetGlobChar c = false) →
      parseUserPattern (String.mk (p.render ++ t)) = .ok p.parts) := by
  refine ⟨fun h => parseUserPattern_render_append p fun c hc => ?_,
    fun h hs ht => parseUserPattern_render_append p fun c hc => ?_,
    fun h ht => parseUserPattern_render_append p fun c hc => ?_⟩
  · rw [if_pos h]
    exact (Option.some.inj hc).symm
  · rw [h, Option.isSome_none, if_neg Bool.false_ne_true]
    exact ⟨fun e => ht (e ▸ hc), .inl hs⟩
  · rw [h, Option.isSome_none, if_neg Bool.false_ne_true]
    exact ⟨(ht c hc).1, .inr (ht c hc).2⟩

/-- `roads:tile42`, a primary key that starts with a section name, reads as every tile of `roads`. -/
theorem parseUserPattern_ignores_tail_roads :
    parseUserPattern "roads:tile42" = .ok ("roads", some "tile", none) :=
  (parseUserPattern_ignores_tail ⟨⟨"roads".toList, by decide, by decide, by decide, by decide, by decide,
    by decide⟩, some "tile", none, by decide, nofun, nofun⟩ "42".toList).2.1 rfl rfl (by decide)

end Kart.KeyFilters
