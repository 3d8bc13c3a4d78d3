import Kart.DiffStructs.Diff
set_option autoImplicit false

/-!
# Consuming a `LazyDeltaDiff`

`LazyDeltaDiff(xs)` peeks at the first delta of its iterator to know whether it is empty, and
chains it back. The iterator is consumed once: by `resolve()`, or by the first generator returned
by `items()` to be advanced. A generator runs `_check_not_consumed` when it is first advanced, not
when `items()` returns it, and all generators share the object's iterator.

A session is the object with the generators its `items()` calls have returned; it runs over any
sequence of calls to `__bool__`, `resolve()`, `items()` and `next()` on a generator. Over every
run, the object is truthy exactly when `xs` is non-empty; the first consumer sees all of `xs`, in
order; and after it, every `resolve()` and the first `next()` of every other generator raise
`RuntimeError`.
-/
namespace Kart.DiffStructs
namespace LazyDeltaDiff

variable {K V : Type} [DecidableEq K]

/-- Where a generator returned by `items()` is: not yet advanced, suspended in its `for` loop, or
finished (it returned, or raised). -/
inductive GenState
  | created | running | finished
deriving DecidableEq, Repr

/-- A `LazyDeltaDiff` and the generators its `items()` calls have returned, in order. The
generators share the object's iterator: `lazy.wrappedIter` is what is left of it. -/
structure Session (K V : Type) where
  lazy : LazyDeltaDiff K V
  gens : List GenState

/-- A call on the object, or `next()` on the `i`-th generator it returned. -/
inductive Event
  | bool | resolve | items | next (i : Nat)
deriving DecidableEq, Repr

/-- What a call returns or raises. -/
inductive Output (K V : Type)
  | bool (b : Bool)
  | resolved (r : Except PyError (DeltaDiff K V))
  | generator
  | item (key : K) (delta : Delta K V)
  | stop
  | raised (e : PyError)

/-- The `RuntimeError` of `_check_not_consumed`. -/
def alreadyConsumed : PyError := .runtimeError "LazyDeltaDiff has already been consumed"

namespace Session

def start (xs : List (Delta K V)) : Session K V := ⟨init xs, []⟩

/-- One turn of `for delta in self._wrapped_iter: yield (delta.key, delta)` in generator `i`. -/
def pull (s : Session K V) (i : Nat) : Output K V × Session K V :=
  match s.lazy.wrappedIter with
  | [] => (.stop, { s with gens := s.gens.set i .finished })
  | d :: rest => (.item d.key d, { s with lazy := { s.lazy with wrappedIter := rest } })

/-- One call. `resolve()` exhausts the iterator into a `DeltaDiff`; `next()` on a generator that
does not exist stands for no call. -/
def step (s : Session K V) : Event → Output K V × Session K V
  | .bool => (.bool s.lazy.bool, s)
  | .resolve =>
    match s.lazy.resolve with
    | .ok d => (.resolved (.ok d), { s with lazy := { s.lazy with wrappedIter := [], consumed := true } })
    | .error e => (.resolved (.error e), s)
  | .items => (.generator, { s with gens := s.gens ++ [.created] })
  | .next i =>
    match s.gens[i]? with
    | some .created =>
      if s.lazy.consumed then (.raised alreadyConsumed, { s with gens := s.gens.set i .finished })
      else pull ⟨{ s.lazy with consumed := true }, s.gens.set i .running⟩ i
    | some .running => pull s i
    | some .finished | none => (.stop, s)

/-- The calls of a run, each with what it returned, and the session the run leaves. -/
def run (s : Session K V) : List Event → List (Event × Output K V) × Session K V
  | [] => ([], s)
  | e :: es => ((e, (s.step e).1) :: (run (s.step e).2 es).1, (run (s.step e).2 es).2)

/-- What the calls of `next()` on generator `g` returned, in order. -/
def nextOutputs (g : Nat) (t : List (Event × Output K V)) : List (Output K V) :=
  t.filterMap fun p => if p.1 = .next g then some p.2 else none

theorem run_append (s : Session K V) (a b : List Event) :
    (run s (a ++ b)).2 = (run (run s a).2 b).2 := by
  induction a generalizing s with
  | nil => rfl
  | cons e a ih => exact ih _

omit [DecidableEq K] in
theorem nextOutputs_cons (g : Nat) (e : Event) (o : Output K V) (t : List (Event × Output K V)) :
    nextOutputs g ((e, o) :: t) = if e = .next g then o :: nextOutputs g t else nextOutputs g t := by
  by_cases h : e = .next g <;> simp [nextOutputs, h]

/-! ### What one call does -/

omit [DecidableEq K] in
theorem pull_nil {s : Session K V} (i : Nat) (h : s.lazy.wrappedIter = []) :
    s.pull i = (.stop, { s with gens := s.gens.set i .finished }) := by
  simp [pull, h]

omit [DecidableEq K] in
theorem pull_cons {s : Session K V} (i : Nat) {d : Delta K V} {rest : List (Delta K V)}
    (h : s.lazy.wrappedIter = d :: rest) :
    s.pull i = (.item d.key d, { s with lazy := { s.lazy with wrappedIter := rest } }) := by
  simp [pull, h]

theorem step_resolve_of_consumed {s : Session K V} (h : s.lazy.consumed = true) :
    s.step .resolve = (.resolved (.error alreadyConsumed), s) := by
  simp [step, resolve, h, alreadyConsumed]

theorem step_next_created {s : Session K V} {i : Nat} (hi : s.gens[i]? = some .created) :
    s.step (.next i) = if s.lazy.consumed then (.raised alreadyConsumed, { s with gens := s.gens.set i .finished })
      else pull ⟨{ s.lazy with consumed := true }, s.gens.set i .running⟩ i := by
  simp only [step, hi]

theorem step_next_running {s : Session K V} {i : Nat} (hi : s.gens[i]? = some .running) :
    s.step (.next i) = s.pull i := by
  simp only [step, hi]

theorem step_next_of_ne {s : Session K V} {i : Nat} (hi : s.gens[i]? ≠ some .created)
    (hr : s.gens[i]? ≠ some .running) : s.step (.next i) = (.stop, s) := by
  match h : s.gens[i]? with
  | some .created | some .running => simp_all
  | some .finished | none => simp only [step, h]

omit [DecidableEq K] in
theorem bool_pull (s : Session K V) (i : Nat) : (s.pull i).2.lazy.bool = s.lazy.bool := by
  cases h : s.lazy.wrappedIter
  · rw [pull_nil i h]
  · rw [pull_cons i h]

omit [DecidableEq K] in
theorem consumed_pull (s : Session K V) (i : Nat) : (s.pull i).2.lazy.consumed = s.lazy.consumed := by
  cases h : s.lazy.wrappedIter
  · rw [pull_nil i h]
  · rw [pull_cons i h]

/-- Every call, by cases on the event and on the state of the generator it advances. -/
theorem step_cases (s : Session K V) (e : Event) :
    (e = .bool ∧ s.step e = (.bool s.lazy.bool, s)) ∨
    (e = .resolve ∧ s.lazy.consumed = true ∧ s.step e = (.resolved (.error alreadyConsumed), s)) ∨
    (e = .resolve ∧ s.lazy.consumed = false ∧ s.step e = (.resolved (.ok (DeltaDiff.ofDeltas s.lazy.wrappedIter)),
      { s with lazy := { s.lazy with wrappedIter := [], consumed := true } })) ∨
    (e = .items ∧ s.step e = (.generator, { s with gens := s.gens ++ [.created] })) ∨
    (∃ i, e = .next i ∧ s.gens[i]? = some .created ∧ s.lazy.consumed = true ∧
      s.step e = (.raised alreadyConsumed, { s with gens := s.gens.set i .finished })) ∨
    (∃ i, e = .next i ∧ s.gens[i]? = some .created ∧ s.lazy.consumed = false ∧
      s.step e = pull ⟨{ s.lazy with consumed := true }, s.gens.set i .running⟩ i) ∨
    (∃ i, e = .next i ∧ s.gens[i]? = some .running ∧ s.step e = s.pull i) ∨
    (∃ i, e = .next i ∧ s.gens[i]? ≠ some .created ∧ s.gens[i]? ≠ some .running ∧ s.step e = (.stop, s)) := by
  cases e with
  | bool => exact .inl ⟨rfl, rfl⟩
  | resolve =>
    cases h : s.lazy.consumed
    · exact .inr (.inr (.inl ⟨rfl, rfl, by simp [step, resolve, h]⟩))
    · exact .inr (.inl ⟨rfl, rfl, step_resolve_of_consumed h⟩)
  | items => exact .inr (.inr (.inr (.inl ⟨rfl, rfl⟩)))
  | next i =>
    refine .inr (.inr (.inr (.inr ?_)))
    by_cases hc : s.gens[i]? = some .created
    · rw [step_next_created hc]
      cases h : s.lazy.consumed
      · exact .inr (.inl ⟨i, rfl, hc, rfl, rfl⟩)
      · exact .inl ⟨i, rfl, hc, rfl, rfl⟩
    · by_cases hr : s.gens[i]? = some .running
      · exact .inr (.inr (.inl ⟨i, rfl, hr, step_next_running hr⟩))
      · exact .inr (.inr (.inr ⟨i, rfl, hc, hr, step_next_of_ne hc hr⟩))

theorem bool_step (s : Session K V) (e : Event) : (s.step e).2.lazy.bool = s.lazy.bool := by
  rcases step_cases s e with ⟨-, h⟩ | ⟨-, -, h⟩ | ⟨-, -, h⟩ | ⟨-, h⟩ | ⟨i, -, -, -, h⟩ | ⟨i, -, -, -, h⟩ |
    ⟨i, -, -, h⟩ | ⟨i, -, -, -, h⟩ <;> rw [h] <;> first | rfl | exact bool_pull _ _

theorem consumed_step {s : Session K V} (hc : s.lazy.consumed = true) (e : Event) :
    (s.step e).2.lazy.consumed = true := by
  rcases step_cases s e with ⟨-, h⟩ | ⟨-, -, h⟩ | ⟨-, h', -⟩ | ⟨-, h⟩ | ⟨i, -, -, -, h⟩ | ⟨i, -, -, h', -⟩ |
    ⟨i, -, -, h⟩ | ⟨i, -, -, -, h⟩
  all_goals first
    | exact nomatch hc.symm.trans h'
    | (rw [h]; first | exact hc | rwa [consumed_pull])

theorem consumed_run {s : Session K V} (h : s.lazy.consumed = true) (evs : List Event) :
    (run s evs).2.lazy.consumed = true := by
  induction evs generalizing s with
  | nil => exact h
  | cons e es ih => exact ih (consumed_step h e)

/-! ### Before the first consumer -/

/-- Nothing consumed yet: the object as its constructor left it, and no generator advanced. -/
def Fresh (xs : List (Delta K V)) (s : Session K V) : Prop :=
  s.lazy = init xs ∧ ∀ g ∈ s.gens, g = .created

theorem fresh_step {xs : List (Delta K V)} {s : Session K V} (hs : Fresh xs s) (e : Event)
    (h : (s.step e).2.lazy.consumed = false) : Fresh xs (s.step e).2 := by
  obtain ⟨hl, hg⟩ := hs
  rcases step_cases s e with ⟨-, he⟩ | ⟨-, -, he⟩ | ⟨-, -, he⟩ | ⟨-, he⟩ | ⟨i, -, -, hc, -⟩ |
    ⟨i, -, -, -, he⟩ | ⟨i, -, hi, -⟩ | ⟨i, -, -, -, he⟩
  · rw [he]; exact ⟨hl, hg⟩
  · rw [he]; exact ⟨hl, hg⟩
  · rw [he] at h; exact nomatch h
  · rw [he]
    refine ⟨hl, fun g hg' => ?_⟩
    rcases List.mem_append.1 hg' with h' | h'
    · exact hg g h'
    · simpa using h'
  · simp [hl, init] at hc
  · rw [he, consumed_pull] at h; exact nomatch h
  · cases hg _ (List.getElem?_mem hi)
  · rw [he]; exact ⟨hl, hg⟩

theorem fresh_run {xs : List (Delta K V)} {s : Session K V} (hs : Fresh xs s) (evs : List Event)
    (h : (run s evs).2.lazy.consumed = false) : Fresh xs (run s evs).2 := by
  induction evs generalizing s with
  | nil => exact hs
  | cons e es ih =>
    have he : (s.step e).2.lazy.consumed = false := by
      cases hc : (s.step e).2.lazy.consumed
      · rfl
      · exact nomatch (consumed_run hc es).symm.trans h
    exact ih (fresh_step hs e he) h

/-! ### The consumer, and every other generator -/

/-- Generator `g` consumes the iterator: it has been advanced, and no other generator is
suspended. -/
def Owner (g : Nat) (s : Session K V) : Prop :=
  s.lazy.consumed = true ∧ s.gens[g]? = some .running ∧ ∀ j, s.gens[j]? = some .running → j = g

theorem getElem?_set_finished_running {l : List GenState} {i j : Nat}
    (h : (l.set i .finished)[j]? = some .running) : l[j]? = some .running := by
  rw [List.getElem?_set'] at h
  split at h
  · cases h' : l[j]? <;> simp [h'] at h
  · exact h

theorem getElem?_append_created_running {l : List GenState} {j : Nat}
    (h : (l ++ [.created])[j]? = some .running) : l[j]? = some .running := by
  by_cases hj : j < l.length
  · rwa [List.getElem?_append_left hj] at h
  · rw [List.getElem?_append_right (Nat.le_of_not_lt hj)] at h
    rcases Nat.lt_or_ge (j - l.length) 1 with h1 | h1
    · simp [Nat.lt_one_iff.1 h1] at h
    · rw [List.getElem?_eq_none (show [GenState.created].length ≤ j - l.length from h1)] at h
      exact nomatch h

/-- A call other than `next()` on the consumer leaves the iterator to it. -/
theorem owner_step {g : Nat} {s : Session K V} (hs : Owner g s) (e : Event) (he : e ≠ .next g) :
    (s.step e).2.lazy.wrappedIter = s.lazy.wrappedIter ∧ Owner g (s.step e).2 := by
  obtain ⟨hc, hg, hj⟩ := hs
  have hlt : g < s.gens.length := (List.getElem?_eq_some_iff.1 hg).1
  rcases step_cases s e with ⟨-, h⟩ | ⟨-, -, h⟩ | ⟨-, h', -⟩ | ⟨-, h⟩ | ⟨i, rfl, -, -, h⟩ | ⟨i, -, -, h', -⟩ |
    ⟨i, rfl, hi, -⟩ | ⟨i, -, -, -, h⟩
  · rw [h]; exact ⟨rfl, hc, hg, hj⟩
  · rw [h]; exact ⟨rfl, hc, hg, hj⟩
  · exact nomatch hc.symm.trans h'
  · rw [h]
    exact ⟨rfl, hc, by simpa [List.getElem?_append_left hlt] using hg,
      fun j h => hj j (getElem?_append_created_running h)⟩
  · have hi : i ≠ g := fun e => he (e ▸ rfl)
    rw [h]
    exact ⟨rfl, hc, by rwa [List.getElem?_set_ne hi], fun j h => hj j (getElem?_set_finished_running h)⟩
  · exact nomatch hc.symm.trans h'
  · exact absurd (hj i hi) (fun e => he (e ▸ rfl))
  · rw [h]; exact ⟨rfl, hc, hg, hj⟩

theorem finished_step {g : Nat} {s : Session K V} (hg : s.gens[g]? = some .finished) (e : Event) :
    (s.step e).2.gens[g]? = some .finished ∧ (e = .next g → (s.step e).1 = .stop) := by
  have hlt : g < s.gens.length := (List.getElem?_eq_some_iff.1 hg).1
  have hpull : ∀ (s' : Session K V) i, i ≠ g → s'.gens[g]? = some .finished →
      (s'.pull i).2.gens[g]? = some .finished := fun s' i hi h => by
    cases hw : s'.lazy.wrappedIter
    · simpa [pull_nil _ hw, List.getElem?_set_ne hi] using h
    · simpa [pull_cons _ hw] using h
  rcases step_cases s e with ⟨rfl, h⟩ | ⟨rfl, -, h⟩ | ⟨rfl, -, h⟩ | ⟨rfl, h⟩ | ⟨i, rfl, hi, -, h⟩ |
    ⟨i, rfl, hi, -, h⟩ | ⟨i, rfl, hi, h⟩ | ⟨i, rfl, -, -, h⟩ <;> rw [h]
  · exact ⟨hg, nofun⟩
  · exact ⟨hg, nofun⟩
  · exact ⟨hg, nofun⟩
  · exact ⟨by simpa [List.getElem?_append_left hlt] using hg, nofun⟩
  all_goals first
    | exact ⟨hg, fun _ => rfl⟩
    | (have hig : i ≠ g := fun e => by subst e; simp_all
       refine ⟨?_, fun e => absurd (Event.next.inj e) hig⟩
       first
        | simpa [List.getElem?_set_ne hig] using hg
        | exact hpull _ _ hig (by simpa [List.getElem?_set_ne hig] using hg))

theorem replicate_prefix_succ {α : Type} (n : Nat) (a : α) :
    List.replicate n a <+: List.replicate (n + 1) a :=
  ⟨[a], List.replicate_succ' n a |>.symm⟩

/-- A finished generator only stops. -/
theorem nextOutputs_finished {g : Nat} {s : Session K V} (hg : s.gens[g]? = some .finished)
    (evs : List Event) : nextOutputs g (run s evs).1 <+: List.replicate evs.length .stop := by
  induction evs generalizing s with
  | nil => exact List.nil_prefix
  | cons e es ih =>
    obtain ⟨hg', ho⟩ := finished_step hg e
    simp only [run, nextOutputs_cons, List.length_cons]
    split
    · rename_i he
      rw [ho he, List.replicate_succ, List.prefix_cons_inj]
      exact ih hg'
    · exact (ih hg').trans (replicate_prefix_succ _ _)

/-- The consumer yields what is left of the iterator, in order, and then stops, whatever calls
come in between. -/
theorem nextOutputs_owner {g : Nat} {s : Session K V} (hs : Owner g s) (evs : List Event) :
    nextOutputs g (run s evs).1 <+:
      s.lazy.wrappedIter.map (fun d => Output.item d.key d) ++ List.replicate evs.length .stop := by
  induction evs generalizing s with
  | nil => exact List.nil_prefix
  | cons e es ih =>
    simp only [run, nextOutputs_cons, List.length_cons]
    split
    · rename_i he
      subst he
      rw [step_next_running hs.2.1]
      cases hw : s.lazy.wrappedIter with
      | nil =>
        rw [pull_nil _ hw, List.map_nil, List.nil_append, List.replicate_succ, List.prefix_cons_inj]
        exact nextOutputs_finished
          (List.getElem?_set_self (List.getElem?_eq_some_iff.1 hs.2.1).1) es
      | cons d rest =>
        rw [pull_cons _ hw, List.map_cons, List.cons_append, List.prefix_cons_inj]
        exact (ih (s := { s with lazy := { s.lazy with wrappedIter := rest } }) ⟨hs.1, hs.2.1, hs.2.2⟩).trans
          ((List.prefix_append_right_inj _).2 (replicate_prefix_succ _ _))
    · rename_i he
      obtain ⟨hw, hs'⟩ := owner_step hs e he
      refine (ih hs').trans ?_
      rw [hw]
      exact (List.prefix_append_right_inj _).2 (replicate_prefix_succ _ _)

theorem bool_run (s : Session K V) (evs : List Event) : (run s evs).2.lazy.bool = s.lazy.bool := by
  induction evs generalizing s with
  | nil => rfl
  | cons e es ih => exact (ih _).trans (bool_step s e)

theorem run_cons_congr {s s' : Session K V} {e : Event} (h : s.step e = s'.step e) (es : List Event) :
    run s (e :: es) = run s' (e :: es) := by
  simp only [run, h]

/-- `LazyDeltaDiff(xs)` over every run of calls. It is truthy exactly when `xs` is non-empty. A
`resolve()` before anything is consumed returns `DeltaDiff(xs)`. The first generator to be
advanced yields `(d.key, d)` for each `d` of `xs`, in order, and then stops, whatever calls come in
between. Once the iterator is consumed, every `resolve()` and the first `next()` of every generator
not yet advanced raise `RuntimeError`. -/
theorem consumed_once (xs : List (Delta K V)) :
    (∀ evs, (run (start xs) evs).2.lazy.bool = !xs.isEmpty) ∧
    (∀ pre, (run (start xs) pre).2.lazy.consumed = false →
      ((run (start xs) pre).2.step .resolve).1 = .resolved (.ok (DeltaDiff.ofDeltas xs))) ∧
    (∀ pre g post, (run (start xs) pre).2.lazy.consumed = false →
      g < (run (start xs) pre).2.gens.length →
      nextOutputs g (run (run (start xs) pre).2 (.next g :: post)).1 <+:
        xs.map (fun d => Output.item d.key d) ++ List.replicate (post.length + 1) .stop) ∧
    (∀ pre mid, (run (start xs) pre).2.lazy.consumed = true →
      ((run (start xs) (pre ++ mid)).2.step .resolve).1 = .resolved (.error alreadyConsumed) ∧
      ∀ j, (run (start xs) (pre ++ mid)).2.gens[j]? = some .created →
        ((run (start xs) (pre ++ mid)).2.step (.next j)).1 = .raised alreadyConsumed) := by
  have hstart : Fresh xs (start xs) := ⟨rfl, nofun⟩
  refine ⟨fun evs => bool_run _ evs, fun pre h => ?_, fun pre g post h hg => ?_, fun pre mid h => ?_⟩
  · obtain ⟨hl, -⟩ := fresh_run hstart pre h
    simp [step, hl, resolve, init]
  · obtain ⟨hl, hgs⟩ := fresh_run hstart pre h
    set s := (run (start xs) pre).2
    have hc : s.gens[g]? = some .created := by
      rw [List.getElem?_eq_getElem hg, hgs _ (List.getElem_mem hg)]
    let s₁ : Session K V := ⟨{ s.lazy with consumed := true }, s.gens.set g .running⟩
    have hrun : s₁.gens[g]? = some .running := List.getElem?_set_self hg
    have howner : Owner g s₁ := ⟨rfl, hrun, fun j hj => by
      by_contra hne
      rw [List.getElem?_set_ne (Ne.symm hne), List.getElem?_eq_some_iff] at hj
      obtain ⟨hj', hj⟩ := hj
      exact nomatch (hgs _ (List.getElem_mem hj')).symm.trans hj⟩
    have hstep : s.step (.next g) = s₁.step (.next g) := by
      rw [step_next_created hc, step_next_running hrun, if_neg (by simp [hl, init])]
    rw [run_cons_congr hstep]
    simpa [s₁, hl, init] using nextOutputs_owner howner (.next g :: post)
  · have hc := consumed_run h mid
    rw [← run_append] at hc
    refine ⟨by rw [step_resolve_of_consumed hc], fun j hj => ?_⟩
    rw [step_next_created hj, if_pos hc]

/-- Two deltas: after `items()`, the generator yields both and then stops, with a failed
`resolve()` in between. -/
theorem consumed_once_items :
    let xs : List (Delta Nat Nat) := [.insert ⟨1, 5⟩, .insert ⟨2, 6⟩]
    ((run (start xs) [.items]).2.lazy.consumed = false ∧ 0 < (run (start xs) [.items]).2.gens.length) ∧
    nextOutputs 0 (run (run (start xs) [.items]).2 [.next 0, .resolve, .next 0, .next 0]).1 <+:
      xs.map (fun d => Output.item d.key d) ++ List.replicate 4 .stop :=
  have h : ((run (start [Delta.insert ⟨1, 5⟩, .insert ⟨2, 6⟩]) [.items]).2.lazy.consumed = false ∧
      0 < (run (start [(.insert ⟨1, 5⟩ : Delta Nat Nat), .insert ⟨2, 6⟩]) [.items]).2.gens.length) :=
    ⟨rfl, Nat.one_pos⟩
  ⟨h, (consumed_once _).2.2.1 [.items] 0 [.resolve, .next 0, .next 0] h.1 h.2⟩

end Session

end LazyDeltaDiff

end Kart.DiffStructs
