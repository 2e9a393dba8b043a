import TagNesting.Nesting

/-!
# Walks

What one tag does to the stack, and what follows for a list of them. The rest of the
theory never opens `walk` or `stepAt`: it goes by the equations here, one for each thing
that a tag can do.

A walk over a list is a walk over its first part and then one over the rest, from the
stack that the first part leaves. Its steps can therefore be read off place by place:
what happens at a tag is decided by the tag and by the stack that the tags before it
leave, which is `walk_steps`.

## Main definitions

* `PlacedTag.opened`: A tag as it stands on the stack.
* `found`: What a walk reports on its way.

## Theorems

* `stepAt_of_ne_closing`, `stepAt_closing`, `stepAt_stray`: What one tag does.
* `stepAt_cases`, `finding?_stepAt_cases`: All that a tag can do and have to report.
* `walk_append`, `found_append`: A walk over two lists, one after the other.
* `findings_eq`: A check reports what its walk does, and then what is left open.
* `walk_steps`: The steps of a walk, place by place.
* `kind_of_mem_nestingTags`: A tag of a source opens or closes an element.
-/

namespace TagNesting

/-- A tag as it stands on the stack: its name and its place. -/
def PlacedTag.opened (placed : PlacedTag) : OpenTag := ⟨placed.tag.name, placed.tag.span⟩

/-- What a walk reports on its way, before anything is said about what it leaves open. -/
def found (opened : List OpenTag) (tags : List PlacedTag) : List Finding :=
  (walk opened tags).1.filterMap Step.finding?

/-- Whatever does not close goes onto the stack. -/
theorem stepAt_of_ne_closing {placed : PlacedTag} (h : placed.tag.kind ≠ .closing)
    (opened : List OpenTag) :
    stepAt opened placed = (.opens placed opened.length, placed.opened :: opened) := by
  rw [stepAt.eq_def]
  split
  · rename_i hk
    exact absurd hk h
  · rfl

-- What a step does, by the kind of the tag and by what is open.
theorem stepAt_opening {placed : PlacedTag} (h : placed.tag.kind = .opening)
    (opened : List OpenTag) :
    stepAt opened placed = (.opens placed opened.length, placed.opened :: opened) := by
  refine stepAt_of_ne_closing ?_ opened
  rw [h]
  exact TagKind.noConfusion

theorem stepAt_closing {placed : PlacedTag} (h : placed.tag.kind = .closing) (top : OpenTag)
    (rest : List OpenTag) : stepAt (top :: rest) placed = (.closes placed top, rest) := by
  simp only [stepAt, h]

theorem stepAt_stray {placed : PlacedTag} (h : placed.tag.kind = .closing) :
    stepAt [] placed = (.stray placed, []) := by
  simp only [stepAt, h]

/-- All that a tag can do: go onto the stack, take the top off it, or find it empty. -/
theorem stepAt_cases (opened : List OpenTag) (placed : PlacedTag) :
    stepAt opened placed = (.opens placed opened.length, placed.opened :: opened) ∨
      (opened = [] ∧ stepAt opened placed = (.stray placed, [])) ∨
      ∃ top rest, opened = top :: rest ∧ stepAt opened placed = (.closes placed top, rest) := by
  by_cases hk : placed.tag.kind = .closing
  · cases opened with
    | nil => exact Or.inr (Or.inl ⟨rfl, stepAt_stray hk⟩)
    | cons top rest => exact Or.inr (Or.inr ⟨top, rest, rfl, stepAt_closing hk top rest⟩)
  · exact Or.inl (stepAt_of_ne_closing hk opened)

/-- All that a tag can have to report: that nothing is open, or that the top of the stack has
    another name. -/
theorem finding?_stepAt_cases {opened : List OpenTag} {placed : PlacedTag} {finding : Finding}
    (h : (stepAt opened placed).1.finding? = some finding) :
    (opened = [] ∧
        finding = .unexpectedClosing placed.line placed.tag.name placed.tag.span) ∨
      ∃ top rest, opened = top :: rest ∧ top.name ≠ placed.tag.name ∧
        finding = .mismatchedClosing placed.line placed.tag.name placed.tag.span top := by
  rcases stepAt_cases opened placed with hs | ⟨hnil, hs⟩ | ⟨top, rest, hcons, hs⟩
  · -- A tag that goes onto the stack has nothing to report.
    rw [hs] at h
    cases h
  · rw [hs] at h
    exact Or.inl ⟨hnil, (Option.some.inj h).symm⟩
  · rw [hs, Step.finding?] at h
    split at h
    · cases h
    · rename_i hne
      exact Or.inr ⟨top, rest, hcons, hne, (Option.some.inj h).symm⟩

/-- A walk takes one step and goes on from the stack that it leaves. -/
theorem walk_cons (opened : List OpenTag) (placed : PlacedTag) (rest : List PlacedTag) :
    walk opened (placed :: rest)
      = ((stepAt opened placed).1 :: (walk (stepAt opened placed).2 rest).1,
        (walk (stepAt opened placed).2 rest).2) := rfl

/-- A walk over two lists, one after the other, goes on from the stack that the first one
    leaves. -/
theorem walk_append (opened : List OpenTag) (tags more : List PlacedTag) :
    walk opened (tags ++ more)
      = ((walk opened tags).1 ++ (walk (walk opened tags).2 more).1,
        (walk (walk opened tags).2 more).2) := by
  induction tags generalizing opened with
  | nil => rfl
  | cons placed rest ih => rw [List.cons_append, walk_cons, ih, walk_cons, List.cons_append]

theorem found_cons (opened : List OpenTag) (placed : PlacedTag) (rest : List PlacedTag) :
    found opened (placed :: rest)
      = (stepAt opened placed).1.finding?.toList ++ found (stepAt opened placed).2 rest := by
  rw [found, walk_cons, List.filterMap_cons]
  cases (stepAt opened placed).1.finding? with
  | none => rfl
  | some finding => rfl

/-- The findings of a walk in two parts are those of the one and then of the other. -/
theorem found_append (opened : List OpenTag) (tags more : List PlacedTag) :
    found opened (tags ++ more) = found opened tags ++ found (walk opened tags).2 more := by
  rw [found, walk_append, List.filterMap_append]
  rfl

theorem reported_walk (opened : List OpenTag) (tags : List PlacedTag) :
    reported (walk opened tags)
      = found opened tags ++ (unclosedFinding? (walk opened tags).2).toList := rfl

/-- A check has the findings of its walk, and one on the tags left open if there are any. -/
theorem findings_eq (void : List (List Char)) (source : List Char) :
    findings void source
      = found [] (nestingTags void source)
        ++ (unclosedFinding? (walk [] (nestingTags void source)).2).toList := rfl

/-- The steps of a walk, place by place. What happens at a tag depends on the tags before it
    only through the stack that they leave. -/
theorem walk_steps (opened : List OpenTag) (tags : List PlacedTag) :
    (walk opened tags).1
      = tags.zipIdx.map fun (placed, j) => (stepAt (walk opened (tags.take j)).2 placed).1 := by
  induction tags generalizing opened with
  | nil => rfl
  | cons placed rest ih =>
      rw [walk_cons, ih, List.zipIdx_cons, List.map_cons, List.zipIdx_succ, List.map_map]
      rfl

theorem unclosedFinding?_of_ne_nil {opened : List OpenTag} (h : opened ≠ []) :
    unclosedFinding? opened = some (.unclosed opened.reverse) := by
  cases opened with
  | nil => exact absurd rfl h
  | cons top below => rfl

/-- A tag that affects the nesting opens an element or closes one. -/
theorem kind_of_mem_nestingTags {void : List (List Char)} {source : List Char}
    {placed : PlacedTag} (h : placed ∈ nestingTags void source) :
    placed.tag.kind = .opening ∨ placed.tag.kind = .closing := by
  have hkind := (List.mem_filter.mp h).2
  cases hk : placed.tag.kind with
  | opening => exact Or.inl rfl
  | closing => exact Or.inr rfl
  | selfClosing =>
      rw [affectsNesting, hk] at hkind
      simp only [bne_self_eq_false, Bool.false_and, Bool.false_eq_true] at hkind

end TagNesting
