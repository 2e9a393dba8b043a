import TagNesting.Proofs.Walk

/-!
# Relocation

A check of tags that stand somewhere else. A walk looks at the kinds and the names of its
tags only. Where they stand it passes on into what it reports, so whatever becomes of the
places of the tags becomes of those in the findings, and nothing else changes.

One such change is to forget all places. What is left of a finding has the same message.

## Main definitions

* `Relocation`: Other places for tags.
* `Relocation.opened`, `Relocation.placed`, `Relocation.finding`: What it does.
* `Relocation.nowhere`: No places at all.

## Theorems

* `walk_relocated`, `found_relocated`: A walk over relocated tags.
* `reported_relocated`: It reports the relocated findings.
* `messages_eq_of_nowhere`: Tags that differ only in their places have the same messages.
-/

namespace TagNesting

/-- Other places for tags. -/
structure Relocation where
  /-- What becomes of a span. -/
  span : Span → Span
  /-- What becomes of the number of a line that holds a span. -/
  line : Span → Nat → Nat

namespace Relocation

/-- A tag on the stack at its other place. -/
def opened (relocation : Relocation) (tag : OpenTag) : OpenTag :=
  ⟨tag.name, relocation.span tag.span⟩

/-- A tag at its other place. -/
def placed (relocation : Relocation) (placed : PlacedTag) : PlacedTag :=
  ⟨relocation.line placed.tag.span placed.line,
    { placed.tag with span := relocation.span placed.tag.span }⟩

/-- A finding on tags at their other places. -/
def finding (relocation : Relocation) : Finding → Finding
  | .unexpectedClosing line name span =>
      .unexpectedClosing (relocation.line span line) name (relocation.span span)
  | .mismatchedClosing line name span expected =>
      .mismatchedClosing (relocation.line span line) name (relocation.span span)
        (relocation.opened expected)
  | .unclosed tags => .unclosed (tags.map relocation.opened)

/-- The numbers of lines stay, and all spans are the same one. -/
def nowhere : Relocation := ⟨fun _ => ⟨0, 0⟩, fun _ number => number⟩

end Relocation

-- The step looks at the kind of its tag and at whether the stack is empty, and at no place.
theorem stepAt_relocated_snd (relocation : Relocation) (opened : List OpenTag)
    (placed : PlacedTag) :
    (stepAt (opened.map relocation.opened) (relocation.placed placed)).2
      = (stepAt opened placed).2.map relocation.opened := by
  by_cases hk : placed.tag.kind = .closing
  · have hother : (relocation.placed placed).tag.kind = .closing := hk
    cases opened with
    | nil =>
        rw [List.map_nil, stepAt_stray hk, stepAt_stray hother]
        rfl
    | cons top below => rw [List.map_cons, stepAt_closing hk, stepAt_closing hother]
  · have hother : (relocation.placed placed).tag.kind ≠ .closing := hk
    rw [stepAt_of_ne_closing hk, stepAt_of_ne_closing hother]
    rfl

-- What a tag has to report is relocated with it: whether it has anything to report is a matter
-- of names.
theorem finding?_stepAt_relocated (relocation : Relocation) (opened : List OpenTag)
    (placed : PlacedTag) :
    (stepAt (opened.map relocation.opened) (relocation.placed placed)).1.finding?
      = (stepAt opened placed).1.finding?.map relocation.finding := by
  by_cases hk : placed.tag.kind = .closing
  · have hother : (relocation.placed placed).tag.kind = .closing := hk
    cases opened with
    | nil =>
        rw [List.map_nil, stepAt_stray hk, stepAt_stray hother]
        rfl
    | cons top below =>
        rw [List.map_cons, stepAt_closing hk, stepAt_closing hother, Step.finding?, Step.finding?]
        by_cases hname : top.name = placed.tag.name
        · have hname' : (relocation.opened top).name = (relocation.placed placed).tag.name := hname
          rw [if_pos hname, if_pos hname']
          rfl
        · have hname' : (relocation.opened top).name ≠ (relocation.placed placed).tag.name := hname
          rw [if_neg hname, if_neg hname']
          rfl
  · have hother : (relocation.placed placed).tag.kind ≠ .closing := hk
    rw [stepAt_of_ne_closing hk, stepAt_of_ne_closing hother]
    rfl

theorem walk_relocated (relocation : Relocation) (opened : List OpenTag)
    (tags : List PlacedTag) :
    (walk (opened.map relocation.opened) (tags.map relocation.placed)).2
      = (walk opened tags).2.map relocation.opened := by
  induction tags generalizing opened with
  | nil => rfl
  | cons placed rest ih => rw [List.map_cons, walk_cons, walk_cons, stepAt_relocated_snd, ih]

theorem found_relocated (relocation : Relocation) (opened : List OpenTag)
    (tags : List PlacedTag) :
    found (opened.map relocation.opened) (tags.map relocation.placed)
      = (found opened tags).map relocation.finding := by
  induction tags generalizing opened with
  | nil => rfl
  | cons placed rest ih =>
      rw [List.map_cons, found_cons, found_cons, stepAt_relocated_snd, ih, List.map_append,
        finding?_stepAt_relocated]
      cases (stepAt opened placed).1.finding? with
      | none => rfl
      | some finding => rfl

theorem unclosedFinding?_relocated (relocation : Relocation) (opened : List OpenTag) :
    unclosedFinding? (opened.map relocation.opened)
      = (unclosedFinding? opened).map relocation.finding := by
  cases opened with
  | nil => rfl
  | cons top below =>
      rw [List.map_cons, unclosedFinding?_of_ne_nil (List.cons_ne_nil _ _),
        unclosedFinding?_of_ne_nil (List.cons_ne_nil _ _), ← List.map_cons, ← List.map_reverse]
      rfl

/-- A walk over relocated tags reports the relocated findings. -/
theorem reported_relocated (relocation : Relocation) (tags : List PlacedTag) :
    reported (walk [] (tags.map relocation.placed))
      = (reported (walk [] tags)).map relocation.finding := by
  have hfound := found_relocated relocation [] tags
  have hwalk := walk_relocated relocation [] tags
  rw [List.map_nil] at hfound hwalk
  rw [reported_walk, reported_walk, hfound, hwalk, unclosedFinding?_relocated, List.map_append]
  cases unclosedFinding? (walk [] tags).2 with
  | none => rfl
  | some finding => rfl

/-- The message of a finding does not say where in the source its tags stand, their line apart. -/
theorem message_nowhere (finding : Finding) :
    (Relocation.nowhere.finding finding).message = finding.message := by
  cases finding with
  | unexpectedClosing => rfl
  | mismatchedClosing => rfl
  | unclosed tags =>
      have hnames : (tags.map Relocation.nowhere.opened).map OpenTag.name
          = tags.map OpenTag.name := by
        rw [List.map_map]
        rfl
      change _ ++ Finding.quotedList _ = _ ++ Finding.quotedList _
      rw [hnames]

/-- Tags that differ only in their spans have the same messages. -/
theorem messages_eq_of_nowhere {tags others : List PlacedTag}
    (h : tags.map Relocation.nowhere.placed = others.map Relocation.nowhere.placed) :
    (reported (walk [] tags)).map Finding.message
      = (reported (walk [] others)).map Finding.message := by
  have hmessages : ∀ tags : List PlacedTag, (reported (walk [] tags)).map Finding.message
      = (reported (walk [] (tags.map Relocation.nowhere.placed))).map Finding.message := by
    intro tags
    rw [reported_relocated, List.map_map]
    exact List.map_congr_left fun finding _ => (message_nowhere finding).symm
  rw [hmessages tags, hmessages others, h]

end TagNesting
