import Mathlib.Data.List.Forall2
import TagNesting.Proofs.Walk

/-!
# Checks of Related Tags

Two checks side by side, of tags that differ in nothing but where they stand. Whatever
relation there is between the places of the tags, place by place, there is between those
in the findings, since a walk hands places on and never looks at them.

`Relocation` moves tags by a function on their spans. Here there need not be one: the two
sides may come from different sources, and all that is known of two spans is how they are
related.

## Main definitions

* `OpenTag.Alike`, `PlacedTag.Alike`, `Finding.Alike`: Alike but for related places.

## Theorems

* `stepAt_alike`: One step over tags that are alike.
* `walk_alike`, `found_alike`: A walk over them.
* `reported_alike`: It reports findings that are alike.
-/

namespace TagNesting

variable {S : Span → Span → Prop}

/-- Two tags on the stack have the same name and related places. -/
def OpenTag.Alike (S : Span → Span → Prop) (tag other : OpenTag) : Prop :=
  tag.name = other.name ∧ S tag.span other.span

/-- Two tags have the same line number, kind and name and related places. -/
structure PlacedTag.Alike (S : Span → Span → Prop) (placed other : PlacedTag) : Prop where
  line_eq : placed.line = other.line
  kind_eq : placed.tag.kind = other.tag.kind
  name_eq : placed.tag.name = other.tag.name
  span : S placed.tag.span other.tag.span

/-- Two findings say the same of tags at related places. -/
inductive Finding.Alike (S : Span → Span → Prop) : Finding → Finding → Prop where
  | unexpectedClosing {line : Nat} {name : List Char} {span other : Span} (h : S span other) :
      Alike S (.unexpectedClosing line name span) (.unexpectedClosing line name other)
  | mismatchedClosing {line : Nat} {name : List Char} {span other : Span}
      {expected expected' : OpenTag} (h : S span other) (htag : expected.Alike S expected') :
      Alike S (.mismatchedClosing line name span expected)
        (.mismatchedClosing line name other expected')
  | unclosed {tags others : List OpenTag} (h : List.Forall₂ (OpenTag.Alike S) tags others) :
      Alike S (.unclosed tags) (.unclosed others)

theorem PlacedTag.Alike.opened {placed other : PlacedTag} (h : placed.Alike S other) :
    placed.opened.Alike S other.opened := ⟨h.name_eq, h.span⟩

/-- One step over tags that are alike: the stacks stay alike, and so is what is reported, if
    anything is. -/
theorem stepAt_alike {opened opened' : List OpenTag} {placed other : PlacedTag}
    (hopened : List.Forall₂ (OpenTag.Alike S) opened opened') (h : placed.Alike S other) :
    List.Forall₂ (OpenTag.Alike S) (stepAt opened placed).2 (stepAt opened' other).2 ∧
      Option.Rel (Finding.Alike S) (stepAt opened placed).1.finding?
        (stepAt opened' other).1.finding? := by
  by_cases hk : placed.tag.kind = .closing
  · have hk' : other.tag.kind = .closing := h.kind_eq ▸ hk
    have hline := h.line_eq
    have hname := h.name_eq
    cases hopened with
    | nil =>
        -- With nothing open both tags are stray.
        rw [stepAt_stray hk, stepAt_stray hk']
        refine ⟨.nil, ?_⟩
        simp only [Step.finding?, hline, hname]
        exact .some (.unexpectedClosing h.span)
    | @cons top top' rest rest' htop hrest =>
        rw [stepAt_closing hk, stepAt_closing hk']
        refine ⟨hrest, ?_⟩
        simp only [Step.finding?, hline, hname, htop.1]
        -- Names are the same on both sides, so they agree there or on neither.
        by_cases hmatch : top'.name = other.tag.name
        · simp only [if_pos hmatch]
          exact .none
        · simp only [if_neg hmatch]
          exact .some (Finding.Alike.mismatchedClosing h.span htop)
  · have hk' : other.tag.kind ≠ .closing := h.kind_eq ▸ hk
    rw [stepAt_of_ne_closing hk, stepAt_of_ne_closing hk']
    exact ⟨.cons h.opened hopened, .none⟩

theorem walk_alike {opened opened' : List OpenTag} {tags others : List PlacedTag}
    (hopened : List.Forall₂ (OpenTag.Alike S) opened opened')
    (h : List.Forall₂ (PlacedTag.Alike S) tags others) :
    List.Forall₂ (OpenTag.Alike S) (walk opened tags).2 (walk opened' others).2 := by
  induction h generalizing opened opened' with
  | nil => exact hopened
  | cons hplaced _ ih =>
      rw [walk_cons, walk_cons]
      exact ih (stepAt_alike hopened hplaced).1

theorem found_alike {opened opened' : List OpenTag} {tags others : List PlacedTag}
    (hopened : List.Forall₂ (OpenTag.Alike S) opened opened')
    (h : List.Forall₂ (PlacedTag.Alike S) tags others) :
    List.Forall₂ (Finding.Alike S) (found opened tags) (found opened' others) := by
  induction h generalizing opened opened' with
  | nil => exact .nil
  | cons hplaced _ ih =>
      rcases stepAt_alike hopened hplaced with ⟨hstack, hfinding⟩
      rw [found_cons, found_cons]
      refine List.rel_append ?_ (ih hstack)
      generalize (stepAt _ _).1.finding? = finding at hfinding
      generalize (stepAt _ _).1.finding? = other at hfinding
      cases hfinding with
      | none => exact .nil
      | some h => exact .cons h .nil

/-- A check of tags that are alike reports findings that are alike, one for one. -/
theorem reported_alike {tags others : List PlacedTag}
    (h : List.Forall₂ (PlacedTag.Alike S) tags others) :
    List.Forall₂ (Finding.Alike S) (reported (walk [] tags)) (reported (walk [] others)) := by
  have hwalk := walk_alike (S := S) .nil h
  rw [reported_walk, reported_walk]
  refine List.rel_append (found_alike .nil h) ?_
  generalize (walk [] tags).2 = left at hwalk
  generalize (walk [] others).2 = left' at hwalk
  cases hwalk with
  | nil => exact .nil
  | cons htop hrest =>
      exact .cons (.unclosed (List.rel_reverse (.cons htop hrest))) .nil

end TagNesting
