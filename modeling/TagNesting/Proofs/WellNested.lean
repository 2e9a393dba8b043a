import Mathlib.Data.List.Basic
import TagNesting.Proofs.Walk

/-!
# Well-Nested Tags

The tags with which a check finds no fault are those of a grammar: nothing, or an opening
tag, well-nested tags, the closing tag of the same name, and well-nested tags again.

That such tags pass is an induction on their derivation, and it holds on top of any stack:
well-nested tags report nothing and leave every stack as it was, so they can be put in
anywhere without changing what is said about the rest. For the other direction the walk
has to be taken from an arbitrary stack too. Tags that report nothing and leave nothing
open close what stands on the stack one by one, from the top, with well-nested tags before
each closing tag. That is `Unwinds`, and from the empty stack it is the grammar.

A closing tag that does not fit takes a tag off the stack all the same, but it has been
reported by then, and no report is ever taken back. So two faults cannot make up for each
other.

## Main definitions

* `WellNested`: The grammar of well-nested tags.
* `Unwinds`: Tags that close what is open, one by one.

## Theorems

* `walk_wellNested`, `found_wellNested`: Well-nested tags change nothing and report nothing.
* `unwinds_opening`: An opening tag before tags that close it.
* `unwinds_of_found_eq_nil`: A walk without reports that leaves nothing unwinds its stack.
* `wellNested_iff`: Well-nested tags are those that a walk is content with.
* `findings_eq_nil_iff_wellNested`: A check is content exactly with well-nested tags.
-/

namespace TagNesting

/-- Tags nested as they should be, each closing tag with the name of the tag it closes. -/
inductive WellNested : List PlacedTag → Prop where
  /-- No tags at all. -/
  | empty : WellNested []
  /-- An opening tag, tags within it, its closing tag and tags behind it. -/
  | nested {opening closing : PlacedTag} {inner after : List PlacedTag}
      (opens : opening.tag.kind = .opening) (closes : closing.tag.kind = .closing)
      (name_eq : opening.tag.name = closing.tag.name) (hinner : WellNested inner)
      (hafter : WellNested after) : WellNested (opening :: (inner ++ closing :: after))

/-- Well-nested tags leave every stack as it was. -/
theorem walk_wellNested {tags : List PlacedTag} (h : WellNested tags) (opened : List OpenTag) :
    (walk opened tags).2 = opened := by
  induction h generalizing opened with
  | empty => rfl
  | nested opens closes _ _ _ ihinner ihafter =>
      -- The inner tags leave the opening tag on top, and the closing tag takes it off.
      rw [walk_cons, stepAt_opening opens, walk_append, ihinner, walk_cons,
        stepAt_closing closes, ihafter]

/-- Well-nested tags report nothing, whatever is open before them. -/
theorem found_wellNested {tags : List PlacedTag} (h : WellNested tags)
    (opened : List OpenTag) : found opened tags = [] := by
  induction h generalizing opened with
  | empty => rfl
  | nested opens closes name_eq hinner _ ihinner ihafter =>
      rw [found_cons, stepAt_opening opens, found_append, ihinner, walk_wellNested hinner,
        found_cons, stepAt_closing closes, ihafter, Step.finding?, Step.finding?]
      exact congrArg (fun o => Option.toList o ++ []) (if_pos name_eq)

/-- Tags that close what is open, the tag opened last first, with well-nested tags before each
    closing tag and behind the last. -/
inductive Unwinds : List OpenTag → List PlacedTag → Prop where
  /-- Nothing is open any more. -/
  | done {tags : List PlacedTag} (htags : WellNested tags) : Unwinds [] tags
  /-- The tag on top is closed next. -/
  | closes {top : OpenTag} {below : List OpenTag} {inner rest : List PlacedTag}
      {closing : PlacedTag} (hinner : WellNested inner) (closes : closing.tag.kind = .closing)
      (name_eq : top.name = closing.tag.name) (hrest : Unwinds below rest) :
      Unwinds (top :: below) (inner ++ closing :: rest)

/-- An opening tag before tags that close it and then the stack closes just the stack. The
    element that it begins goes to the front of the first well-nested stretch. -/
theorem unwinds_opening {opening : PlacedTag} {below : List OpenTag} {tags : List PlacedTag}
    (opens : opening.tag.kind = .opening) (h : Unwinds (opening.opened :: below) tags) :
    Unwinds below (opening :: tags) := by
  cases h with
  | @closes _ _ inner _ closing hinner closes name_eq hrest =>
      -- What stood between the opening tag and the first closing tag is now inside an element,
      -- and that element joins the stretch behind it.
      cases hrest with
      | done htags => exact Unwinds.done (.nested opens closes name_eq hinner htags)
      | @closes top below inner' rest closing' hinner' closes' name_eq' hrest' =>
          have hfront := WellNested.nested opens closes name_eq hinner hinner'
          have hsplit : opening :: (inner ++ closing :: (inner' ++ closing' :: rest))
              = (opening :: (inner ++ closing :: inner')) ++ closing' :: rest := by
            simp only [List.cons_append, List.append_assoc]
          rw [hsplit]
          exact Unwinds.closes hfront closes' name_eq' hrest'

/-- A walk that reports nothing and leaves nothing open closes its stack tag by tag. -/
theorem unwinds_of_found_eq_nil {opened : List OpenTag} {tags : List PlacedTag}
    (hkind : ∀ placed ∈ tags, placed.tag.kind = .opening ∨ placed.tag.kind = .closing)
    (hfound : found opened tags = []) (hwalk : (walk opened tags).2 = []) :
    Unwinds opened tags := by
  induction tags generalizing opened with
  | nil =>
      have hopened : opened = [] := hwalk
      rw [hopened]
      exact Unwinds.done .empty
  | cons placed rest ih =>
      have hrest : ∀ other ∈ rest, other.tag.kind = .opening ∨ other.tag.kind = .closing :=
        fun other h => hkind other (List.mem_cons_of_mem _ h)
      rw [found_cons, List.append_eq_nil_iff] at hfound
      rw [walk_cons] at hwalk
      rcases hkind placed List.mem_cons_self with hk | hk
      · -- The rest closes this tag too, so it begins an element.
        rw [stepAt_opening hk] at hfound hwalk
        exact unwinds_opening hk (ih hrest hfound.2 hwalk)
      · cases opened with
        | nil =>
            -- With nothing open the closing tag is reported.
            rw [stepAt_stray hk] at hfound
            exact absurd hfound.1 (List.cons_ne_nil _ _)
        | cons top below =>
            rw [stepAt_closing hk] at hfound hwalk
            -- A tag of another name on top would have been reported.
            have name_eq : top.name = placed.tag.name := by
              by_contra hne
              rw [Step.finding?, if_neg hne] at hfound
              exact absurd hfound.1 (List.cons_ne_nil _ _)
            exact Unwinds.closes .empty hk name_eq (ih hrest hfound.2 hwalk)

/-- Tags are well nested exactly when a walk over them reports nothing and leaves nothing open. -/
theorem wellNested_iff {tags : List PlacedTag}
    (hkind : ∀ placed ∈ tags, placed.tag.kind = .opening ∨ placed.tag.kind = .closing) :
    WellNested tags ↔ found [] tags = [] ∧ (walk [] tags).2 = [] := by
  constructor
  · intro h
    exact ⟨found_wellNested h [], walk_wellNested h []⟩
  · rintro ⟨hfound, hwalk⟩
    -- Unwinding the empty stack is being well nested.
    have hunwinds := unwinds_of_found_eq_nil hkind hfound hwalk
    cases hunwinds with
    | done htags => exact htags

theorem findings_eq_nil_iff (void : List (List Char)) (source : List Char) :
    findings void source = [] ↔
      found [] (nestingTags void source) = [] ∧ (walk [] (nestingTags void source)).2 = [] := by
  rw [findings_eq, List.append_eq_nil_iff]
  refine and_congr_right fun _ => ?_
  cases (walk [] (nestingTags void source)).2 with
  | nil => exact ⟨fun _ => rfl, fun _ => rfl⟩
  | cons top below =>
      constructor
      · intro h
        exact absurd h (List.cons_ne_nil _ _)
      · intro h
        exact absurd h (List.cons_ne_nil _ _)

/-- A check reports nothing exactly when the tags of the source are well nested. -/
theorem findings_eq_nil_iff_wellNested (void : List (List Char)) (source : List Char) :
    findings void source = [] ↔ WellNested (nestingTags void source) := by
  rw [findings_eq_nil_iff, wellNested_iff fun _ => kind_of_mem_nestingTags]

end TagNesting
