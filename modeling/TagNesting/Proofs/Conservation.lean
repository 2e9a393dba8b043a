import Mathlib.Data.List.Sigma
import Mathlib.Data.Set.Operations
import Mathlib.Order.Bounds.Defs
import TagNesting.Proofs.Partner
import TagNesting.Proofs.Resumption

/-!
# Conservation of Tags

No tag gets lost in a check and none is used twice. An opening tag is closed without a word
by a closing tag of its name, or a closing tag of another name closes it and is reported to
have done so, or it is among the tags left open. A closing tag closes an opening tag, with
or without a report, or is reported as unexpected. Which of these it is, is said here for
each place in the list of tags. Names and spans would not do to tell tags apart, for past
the largest position two tags can have the same span.

The numbers follow. There are as many opening tags as pairs and tags left open, and as many
closing tags as pairs and unexpected ones, so the two numbers reported differ by as much as
opening and closing tags do. How large they are depends on the order of the tags: unexpected
are as many as the largest excess of closing tags over opening ones in what has been read at
any time. A name decides who agrees with whom but not who belongs to whom, and so neither
number changes with a name unless a tag becomes void by it.

## Main definitions

* `TagPair`: An opening tag and the closing tag that takes it off the stack.
* `pairs`: The pairs of a list of tags.
* `silentPairs`, `clashes`: Those that agree on a name, and those that do not.
* `strays`, `leftovers`: The closing and the opening tags without a partner.
* `Accounts`: A list of findings accounts for each tag once.

## Theorems

* `closings_perm`, `openings_perm`: Each tag is in a pair or has no partner.
* `length_strays`, `length_leftovers`: How many tags have no partner.
* `accounts_reported`: What a walk reports accounts for its tags.
* `tags_conserved`: A check accounts for every tag of its source.
-/

namespace TagNesting

/-- An opening tag and the closing tag that takes it off the stack, each with its place. -/
structure TagPair where
  /-- The opening tag. -/
  opening : PlacedTag × Nat
  /-- The closing tag. -/
  closing : PlacedTag × Nat

namespace TagPair

/-- The two tags have the same name. -/
def agrees (pair : TagPair) : Bool := pair.opening.1.tag.name = pair.closing.1.tag.name

/-- The step at which the one tag closes the other. -/
def step (pair : TagPair) : Step := .closes pair.closing.1 pair.opening.1.opened

/-- What there is to report if the names differ. -/
def mismatch (pair : TagPair) : Finding :=
  .mismatchedClosing pair.closing.1.line pair.closing.1.tag.name pair.closing.1.tag.span
    pair.opening.1.opened

end TagPair

/-- The pairs of a list of tags, in the order of the closing tags. -/
def pairs (tags : List PlacedTag) : List TagPair :=
  tags.zipIdx.filterMap fun closing => (partnerAt? tags closing.2).map (⟨·, closing⟩)

/-- The pairs of which nothing is said. -/
def silentPairs (tags : List PlacedTag) : List TagPair := (pairs tags).filter TagPair.agrees

/-- The pairs whose names differ. -/
def clashes (tags : List PlacedTag) : List TagPair := (pairs tags).filter (!·.agrees)

/-- The closing tags of a list, with their places. -/
def closingTags (tags : List PlacedTag) : List (PlacedTag × Nat) :=
  tags.zipIdx.filter (·.1.tag.kind = .closing)

/-- The opening tags of a list, with their places. -/
def openingTags (tags : List PlacedTag) : List (PlacedTag × Nat) :=
  tags.zipIdx.filter (·.1.tag.kind = .opening)

/-- The closing tags without a partner. -/
def strays (tags : List PlacedTag) : List (PlacedTag × Nat) :=
  (closingTags tags).filter fun closing => (partnerAt? tags closing.2).isNone

/-- The opening tags without a partner. -/
def leftovers (tags : List PlacedTag) : List (PlacedTag × Nat) :=
  (openingTags tags).filter fun opening => ∀ j < tags.length, ¬ Partners tags opening.2 j

/-- A tag closes another. -/
def Step.isClosing : Step → Bool
  | closes .. => true
  | _ => false

namespace Finding

/-- The finding is on a closing tag where nothing is open. -/
def isUnexpected : Finding → Bool
  | unexpectedClosing .. => true
  | _ => false

/-- The finding is on a closing tag of another name than the tag it closes. -/
def isMismatched : Finding → Bool
  | mismatchedClosing .. => true
  | _ => false

end Finding

/-- Findings account for tags: each opening tag and each closing tag has one place in the account,
    and the findings are just those that the account calls for. -/
structure Accounts (tags : List PlacedTag) (reports : List Finding) : Prop where
  /-- An opening tag is closed silently, or closed by a tag of another name, or left open. -/
  openings_perm : (openingTags tags).Perm
    ((silentPairs tags).map TagPair.opening ++ (clashes tags).map TagPair.opening
      ++ leftovers tags)
  /-- A closing tag closes one of its name, or one of another name, or none. -/
  closings_perm : (closingTags tags).Perm
    ((silentPairs tags).map TagPair.closing ++ (clashes tags).map TagPair.closing
      ++ strays tags)
  /-- The tags that a check takes off the stack are those of the pairs. -/
  closes_eq : (walk [] tags).1.filter Step.isClosing = (pairs tags).map TagPair.step
  /-- There is one mismatch for each pair whose names differ. -/
  mismatched_eq : reports.filter Finding.isMismatched = (clashes tags).map TagPair.mismatch
  /-- There is one unexpected tag for each closing tag without a partner. -/
  unexpected_eq : reports.filter Finding.isUnexpected = (strays tags).map fun closing =>
    .unexpectedClosing closing.1.line closing.1.tag.name closing.1.tag.span
  /-- The tags listed as unclosed are the opening tags without a partner. -/
  openTags_eq : reports.flatMap Finding.openTags = (leftovers tags).map (·.1.opened)

/-- A pair is a closing tag at its place with its partner. -/
theorem mem_pairs {tags : List PlacedTag} {pair : TagPair} :
    pair ∈ pairs tags ↔ pair.closing ∈ tags.zipIdx ∧
      partnerAt? tags pair.closing.2 = some pair.opening := by
  rw [pairs, List.mem_filterMap]
  constructor
  · rintro ⟨closing, hclosing, hpair⟩
    rcases Option.map_eq_some_iff.mp hpair with ⟨opening, hopening, rfl⟩
    exact ⟨hclosing, hopening⟩
  · rintro ⟨hclosing, hopening⟩
    refine ⟨pair.closing, hclosing, ?_⟩
    rw [hopening]
    rfl

-- By their places the two tags of a pair are partners, and the one is an opening tag.
theorem partners_of_mem_pairs {tags : List PlacedTag} {pair : TagPair} (h : pair ∈ pairs tags) :
    Partners tags pair.opening.2 pair.closing.2 :=
  ((partnerAt?_eq_some_iff tags _ _).mp (mem_pairs.mp h).2).1

theorem opening_mem_of_mem_pairs {tags : List PlacedTag} {pair : TagPair}
    (h : pair ∈ pairs tags) : pair.opening ∈ openingTags tags := by
  rcases (partnerAt?_eq_some_iff tags _ _).mp (mem_pairs.mp h).2 with ⟨hpartners, hget⟩
  have hopens := hpartners.opens
  rw [hget, Option.map_some, Option.some.injEq] at hopens
  exact List.mem_filter.mpr ⟨List.mem_zipIdx_iff_getElem?.mpr hget, decide_eq_true hopens⟩

/-- Only a closing tag has a partner to look for. -/
theorem partnerAt?_of_ne_closing {tags : List PlacedTag} {placed : PlacedTag} {j : Nat}
    (hj : tags[j]? = some placed) (hkind : placed.tag.kind ≠ .closing) :
    partnerAt? tags j = none := by
  refine Option.eq_none_iff_forall_ne_some.mpr fun opening hopening => hkind ?_
  have hcloses := ((partnerAt?_eq_some_iff tags j opening).mp hopening).1.closes
  rwa [hj, Option.map_some, Option.some.injEq] at hcloses

/-- The tag at a place does not close, or closes without a partner, or makes a pair. -/
theorem verdict?_cases {tags : List PlacedTag} {placed : PlacedTag} {j : Nat}
    (hj : tags[j]? = some placed) :
    (placed.tag.kind ≠ .closing ∧ partnerAt? tags j = none ∧ verdict? tags placed j = none) ∨
      (placed.tag.kind = .closing ∧ partnerAt? tags j = none ∧ verdict? tags placed j
        = some (.unexpectedClosing placed.line placed.tag.name placed.tag.span)) ∨
      ∃ opening, placed.tag.kind = .closing ∧ partnerAt? tags j = some opening ∧
        verdict? tags placed j
          = if TagPair.agrees ⟨opening, (placed, j)⟩ then none
            else some (TagPair.mismatch ⟨opening, (placed, j)⟩) := by
  rw [verdict?, partner?]
  by_cases hk : placed.tag.kind = .closing
  · rw [if_pos hk]
    cases partnerAt? tags j with
    | none => exact Or.inr (Or.inl ⟨hk, rfl, rfl⟩)
    | some opening =>
        refine Or.inr (Or.inr ⟨opening, hk, rfl, ?_⟩)
        simp only [Option.map_some, TagPair.agrees, decide_eq_true_eq]
        rfl
  · rw [if_neg hk]
    exact Or.inl ⟨hk, partnerAt?_of_ne_closing hj hk, rfl⟩

/-! ## Each tag once -/

theorem nodup_zipIdx (tags : List PlacedTag) : tags.zipIdx.Nodup :=
  (List.nodup_zipIdx_map_snd tags).of_map Prod.snd

/-- A pair agrees on a name or does not. -/
theorem silentPairs_append_clashes (tags : List PlacedTag) :
    (silentPairs tags ++ clashes tags).Perm (pairs tags) :=
  List.filter_append_perm TagPair.agrees (pairs tags)

/-- The closing tags of the pairs are those that have a partner. -/
theorem map_closing_pairs (tags : List PlacedTag) :
    (pairs tags).map TagPair.closing
      = (closingTags tags).filter fun closing => !(partnerAt? tags closing.2).isNone := by
  rw [pairs, List.map_filterMap, closingTags, List.filter_filter, ← List.filterMap_eq_filter]
  refine List.filterMap_congr ?_
  rintro ⟨placed, j⟩ hmem
  have hj : tags[j]? = some placed := List.mem_zipIdx_iff_getElem?.mp hmem
  -- What has a partner is a closing tag.
  rcases verdict?_cases hj
    with ⟨_, hnone, _⟩ | ⟨_, hnone, _⟩ | ⟨opening, hk, hsome, _⟩
  · simp only [hnone, Option.map_none, Option.guard, Option.isNone_none, Bool.not_true,
      Bool.false_and, Bool.false_eq_true, if_false]
  · simp only [hnone, Option.map_none, Option.guard, Option.isNone_none, Bool.not_true,
      Bool.false_and, Bool.false_eq_true, if_false]
  · simp only [hsome, hk, Option.map_some, Option.guard, Option.isNone_some, Bool.not_false,
      decide_true, Bool.and_self, if_true]

/-- A closing tag is in a pair or has no partner. -/
theorem closings_perm (tags : List PlacedTag) :
    (closingTags tags).Perm ((silentPairs tags).map TagPair.closing
      ++ (clashes tags).map TagPair.closing ++ strays tags) := by
  have hpairs : ((silentPairs tags).map TagPair.closing ++ (clashes tags).map TagPair.closing).Perm
      ((closingTags tags).filter fun closing => !(partnerAt? tags closing.2).isNone) := by
    rw [← List.map_append, ← map_closing_pairs]
    exact (silentPairs_append_clashes tags).map TagPair.closing
  have hsplit := List.filter_append_perm (fun closing => (partnerAt? tags closing.2).isNone)
    (closingTags tags)
  exact hsplit.symm.trans (List.perm_append_comm.trans (hpairs.symm.append_right _))

theorem nodup_map_opening_pairs (tags : List PlacedTag) :
    ((pairs tags).map TagPair.opening).Nodup := by
  have hclosing : ((pairs tags).map TagPair.closing).Nodup := by
    rw [map_closing_pairs]
    exact ((nodup_zipIdx tags).filter _).filter _
  refine List.Nodup.map_on (fun pair hpair other hother heq => ?_) (hclosing.of_map _)
  -- Pairs with one opening tag have closing tags at one place, and there is one tag there.
  have hplace : pair.closing.2 = other.closing.2 :=
    partners_right_unique (partners_of_mem_pairs hpair)
      (heq ▸ partners_of_mem_pairs hother)
  refine List.inj_on_of_nodup_map hclosing hpair hother ?_
  exact List.inj_on_of_nodup_map (List.nodup_zipIdx_map_snd tags) (mem_pairs.mp hpair).1
    (mem_pairs.mp hother).1 hplace

/-- The opening tags of the pairs are those that have a partner. Their order is another one. -/
theorem map_opening_pairs (tags : List PlacedTag) :
    ((pairs tags).map TagPair.opening).Perm ((openingTags tags).filter fun opening =>
      !decide (∀ j < tags.length, ¬ Partners tags opening.2 j)) := by
  refine (List.perm_ext_iff_of_nodup (nodup_map_opening_pairs tags)
    (((nodup_zipIdx tags).filter _).filter _)).mpr fun opening => ?_
  rw [List.mem_map, List.mem_filter, Bool.not_eq_true', decide_eq_false_iff_not]
  constructor
  · rintro ⟨pair, hpair, rfl⟩
    refine ⟨opening_mem_of_mem_pairs hpair, fun hnone => ?_⟩
    have hget := List.mem_zipIdx_iff_getElem?.mp (mem_pairs.mp hpair).1
    exact hnone _ (List.getElem?_eq_some_iff.mp hget).1 (partners_of_mem_pairs hpair)
  · rintro ⟨hmem, hsome⟩
    push Not at hsome
    rcases hsome with ⟨j, hj, hpartners⟩
    have hget := List.mem_zipIdx_iff_getElem?.mp (List.mem_filter.mp hmem).1
    refine ⟨⟨opening, tags[j], j⟩, mem_pairs.mpr ⟨?_, ?_⟩, rfl⟩
    · exact List.mem_zipIdx_iff_getElem?.mpr (List.getElem?_eq_getElem hj)
    · exact (partnerAt?_eq_some_iff tags _ _).mpr ⟨hpartners, hget⟩

/-- An opening tag is in a pair or has no partner. -/
theorem openings_perm (tags : List PlacedTag) :
    (openingTags tags).Perm ((silentPairs tags).map TagPair.opening
      ++ (clashes tags).map TagPair.opening ++ leftovers tags) := by
  have hpairs := ((silentPairs_append_clashes tags).map TagPair.opening).trans
    (map_opening_pairs tags)
  rw [List.map_append] at hpairs
  have hsplit := List.filter_append_perm
    (fun opening => decide (∀ j < tags.length, ¬ Partners tags opening.2 j)) (openingTags tags)
  exact hsplit.symm.trans (List.perm_append_comm.trans (hpairs.symm.append_right _))

/-! ## What is reported -/

/-- The opening tags without a partner are those that are left on the stack. -/
theorem map_fst_leftovers (tags : List PlacedTag) :
    (leftovers tags).map Prod.fst = leftOpen tags := by
  rw [← unpartnered_eq_leftOpen, unpartnered, leftovers, openingTags, List.filter_filter]
  congr 1
  refine List.filter_congr ?_
  rintro ⟨placed, i⟩ _
  rw [← Bool.decide_and, decide_eq_decide, and_comm]

/-- The mismatches among the verdicts are those of the pairs whose names differ. -/
theorem filter_isMismatched_verdicts (tags : List PlacedTag) :
    (verdicts tags).filter Finding.isMismatched = (clashes tags).map TagPair.mismatch := by
  rw [verdicts, clashes, pairs, List.filter_filterMap, List.filter_filterMap,
    List.map_filterMap]
  refine List.filterMap_congr ?_
  rintro ⟨placed, j⟩ hmem
  have hj : tags[j]? = some placed := List.mem_zipIdx_iff_getElem?.mp hmem
  rcases verdict?_cases hj
    with ⟨_, hnone, hverdict⟩ | ⟨_, hnone, hverdict⟩ | ⟨opening, _, hsome, hverdict⟩
  · simp only [hverdict, hnone]
    rfl
  · simp only [hverdict, hnone]
    rfl
  · simp only [hverdict, hsome, Option.map_some, Option.filter_some]
    cases TagPair.agrees ⟨opening, (placed, j)⟩ with
    | true => rfl
    | false => rfl

/-- The unexpected tags among the verdicts are those without a partner. -/
theorem filter_isUnexpected_verdicts (tags : List PlacedTag) :
    (verdicts tags).filter Finding.isUnexpected = (strays tags).map fun closing =>
      .unexpectedClosing closing.1.line closing.1.tag.name closing.1.tag.span := by
  rw [verdicts, strays, closingTags, List.filter_filter, List.filter_filterMap,
    ← List.filterMap_eq_filter, List.map_filterMap]
  refine List.filterMap_congr ?_
  rintro ⟨placed, j⟩ hmem
  have hj : tags[j]? = some placed := List.mem_zipIdx_iff_getElem?.mp hmem
  rcases verdict?_cases hj
    with ⟨hk, _, hverdict⟩ | ⟨hk, hnone, hverdict⟩ | ⟨opening, _, hsome, hverdict⟩
  · simp only [hverdict, hk, Option.guard, decide_false, Bool.and_false, Bool.false_eq_true,
      if_false]
    rfl
  · simp only [hverdict, hnone, hk, Option.guard, Option.isNone_none, decide_true,
      Bool.and_self, if_true]
    rfl
  · simp only [hverdict, hsome, Option.guard, Option.isNone_some, Bool.false_and,
      Bool.false_eq_true, if_false, Option.map_none]
    cases TagPair.agrees ⟨opening, (placed, j)⟩ with
    | true => rfl
    | false => rfl

/-- The steps of a walk at which a tag closes another are those of the pairs. -/
theorem filter_isClosing_walk {tags : List PlacedTag}
    (hkind : ∀ placed ∈ tags, placed.tag.kind = .opening ∨ placed.tag.kind = .closing) :
    (walk [] tags).1.filter Step.isClosing = (pairs tags).map TagPair.step := by
  rw [walk_steps_leftOpen hkind, ← List.filterMap_eq_map', List.filter_filterMap, pairs,
    List.map_filterMap]
  refine List.filterMap_congr ?_
  rintro ⟨placed, j⟩ hmem
  have hj := List.mem_zipIdx_iff_getElem?.mp hmem
  by_cases hk : placed.tag.kind = .closing
  · simp only [stepAt_partner hj hk, partner?]
    cases partnerAt? tags j with
    | none => rfl
    | some opening => rfl
  · simp only [stepAt_of_ne_closing hk, partnerAt?_of_ne_closing hj hk]
    rfl

-- The tags left open come last, in a finding of their own. All others are the verdicts on closing
-- tags.
theorem filter_reported_walk {tags : List PlacedTag}
    (hkind : ∀ placed ∈ tags, placed.tag.kind = .opening ∨ placed.tag.kind = .closing)
    {keep : Finding → Bool} (hkeep : ∀ left, keep (.unclosed left) = false) :
    (reported (walk [] tags)).filter keep = (verdicts tags).filter keep := by
  have hlast : (unclosedFinding? (walk [] tags).2).toList.filter keep = [] := by
    cases (walk [] tags).2 with
    | nil => rfl
    | cons top below =>
        refine List.filter_eq_nil_iff.mpr fun finding hfinding => ?_
        rw [List.mem_singleton.mp hfinding, hkeep]
        exact Bool.false_ne_true
  rw [reported_walk, List.filter_append, hlast, List.append_nil, found_eq_verdicts hkind]

/-- What a walk reports accounts for its tags. -/
theorem accounts_reported {tags : List PlacedTag}
    (hkind : ∀ placed ∈ tags, placed.tag.kind = .opening ∨ placed.tag.kind = .closing) :
    Accounts tags (reported (walk [] tags)) where
  openings_perm := openings_perm tags
  closings_perm := closings_perm tags
  closes_eq := filter_isClosing_walk hkind
  mismatched_eq := by
    rw [filter_reported_walk hkind fun _ => rfl, filter_isMismatched_verdicts]
  unexpected_eq := by
    rw [filter_reported_walk hkind fun _ => rfl, filter_isUnexpected_verdicts]
  openTags_eq := by
    have hmap : (leftovers tags).map (·.1.opened) = (leftOpen tags).map PlacedTag.opened := by
      rw [← map_fst_leftovers, List.map_map]
      rfl
    rw [reported_walk, openTags_append_unclosed, walk_stack [] tags hkind, List.drop_nil,
      List.append_nil, List.reverse_reverse, hmap]

/-! ## How many -/

-- The places go along with the tags and do not count.
theorem length_filter_kind (tags : List PlacedTag) (kind : TagKind) :
    (tags.zipIdx.filter (·.1.tag.kind = kind)).length = tags.countP (·.tag.kind = kind) := by
  have hfst : tags.zipIdx.countP (·.1.tag.kind = kind)
      = (tags.zipIdx.map Prod.fst).countP (·.tag.kind = kind) := by
    rw [List.countP_map]
    rfl
  rw [← List.countP_eq_length_filter, hfst, List.zipIdx_map_fst]

theorem length_leftovers (tags : List PlacedTag) :
    (leftovers tags).length = (leftOpen tags).length := by
  rw [← map_fst_leftovers, List.length_map]

/-- As many closing tags have no partner as are taken off the stack below. -/
theorem length_strays (tags : List PlacedTag) : (strays tags).length = deficit tags := by
  have hopenings := (openings_perm tags).length_eq
  have hclosings := (closings_perm tags).length_eq
  have hcount := openings_add_deficit tags
  -- The two sides of a pair are as many, so they cancel.
  rw [openingTags, length_filter_kind] at hopenings
  rw [closingTags, length_filter_kind] at hclosings
  simp only [List.length_append, List.length_map, length_leftovers] at hopenings hclosings
  rw [openings, closings] at hcount
  omega

/-- The deficit is the largest excess of closing tags over opening ones in a prefix. -/
theorem isGreatest_deficit (tags : List PlacedTag) :
    IsGreatest (Set.range fun n => (closings (tags.take n) : Int) - openings (tags.take n))
      (deficit tags) := by
  constructor
  · rcases exists_closings_take_eq tags with ⟨n, hn⟩
    refine ⟨n, ?_⟩
    simp only [hn, Int.natCast_add]
    omega
  · rintro excess ⟨n, rfl⟩
    have hle := closings_take_le tags n
    simp only
    omega

-- How many tags are taken off the stack below depends on nothing but which of them open and which
-- close.
theorem deficit_congr {tags others : List PlacedTag}
    (h : tags.map (·.tag.kind) = others.map (·.tag.kind)) : deficit tags = deficit others := by
  induction tags generalizing others with
  | nil =>
      cases others with
      | nil => rfl
      | cons other others => cases h
  | cons placed tags ih =>
      cases others with
      | nil => cases h
      | cons other others =>
          rw [List.map_cons, List.map_cons, List.cons.injEq] at h
          rw [deficit, deficit, h.1, ih h.2]

/-- How many tags are of a kind depends on nothing but their kinds. -/
theorem countP_kind_congr {tags others : List PlacedTag}
    (h : tags.map (·.tag.kind) = others.map (·.tag.kind)) (kind : TagKind) :
    tags.countP (·.tag.kind = kind) = others.countP (·.tag.kind = kind) := by
  have hmap : ∀ list : List PlacedTag,
      list.countP (·.tag.kind = kind) = (list.map (·.tag.kind)).countP (· = kind) := by
    intro list
    rw [List.countP_map]
    rfl
  rw [hmap, hmap, h]

/-- How many are left open does so, too. -/
theorem length_leftOpen_congr {tags others : List PlacedTag}
    (h : tags.map (·.tag.kind) = others.map (·.tag.kind)) :
    (leftOpen tags).length = (leftOpen others).length := by
  have htags := openings_add_deficit tags
  have hothers := openings_add_deficit others
  have hopenings : openings tags = openings others := countP_kind_congr h .opening
  have hclosings : closings tags = closings others := countP_kind_congr h .closing
  have hdeficit := deficit_congr h
  omega

theorem accounts_findings (void : List (List Char)) (source : List Char) :
    Accounts (nestingTags void source) (findings void source) :=
  accounts_reported fun _ => kind_of_mem_nestingTags

/-- A check comes up with as many unexpected tags as are taken off the empty stack. -/
theorem countP_isUnexpected (void : List (List Char)) (source : List Char) :
    (findings void source).countP Finding.isUnexpected = deficit (nestingTags void source) := by
  rw [List.countP_eq_length_filter, (accounts_findings void source).unexpected_eq,
    List.length_map, length_strays]

/-- It lists as many unclosed tags as are left on the stack. -/
theorem length_openTags (void : List (List Char)) (source : List Char) :
    ((findings void source).flatMap Finding.openTags).length
      = (leftOpen (nestingTags void source)).length := by
  rw [(accounts_findings void source).openTags_eq, List.length_map, length_leftovers]

/-- A check accounts for every tag of its source, and how many tags are unexpected and how many are
    left open follows from their order. Sources whose tags open and close in the same order have
    the same numbers, whatever the names are. -/
theorem tags_conserved (void : List (List Char)) (source : List Char) :
    let tags := nestingTags void source
    let reports := findings void source
    Accounts tags reports ∧
      IsGreatest (Set.range fun n => (closings (tags.take n) : Int) - openings (tags.take n))
        (reports.countP Finding.isUnexpected) ∧
      ((reports.flatMap Finding.openTags).length : Int)
        = openings tags - closings tags + reports.countP Finding.isUnexpected ∧
      ∀ (void' : List (List Char)) (source' : List Char),
        (nestingTags void' source').map (·.tag.kind) = tags.map (·.tag.kind) →
          (findings void' source').countP Finding.isUnexpected
              = reports.countP Finding.isUnexpected ∧
            ((findings void' source').flatMap Finding.openTags).length
              = (reports.flatMap Finding.openTags).length := by
  refine ⟨accounts_findings void source, ?_, ?_, fun void' source' hkinds => ?_⟩
  · rw [countP_isUnexpected]
    exact isGreatest_deficit _
  · rw [countP_isUnexpected, length_openTags]
    -- Opening and stray tags are as many as closing ones and those left open.
    have hcount := openings_add_deficit (nestingTags void source)
    omega
  · rw [countP_isUnexpected, countP_isUnexpected, length_openTags, length_openTags]
    exact ⟨deficit_congr hkinds, length_leftOpen_congr hkinds⟩

/-- Crossed tags between a stray one and one left open, and the same tags under a single name, with
    which only the mismatches go. -/
theorem tags_conserved_one_name :
    (nestingTags [] "</a>\n<a><a></a></a><a>".toList).map (·.tag.kind)
        = (nestingTags [] "</p>\n<q><b></q></b><i>".toList).map (·.tag.kind) ∧
      (findings [] "</a>\n<a><a></a></a><a>".toList).countP Finding.isUnexpected
        = (findings [] "</p>\n<q><b></q></b><i>".toList).countP Finding.isUnexpected ∧
      ((findings [] "</a>\n<a><a></a></a><a>".toList).flatMap Finding.openTags).length
        = ((findings [] "</p>\n<q><b></q></b><i>".toList).flatMap Finding.openTags).length ∧
      (findings [] "</p>\n<q><b></q></b><i>".toList).countP Finding.isMismatched = 2 ∧
      (findings [] "</a>\n<a><a></a></a><a>".toList).countP Finding.isMismatched = 0 := by
  have hkinds : (nestingTags [] "</a>\n<a><a></a></a><a>".toList).map (·.tag.kind)
      = (nestingTags [] "</p>\n<q><b></q></b><i>".toList).map (·.tag.kind) := by
    decide +kernel
  rcases tags_conserved [] "</p>\n<q><b></q></b><i>".toList with ⟨_, _, _, hnames⟩
  rcases hnames [] "</a>\n<a><a></a></a><a>".toList hkinds with ⟨hunexpected, hopen⟩
  exact ⟨hkinds, hunexpected, hopen, by decide +kernel, by decide +kernel⟩

end TagNesting
