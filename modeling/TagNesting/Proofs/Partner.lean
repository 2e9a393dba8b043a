import Mathlib.Data.List.Basic
import Mathlib.Data.Nat.Find
import TagNesting.Proofs.Walk

/-!
# Partners

What a check reports, said without a stack. An opening tag and a later closing tag are
partners when the tags strictly between them are balanced by kind alone: none of their
prefixes has more closing tags than opening ones, and in all there are as many of the one
as of the other. Names play no part in who is whose partner. They decide only what is
said about it: nothing where partners agree, a mismatch where they do not, and a closing
tag without a partner is unexpected. The opening tags without a partner are the unclosed
ones.

A stack finds the partners because the tags that stand on it are those whose partner has
not come yet. Two functions of a list of tags carry the argument. `deficit` is the number
of tags the list takes off the stack below it, the largest excess of closing tags over
opening ones in any of its prefixes, and `leftOpen` holds the tags it leaves on top.
`walk_stack` says that a walk does just that to any stack. An opening tag stays on the
stack when no deficit follows it, and the tag on top is the one behind which all is
balanced, which makes it the partner of a closing tag that comes next.

## Main definitions

* `openings`, `closings`: How many tags of a list open or close an element.
* `Balanced`: Tags balanced by kind alone.
* `Partners`: An opening tag and the closing tag that belongs to it, by their places.
* `partnerAt?`, `partner?`: The partner of a closing tag, with its place and without.
* `verdict?`, `verdicts`: What there is to say about the closing tags.
* `unpartnered`: The opening tags without a partner.
* `unclosedVerdict?`: What there is to say about these.
* `deficit`: How many tags a list takes off the stack below it.
* `leftOpen`: The tags a list leaves on the stack.

## Theorems

* `closings_take_le`, `exists_closings_take_eq`: The deficit is the largest excess.
* `openings_add_deficit`: Every tag is taken off, taken off below, or left.
* `balanced_iff`: A list is balanced when it takes nothing off and leaves nothing.
* `walk_stack`: What a walk does to the stack.
* `partners_left_unique`, `partners_right_unique`: A tag has one partner at most.
* `partner?_eq_getLast?`: The partner of a closing tag is on top of the stack.
* `unpartnered_eq_leftOpen`: What is left on the stack has no partner.
* `found_eq_verdicts`, `unclosedFinding?_eq_verdict`: What a walk reports, tag by tag.
* `findings_eq_verdicts`: A check reports the verdicts on all tags.
-/

namespace TagNesting

/-- The number of tags that open an element. -/
def openings (tags : List PlacedTag) : Nat := tags.countP (·.tag.kind = .opening)

/-- The number of tags that close an element. -/
def closings (tags : List PlacedTag) : Nat := tags.countP (·.tag.kind = .closing)

/-- Tags balanced by kind alone. -/
structure Balanced (tags : List PlacedTag) : Prop where
  /-- No prefix has more closing tags than opening ones. -/
  closings_le : ∀ n, closings (tags.take n) ≤ openings (tags.take n)
  /-- In all there are as many of the one as of the other. -/
  closings_eq : closings tags = openings tags

/-- The opening tag at place `i` and the closing tag at place `j` belong together. -/
structure Partners (tags : List PlacedTag) (i j : Nat) : Prop where
  /-- The opening tag comes first. -/
  lt : i < j
  /-- The one opens an element. -/
  opens : tags[i]?.map (·.tag.kind) = some .opening
  /-- The other closes one. -/
  closes : tags[j]?.map (·.tag.kind) = some .closing
  /-- What stands strictly between them is balanced. -/
  balanced : Balanced ((tags.take j).drop (i + 1))

/-- Past its end a list has no further prefixes, so finitely many decide. -/
instance (tags : List PlacedTag) : Decidable (Balanced tags) :=
  decidable_of_iff
    ((∀ n < tags.length + 1, closings (tags.take n) ≤ openings (tags.take n)) ∧
      closings tags = openings tags)
    ⟨fun h => ⟨fun n => by
        by_cases hn : n < tags.length + 1
        · exact h.1 n hn
        · rw [List.take_of_length_le (by omega)]
          exact le_of_eq h.2, h.2⟩,
      fun h => ⟨fun n _ => h.closings_le n, h.closings_eq⟩⟩

instance (tags : List PlacedTag) (i j : Nat) : Decidable (Partners tags i j) :=
  decidable_of_iff
    (i < j ∧ tags[i]?.map (·.tag.kind) = some .opening ∧
      tags[j]?.map (·.tag.kind) = some .closing ∧ Balanced ((tags.take j).drop (i + 1)))
    ⟨fun ⟨lt, opens, closes, balanced⟩ => ⟨lt, opens, closes, balanced⟩,
      fun ⟨lt, opens, closes, balanced⟩ => ⟨lt, opens, closes, balanced⟩⟩

/-- The partner of the closing tag at place `j`, with its place. -/
def partnerAt? (tags : List PlacedTag) (j : Nat) : Option (PlacedTag × Nat) :=
  tags.zipIdx.find? fun (_, i) => Partners tags i j

/-- The partner of the closing tag at place `j`. -/
def partner? (tags : List PlacedTag) (j : Nat) : Option PlacedTag :=
  (partnerAt? tags j).map Prod.fst

/-- What there is to say about the tag at place `j`: nothing unless it is a closing tag, and
    then nothing if its partner has the same name. -/
def verdict? (tags : List PlacedTag) (placed : PlacedTag) (j : Nat) : Option Finding :=
  if placed.tag.kind = .closing then
    match partner? tags j with
    | some opening =>
        if opening.tag.name = placed.tag.name then none
        else
          some (.mismatchedClosing placed.line placed.tag.name placed.tag.span opening.opened)
    | none => some (.unexpectedClosing placed.line placed.tag.name placed.tag.span)
  else none

/-- What there is to say about the closing tags, in their order. -/
def verdicts (tags : List PlacedTag) : List Finding :=
  tags.zipIdx.filterMap fun (placed, j) => verdict? tags placed j

/-- The opening tags that have no partner, in their order. -/
def unpartnered (tags : List PlacedTag) : List PlacedTag :=
  (tags.zipIdx.filter fun (placed, i) =>
    placed.tag.kind = .opening ∧ ∀ j < tags.length, ¬ Partners tags i j).map Prod.fst

/-- What there is to say about the opening tags that have no partner, if there are any. -/
def unclosedVerdict? (tags : List PlacedTag) : Option Finding :=
  match unpartnered tags with
  | [] => none
  | left => some (.unclosed (left.map PlacedTag.opened))

/-- The number of tags that a list takes off the stack below it. -/
def deficit : List PlacedTag → Nat
  | [] => 0
  | placed :: rest =>
      match placed.tag.kind with
      | .opening => deficit rest - 1
      | .closing => deficit rest + 1
      | .selfClosing => deficit rest

/-- The tags that a list leaves on the stack, in their order: those behind which there is no
    deficit. -/
def leftOpen : List PlacedTag → List PlacedTag
  | [] => []
  | placed :: rest =>
      if placed.tag.kind = .opening ∧ deficit rest = 0 then placed :: leftOpen rest
      else leftOpen rest

theorem openings_nil : openings [] = 0 := rfl

theorem closings_nil : closings [] = 0 := rfl

-- Both counts are counts of a list, so they go up tag by tag and add up over parts.
theorem openings_cons (placed : PlacedTag) (rest : List PlacedTag) :
    openings (placed :: rest)
      = openings rest + if placed.tag.kind = .opening then 1 else 0 := by
  simp only [openings, List.countP_cons, decide_eq_true_eq]

theorem closings_cons (placed : PlacedTag) (rest : List PlacedTag) :
    closings (placed :: rest)
      = closings rest + if placed.tag.kind = .closing then 1 else 0 := by
  simp only [closings, List.countP_cons, decide_eq_true_eq]

theorem openings_append (tags more : List PlacedTag) :
    openings (tags ++ more) = openings tags + openings more := List.countP_append

theorem closings_append (tags more : List PlacedTag) :
    closings (tags ++ more) = closings tags + closings more := List.countP_append

/-- No prefix has more closing tags than opening ones by more than the deficit. -/
theorem closings_take_le (tags : List PlacedTag) (n : Nat) :
    closings (tags.take n) ≤ openings (tags.take n) + deficit tags := by
  induction tags generalizing n with
  | nil => rw [List.take_nil]; exact Nat.zero_le _
  | cons placed rest ih =>
      cases n with
      | zero => exact Nat.zero_le _
      | succ m =>
          have hm := ih m
          rw [List.take_succ_cons, openings_cons, closings_cons]
          cases hk : placed.tag.kind <;>
            simp only [deficit, hk, reduceCtorEq, if_true, if_false] <;> omega

/-- Some prefix reaches the deficit. -/
theorem exists_closings_take_eq (tags : List PlacedTag) :
    ∃ n, closings (tags.take n) = openings (tags.take n) + deficit tags := by
  induction tags with
  | nil => exact ⟨0, rfl⟩
  | cons placed rest ih =>
      rcases ih with ⟨n, hn⟩
      by_cases hzero : placed.tag.kind = .opening ∧ deficit rest = 0
      · -- The opening tag makes up for nothing, so the empty prefix is the worst.
        refine ⟨0, ?_⟩
        simp only [List.take_zero, deficit, hzero.1, hzero.2]
        rfl
      · refine ⟨n + 1, ?_⟩
        rw [List.take_succ_cons, openings_cons, closings_cons]
        cases hk : placed.tag.kind <;>
          simp only [deficit, hk, true_and, reduceCtorEq, if_true, if_false] at hzero ⊢ <;>
          omega

/-- A list has no deficit exactly when none of its prefixes has more closing tags than opening
    ones. -/
theorem deficit_eq_zero_iff (tags : List PlacedTag) :
    deficit tags = 0 ↔ ∀ n, closings (tags.take n) ≤ openings (tags.take n) := by
  constructor
  · intro h n
    have := closings_take_le tags n
    omega
  · intro h
    rcases exists_closings_take_eq tags with ⟨n, hn⟩
    have := h n
    omega

/-- The opening tags of a list and those it takes from below are the ones it closes and the
    ones it leaves. -/
theorem openings_add_deficit (tags : List PlacedTag) :
    openings tags + deficit tags = closings tags + (leftOpen tags).length := by
  induction tags with
  | nil => rfl
  | cons placed rest ih =>
      rw [openings_cons, closings_cons, leftOpen]
      -- Only an opening tag without a deficit behind it is left.
      by_cases hzero : deficit rest = 0
      · cases hk : placed.tag.kind <;>
          simp only [deficit, hk, hzero, reduceCtorEq, and_self, false_and, if_true, if_false,
            List.length_cons] <;> omega
      · cases hk : placed.tag.kind <;>
          simp only [deficit, hk, hzero, reduceCtorEq, and_false, if_true, if_false] <;> omega

/-- A list is balanced when it takes nothing off the stack and leaves nothing on it. -/
theorem balanced_iff (tags : List PlacedTag) :
    Balanced tags ↔ deficit tags = 0 ∧ leftOpen tags = [] := by
  have hcount := openings_add_deficit tags
  constructor
  · intro h
    have hzero := (deficit_eq_zero_iff tags).mpr h.closings_le
    have heq := h.closings_eq
    exact ⟨hzero, List.length_eq_zero_iff.mp (by omega)⟩
  · rintro ⟨hzero, hleft⟩
    rw [hleft, List.length_nil] at hcount
    exact ⟨(deficit_eq_zero_iff tags).mp hzero, by omega⟩

/-- What a walk does to a stack: the list takes as many tags off it as its deficit says and
    puts on top those that it leaves open. -/
theorem walk_stack (opened : List OpenTag) (tags : List PlacedTag)
    (hkind : ∀ placed ∈ tags, placed.tag.kind = .opening ∨ placed.tag.kind = .closing) :
    (walk opened tags).2
      = ((leftOpen tags).map PlacedTag.opened).reverse ++ opened.drop (deficit tags) := by
  induction tags generalizing opened with
  | nil => rfl
  | cons placed rest ih =>
      have hrest := fun stack => ih stack fun other h => hkind other (List.mem_cons_of_mem _ h)
      rw [walk_cons]
      rcases hkind placed List.mem_cons_self with hk | hk
      · rw [stepAt_opening hk]
        simp only [hrest, leftOpen, deficit, hk, true_and]
        -- With a deficit behind it the tag is taken off again, otherwise it stays.
        cases hd : deficit rest with
        | zero =>
            simp only [if_true, List.map_cons, List.reverse_cons, List.append_assoc,
              List.singleton_append, List.drop_zero, Nat.zero_sub]
        | succ d =>
            simp only [Nat.succ_ne_zero, if_false, List.drop_succ_cons, Nat.add_sub_cancel]
      · cases opened with
        | nil => simp only [stepAt_stray hk, hrest, leftOpen, hk, reduceCtorEq, false_and,
            if_false, List.drop_nil]
        | cons top below => simp only [stepAt_closing hk, hrest, leftOpen, deficit, hk,
            reduceCtorEq, false_and, if_false, List.drop_succ_cons]

/-- The tag that a list leaves on top is the opening tag behind which it is balanced. -/
theorem getLast?_leftOpen_eq_some_iff (tags : List PlacedTag) (opening : PlacedTag) :
    (leftOpen tags).getLast? = some opening ↔
      ∃ i, tags[i]? = some opening ∧ opening.tag.kind = .opening ∧
        Balanced (tags.drop (i + 1)) := by
  induction tags with
  | nil =>
      simp only [leftOpen, List.getLast?_nil, List.getElem?_nil, reduceCtorEq, false_and,
        exists_false]
  | cons placed rest ih =>
      -- The place is the first one or lies in the rest.
      have hplace : (∃ i, (placed :: rest)[i]? = some opening ∧ opening.tag.kind = .opening ∧
            Balanced ((placed :: rest).drop (i + 1)))
          ↔ (placed = opening ∧ opening.tag.kind = .opening ∧ Balanced rest) ∨
            (leftOpen rest).getLast? = some opening := by
        rw [ih]
        constructor
        · rintro ⟨i, hi, hk, hb⟩
          cases i with
          | zero => exact Or.inl ⟨Option.some.inj hi, hk, hb⟩
          | succ i => exact Or.inr ⟨i, hi, hk, hb⟩
        · rintro (⟨rfl, hk, hb⟩ | ⟨i, hi, hk, hb⟩)
          · exact ⟨0, rfl, hk, hb⟩
          · exact ⟨i + 1, hi, hk, hb⟩
      rw [hplace, balanced_iff, leftOpen]
      cases hleft : leftOpen rest with
      | nil =>
          by_cases hp : placed.tag.kind = .opening ∧ deficit rest = 0
          · rw [if_pos hp]
            simp only [List.getLast?_singleton, Option.some.injEq, List.getLast?_nil, hp.2,
              and_self, and_true, reduceCtorEq, or_false]
            constructor
            · rintro rfl
              exact ⟨rfl, hp.1⟩
            · exact fun h => h.1
          · rw [if_neg hp]
            simp only [List.getLast?_nil, reduceCtorEq, and_true, or_false, false_iff]
            rintro ⟨rfl, hk, hd⟩
            exact hp ⟨hk, hd⟩
      | cons top below =>
          simp only [reduceCtorEq, and_false, false_or]
          split
          · rw [List.getLast?_cons_cons]
          · rfl

/-- A prefix that goes on with a closing tag has one closing tag more. -/
theorem closings_take_succ {tags : List PlacedTag} {n : Nat}
    (h : tags[n]?.map (·.tag.kind) = some .closing) :
    closings (tags.take (n + 1)) = closings (tags.take n) + 1 ∧
      openings (tags.take (n + 1)) = openings (tags.take n) := by
  rcases Option.map_eq_some_iff.mp h with ⟨placed, hplaced, hk⟩
  rw [List.take_add_one, hplaced, closings_append, openings_append]
  simp only [Option.toList_some, closings_cons, openings_cons, hk, reduceCtorEq, if_true,
    if_false]
  exact ⟨rfl, rfl⟩

/-- One that goes on with an opening tag has one opening tag more. -/
theorem openings_take_succ {tags : List PlacedTag} {n : Nat}
    (h : tags[n]?.map (·.tag.kind) = some .opening) :
    closings (tags.take (n + 1)) = closings (tags.take n) ∧
      openings (tags.take (n + 1)) = openings (tags.take n) + 1 := by
  rcases Option.map_eq_some_iff.mp h with ⟨placed, hplaced, hk⟩
  rw [List.take_add_one, hplaced, closings_append, openings_append]
  simp only [Option.toList_some, closings_cons, openings_cons, hk, reduceCtorEq, if_true,
    if_false]
  exact ⟨rfl, rfl⟩

/-- Of two opening tags before a closing tag, the first cannot be its partner when the second
    is: what lies between them would close one tag more than it opens. -/
theorem not_lt_of_partners {tags : List PlacedTag} {i i' j : Nat}
    (h : Partners tags i j) (h' : Partners tags i' j) : ¬ i < i' := by
  intro hlt
  have hj := h'.lt
  -- The second opening tag stands between the first and the closing tag. What comes before it
  -- there closes no more than it opens, and what comes behind it is balanced.
  set between := (tags.take j).drop (i + 1) with hbetween
  have hdrop : between.drop (i' - i) = (tags.take j).drop (i' + 1) := by
    rw [hbetween, List.drop_drop]
    congr 1
    omega
  have hopens : between[i' - i - 1]?.map (·.tag.kind) = some .opening := by
    rw [hbetween, List.getElem?_drop, List.getElem?_take_of_lt (by omega),
      show i + 1 + (i' - i - 1) = i' by omega]
    exact h'.opens
  have hcut := openings_take_succ hopens
  rw [show i' - i - 1 + 1 = i' - i by omega] at hcut
  have hinner := h'.balanced.closings_eq
  have houter := h.balanced.closings_eq
  rw [← hbetween, ← List.take_append_drop (i' - i) between, closings_append, openings_append,
    hdrop] at houter
  have hprefix : closings (between.take (i' - i - 1)) ≤ openings (between.take (i' - i - 1)) :=
    h.balanced.closings_le (i' - i - 1)
  omega

/-- Of two closing tags behind an opening tag, the second cannot be its partner when the first
    is: what comes before the second would begin with more closing tags than opening ones. -/
theorem not_lt_of_partners_right {tags : List PlacedTag} {i j j' : Nat}
    (h : Partners tags i j) (h' : Partners tags i j') : ¬ j < j' := by
  intro hlt
  have hi := h.lt
  -- The first closing tag stands between the opening tag and the second. The tags before it
  -- are balanced, so with it they have one closing tag too many.
  set between := (tags.take j').drop (i + 1) with hbetween
  have htake : between.take (j - (i + 1)) = (tags.take j).drop (i + 1) := by
    rw [hbetween, List.drop_take, List.take_take, List.drop_take]
    congr 1
    omega
  have hcloses : between[j - (i + 1)]?.map (·.tag.kind) = some .closing := by
    rw [hbetween, List.getElem?_drop, List.getElem?_take_of_lt (by omega),
      show i + 1 + (j - (i + 1)) = j by omega]
    exact h.closes
  have hcut := closings_take_succ hcloses
  rw [htake] at hcut
  have hinner := h.balanced.closings_eq
  have hprefix : closings (between.take (j - (i + 1) + 1))
      ≤ openings (between.take (j - (i + 1) + 1)) := h'.balanced.closings_le (j - (i + 1) + 1)
  omega

/-- A closing tag has one partner at most. -/
theorem partners_left_unique {tags : List PlacedTag} {i i' j : Nat}
    (h : Partners tags i j) (h' : Partners tags i' j) : i = i' := by
  have := not_lt_of_partners h h'
  have := not_lt_of_partners h' h
  omega

/-- So has an opening tag. -/
theorem partners_right_unique {tags : List PlacedTag} {i j j' : Nat}
    (h : Partners tags i j) (h' : Partners tags i j') : j = j' := by
  have := not_lt_of_partners_right h h'
  have := not_lt_of_partners_right h' h
  omega

/-- A closing tag has the partner that stands at the one place that is a partner. -/
theorem partnerAt?_eq_some_iff (tags : List PlacedTag) (j : Nat) (opening : PlacedTag × Nat) :
    partnerAt? tags j = some opening ↔
      Partners tags opening.2 j ∧ tags[opening.2]? = some opening.1 := by
  constructor
  · intro hfound
    have hp := List.find?_some hfound
    have hmem := List.mem_of_find?_eq_some hfound
    exact ⟨of_decide_eq_true hp, List.mem_zipIdx_iff_getElem?.mp hmem⟩
  · rintro ⟨hp, hi⟩
    have hmem : opening ∈ tags.zipIdx := List.mem_zipIdx_iff_getElem?.mpr hi
    cases hfound : partnerAt? tags j with
    | none => exact absurd (decide_eq_true hp) (List.find?_eq_none.mp hfound _ hmem)
    | some found =>
        have hp' := List.find?_some hfound
        have hi' := List.mem_zipIdx_iff_getElem?.mp (List.mem_of_find?_eq_some hfound)
        -- The search takes the first place, but there is only one.
        have hplace : found.2 = opening.2 := partners_left_unique (of_decide_eq_true hp') hp
        rw [hplace, hi, Option.some.injEq] at hi'
        exact congrArg some (Prod.ext hi'.symm hplace)

/-- The partner of a closing tag is the opening tag at the one place that is a partner. -/
theorem partner?_eq_some_iff (tags : List PlacedTag) (j : Nat) (opening : PlacedTag) :
    partner? tags j = some opening ↔ ∃ i, Partners tags i j ∧ tags[i]? = some opening := by
  rw [partner?, Option.map_eq_some_iff]
  constructor
  · rintro ⟨found, hfound, rfl⟩
    exact ⟨found.2, (partnerAt?_eq_some_iff tags j found).mp hfound⟩
  · rintro ⟨i, h⟩
    exact ⟨(opening, i), (partnerAt?_eq_some_iff tags j (opening, i)).mpr h, rfl⟩

/-- The partner of a closing tag is the tag that those before it leave on top. -/
theorem partner?_eq_getLast? {tags : List PlacedTag} {placed : PlacedTag} {j : Nat}
    (hj : tags[j]? = some placed) (hk : placed.tag.kind = .closing) :
    partner? tags j = (leftOpen (tags.take j)).getLast? := by
  ext opening
  rw [partner?_eq_some_iff, getLast?_leftOpen_eq_some_iff]
  constructor
  · rintro ⟨i, hp, hi⟩
    have hopens := hp.opens
    rw [hi, Option.map_some, Option.some.injEq] at hopens
    exact ⟨i, (List.getElem?_take_of_lt hp.lt).trans hi, hopens, hp.balanced⟩
  · rintro ⟨i, hi, hopens, hbalanced⟩
    have hlt : i < j := by
      by_contra hge
      rw [List.getElem?_eq_none (le_trans (List.length_take_le _ _) (Nat.le_of_not_lt hge))]
        at hi
      exact absurd hi (by simp only [reduceCtorEq, not_false_eq_true])
    rw [List.getElem?_take_of_lt hlt] at hi
    refine ⟨i, ⟨hlt, ?_, ?_, hbalanced⟩, hi⟩
    · rw [hi, Option.map_some, hopens]
    · rw [hj, Option.map_some, hk]

-- A longer prefix can only have an excess that a shorter one lacks by ending in a closing tag.
theorem closes_of_excess {tags : List PlacedTag} {m : Nat}
    (hm : closings (tags.take m) ≤ openings (tags.take m))
    (hexcess : openings (tags.take (m + 1)) < closings (tags.take (m + 1))) :
    tags[m]?.map (·.tag.kind) = some .closing := by
  rw [List.take_add_one, closings_append, openings_append] at hexcess
  cases hget : tags[m]? with
  | none =>
      rw [hget, Option.toList_none, closings_nil, openings_nil] at hexcess
      omega
  | some placed =>
      rw [hget, Option.toList_some, closings_cons, openings_cons, closings_nil, openings_nil]
        at hexcess
      cases hk : placed.tag.kind with
      | closing => rw [Option.map_some, hk]
      | opening =>
          simp only [hk, reduceCtorEq, if_true, if_false] at hexcess
          omega
      | selfClosing =>
          simp only [hk, reduceCtorEq, if_false] at hexcess
          omega

/-- A list with a deficit has a closing tag before which it is balanced: the one that ends its
    first prefix with an excess. -/
theorem exists_balanced_take {tags : List PlacedTag} (h : deficit tags ≠ 0) :
    ∃ m, tags[m]?.map (·.tag.kind) = some .closing ∧ Balanced (tags.take m) := by
  rw [Ne, deficit_eq_zero_iff, not_forall] at h
  -- The shortest prefix with an excess; all before it have none.
  have hfind := Nat.find_spec h
  have hmin : ∀ m < Nat.find h, closings (tags.take m) ≤ openings (tags.take m) :=
    fun m hm => not_not.mp (Nat.find_min h hm)
  cases hn : Nat.find h with
  | zero =>
      rw [hn] at hfind
      exact absurd (Nat.le_refl 0) hfind
  | succ m =>
      rw [hn] at hfind hmin
      have hm := hmin m (Nat.lt_succ_self m)
      have hcloses := closes_of_excess hm (Nat.lt_of_not_le hfind)
      have hcut := closings_take_succ hcloses
      refine ⟨m, hcloses, fun n => ?_, by omega⟩
      rw [List.take_take]
      exact hmin (min n m) (by omega)

/-- An opening tag stays open exactly when no later closing tag is its partner. -/
theorem deficit_drop_eq_zero_iff {tags : List PlacedTag} {i : Nat}
    (hopens : tags[i]?.map (·.tag.kind) = some .opening) :
    deficit (tags.drop (i + 1)) = 0 ↔ ∀ j < tags.length, ¬ Partners tags i j := by
  constructor
  · -- A partner would follow on balanced tags and so make for an excess.
    intro hzero j _ hp
    have hlt := hp.lt
    have hbalanced := hp.balanced.closings_eq
    have hcloses : (tags.drop (i + 1))[j - (i + 1)]?.map (·.tag.kind) = some .closing := by
      rw [List.getElem?_drop, show i + 1 + (j - (i + 1)) = j by omega]
      exact hp.closes
    have hcut := closings_take_succ hcloses
    rw [← List.drop_take] at hcut
    have := (deficit_eq_zero_iff _).mp hzero (j - (i + 1) + 1)
    omega
  · -- Where there is a deficit, the tag that makes the first excess is the partner.
    intro hnone
    by_contra hdeficit
    rcases exists_balanced_take hdeficit with ⟨m, hcloses, hbalanced⟩
    rw [List.getElem?_drop] at hcloses
    have hlength : i + 1 + m < tags.length := by
      rcases Option.map_eq_some_iff.mp hcloses with ⟨_, hget, _⟩
      exact (List.getElem?_eq_some_iff.mp hget).1
    refine hnone (i + 1 + m) hlength ⟨by omega, hopens, hcloses, ?_⟩
    rw [List.drop_take, show i + 1 + m - (i + 1) = m by omega]
    exact hbalanced

/-- The tags left open are the opening ones behind which there is no deficit. -/
theorem leftOpen_eq_filter (tags : List PlacedTag) :
    leftOpen tags
      = (tags.zipIdx.filter fun (placed, i) =>
          placed.tag.kind = .opening ∧ deficit (tags.drop (i + 1)) = 0).map Prod.fst := by
  induction tags with
  | nil => rfl
  | cons placed rest ih =>
      rw [leftOpen, ih, List.zipIdx_cons, List.filter_cons, List.zipIdx_succ, List.filter_map]
      by_cases hp : placed.tag.kind = .opening ∧ deficit rest = 0
      · simp only [hp, and_self, if_true, Nat.zero_add, List.drop_succ_cons, List.drop_zero,
          decide_true, List.map_cons, List.map_map]
        rfl
      · simp only [Nat.zero_add, List.drop_succ_cons, List.drop_zero, hp, decide_false,
          Bool.false_eq_true, if_false, List.map_map]
        rfl

/-- What a list leaves on the stack are its opening tags that have no partner. -/
theorem unpartnered_eq_leftOpen (tags : List PlacedTag) : unpartnered tags = leftOpen tags := by
  rw [leftOpen_eq_filter, unpartnered]
  congr 1
  refine List.filter_congr ?_
  rintro ⟨placed, i⟩ hmem
  have hi := List.mem_zipIdx_iff_getElem?.mp hmem
  by_cases hk : placed.tag.kind = .opening
  · have hopens : tags[i]?.map (·.tag.kind) = some .opening := by
      rw [hi, Option.map_some, hk]
    simp only [hk, true_and, deficit_drop_eq_zero_iff hopens]
  · simp only [hk, false_and]

/-- A closing tag takes its partner off the stack, if it has one. The partner is what the stack has
    on top, and there is none where the stack is empty. -/
theorem stepAt_partner {tags : List PlacedTag} {placed : PlacedTag} {j : Nat}
    (hj : tags[j]? = some placed) (hk : placed.tag.kind = .closing) :
    (stepAt ((leftOpen (tags.take j)).map PlacedTag.opened).reverse placed).1
      = (partner? tags j).elim (.stray placed) fun opening => .closes placed opening.opened := by
  rw [partner?_eq_getLast? hj hk]
  cases hlast : (leftOpen (tags.take j)).getLast? with
  | none =>
      rw [List.getLast?_eq_none_iff.mp hlast, List.map_nil, List.reverse_nil, stepAt_stray hk]
      rfl
  | some opening =>
      rcases List.getLast?_eq_some_iff.mp hlast with ⟨below, hbelow⟩
      rw [hbelow, List.map_append, List.reverse_append, List.map_singleton,
        List.reverse_singleton, List.singleton_append, stepAt_closing hk]
      rfl

/-- The finding at a tag, on the stack that those before it leave, is the verdict on it. -/
theorem finding?_stepAt {tags : List PlacedTag} {placed : PlacedTag} {j : Nat}
    (hj : tags[j]? = some placed)
    (hkind : placed.tag.kind = .opening ∨ placed.tag.kind = .closing) :
    (stepAt ((leftOpen (tags.take j)).map PlacedTag.opened).reverse placed).1.finding?
      = verdict? tags placed j := by
  rcases hkind with hk | hk
  · rw [stepAt_opening hk, verdict?, hk]
    rfl
  · rw [verdict?, if_pos hk, stepAt_partner hj hk]
    cases partner? tags j with
    | none => rfl
    | some opening => rfl

/-- The steps of a walk from the empty stack. At each place the stack holds what the tags before
    it leave open. -/
theorem walk_steps_leftOpen {tags : List PlacedTag}
    (hkind : ∀ placed ∈ tags, placed.tag.kind = .opening ∨ placed.tag.kind = .closing) :
    (walk [] tags).1 = tags.zipIdx.map fun (placed, j) =>
      (stepAt ((leftOpen (tags.take j)).map PlacedTag.opened).reverse placed).1 := by
  rw [walk_steps]
  refine List.map_congr_left ?_
  rintro ⟨placed, j⟩ _
  have hbefore := walk_stack [] (tags.take j)
    fun other h => hkind other (List.mem_of_mem_take h)
  rw [List.drop_nil, List.append_nil] at hbefore
  exact congrArg (fun opened => (stepAt opened placed).1) hbefore

/-- What a walk from the empty stack reports are the verdicts on its closing tags. -/
theorem found_eq_verdicts {tags : List PlacedTag}
    (hkind : ∀ placed ∈ tags, placed.tag.kind = .opening ∨ placed.tag.kind = .closing) :
    found [] tags = verdicts tags := by
  rw [found, walk_steps_leftOpen hkind, List.filterMap_map, verdicts]
  refine List.filterMap_congr ?_
  rintro ⟨placed, j⟩ hmem
  have hj := List.mem_zipIdx_iff_getElem?.mp hmem
  exact finding?_stepAt hj (hkind placed (List.mem_of_getElem? hj))

/-- What it reports at its end is the verdict on the opening tags without a partner. -/
theorem unclosedFinding?_eq_verdict {tags : List PlacedTag}
    (hkind : ∀ placed ∈ tags, placed.tag.kind = .opening ∨ placed.tag.kind = .closing) :
    unclosedFinding? (walk [] tags).2 = unclosedVerdict? tags := by
  rw [walk_stack [] tags hkind, List.drop_nil, List.append_nil, unclosedVerdict?,
    unpartnered_eq_leftOpen]
  cases hleft : leftOpen tags with
  | nil => rfl
  | cons first more =>
      -- The stack has the tag opened last first, and the finding turns it around again.
      rw [unclosedFinding?_of_ne_nil, List.reverse_reverse]
      rw [Ne, List.reverse_eq_nil_iff, List.map_eq_nil_iff]
      exact List.cons_ne_nil _ _

/-- A check reports the verdicts on all closing tags, and behind them the opening tags that
    have no partner, if there are any. Partners belong together one to one, so there is one
    verdict on each tag. -/
theorem findings_eq_verdicts (void : List (List Char)) (source : List Char) :
    (∀ i i' j j', Partners (nestingTags void source) i j →
        Partners (nestingTags void source) i' j' → (i = i' ↔ j = j')) ∧
      findings void source
        = verdicts (nestingTags void source)
          ++ (unclosedVerdict? (nestingTags void source)).toList := by
  constructor
  · intro i i' j j' h h'
    constructor
    · rintro rfl
      exact partners_right_unique h h'
    · rintro rfl
      exact partners_left_unique h h'
  · have hkind := fun placed => @kind_of_mem_nestingTags void source placed
    rw [findings_eq, found_eq_verdicts hkind, unclosedFinding?_eq_verdict hkind]

end TagNesting
