import Mathlib.Data.List.Infix
import Mathlib.Data.List.TakeWhile
import TagNesting.Markup.Comment

/-!
# Block Comments

What a block comment is, apart from how it is searched for. It opens with a brace, blanks
and `/*`, it closes with `*/`, blanks and a brace, and between the two stands a body that
holds no line feed and nothing that closes. A text begins with a block comment just where
the search finds one at its front, and the comment does not depend on what stands behind it.

That is not so for a text that begins with none: what stands behind it can give it one. Two
things it cannot do. It cannot complete what opens or closes if it begins with a brace. And
if it begins with a comment, it does not matter with which: the body is closed either way,
if it is reached at all.

## Main definitions

* `Blank`: A text of blanks only.
* `opening`, `closing`: What opens a comment and what closes one.
* `blockComment`: A comment with the given body.
* `Holds`: A text holds what opens or closes a comment.
* `afterOpening?`: The rest of a text behind what opens a comment.
* `Reads`: A reader takes a shape off the front of a text.

## Theorems

* `reads_afterOpening?`, `reads_afterClosing?`: What is read at the two ends.
* `afterBody?_eq_some_iff`: A body goes up to the first thing that closes.
* `afterComment?_eq_some_iff`: A text begins with a comment.
* `afterComment?_append_of_eq_some`: A comment does not depend on what is behind it.
* `afterComment?_append_blockComment`: Nor does the lack of one on the body of a comment there.
-/

namespace TagNesting

/-- A text of blanks only. -/
def Blank (text : List Char) : Prop := ∀ c ∈ text, isBlank c = true

instance (text : List Char) : Decidable (Blank text) := List.decidableBAll _ text

/-- What opens a comment. -/
def opening (blanks : List Char) : List Char := '{' :: (blanks ++ ['/', '*'])

/-- What closes a comment. -/
def closing (blanks : List Char) : List Char := '*' :: '/' :: (blanks ++ ['}'])

/-- A block comment with the given body, and the given blanks inside its braces. -/
def blockComment (lead body trail : List Char) : List Char :=
  opening lead ++ body ++ closing trail

/-- A text holds one of the texts that a shape takes with blanks in it. -/
def Holds (shape : List Char → List Char) (text : List Char) : Prop :=
  ∃ blanks, Blank blanks ∧ shape blanks <:+: text

/-- The rest of a text behind what opens a comment: a brace, blanks and `/*`. -/
def afterOpening? : List Char → Option (List Char)
  | '{' :: rest =>
      match rest.dropWhile isBlank with
      | '/' :: '*' :: body => some body
      | _ => none
  | _ => none

/-- A reader takes a shape off the front of a text: it gives the rest of the text where one of the
    texts of the shape stands there, and nothing otherwise. -/
def Reads (read : List Char → Option (List Char)) (shape : List Char → List Char) : Prop :=
  ∀ text rest, read text = some rest ↔ ∃ blanks, Blank blanks ∧ text = shape blanks ++ rest

namespace Reads

variable {read : List Char → Option (List Char)} {shape : List Char → List Char}

/-- What a reader takes off the front of a text does not depend on what stands behind it. -/
theorem append (hread : Reads read shape) {text rest : List Char} (h : read text = some rest)
    (more : List Char) : read (text ++ more) = some (rest ++ more) := by
  rcases (hread _ _).mp h with ⟨blanks, hblanks, rfl⟩
  exact (hread _ _).mpr ⟨blanks, hblanks, List.append_assoc _ _ _⟩

/-- A text holds the shape at its front or behind. -/
theorem holds_cons (hread : Reads read shape) {c : Char} {text : List Char} :
    Holds shape (c :: text) ↔ (∃ rest, read (c :: text) = some rest) ∨ Holds shape text := by
  constructor
  · rintro ⟨blanks, hblanks, hpart⟩
    rcases List.infix_cons_iff.mp hpart with ⟨rest, hrest⟩ | hpart
    · exact Or.inl ⟨rest, (hread _ _).mpr ⟨blanks, hblanks, hrest.symm⟩⟩
    · exact Or.inr ⟨blanks, hblanks, hpart⟩
  · rintro (⟨rest, hrest⟩ | ⟨blanks, hblanks, hpart⟩)
    · rcases (hread _ _).mp hrest with ⟨blanks, hblanks, htext⟩
      exact ⟨blanks, hblanks, htext ▸ (List.prefix_append _ _).isInfix⟩
    · exact ⟨blanks, hblanks, hpart.trans (List.suffix_cons c text).isInfix⟩

-- No text of the shape is empty if the reader finds none in an empty text.
theorem not_holds_nil (hread : Reads read shape) (hnil : read [] = none) : ¬ Holds shape [] := by
  rintro ⟨blanks, hblanks, hpart⟩
  have hshape : read [] = some [] :=
    (hread _ _).mpr ⟨blanks, hblanks, by rw [List.infix_nil.mp hpart, List.append_nil]⟩
  rw [hnil] at hshape
  cases hshape

/-- Whether a text holds a shape that can be read is decided by reading at every character. -/
def decidableHolds (hread : Reads read shape) (hnil : read [] = none) :
    (text : List Char) → Decidable (Holds shape text)
  | [] => .isFalse (hread.not_holds_nil hnil)
  | c :: text =>
      have := decidableHolds hread hnil text
      decidable_of_iff ((read (c :: text)).isSome = true ∨ Holds shape text)
        (by rw [hread.holds_cons, Option.isSome_iff_exists])

end Reads

/-- Blanks go up to the first character that is none. -/
theorem dropWhile_blank_append {blanks : List Char} (hblanks : Blank blanks) {c : Char}
    (hc : isBlank c = false) (rest : List Char) :
    (blanks ++ c :: rest).dropWhile isBlank = c :: rest := by
  rw [List.dropWhile_append_of_pos hblanks, List.dropWhile_cons_of_neg]
  rw [hc]
  exact Bool.false_ne_true

-- The blanks that a text begins with.
theorem blank_takeWhile (text : List Char) : Blank (text.takeWhile isBlank) :=
  fun _ hc => List.mem_takeWhile_imp hc

/-- What opens a comment is a brace, blanks and `/*`. -/
theorem reads_afterOpening? : Reads afterOpening? opening := by
  intro text body
  constructor
  · intro h
    rw [afterOpening?.eq_def] at h
    split at h
    · rename_i rest
      split at h
      · rename_i inner hdrop
        refine ⟨rest.takeWhile isBlank, blank_takeWhile rest, ?_⟩
        rw [opening, List.cons_append, List.append_assoc, ← Option.some.inj h]
        change '{' :: rest = '{' :: (rest.takeWhile isBlank ++ '/' :: '*' :: inner)
        rw [← hdrop, List.takeWhile_append_dropWhile]
      · cases h
    · cases h
  · rintro ⟨blanks, hblanks, rfl⟩
    have hdrop := dropWhile_blank_append hblanks (by decide : isBlank '/' = false) ('*' :: body)
    simp only [opening, List.cons_append, List.append_assoc, List.nil_append, afterOpening?, hdrop]

-- Behind what opens a comment its body begins.
theorem afterComment?_opening {blanks : List Char} (hblanks : Blank blanks) (body : List Char) :
    afterComment? (opening blanks ++ body) = afterBody? body := by
  have hdrop := dropWhile_blank_append hblanks (by decide : isBlank '/' = false) ('*' :: body)
  simp only [opening, List.cons_append, List.append_assoc, List.nil_append, afterComment?, hdrop]

/-- A comment is what opens one and a body. -/
theorem afterComment?_eq_bind (text : List Char) :
    afterComment? text = (afterOpening? text).bind afterBody? := by
  cases hopening : afterOpening? text with
  | some body =>
      rcases (reads_afterOpening? _ _).mp hopening with ⟨blanks, hblanks, rfl⟩
      exact afterComment?_opening hblanks body
  | none =>
      rw [Option.bind_none, afterComment?.eq_def]
      split
      · rename_i rest
        split
        · rename_i body hdrop
          have hfound : afterOpening? ('{' :: rest) = some body := by
            simp only [afterOpening?, hdrop]
          rw [hopening] at hfound
          cases hfound
        · rfl
      · rfl

/-- What closes a comment is `*/`, blanks and a brace. -/
theorem reads_afterClosing? : Reads afterClosing? closing := by
  intro text after
  constructor
  · intro h
    rw [afterClosing?.eq_def] at h
    split at h
    · rename_i rest
      split at h
      · rename_i inner hdrop
        refine ⟨rest.takeWhile isBlank, blank_takeWhile rest, ?_⟩
        rw [closing, List.cons_append, List.cons_append, List.append_assoc,
          ← Option.some.inj h]
        change '*' :: '/' :: rest = '*' :: '/' :: (rest.takeWhile isBlank ++ '}' :: inner)
        rw [← hdrop, List.takeWhile_append_dropWhile]
      · cases h
    · cases h
  · rintro ⟨blanks, hblanks, rfl⟩
    have hdrop := dropWhile_blank_append hblanks (by decide : isBlank '}' = false) after
    simp only [closing, List.cons_append, List.append_assoc, List.nil_append, afterClosing?, hdrop]

-- Blanks that are part of a text end in it, or where a character follows that is none.
theorem append_cons_eq_blank_append {text rest blanks more : List Char} {c d : Char}
    (hblanks : Blank blanks) (hc : isBlank c = false)
    (h : text ++ c :: rest = blanks ++ d :: more) :
    (text = blanks ∧ c = d ∧ rest = more) ∨
      ∃ inner, text = blanks ++ d :: inner ∧ more = inner ++ c :: rest := by
  rcases List.append_eq_append_iff.mp h with ⟨gap, hgap, hrest⟩ | ⟨gap, hgap, hmore⟩
  · cases gap with
    | nil =>
        rw [List.append_nil] at hgap
        rw [List.nil_append, List.cons.injEq] at hrest
        exact Or.inl ⟨hgap.symm, hrest.1, hrest.2⟩
    | cons e gap =>
        -- The character would be one of the blanks.
        rw [List.cons_append, List.cons.injEq] at hrest
        rcases hrest with ⟨rfl, -⟩
        have hblank := hblanks c (by rw [hgap]; exact List.mem_append_right _ List.mem_cons_self)
        rw [hc] at hblank
        exact absurd hblank Bool.false_ne_true
  · cases gap with
    | nil =>
        rw [List.append_nil] at hgap
        rw [List.nil_append, List.cons.injEq] at hmore
        exact Or.inl ⟨hgap, hmore.1.symm, hmore.2.symm⟩
    | cons e gap =>
        rw [List.cons_append, List.cons.injEq] at hmore
        rcases hmore with ⟨rfl, hmore⟩
        exact Or.inr ⟨gap, hgap, hmore⟩

-- Whether something at the front of a text closes a comment does not depend on what follows, if
-- that begins with a character that can only stand in front.
theorem afterClosing?_append_cons {text : List Char} {c : Char} (hne : text ≠ [])
    (hblank : isBlank c = false) (hslash : c ≠ '/') (hbrace : c ≠ '}') (rest : List Char) :
    afterClosing? (text ++ c :: rest) = (afterClosing? text).map (· ++ c :: rest) := by
  cases hclosing : afterClosing? text with
  | some after => exact reads_afterClosing?.append hclosing _
  | none =>
      rw [Option.map_none]
      by_contra hsome
      rcases Option.ne_none_iff_exists'.mp hsome with ⟨after, hafter⟩
      rcases (reads_afterClosing? _ _).mp hafter with ⟨blanks, hblanks, heq⟩
      simp only [closing, List.cons_append, List.append_assoc, List.nil_append] at heq
      rcases List.exists_cons_of_ne_nil hne with ⟨d, more, rfl⟩
      rw [List.cons_append, List.cons.injEq] at heq
      rcases heq with ⟨rfl, heq⟩
      -- The star is in the text, then the slash is, and so are the blanks and the brace.
      cases more with
      | nil => exact absurd (List.cons.inj heq).1 hslash
      | cons e more =>
          rw [List.cons_append, List.cons.injEq] at heq
          rcases heq with ⟨rfl, heq⟩
          rcases append_cons_eq_blank_append hblanks hblank heq with ⟨_, hc, _⟩ | ⟨inner, hmore, _⟩
          · exact hbrace hc
          · have hfound : afterClosing? ('*' :: '/' :: more) = some inner := by
              refine (reads_afterClosing? _ _).mpr ⟨blanks, hblanks, ?_⟩
              rw [hmore]
              simp only [closing, List.cons_append, List.append_assoc, List.nil_append]
            rw [hclosing] at hfound
            cases hfound

instance (text : List Char) : Decidable (Holds opening text) :=
  reads_afterOpening?.decidableHolds rfl text

instance (text : List Char) : Decidable (Holds closing text) :=
  reads_afterClosing?.decidableHolds rfl text

-- A character at which nothing closes is part of the body, unless it is a line feed.
theorem afterBody?_cons_of_none {c : Char} {rest : List Char}
    (h : afterClosing? (c :: rest) = none) :
    afterBody? (c :: rest) = if c = '\n' then none else afterBody? rest := by
  rw [afterBody?, h]

-- The body ends at the first place where something closes.
theorem afterBody?_of_some {c : Char} {rest after : List Char}
    (h : afterClosing? (c :: rest) = some after) : afterBody? (c :: rest) = some after := by
  rw [afterBody?, h]

/-- A body that holds no line feed and nothing that closes goes up to what closes behind it. -/
theorem afterBody?_append_closing {body blanks : List Char} (hblanks : Blank blanks)
    (hfeed : '\n' ∉ body) (hnone : ¬ Holds closing body) (after : List Char) :
    afterBody? (body ++ closing blanks ++ after) = some after := by
  induction body with
  | nil => exact afterBody?_of_some ((reads_afterClosing? _ _).mpr ⟨blanks, hblanks, rfl⟩)
  | cons c body ih =>
      rw [reads_afterClosing?.holds_cons, not_or] at hnone
      rw [List.mem_cons, not_or] at hfeed
      -- Nothing closes at this character, neither within the body nor with what is behind it.
      have hwithin : afterClosing? (c :: body) = none :=
        Option.eq_none_iff_forall_ne_some.mpr fun inner hinner => hnone.1 ⟨inner, hinner⟩
      have hclosing : afterClosing? (c :: (body ++ closing blanks ++ after)) = none := by
        have hcut := afterClosing?_append_cons (List.cons_ne_nil c body)
          (by decide : isBlank '*' = false) (by decide) (by decide)
          ('/' :: (blanks ++ ['}']) ++ after)
        rw [hwithin, Option.map_none] at hcut
        rw [List.append_assoc]
        exact hcut
      rw [List.cons_append, List.cons_append, afterBody?_cons_of_none hclosing,
        if_neg (Ne.symm hfeed.1)]
      exact ih hfeed.2 hnone.2

/-- A body that is found ends at something that closes, holds none before it, and is on one line. -/
theorem exists_body_of_afterBody? {text after : List Char} (h : afterBody? text = some after) :
    ∃ body blanks, Blank blanks ∧ '\n' ∉ body ∧ ¬ Holds closing body ∧
      text = body ++ closing blanks ++ after := by
  induction text with
  | nil => cases h
  | cons c rest ih =>
      cases hclosing : afterClosing? (c :: rest) with
      | some more =>
          rw [afterBody?_of_some hclosing, Option.some.injEq] at h
          rcases (reads_afterClosing? _ _).mp hclosing with ⟨blanks, hblanks, htext⟩
          -- Something closes at once, so the body is empty.
          refine ⟨[], blanks, hblanks, List.not_mem_nil, reads_afterClosing?.not_holds_nil rfl, ?_⟩
          rw [htext, h, List.nil_append]
      | none =>
          rw [afterBody?_cons_of_none hclosing] at h
          split at h
          · cases h
          · rename_i hfeed
            rcases ih h with ⟨body, blanks, hblanks, hbody, hnone, rfl⟩
            refine ⟨c :: body, blanks, hblanks, ?_, ?_, rfl⟩
            · rw [List.mem_cons, not_or]
              exact ⟨fun heq => hfeed heq.symm, hbody⟩
            · -- What closed in the longer body would close in the text.
              rw [reads_afterClosing?.holds_cons, not_or]
              refine ⟨?_, hnone⟩
              rintro ⟨inner, hinner⟩
              have happend := reads_afterClosing?.append hinner (closing blanks ++ after)
              rw [List.cons_append, ← List.append_assoc, hclosing] at happend
              cases happend

/-- A body goes up to the first thing that closes, and no line feed comes before that. -/
theorem afterBody?_eq_some_iff {text after : List Char} :
    afterBody? text = some after ↔ ∃ body blanks, Blank blanks ∧ '\n' ∉ body ∧
      ¬ Holds closing body ∧ text = body ++ closing blanks ++ after := by
  constructor
  · exact exists_body_of_afterBody?
  · rintro ⟨body, blanks, hblanks, hfeed, hnone, rfl⟩
    exact afterBody?_append_closing hblanks hfeed hnone after

/-- A text begins with a comment just where the search finds one at its front. -/
theorem afterComment?_eq_some_iff {text after : List Char} :
    afterComment? text = some after ↔ ∃ lead body trail, Blank lead ∧ Blank trail ∧
      '\n' ∉ body ∧ ¬ Holds closing body ∧ text = blockComment lead body trail ++ after := by
  rw [afterComment?_eq_bind, Option.bind_eq_some_iff]
  constructor
  · rintro ⟨inner, hopening, hbody⟩
    rcases (reads_afterOpening? _ _).mp hopening with ⟨lead, hlead, rfl⟩
    rcases afterBody?_eq_some_iff.mp hbody with ⟨body, trail, htrail, hfeed, hnone, rfl⟩
    refine ⟨lead, body, trail, hlead, htrail, hfeed, hnone, ?_⟩
    rw [blockComment]
    simp only [List.append_assoc]
  · rintro ⟨lead, body, trail, hlead, htrail, hfeed, hnone, rfl⟩
    refine ⟨body ++ closing trail ++ after, (reads_afterOpening? _ _).mpr ⟨lead, hlead, ?_⟩,
      afterBody?_eq_some_iff.mpr ⟨body, trail, htrail, hfeed, hnone, rfl⟩⟩
    rw [blockComment]
    simp only [List.append_assoc]

/-- A comment that a text begins with is a part of it, and its first character is a brace. -/
theorem exists_append_of_afterComment? {text after : List Char}
    (h : afterComment? text = some after) : ∃ body, text = '{' :: (body ++ after) := by
  rcases afterComment?_eq_some_iff.mp h with ⟨lead, body, trail, _, _, _, _, rfl⟩
  exact ⟨lead ++ ['/', '*'] ++ body ++ closing trail, rfl⟩

/-- A comment does not depend on what stands behind it. -/
theorem afterComment?_append_of_eq_some {comment rest : List Char}
    (h : afterComment? (comment ++ rest) = some rest) (other : List Char) :
    afterComment? (comment ++ other) = some other := by
  rcases afterComment?_eq_some_iff.mp h with
    ⟨lead, body, trail, hlead, htrail, hfeed, hnone, heq⟩
  rw [List.append_cancel_right heq]
  exact afterComment?_eq_some_iff.mpr ⟨lead, body, trail, hlead, htrail, hfeed, hnone, rfl⟩

-- What opens a comment at the front of a text is part of it when a brace follows.
theorem afterOpening?_append_brace {text : List Char} (hne : text ≠ []) (rest : List Char) :
    afterOpening? (text ++ '{' :: rest) = (afterOpening? text).map (· ++ '{' :: rest) := by
  cases hopening : afterOpening? text with
  | some body => exact reads_afterOpening?.append hopening _
  | none =>
      rw [Option.map_none]
      by_contra hsome
      rcases Option.ne_none_iff_exists'.mp hsome with ⟨body, hbody⟩
      rcases (reads_afterOpening? _ _).mp hbody with ⟨blanks, hblanks, heq⟩
      simp only [opening, List.cons_append, List.append_assoc, List.nil_append] at heq
      rcases List.exists_cons_of_ne_nil hne with ⟨c, more, rfl⟩
      rw [List.cons_append, List.cons.injEq] at heq
      rcases heq with ⟨rfl, heq⟩
      -- The blanks end in the text, and the slash and the star behind them are in it too.
      rcases append_cons_eq_blank_append hblanks (by decide) heq with ⟨_, hc, _⟩ | ⟨inner, rfl, hinner⟩
      · exact absurd hc (by decide)
      · cases inner with
        | nil =>
            rw [List.nil_append, List.cons.injEq] at hinner
            exact absurd hinner.1 (by decide)
        | cons d inner =>
            rw [List.cons_append, List.cons.injEq] at hinner
            rcases hinner with ⟨rfl, -⟩
            have hfound : afterOpening? ('{' :: (blanks ++ '/' :: '*' :: inner)) = some inner := by
              refine (reads_afterOpening? _ _).mpr ⟨blanks, hblanks, ?_⟩
              simp only [opening, List.cons_append, List.append_assoc, List.nil_append]
            rw [hopening] at hfound
            cases hfound

-- Where a body goes through what opens a comment, only a line feed among the blanks stops it.
theorem isSome_afterBody?_opening {lead rest : List Char} (hlead : Blank lead)
    (hrest : (afterBody? rest).isSome = true) :
    (afterBody? (opening lead ++ rest)).isSome = !lead.contains '\n' := by
  have hnone : ∀ {c : Char} {more : List Char}, c ≠ '*' → afterClosing? (c :: more) = none := by
    intro c more hc
    rw [afterClosing?.eq_def]
    split
    · rename_i heq
      exact absurd (List.cons.inj heq).1 hc
    · rfl
  -- The star may close a comment together with what follows it, or the body begins behind it.
  have hstar : (afterBody? ('*' :: rest)).isSome = true := by
    cases hclosing : afterClosing? ('*' :: rest) with
    | some after =>
        rw [afterBody?_of_some hclosing]
        rfl
    | none =>
        rw [afterBody?_cons_of_none hclosing, if_neg (by decide)]
        exact hrest
  rw [opening, List.cons_append, afterBody?_cons_of_none (hnone (by decide)), if_neg (by decide)]
  induction lead with
  | nil =>
      change (afterBody? ('/' :: '*' :: rest)).isSome = true
      rw [afterBody?_cons_of_none (hnone (by decide)), if_neg (by decide)]
      exact hstar
  | cons c lead ih =>
      have hc : c ≠ '*' := by
        rintro rfl
        exact absurd (hlead _ List.mem_cons_self) (by decide)
      rw [List.cons_append, List.cons_append, afterBody?_cons_of_none (hnone hc),
        List.contains_cons]
      by_cases hfeed : c = '\n'
      · rw [if_pos hfeed, hfeed]
        rfl
      · rw [if_neg hfeed, ih fun d hd => hlead d (List.mem_cons_of_mem _ hd),
          beq_eq_false_iff_ne.mpr (Ne.symm hfeed), Bool.false_or]

-- Whether a body is closed does not depend on the body of a comment that it runs into.
theorem isSome_afterBody?_append {lead rest other : List Char} (hlead : Blank lead)
    (hrest : (afterBody? rest).isSome = true) (hother : (afterBody? other).isSome = true)
    (text : List Char) :
    (afterBody? (text ++ (opening lead ++ rest))).isSome
      = (afterBody? (text ++ (opening lead ++ other))).isSome := by
  induction text with
  | nil =>
      rw [List.nil_append, List.nil_append, isSome_afterBody?_opening hlead hrest,
        isSome_afterBody?_opening hlead hother]
  | cons c text ih =>
      -- What closes at this character is in the text before the comment.
      have hcut : ∀ more : List Char,
          afterClosing? (c :: (text ++ (opening lead ++ more)))
            = (afterClosing? (c :: text)).map (· ++ (opening lead ++ more)) := fun more =>
        afterClosing?_append_cons (List.cons_ne_nil c text) (by decide) (by decide) (by decide) _
      have hrestCut := hcut rest
      have hotherCut := hcut other
      rw [List.cons_append, List.cons_append]
      cases hclosing : afterClosing? (c :: text) with
      | some after =>
          rw [hclosing, Option.map_some] at hrestCut hotherCut
          rw [afterBody?_of_some hrestCut, afterBody?_of_some hotherCut]
          rfl
      | none =>
          rw [hclosing, Option.map_none] at hrestCut hotherCut
          rw [afterBody?_cons_of_none hrestCut, afterBody?_cons_of_none hotherCut]
          split
          · rfl
          · exact ih

/-- A text that begins with no comment, with a comment behind it, begins with none either when
    that has another body. -/
theorem afterComment?_append_blockComment {text lead body other trail back : List Char}
    (hne : text ≠ []) (hlead : Blank lead)
    (hbody : (afterBody? (body ++ closing trail ++ back)).isSome = true)
    (hother : (afterBody? (other ++ closing trail ++ back)).isSome = true)
    (h : afterComment? (text ++ (blockComment lead body trail ++ back)) = none) :
    afterComment? (text ++ (blockComment lead other trail ++ back)) = none := by
  have hsplit : ∀ inner : List Char, blockComment lead inner trail ++ back
      = opening lead ++ (inner ++ closing trail ++ back) := by
    intro inner
    rw [blockComment]
    simp only [List.append_assoc]
  rw [hsplit] at h ⊢
  have hopening : ∀ inner : List Char, afterOpening? (text ++ (opening lead ++ inner))
      = (afterOpening? text).map (· ++ (opening lead ++ inner)) := fun inner =>
    afterOpening?_append_brace hne _
  rw [afterComment?_eq_bind, hopening] at h ⊢
  cases hfound : afterOpening? text with
  | none => rfl
  | some inner =>
      -- The text opens a comment itself, and whether that one closes is not up to the body.
      rw [hfound, Option.map_some, Option.bind_some] at h
      rw [Option.map_some, Option.bind_some]
      rw [← Option.not_isSome_iff_eq_none] at h ⊢
      rwa [← isSome_afterBody?_append hlead hbody hother]

end TagNesting
