import TagNesting.Proofs.TakenArguments

/-!
# The Flag That Makes a Check Fail

Whether an accepted command line has the flag by which findings make the check fail can be
seen from its arguments: it is one of them, before the two hyphens that stand alone. It
cannot be anything else there. It is no value of another flag, as no value begins with a
hyphen unless an equals sign is before it; it has no letter; and the program does not know
it, so the command it is given to is the check.

## Main definitions

* `failArgument`: The flag as it is typed.
* `AsksToFail`: The flag is among some arguments.

## Theorems

* `takeLong_failOnError`: The flag is the one flag by its name that counts.
* `takeCheckArguments_failOnError`: It counts in a run over the arguments of the command.
* `readArguments_failOnError`: It does in a whole command line.
-/

namespace TagNesting

/-- The flag as it is typed. -/
def failArgument : List Char := '-' :: '-' :: Flag.failOnError.name

/-- The flag is among the arguments that can be flags. -/
def AsksToFail (arguments : List (List Char)) : Prop :=
  failArgument ∈ arguments.takeWhile (· != ['-', '-'])

instance (arguments : List (List Char)) : Decidable (AsksToFail arguments) :=
  inferInstanceAs (Decidable (_ ∈ _))

section Steps

variable {scope : Scope} {taken taken' : Taken} {pending pending' : Pending}

-- No flag with a value makes findings matter.
theorem withValue_failOnError {flag : Flag} {value : List Char}
    (h : taken.withValue scope flag value = .ok taken') :
    taken'.failOnError = taken.failOnError := by
  rcases withValue_cases h with ⟨_, rfl⟩ | ⟨_, _, rfl⟩ | ⟨_, _, rfl⟩ | ⟨_, rfl⟩
  all_goals rfl

-- Of the flags without a value just one does.
theorem withFlag_failOnError {flag : Flag} (h : taken.withFlag scope flag = .ok taken') :
    taken'.failOnError = (taken.failOnError || flag == .failOnError) := by
  rcases withFlag_cases h with ⟨rfl, rfl⟩ | ⟨rfl, rfl⟩ | ⟨rfl, rfl⟩ | ⟨hvalue, rfl⟩
  · exact (Bool.or_false _).symm
  · exact (Bool.or_false _).symm
  · exact (Bool.or_true _).symm
  · have hne : (flag == .failOnError) = false := by
      rw [beq_eq_false_iff_ne]
      rintro rfl
      exact hvalue rfl
    rw [hne, Bool.or_false]

-- Nor does anything that is pending.
theorem settle_failOnError (h : taken.settle scope pending = .ok taken') :
    taken'.failOnError = taken.failOnError := by
  rcases settle_cases h with ⟨_, rfl⟩ | ⟨_, _, _, hvalue⟩ | ⟨_, _, rfl⟩
  · rfl
  · exact withValue_failOnError hvalue
  · rfl

theorem name_eq_failOnError {flag : Flag} :
    flag.name = Flag.failOnError.name ↔ flag = .failOnError := by
  cases flag
  all_goals decide

/-- The flag is the one flag by its name that counts. -/
theorem takeLong_failOnError {text : List Char} {rest : List (List Char)}
    (h : takeLong scope text rest pending taken = .ok (taken', pending')) :
    taken'.failOnError = (taken.failOnError || text == Flag.failOnError.name) := by
  rcases takeLong_cases h with ⟨flag, settled, _, _, hsettled, ⟨value, rfl, hvalued, _⟩ |
    ⟨hvalue, rfl, rfl, _⟩ | ⟨_, rfl, hflagged, _⟩⟩
  · have hne : (flag.name ++ '=' :: value == Flag.failOnError.name) = false := by
      rw [beq_eq_false_iff_ne]
      intro heq
      have hmem : '=' ∈ Flag.failOnError.name :=
        heq ▸ List.mem_append_right _ (List.mem_cons_self ..)
      revert hmem
      decide
    rw [withValue_failOnError hvalued, settle_failOnError hsettled, hne, Bool.or_false]
  · have hne : (flag.name == Flag.failOnError.name) = false := by
      rw [beq_eq_false_iff_ne, Ne, name_eq_failOnError]
      rintro rfl
      exact hvalue rfl
    rw [settle_failOnError hsettled, hne, Bool.or_false]
  · have hsame : (flag == Flag.failOnError) = (flag.name == Flag.failOnError.name) := by
      rw [Bool.eq_iff_iff, beq_iff_eq, beq_iff_eq, name_eq_failOnError]
    rw [withFlag_failOnError hflagged, settle_failOnError hsettled, hsame]

/-- It has no letter. -/
theorem takeLetters_failOnError {letters : List Char}
    (h : takeLetters scope pending taken letters = .ok (taken', pending')) :
    taken'.failOnError = taken.failOnError := by
  induction letters generalizing taken pending with
  | nil =>
      rcases Prod.mk.inj (Except.ok.inj h) with ⟨rfl, _⟩
      rfl
  | cons letter letters ih =>
      rcases takeLetters_cons h with ⟨flag, settled, flagged, hletter, hsettled, hflagged, h⟩
      have hne : (flag == Flag.failOnError) = false := by
        rw [beq_eq_false_iff_ne]
        rintro rfl
        cases hletter
      rw [ih h, withFlag_failOnError hflagged, settle_failOnError hsettled, hne, Bool.or_false]

end Steps

theorem asksToFail_cons {argument : List Char} {rest : List (List Char)} :
    AsksToFail (argument :: rest)
      ↔ argument ≠ ['-', '-'] ∧ (argument = failArgument ∨ AsksToFail rest) := by
  rw [AsksToFail, List.takeWhile_cons]
  by_cases hseparator : argument = ['-', '-']
  · simp only [hseparator, bne_self_eq_false, Bool.false_eq_true, if_false, List.not_mem_nil,
      ne_eq, not_true_eq_false, false_and]
  · rw [if_pos (bne_iff_ne.mpr hseparator), List.mem_cons, eq_comm]
    exact (and_iff_right hseparator).symm

theorem asksToFail_cons_of_long {argument text : List Char} {rest : List (List Char)}
    (h : argumentForm argument = .long text) :
    AsksToFail (argument :: rest) ↔ text = Flag.failOnError.name ∨ AsksToFail rest := by
  have hne : argument ≠ ['-', '-'] := by
    rintro rfl
    cases h
  have hsame : argument = failArgument ↔ text = Flag.failOnError.name := by
    rw [argumentForm_eq_long h, failArgument, List.cons.injEq, List.cons.injEq]
    simp only [true_and]
  rw [asksToFail_cons, hsame]
  exact and_iff_right hne

-- An argument that is taken as something else is neither the flag nor the separator.
theorem asksToFail_cons_of_unnamed {argument : List Char} (h : Unnamed argument)
    (rest : List (List Char)) : AsksToFail (argument :: rest) ↔ AsksToFail rest := by
  have hflag : argument ≠ failArgument := by
    rintro rfl
    exact h.ne_long _ rfl
  rw [asksToFail_cons, and_iff_right h.ne_separator, or_iff_right hflag]

/-- The flag counts wherever it is among the arguments of the command. -/
theorem takeCheckArguments_failOnError {behind : Bool} {pending : Pending} {taken taken' : Taken}
    {arguments : List (List Char)}
    (h : takeCheckArguments behind pending taken arguments = .ok taken') :
    taken'.failOnError = true
      ↔ taken.failOnError = true ∨ (behind = false ∧ AsksToFail arguments) := by
  -- Every step moves the flag, if it is there, from the arguments to what has been taken.
  induction arguments generalizing behind pending taken with
  | nil =>
      rw [settle_failOnError h]
      exact (or_iff_left fun hasks => absurd hasks.2 List.not_mem_nil).symm
  | cons argument rest ih =>
      rcases takeCheckArguments_cons h with ⟨behind', pending', taken'', hstep, h⟩
      rw [ih h]
      cases hstep with
      | separator hseparator =>
          have hnot : ¬ AsksToFail (argument :: rest) := fun hasks =>
            (asksToFail_cons.mp hasks).1 hseparator
          simp only [hnot, reduceCtorEq, false_and, and_false]
      | long hform hlong =>
          rw [takeLong_failOnError hlong, asksToFail_cons_of_long hform, Bool.or_eq_true,
            beq_iff_eq, or_assoc]
          simp only [true_and]
      | letters hform hletters =>
          rw [takeLetters_failOnError hletters, asksToFail_cons_of_unnamed hform]
      | value hform _ =>
          rw [asksToFail_cons_of_unnamed hform]
      | operand hform hpath =>
          have hcons : behind = false → (AsksToFail (argument :: rest) ↔ AsksToFail rest) :=
            fun hbehind => asksToFail_cons_of_unnamed (hform hbehind) rest
          rw [settle_failOnError (takePathOperand_eq_ok hpath).1, and_congr_right hcons]

/-- The flag counts wherever it is in a command line, as only the command knows it. -/
theorem takeProgramArguments_failOnError {behind : Bool} {taken : Taken}
    {arguments : List (List Char)} {request : Request}
    (h : takeProgramArguments behind taken arguments = .ok request) :
    request.check.failOnError = true ↔ AsksToFail arguments := by
  induction arguments generalizing behind taken with
  | nil => cases h
  | cons argument rest ih =>
      rcases takeProgramArguments_cons h with ⟨rfl, command, hread⟩ |
        ⟨taken', h, ⟨text, result, hform, hlong⟩ | hform⟩
      · rcases readCheckArguments_eq_ok hread with ⟨htaken, _, _, hfail, _⟩
        rw [asksToFail_cons_of_unnamed unnamed_check, hfail,
          takeCheckArguments_failOnError htaken]
        simp only [Bool.false_eq_true, false_or, true_and]
      · -- The program itself has no flag of this name.
        have hne : text ≠ Flag.failOnError.name := by
          rintro rfl
          rcases takeLong_cases hlong with ⟨flag, _, hflag, hname, _⟩
          have hcut : Flag.failOnError.name.takeWhile (· != '=') = Flag.failOnError.name := by
            decide
          rw [hcut, name_eq_failOnError] at hname
          subst hname
          revert hflag
          decide
        rw [ih h, asksToFail_cons_of_long hform, or_iff_right hne]
      · rw [ih h, asksToFail_cons_of_unnamed hform]

/-- Findings make the check of an accepted command line fail if the flag is among its
    arguments. -/
theorem readArguments_failOnError {arguments : List (List Char)} {request : Request}
    (h : readArguments arguments = .ok request) :
    request.check.failOnError = true ↔ AsksToFail arguments :=
  takeProgramArguments_failOnError h

end TagNesting
