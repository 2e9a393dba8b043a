import TagNesting.Proofs.TakenArguments
import TagNesting.Proofs.GivenFlags

/-!
# Flags That Take a Value

A flag that takes a value and is among the arguments of an accepted command line has been
given one: the check has a format, a limit, or names of void elements. It does not matter how
the value is given, nor what stands around the flag.

Until the value has been looked at the flag is pending, first without and then with its
value. What is pending is looked at before anything else is put in its place, and a command
line on which that goes wrong is not accepted.

## Main definitions

* `NamesFlag`: An argument that is a flag by its name.
* `Gives`: A flag is among some arguments.
* `Taken.Records`, `CheckRequest.Records`: What a flag says has been taken, and is asked for.
* `Pending.Concerns`: It is still to be looked at.

## Theorems

* `settle_records`: What is pending is recorded when it is looked at.
* `takeLong_records`: A flag by its name is recorded or pending.
* `takeCheckArguments_records`: It is recorded at the end of the arguments.
* `readArguments_records`: It is in the check that a command line asks for.
-/

namespace TagNesting

/-- The argument is the flag by its name, with a value behind an equals sign or before one. -/
def NamesFlag (flag : Flag) (argument : List Char) : Prop :=
  argument.takeWhile (· != '=') = '-' :: '-' :: flag.name

/-- The flag is among the arguments that can be flags. -/
def Gives (flag : Flag) (arguments : List (List Char)) : Prop :=
  ∃ argument ∈ arguments.takeWhile (· != ['-', '-']), NamesFlag flag argument

instance (flag : Flag) (argument : List Char) : Decidable (NamesFlag flag argument) :=
  inferInstanceAs (Decidable (_ = _))

instance (flag : Flag) (arguments : List (List Char)) : Decidable (Gives flag arguments) :=
  inferInstanceAs (Decidable (∃ argument ∈ _, NamesFlag flag argument))

/-- What the flag says has been taken, if it takes a value. -/
def Taken.Records (flag : Flag) (taken : Taken) : Prop :=
  match flag with
  | .format => taken.format ≠ none
  | .limit => taken.limit ≠ none
  | .void => taken.voidElements ≠ []
  | _ => True

/-- The check has what the flag says, if it takes a value. -/
def CheckRequest.Records (flag : Flag) (check : CheckRequest) : Prop :=
  match flag with
  | .format => check.format ≠ none
  | .limit => check.limit ≠ none
  | .void => check.voidElements ≠ []
  | _ => True

/-- The flag is pending, with or without its value. -/
def Pending.Concerns (flag : Flag) : Pending → Prop
  | .flag other => other = flag
  | .value other _ => other = flag
  | _ => False

section Steps

variable {scope : Scope} {taken taken' : Taken} {pending pending' : Pending} {flag : Flag}

/-- What has been taken for the three flags decides which of them are recorded. -/
theorem records_congr (hformat : taken'.format = taken.format) (hlimit : taken'.limit = taken.limit)
    (hvoid : taken'.voidElements = taken.voidElements) :
    taken'.Records flag ↔ taken.Records flag := by
  simp only [Taken.Records, hformat, hlimit, hvoid]

-- A flag without a value has nothing to record.
theorem records_of_valueName?_eq_none (h : flag.valueName? = none) (taken : Taken) :
    taken.Records flag := by
  cases flag
  case format => cases h
  case limit => cases h
  case void => cases h
  all_goals exact trivial

/-- A flag with its value is recorded, and what was recorded before still is. -/
theorem withValue_records {other : Flag} {value : List Char}
    (h : taken.withValue scope other value = .ok taken')
    (hgiven : taken.Records flag ∨ other = flag) : taken'.Records flag := by
  rcases withValue_cases h with ⟨rfl, rfl⟩ | ⟨rfl, format, rfl⟩ | ⟨rfl, limit, rfl⟩ | ⟨hnone, rfl⟩
  · have hnames : taken.voidElements ++ namesBetweenCommas value ≠ [] :=
      List.append_ne_nil_of_right_ne_nil _ (namesBetweenCommas_ne_nil value)
    cases flag
    case void => exact hnames
    all_goals exact hgiven.resolve_right (by decide)
  · cases flag
    case format => exact Option.some_ne_none format
    all_goals exact hgiven.resolve_right (by decide)
  · cases flag
    case limit => exact Option.some_ne_none limit
    all_goals exact hgiven.resolve_right (by decide)
  · rcases hgiven with hrecords | rfl
    · exact hrecords
    · exact records_of_valueName?_eq_none hnone _

/-- A flag that takes no value records none. -/
theorem withFlag_records {other : Flag} (h : taken.withFlag scope other = .ok taken') :
    taken'.Records flag ↔ taken.Records flag := by
  rcases withFlag_cases h with ⟨_, rfl⟩ | ⟨_, rfl⟩ | ⟨_, rfl⟩ | ⟨_, rfl⟩
  all_goals exact records_congr rfl rfl rfl

/-- What is pending is recorded when it is looked at. -/
theorem settle_records (h : taken.settle scope pending = .ok taken')
    (hgiven : taken.Records flag ∨ pending.Concerns flag) : taken'.Records flag := by
  rcases settle_cases h with ⟨rfl, rfl⟩ | ⟨other, value, rfl, hvalued⟩ | ⟨path, rfl, rfl⟩
  · exact hgiven.resolve_right id
  · exact withValue_records hvalued hgiven
  · exact (records_congr rfl rfl rfl).mpr (hgiven.resolve_right id)

/-- Flags are told apart by their names. -/
theorem name_injective {other : Flag} (h : other.name = flag.name) : other = flag := by
  revert h
  cases other
  all_goals
    cases flag
    all_goals decide

/-- A flag by its name is recorded, or it is pending then. -/
theorem takeLong_records {text : List Char} {rest : List (List Char)}
    (h : takeLong scope text rest pending taken = .ok (taken', pending'))
    (hgiven : (taken.Records flag ∨ pending.Concerns flag) ∨
      text.takeWhile (· != '=') = flag.name) :
    taken'.Records flag ∨ pending'.Concerns flag := by
  rcases takeLong_cases h with ⟨other, settled, _, hname, hsettled, hcases⟩
  have hgiven' : settled.Records flag ∨ other = flag :=
    hgiven.imp (settle_records hsettled) fun heq => name_injective (hname.trans heq)
  rcases hcases with ⟨value, _, hvalued, _⟩ | ⟨_, _, rfl, rfl⟩ | ⟨hnone, _, hflagged, _⟩
  · exact Or.inl (withValue_records hvalued hgiven')
  · exact hgiven'
  · rcases hgiven' with hbefore | rfl
    · exact Or.inl ((withFlag_records hflagged).mpr hbefore)
    · exact Or.inl (records_of_valueName?_eq_none hnone _)

/-- Letters keep what is recorded or pending. -/
theorem takeLetters_records {letters : List Char}
    (h : takeLetters scope pending taken letters = .ok (taken', pending'))
    (hgiven : taken.Records flag ∨ pending.Concerns flag) :
    taken'.Records flag ∨ pending'.Concerns flag := by
  induction letters generalizing taken pending with
  | nil =>
      rcases Prod.mk.inj (Except.ok.inj h) with ⟨rfl, rfl⟩
      exact hgiven
  | cons letter letters ih =>
      rcases takeLetters_cons h with ⟨other, settled, flagged, _, hsettled, hflagged, h⟩
      exact ih h (Or.inl ((withFlag_records hflagged).mpr (settle_records hsettled hgiven)))

/-- A flag is given by the first argument or by one behind it, up to the argument that ends the
    flags. -/
theorem gives_cons {argument : List Char} {rest : List (List Char)} :
    Gives flag (argument :: rest)
      ↔ argument ≠ ['-', '-'] ∧ (NamesFlag flag argument ∨ Gives flag rest) := by
  rw [Gives, List.takeWhile_cons]
  by_cases hseparator : argument = ['-', '-']
  · simp only [hseparator, bne_self_eq_false, Bool.false_eq_true, if_false, List.not_mem_nil,
      false_and, exists_false, ne_eq, not_true_eq_false]
  · rw [if_pos (bne_iff_ne.mpr hseparator), List.exists_mem_cons_iff]
    exact (and_iff_right hseparator).symm

/-- An argument that names a flag is a long one with its name up to the equals sign. -/
theorem argumentForm_of_namesFlag {argument : List Char} (h : NamesFlag flag argument) :
    ∃ text, argumentForm argument = .long text ∧ text.takeWhile (· != '=') = flag.name := by
  have hargument : argument = '-' :: '-' :: (flag.name ++ argument.dropWhile (· != '=')) := by
    rw [← List.cons_append, ← List.cons_append, ← h, List.takeWhile_append_dropWhile]
  generalize argument.dropWhile (· != '=') = value at hargument
  subst hargument
  refine ⟨flag.name ++ value, ?_, ?_⟩
  · cases flag
    all_goals rfl
  · rw [NamesFlag, List.takeWhile_cons_of_pos (by decide), List.takeWhile_cons_of_pos (by decide)]
      at h
    exact List.tail_eq_of_cons_eq (List.tail_eq_of_cons_eq h)

theorem gives_of_long {argument text : List Char} {rest : List (List Char)}
    (h : argumentForm argument = .long text) (hgives : Gives flag (argument :: rest)) :
    text.takeWhile (· != '=') = flag.name ∨ Gives flag rest := by
  refine (gives_cons.mp hgives).2.imp_left fun hnames => ?_
  rcases argumentForm_of_namesFlag hnames with ⟨text', htext', hname⟩
  rw [h, ArgumentForm.long.injEq] at htext'
  rw [htext', hname]

-- An argument that is taken as something else is not the flag.
theorem gives_of_unnamed {argument : List Char} {rest : List (List Char)} (h : Unnamed argument)
    (hgives : Gives flag (argument :: rest)) : Gives flag rest := by
  refine (gives_cons.mp hgives).2.resolve_left fun hnames => ?_
  rcases argumentForm_of_namesFlag hnames with ⟨text, hlong, _⟩
  exact h.ne_long text hlong

end Steps

/-- A flag that is among the arguments of the command is recorded at their end. -/
theorem takeCheckArguments_records {flag : Flag} {behind : Bool} {pending : Pending}
    {taken taken' : Taken} {arguments : List (List Char)}
    (h : takeCheckArguments behind pending taken arguments = .ok taken')
    (hgiven : (taken.Records flag ∨ pending.Concerns flag) ∨
      behind = false ∧ Gives flag arguments) : taken'.Records flag := by
  -- The flag is recorded, or pending, or still to come: each way to take an argument keeps that.
  induction arguments generalizing behind pending taken with
  | nil =>
      refine settle_records h (hgiven.resolve_right ?_)
      rintro ⟨_, argument, hargument, _⟩
      exact List.not_mem_nil hargument
  | cons argument rest ih =>
      rcases takeCheckArguments_cons h with ⟨behind', pending', taken'', hstep, h⟩
      refine ih h ?_
      cases hstep with
      | separator hseparator =>
          exact Or.inl (hgiven.resolve_right fun hgives =>
            (gives_cons.mp hgives.2).1 hseparator)
      | long hform hlong =>
          have hflag := hgiven.imp_right fun hgives => gives_of_long hform hgives.2
          rcases or_assoc.mpr hflag with hnow | hrest
          · exact Or.inl (takeLong_records hlong hnow)
          · exact Or.inr ⟨rfl, hrest⟩
      | letters hform hletters =>
          refine hgiven.imp (takeLetters_records hletters) fun hgives => ⟨rfl, ?_⟩
          exact gives_of_unnamed hform hgives.2
      | value hform hpending =>
          -- The flag that lacked its value is pending still.
          rw [hpending] at hgiven
          exact hgiven.imp id fun hgives => ⟨rfl, gives_of_unnamed hform hgives.2⟩
      | operand hform hpath =>
          refine hgiven.imp (fun hbefore => ?_) fun hgives => ⟨hgives.1, ?_⟩
          · exact Or.inl (settle_records (takePathOperand_eq_ok hpath).1 hbefore)
          · exact gives_of_unnamed (hform hgives.1) hgives.2

/-- A flag that the arguments of a check give is recorded in the check. -/
theorem readCheckArguments_records {flag : Flag} {arguments : List (List Char)} {command : Taken}
    {check : CheckRequest} (h : readCheckArguments arguments = .ok (command, check))
    (hgives : Gives flag arguments) : check.Records flag := by
  rcases readCheckArguments_eq_ok h with ⟨htaken, hformat, hlimit, _, hvoid⟩
  have hrecords := takeCheckArguments_records htaken (Or.inr ⟨rfl, hgives⟩)
  rw [CheckRequest.Records.eq_def, hformat, hlimit, hvoid]
  exact hrecords

-- The program knows no flag that takes a value.
theorem takeLong_program_ne_ok {flag : Flag} (hflag : flag.valueName? ≠ none) {text : List Char}
    (hname : text.takeWhile (· != '=') = flag.name) {rest : List (List Char)} {pending : Pending}
    {taken : Taken} {result : Taken × Pending} :
    takeLong .program text rest pending taken ≠ .ok result := by
  intro h
  rcases takeLong_cases h with ⟨other, _, hmem, hother, _⟩
  have hknown : ∀ known ∈ Scope.program.flags, known.valueName? = none := by decide
  rw [name_injective (hother.trans hname)] at hmem
  exact hflag (hknown flag hmem)

/-- So is one that is given anywhere on a command line. -/
theorem takeProgramArguments_records {flag : Flag} (hflag : flag.valueName? ≠ none)
    {behind : Bool} {taken : Taken} {arguments : List (List Char)} {request : Request}
    (h : takeProgramArguments behind taken arguments = .ok request)
    (hgives : Gives flag arguments) : request.check.Records flag := by
  induction arguments generalizing behind taken with
  | nil => cases h
  | cons argument rest ih =>
      rcases takeProgramArguments_cons h with ⟨rfl, command, hread⟩ |
        ⟨taken', h, ⟨text, result, hform, hlong⟩ | hform⟩
      · exact readCheckArguments_records hread (gives_of_unnamed unnamed_check hgives)
      · rcases gives_of_long hform hgives with hname | hrest
        · exact absurd hlong (takeLong_program_ne_ok hflag hname)
        · exact ih h hrest
      · exact ih h (gives_of_unnamed hform hgives)

/-- What a flag says that is among the arguments of an accepted command line is in the check it
    asks for. -/
theorem readArguments_records {flag : Flag} (hflag : flag.valueName? ≠ none)
    {arguments : List (List Char)} {request : Request} (h : readArguments arguments = .ok request)
    (hgives : Gives flag arguments) : request.check.Records flag :=
  takeProgramArguments_records hflag h hgives

end TagNesting
