import TagNesting.CommandLine.Arguments

/-!
# Taking Arguments That Are Accepted

All that can have been done where arguments were taken and nothing was wrong with them. A
fault ends everything, so a command line that is accepted is one whose arguments were all
taken, one after the other, each in one of a few ways.

Whatever is to be shown of accepted command lines needs to look at these ways only, once for
each, and not at how the arguments are told apart.

## Main definitions

* `Unnamed`: An argument that is neither a flag by its name nor the separator.
* `TakesArgument`: The ways in which the command can take an argument.

## Theorems

* `withValue_cases`, `withFlag_cases`, `settle_cases`: What a flag, or one that is pending, can
  have changed.
* `takeLong_cases`, `takeLetters_cons`, `takePathOperand_eq_ok`: What one argument can have been.
* `takeCheckArguments_cons`: The command takes one argument and then the others.
* `takeProgramArguments_cons`: The program takes flags until the command comes.
-/

namespace TagNesting

-- A step that went well had what it goes on with.
theorem exists_of_bind_eq_ok {ε α β : Type} {first : Except ε α} {next : α → Except ε β} {b : β}
    (h : first >>= next = .ok b) : ∃ a, first = .ok a ∧ next a = .ok b := by
  cases first with
  | error error => cases h
  | ok a => exact ⟨a, rfl, h⟩

-- A flag by its name begins with two dashes.
theorem argumentForm_eq_long {argument text : List Char} (h : argumentForm argument = .long text) :
    argument = '-' :: '-' :: text := by
  rw [argumentForm.eq_def] at h
  split at h
  · cases h
  · rw [ArgumentForm.long.inj h]
  · cases h
  · cases h

-- The separator is two dashes and nothing else.
theorem argumentForm_eq_separator {argument : List Char}
    (h : argumentForm argument = .separator) : argument = ['-', '-'] := by
  rw [argumentForm.eq_def] at h
  split at h
  · rfl
  · cases h
  · cases h
  · cases h

/-- An argument that is neither a flag by its name nor the separator, as far as its form goes. -/
def Unnamed (argument : List Char) : Prop :=
  argumentForm argument = .plain ∨ ∃ letters, argumentForm argument = .letters letters

-- The three forms of arguments exclude each other.
theorem Unnamed.ne_separator {argument : List Char} (h : Unnamed argument) :
    argument ≠ ['-', '-'] := by
  rintro rfl
  rcases h with hform | ⟨letters, hform⟩
  · cases hform
  · cases hform

-- A plain argument and a row of letters are no flag by its name, whatever name that is.
theorem Unnamed.ne_long {argument : List Char} (h : Unnamed argument) (text : List Char) :
    argumentForm argument ≠ .long text := by
  intro heq
  rcases h with hform | ⟨letters, hform⟩
  · cases heq.symm.trans hform
  · cases heq.symm.trans hform

-- The command itself looks like no flag.
theorem unnamed_check : Unnamed "check".toList := Or.inl rfl

section Steps

variable {scope : Scope} {taken taken' : Taken} {pending pending' : Pending} {flag : Flag}

/-- What a flag with its value changes. -/
theorem withValue_cases {value : List Char} (h : taken.withValue scope flag value = .ok taken') :
    (flag = .void ∧ taken' = { taken with
        used := alsoUsed taken.used .void
        voidElements := taken.voidElements ++ namesBetweenCommas value }) ∨
      (flag = .format ∧ ∃ format, taken' = { taken with
        used := alsoUsed taken.used .format
        format := some format }) ∨
      (flag = .limit ∧ ∃ limit, taken' = { taken with
        used := alsoUsed taken.used .limit
        limit := some limit }) ∨
      (flag.valueName? = none ∧ taken' = taken) := by
  cases flag
  case void => exact Or.inl ⟨rfl, (Except.ok.inj h).symm⟩
  case format =>
      rw [Taken.withValue] at h
      split at h
      · cases h
      · split at h
        · exact Or.inr (Or.inl ⟨rfl, _, (Except.ok.inj h).symm⟩)
        · cases h
  case limit =>
      rw [Taken.withValue] at h
      split at h
      · cases h
      · split at h
        · exact Or.inr (Or.inr (Or.inl ⟨rfl, _, (Except.ok.inj h).symm⟩))
        · cases h
  all_goals exact Or.inr (Or.inr (Or.inr ⟨rfl, (Except.ok.inj h).symm⟩))

/-- What a flag without a value changes. -/
theorem withFlag_cases (h : taken.withFlag scope flag = .ok taken') :
    (flag = .verbose ∧ taken' = { taken with
        used := taken.used.erase .verbose ++ [.verbose]
        verbosity := taken.verbosity + 1 }) ∨
      (flag = .quiet ∧ taken' = { taken with
        used := taken.used ++ [.quiet]
        quiet := true }) ∨
      (flag = .failOnError ∧ taken' = { taken with
        used := taken.used ++ [.failOnError]
        failOnError := true }) ∨
      (flag.valueName? ≠ none ∧ taken' = taken) := by
  cases flag
  case help => cases h
  case version => cases h
  case verbose => exact Or.inl ⟨rfl, (Except.ok.inj h).symm⟩
  case quiet =>
      rw [Taken.withFlag] at h
      split at h
      · cases h
      · exact Or.inr (Or.inl ⟨rfl, (Except.ok.inj h).symm⟩)
  case failOnError =>
      rw [Taken.withFlag] at h
      split at h
      · cases h
      · exact Or.inr (Or.inr (Or.inl ⟨rfl, (Except.ok.inj h).symm⟩))
  all_goals exact Or.inr (Or.inr (Or.inr ⟨Option.some_ne_none _, (Except.ok.inj h).symm⟩))

/-- What comes of something pending when it is looked at. -/
theorem settle_cases (h : taken.settle scope pending = .ok taken') :
    (pending = .nothing ∧ taken' = taken) ∨
      (∃ flag value, pending = .value flag value ∧
        taken.withValue scope flag value = .ok taken') ∨
      ∃ path, pending = .path path ∧ taken' = { taken with path := some path } := by
  cases pending with
  | nothing => exact Or.inl ⟨rfl, (Except.ok.inj h).symm⟩
  | flag flag => cases h
  | value flag value => exact Or.inr (Or.inl ⟨flag, value, rfl, h⟩)
  | path path => exact Or.inr (Or.inr ⟨path, rfl, (Except.ok.inj h).symm⟩)

/-- A flag that is found by a name is one of the scope and has that name. -/
theorem flagOfName?_eq_some {name : List Char} (h : scope.flagOfName? name = some flag) :
    flag ∈ scope.flags ∧ flag.name = name := by
  have hname := List.find?_some h
  exact ⟨List.mem_of_find?_eq_some h, beq_iff_eq.mp hname⟩

-- What stands before an equals sign, and behind it if there is one.
theorem cut_at_equals (text : List Char) :
    (∃ value, (text.dropWhile (· != '=')).tail? = some value ∧
        text = text.takeWhile (· != '=') ++ '=' :: value) ∨
      ((text.dropWhile (· != '=')).tail? = none ∧ text = text.takeWhile (· != '=')) := by
  have happend := List.takeWhile_append_dropWhile (p := (· != '=')) (l := text)
  cases hdrop : text.dropWhile (· != '=') with
  | nil =>
      rw [hdrop, List.append_nil] at happend
      exact Or.inr ⟨rfl, happend.symm⟩
  | cons c value =>
      have hc : c = '=' := by
        have hhead := List.head?_dropWhile_not (· != '=') text
        rw [hdrop] at hhead
        simpa using hhead
      rw [hdrop, hc] at happend
      exact Or.inl ⟨value, rfl, happend.symm⟩

/-- What a flag by its name can have been: one with a value behind it, one whose value is still to
    come, or one without a value. -/
theorem takeLong_cases {text : List Char} {rest : List (List Char)}
    (h : takeLong scope text rest pending taken = .ok (taken', pending')) :
    ∃ flag settled, flag ∈ scope.flags ∧ flag.name = text.takeWhile (· != '=') ∧
      taken.settle scope pending = .ok settled ∧
        ((∃ value, text = flag.name ++ '=' :: value ∧
            settled.withValue scope flag value = .ok taken' ∧ pending' = .nothing) ∨
          (flag.valueName? ≠ none ∧ text = flag.name ∧ taken' = settled ∧
            pending' = .flag flag) ∨
          (flag.valueName? = none ∧ text = flag.name ∧
            settled.withFlag scope flag = .ok taken' ∧ pending' = .nothing)) := by
  rw [takeLong] at h
  simp only at h
  split at h
  · cases h
  rename_i flag hflag
  rcases flagOfName?_eq_some hflag with ⟨hmem, hname⟩
  -- A value that is there and one that is wanted make four cases, and one of them is a fault.
  rcases cut_at_equals text with ⟨value, hvalue, htext⟩ | ⟨hvalue, htext⟩
  · rw [hvalue] at h
    rw [← hname] at htext
    cases hvalueName : flag.valueName? with
    | none =>
        rw [hvalueName] at h
        cases h
    | some valueName =>
        rw [hvalueName] at h
        rcases exists_of_bind_eq_ok h with ⟨settled, hsettled, h⟩
        rcases exists_of_bind_eq_ok h with ⟨valued, hvalued, h⟩
        rcases Prod.mk.inj (Except.ok.inj h) with ⟨rfl, rfl⟩
        exact ⟨flag, settled, hmem, hname, hsettled, Or.inl ⟨value, htext, hvalued, rfl⟩⟩
  · rw [hvalue] at h
    rw [← hname] at htext
    cases hvalueName : flag.valueName? with
    | none =>
        rw [hvalueName] at h
        rcases exists_of_bind_eq_ok h with ⟨settled, hsettled, h⟩
        rcases exists_of_bind_eq_ok h with ⟨flagged, hflagged, h⟩
        rcases Prod.mk.inj (Except.ok.inj h) with ⟨rfl, rfl⟩
        exact ⟨flag, settled, hmem, hname, hsettled,
          Or.inr (Or.inr ⟨hvalueName, htext, hflagged, rfl⟩)⟩
    | some valueName =>
        rw [hvalueName] at h
        rcases exists_of_bind_eq_ok h with ⟨settled, hsettled, h⟩
        rcases Prod.mk.inj (Except.ok.inj h) with ⟨rfl, rfl⟩
        exact ⟨flag, settled, hmem, hname, hsettled,
          Or.inr (Or.inl ⟨hvalueName ▸ Option.some_ne_none _, htext, rfl, rfl⟩)⟩

/-- A row of letters is taken letter by letter. -/
theorem takeLetters_cons {letter : Char} {letters : List Char} {result : Taken × Pending}
    (h : takeLetters scope pending taken (letter :: letters) = .ok result) :
    ∃ flag settled flagged, flag.letter? = some letter ∧ taken.settle scope pending = .ok settled ∧
      settled.withFlag scope flag = .ok flagged ∧
        takeLetters scope .nothing flagged letters = .ok result := by
  rw [takeLetters] at h
  split at h
  · cases h
  · rename_i flag hflag
    rcases exists_of_bind_eq_ok h with ⟨settled, hsettled, h⟩
    rcases exists_of_bind_eq_ok h with ⟨flagged, hflagged, h⟩
    have hletter := List.find?_some hflag
    exact ⟨flag, settled, flagged, beq_iff_eq.mp hletter, hsettled, hflagged, h⟩

/-- A path is taken only after what was pending before it, and is then pending itself. -/
theorem takePathOperand_eq_ok {argument : List Char}
    (h : takePathOperand argument pending taken = .ok (taken', pending')) :
    taken.settle .check pending = .ok taken' ∧ pending' = .path argument := by
  unfold takePathOperand at h
  simp only at h
  split at h
  · cases h
  · split at h
    · cases h
    · rcases exists_of_bind_eq_ok h with ⟨settled, hsettled, h⟩
      rcases Prod.mk.inj (Except.ok.inj h) with ⟨rfl, rfl⟩
      exact ⟨hsettled, rfl⟩

end Steps

/-- The ways in which the command can take an argument that stands before others, from what has
    been taken and what is pending to what is then, and whether it is behind the separator. -/
inductive TakesArgument (argument : List Char) (rest : List (List Char)) (pending : Pending)
    (taken : Taken) : (behind behind' : Bool) → Pending → Taken → Prop where
  /-- The separator. -/
  | separator (h : argument = ['-', '-']) :
      TakesArgument argument rest pending taken false true pending taken
  /-- A flag by its name. -/
  | long {text : List Char} {taken' : Taken} {pending' : Pending}
      (hform : argumentForm argument = .long text)
      (h : takeLong .check text rest pending taken = .ok (taken', pending')) :
      TakesArgument argument rest pending taken false false pending' taken'
  /-- A row of flags by their letters. -/
  | letters {letters : List Char} {taken' : Taken} {pending' : Pending}
      (hform : Unnamed argument)
      (h : takeLetters .check pending taken letters = .ok (taken', pending')) :
      TakesArgument argument rest pending taken false false pending' taken'
  /-- The value of the flag before it. -/
  | value {flag : Flag} (hform : Unnamed argument) (h : pending = .flag flag) :
      TakesArgument argument rest pending taken false false (.value flag argument) taken
  /-- The path. -/
  | operand {behind : Bool} {taken' : Taken} {pending' : Pending}
      (hform : behind = false → Unnamed argument)
      (h : takePathOperand argument pending taken = .ok (taken', pending')) :
      TakesArgument argument rest pending taken behind behind pending' taken'

/-- The command takes one argument and then the others. -/
theorem takeCheckArguments_cons {behind : Bool} {pending : Pending} {taken last : Taken}
    {argument : List Char} {rest : List (List Char)}
    (h : takeCheckArguments behind pending taken (argument :: rest) = .ok last) :
    ∃ behind' pending' taken',
      TakesArgument argument rest pending taken behind behind' pending' taken' ∧
        takeCheckArguments behind' pending' taken' rest = .ok last := by
  unfold takeCheckArguments at h
  split at h
  · rename_i hbehind
    rcases exists_of_bind_eq_ok h with ⟨⟨taken', pending'⟩, hpath, h⟩
    subst hbehind
    exact ⟨true, pending', taken', .operand (fun hfalse => Bool.noConfusion hfalse) hpath, h⟩
  · rename_i hbehind
    rw [Bool.not_eq_true] at hbehind
    subst hbehind
    split at h
    · rename_i hform
      exact ⟨true, pending, taken, .separator (argumentForm_eq_separator hform), h⟩
    · rename_i text hform
      rcases exists_of_bind_eq_ok h with ⟨⟨taken', pending'⟩, hlong, h⟩
      exact ⟨false, pending', taken', .long hform hlong, h⟩
    · rename_i letters hform
      rcases exists_of_bind_eq_ok h with ⟨⟨taken', pending'⟩, hletters, h⟩
      exact ⟨false, pending', taken', .letters (Or.inr ⟨letters, hform⟩) hletters, h⟩
    · rename_i hform
      split at h
      · exact ⟨false, _, taken, .value (Or.inl hform) rfl, h⟩
      · rcases exists_of_bind_eq_ok h with ⟨⟨taken', pending'⟩, hpath, h⟩
        exact ⟨false, pending', taken', .operand (fun _ => Or.inl hform) hpath, h⟩

/-- The command asks for what its arguments, taken from the left, have set. -/
theorem readCheckArguments_eq_ok {arguments : List (List Char)} {command : Taken}
    {check : CheckRequest} (h : readCheckArguments arguments = .ok (command, check)) :
    takeCheckArguments false .nothing {} arguments = .ok command ∧
      check.format = command.format ∧ check.limit = command.limit ∧
        check.failOnError = command.failOnError ∧ check.voidElements = command.voidElements := by
  rcases exists_of_bind_eq_ok h with ⟨taken, htaken, h⟩
  rcases exists_of_bind_eq_ok h with ⟨_, _, h⟩
  split at h
  · cases h
  · rcases Prod.mk.inj (Except.ok.inj h) with ⟨rfl, rfl⟩
    exact ⟨htaken, rfl, rfl, rfl, rfl⟩

/-- The program takes flags until the command comes, and leaves the other arguments to it. -/
theorem takeProgramArguments_cons {behind : Bool} {taken : Taken} {argument : List Char}
    {rest : List (List Char)} {request : Request}
    (h : takeProgramArguments behind taken (argument :: rest) = .ok request) :
    (argument = "check".toList ∧
        ∃ command, readCheckArguments rest = .ok (command, request.check)) ∨
      ∃ taken', takeProgramArguments false taken' rest = .ok request ∧
        ((∃ text result, argumentForm argument = .long text ∧
            takeLong .program text rest .nothing taken = .ok result) ∨
          Unnamed argument) := by
  unfold takeProgramArguments at h
  split at h
  · cases h
  split at h
  · rename_i hcheck
    rcases exists_of_bind_eq_ok h with ⟨⟨command, check⟩, hread, h⟩
    rcases exists_of_bind_eq_ok h with ⟨_, _, h⟩
    rcases Except.ok.inj h
    exact Or.inl ⟨hcheck, command, hread⟩
  split at h
  · cases h
  split at h
  · -- Behind the separator there is no command.
    cases rest with
    | nil => cases h
    | cons => cases h
  · rename_i text hform
    rcases exists_of_bind_eq_ok h with ⟨⟨taken', pending'⟩, hlong, h⟩
    exact Or.inr ⟨taken', h, Or.inl ⟨text, _, hform, hlong⟩⟩
  · rename_i letters hform
    rcases exists_of_bind_eq_ok h with ⟨⟨taken', pending'⟩, _, h⟩
    exact Or.inr ⟨taken', h, Or.inr (Or.inr ⟨letters, hform⟩)⟩
  · cases h

end TagNesting
