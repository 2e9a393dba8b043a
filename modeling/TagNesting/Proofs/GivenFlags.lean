import TagNesting.CommandLine.Arguments
import TagNesting.Proofs.FailFlag
import TagNesting.Proofs.Numeral

/-!
# Flags That Are Given

What is made of a command line that gives the four settings by flags. Each of these flags is
taken for what it says: a format by its name, a limit by its numeral, and names between
commas as the names they are.

One list of names is not told apart from another. No names at all are given by an empty
value, which stands for one empty name; that name is blank and does not count.

## Main definitions

* `valueArgument`: A flag with its value.
* `settingArguments`: The four settings as flags.
* `NamesPath`: The end of a command line that names the path of the source.

## Theorems

* `namesBetweenCommas_intercalate`: Names that are joined by commas come apart again.
* `takeLong_valueArgument`: A flag with its value is looked at at once.
* `readArguments_settingArguments`: The check that such a command line asks for.
* `readArguments_path`: The check that a path alone asks for.
-/

namespace TagNesting

/-! ## Values -/

-- A character that is no comma belongs to the first name.
theorem namesBetweenCommas_cons {c : Char} (hc : c ≠ ',') {rest name : List Char}
    {names : List (List Char)} (h : namesBetweenCommas rest = name :: names) :
    namesBetweenCommas (c :: rest) = (c :: name) :: names := by
  rw [namesBetweenCommas, h]
  exact if_neg hc

-- There is always a name, if only an empty one.
theorem namesBetweenCommas_ne_nil (text : List Char) : namesBetweenCommas text ≠ [] := by
  cases text with
  | nil => exact List.cons_ne_nil _ _
  | cons c rest =>
      rw [namesBetweenCommas]
      split
      · exact List.cons_ne_nil _ _
      · split
        · exact List.cons_ne_nil _ _
        · exact List.cons_ne_nil _ _

/-- A text without a comma is one name. -/
theorem namesBetweenCommas_of_notMem {name : List Char} (h : ',' ∉ name) :
    namesBetweenCommas name = [name] := by
  induction name with
  | nil => rfl
  | cons c name ih =>
      rw [List.mem_cons, not_or] at h
      exact namesBetweenCommas_cons (Ne.symm h.1) (ih h.2)

/-- The first comma ends the first name. -/
theorem namesBetweenCommas_append {name : List Char} (h : ',' ∉ name) (rest : List Char) :
    namesBetweenCommas (name ++ ',' :: rest) = name :: namesBetweenCommas rest := by
  induction name with
  | nil =>
      rw [List.nil_append, namesBetweenCommas]
      split
      · rename_i hnil
        exact absurd hnil (namesBetweenCommas_ne_nil rest)
      · rename_i first more hcons
        rw [if_pos rfl, hcons]
  | cons c name ih =>
      rw [List.mem_cons, not_or] at h
      exact namesBetweenCommas_cons (Ne.symm h.1) (ih h.2)

/-- Names that are joined by commas come apart again, if there are any. -/
theorem namesBetweenCommas_intercalate {names : List (List Char)}
    (h : ∀ name ∈ names, ',' ∉ name) (hne : names ≠ []) :
    namesBetweenCommas ([','].intercalate names) = names := by
  induction names with
  | nil => exact absurd rfl hne
  | cons name names ih =>
      rw [List.forall_mem_cons] at h
      cases names with
      | nil =>
          rw [List.intercalate_singleton]
          exact namesBetweenCommas_of_notMem h.1
      | cons next names =>
          rw [List.intercalate_cons_cons, List.append_assoc, List.singleton_append,
            namesBetweenCommas_append h.1, ih h.2 (List.cons_ne_nil _ _)]

/-- A format is told by its name. -/
theorem ofName?_name (format : OutputFormat) : OutputFormat.ofName? format.name = some format := by
  cases format with
  | text => decide
  | json => decide
  | pretty => decide

/-! ## Arguments -/

/-- A flag with its value behind an equals sign. -/
def valueArgument (flag : Flag) (value : List Char) : List Char :=
  '-' :: '-' :: (flag.name ++ '=' :: value)

/-- The four settings as flags. The one without a value is there or not. -/
def settingArguments (format : OutputFormat) (limit : Nat) (fail : Bool)
    (names : List (List Char)) : List (List Char) :=
  [valueArgument .format format.name, valueArgument .limit (decimal limit)] ++
    (if fail then [failArgument] else []) ++ [valueArgument .void ([','].intercalate names)]

/-- Arguments that name the path of the source, by itself or behind the separator. A path that
    looks like a flag can be named behind the separator only. -/
def NamesPath (arguments : List (List Char)) (path : List Char) : Prop :=
  arguments = [['-', '-'], path] ∨ (argumentForm path = .plain ∧ arguments = [path])

/-- A flag with its value is looked at at once. -/
theorem takeLong_valueArgument {flag : Flag} (hflag : flag ∈ [Flag.format, .limit, .void])
    (value : List Char) (rest : List (List Char)) (taken : Taken) :
    takeLong .check (flag.name ++ '=' :: value) rest .nothing taken
      = (taken.withValue .check flag value).map fun taken' => (taken', .nothing) := by
  have hname : ∀ flag ∈ [Flag.format, .limit, .void],
      Scope.check.flagOfName? flag.name = some flag ∧ flag.valueName?.isSome = true ∧
        flag.name.all (· != '=') = true := by decide
  rcases hname flag hflag with ⟨hfind, hvalue, hall⟩
  have hequals := List.all_eq_true.mp hall
  rcases Option.isSome_iff_exists.mp hvalue with ⟨valueName, hvalueName⟩
  have htake : (flag.name ++ '=' :: value).takeWhile (· != '=') = flag.name := by
    rw [List.takeWhile_append_of_pos hequals, List.takeWhile_cons_of_neg (by decide),
      List.append_nil]
  have hdrop : (flag.name ++ '=' :: value).dropWhile (· != '=') = '=' :: value := by
    rw [List.dropWhile_append_of_pos hequals, List.dropWhile_cons_of_neg (by decide)]
  simp only [takeLong, htake, hdrop, hfind, hvalueName]
  rfl

-- A flag by its name that leaves nothing pending is done with before the next argument.
theorem takeCheckArguments_long {argument text : List Char} {rest : List (List Char)}
    {taken taken' : Taken} (hform : argumentForm argument = .long text)
    (h : takeLong .check text rest .nothing taken = .ok (taken', .nothing)) :
    takeCheckArguments false .nothing taken (argument :: rest)
      = takeCheckArguments false .nothing taken' rest := by
  rw [takeCheckArguments, hform]
  · simp only [Bool.false_eq_true, if_false, h]
    rfl
  · exact fun _ heq => Pending.noConfusion heq

/-- A flag with its value in the same argument changes what has been taken and leaves nothing
    pending. -/
theorem takeCheckArguments_valueArgument {flag : Flag}
    (hflag : flag ∈ [Flag.format, .limit, .void]) {value : List Char} {taken taken' : Taken}
    (h : taken.withValue .check flag value = .ok taken') (rest : List (List Char)) :
    takeCheckArguments false .nothing taken (valueArgument flag value :: rest)
      = takeCheckArguments false .nothing taken' rest := by
  have hform : argumentForm (valueArgument flag value) = .long (flag.name ++ '=' :: value) := by
    simp only [List.mem_cons, List.not_mem_nil, or_false] at hflag
    rcases hflag with rfl | rfl | rfl
    all_goals rfl
  refine takeCheckArguments_long hform ?_
  rw [takeLong_valueArgument hflag, h]
  rfl

/-- The flag without a value does so as well. -/
theorem takeCheckArguments_failArgument {taken taken' : Taken}
    (h : taken.withFlag .check .failOnError = .ok taken') (rest : List (List Char)) :
    takeCheckArguments false .nothing taken (failArgument :: rest)
      = takeCheckArguments false .nothing taken' rest := by
  have hlong : takeLong .check Flag.failOnError.name rest .nothing taken
      = (taken.withFlag .check .failOnError).map fun taken' => (taken', .nothing) := rfl
  refine takeCheckArguments_long rfl ?_
  rw [hlong, h]
  rfl

/-- A path at the end is taken once what was pending before it has been looked at. -/
theorem takeCheckArguments_path_of_settle {arguments : List (List Char)} {path : List Char}
    (h : NamesPath arguments path) {pending : Pending} {taken settled : Taken}
    (hpending : ∀ other, pending ≠ .path other) (hpath : taken.path = none)
    (hsettle : taken.settle .check pending = .ok settled) :
    takeCheckArguments false pending taken arguments = .ok { settled with path := some path } := by
  have hoperand : takePathOperand path pending taken = .ok (settled, .path path) := by
    rw [takePathOperand, hpath]
    · rw [hsettle]
      rfl
    · exact hpending
  have hflag : ∀ flag, pending ≠ .flag flag := by
    intro flag heq
    rw [heq, Taken.settle] at hsettle
    cases hsettle
  rcases h with rfl | ⟨hform, rfl⟩
  · rw [takeCheckArguments]
    · rw [show argumentForm ['-', '-'] = .separator from rfl]
      simp only [Bool.false_eq_true, if_false]
      rw [takeCheckArguments]
      · simp only [if_true, hoperand]
        rfl
      · exact hflag
    · exact hflag
  · rw [takeCheckArguments, hform]
    · simp only [Bool.false_eq_true, if_false, hoperand]
      rfl
    · exact hflag

-- The case of nothing pending before the path.
theorem takeCheckArguments_path {arguments : List (List Char)} {path : List Char}
    (h : NamesPath arguments path) {taken : Taken} (hpath : taken.path = none) :
    takeCheckArguments false .nothing taken arguments = .ok { taken with path := some path } :=
  takeCheckArguments_path_of_settle h (fun _ heq => Pending.noConfusion heq) hpath rfl

/-- A command line is accepted if its arguments have been taken, a path is among them, and no
    two flags exclude each other. -/
theorem readArguments_of_taken {arguments : List (List Char)} {taken : Taken} {path : List Char}
    (h : takeCheckArguments false .nothing {} arguments = .ok taken)
    (hpath : taken.path = some path) (hused : taken.checkConflicts .check = .ok ()) :
    readArguments ("check".toList :: arguments)
      = .ok ⟨taken.quiet, taken.verbosity,
        ⟨path, taken.format, taken.limit, taken.failOnError, taken.voidElements⟩⟩ := by
  have hread : readCheckArguments arguments
      = .ok (taken, ⟨path, taken.format, taken.limit, taken.failOnError,
        taken.voidElements⟩) := by
    simp only [readCheckArguments, h, bind, Except.bind, hused, hpath]
  have hverbosity : (if taken.verbosity = 0 then 0 else taken.verbosity) = taken.verbosity := by
    split
    · rename_i hzero
      exact hzero.symm
    · rfl
  have hrequest : readArguments ("check".toList :: arguments) = .ok (joinRequests {} taken
      ⟨path, taken.format, taken.limit, taken.failOnError, taken.voidElements⟩) := by
    rw [readArguments, takeProgramArguments]
    simp only [Bool.false_eq_true, if_false, if_true, hread]
    rfl
  rw [hrequest, joinRequests, Bool.false_or]
  exact congrArg (fun verbosity => Except.ok (Request.mk _ verbosity _)) hverbosity

/-- A path alone asks for a check that leaves everything to the settings. -/
theorem readArguments_path {arguments : List (List Char)} {path : List Char}
    (h : NamesPath arguments path) :
    readArguments ("check".toList :: arguments) = .ok ⟨false, 0, ⟨path, none, none, false, []⟩⟩ :=
  readArguments_of_taken (takeCheckArguments_path h rfl) rfl rfl

/-- A flag that wants a value gets the argument behind it, if that is no flag. -/
theorem takeCheckArguments_pending {flag : Flag} (hflag : flag ∈ [Flag.format, .limit, .void])
    {value : List Char} (hvalue : argumentForm value = .plain) (taken : Taken)
    (rest : List (List Char)) :
    takeCheckArguments false .nothing taken (('-' :: '-' :: flag.name) :: value :: rest)
      = takeCheckArguments false (.value flag value) taken rest := by
  have hlong : argumentForm ('-' :: '-' :: flag.name) = .long flag.name ∧
      takeLong .check flag.name (value :: rest) .nothing taken = .ok (taken, .flag flag) := by
    simp only [List.mem_cons, List.not_mem_nil, or_false] at hflag
    rcases hflag with rfl | rfl | rfl
    all_goals exact ⟨rfl, rfl⟩
  rw [takeCheckArguments, hlong.1]
  · simp only [Bool.false_eq_true, if_false, hlong.2]
    change takeCheckArguments false (.flag flag) taken (value :: rest) = _
    rw [takeCheckArguments, hvalue]
    simp only [Bool.false_eq_true, if_false]
  · exact fun _ heq => Pending.noConfusion heq

/-- A limit and a path ask for a check that leaves everything else to the settings. -/
theorem readArguments_limit {arguments : List (List Char)} {path : List Char}
    (h : NamesPath arguments path) {value : List Char} {limit : Nat}
    (hvalue : argumentForm value = .plain) (hlimit : readWhole value = .ok limit) :
    readArguments ("check".toList :: "--limit".toList :: value :: arguments)
      = .ok ⟨false, 0, ⟨path, none, some limit, false, []⟩⟩ := by
  have hsettle : Taken.settle .check (.value .limit value) {}
      = .ok { used := [.limit], limit := some limit } := by
    simp only [Taken.settle, Taken.withValue, hlimit]
    rfl
  have htaken : takeCheckArguments false .nothing {} ("--limit".toList :: value :: arguments)
      = .ok { used := [.limit], limit := some limit, path := some path } := by
    rw [show "--limit".toList = '-' :: '-' :: Flag.limit.name from rfl,
      takeCheckArguments_pending (by decide) hvalue]
    exact takeCheckArguments_path_of_settle h (fun _ heq => Pending.noConfusion heq) rfl hsettle
  exact readArguments_of_taken htaken rfl rfl

/-- The four settings as flags ask for what they say. -/
theorem readArguments_settingArguments {arguments : List (List Char)} {path : List Char}
    (h : NamesPath arguments path) (format : OutputFormat) {limit : Nat}
    (hlimit : limit ≤ wholeBound) (fail : Bool) (names : List (List Char)) :
    readArguments ("check".toList :: (settingArguments format limit fail names ++ arguments))
      = .ok ⟨false, 0, ⟨path, some format, some limit, fail,
        namesBetweenCommas ([','].intercalate names)⟩⟩ := by
  have hformat : Taken.withValue .check .format format.name {}
      = .ok { used := [.format], format := some format } := by
    simp only [Taken.withValue, ofName?_name]
    rfl
  have hgiven : Taken.withValue .check .limit (decimal limit)
      { used := [.format], format := some format }
      = .ok { used := [.format, .limit], format := some format, limit := some limit } := by
    simp only [Taken.withValue, readWhole_decimal hlimit]
    rfl
  have hfail : Taken.withFlag .check .failOnError
      { used := [.format, .limit], format := some format, limit := some limit }
      = .ok { used := [.format, .limit, .failOnError], format := some format, limit := some limit,
              failOnError := true } := rfl
  -- Each flag is rewritten into what it leaves behind, from the left, until the path is left.
  cases fail with
  | false =>
      have htaken : takeCheckArguments false .nothing {}
          (settingArguments format limit false names ++ arguments)
          = .ok { used := [.format, .limit, .void], format := some format, limit := some limit,
                  voidElements := namesBetweenCommas ([','].intercalate names),
                  path := some path } := by
        simp only [settingArguments, Bool.false_eq_true, if_false, List.append_nil,
          List.cons_append, List.nil_append]
        rw [takeCheckArguments_valueArgument (by decide) hformat,
          takeCheckArguments_valueArgument (by decide) hgiven,
          takeCheckArguments_valueArgument (by decide) rfl]
        exact takeCheckArguments_path h rfl
      exact readArguments_of_taken htaken rfl rfl
  | true =>
      have htaken : takeCheckArguments false .nothing {}
          (settingArguments format limit true names ++ arguments)
          = .ok { used := [.format, .limit, .failOnError, .void], format := some format,
                  limit := some limit, failOnError := true,
                  voidElements := namesBetweenCommas ([','].intercalate names),
                  path := some path } := by
        simp only [settingArguments, if_true, List.cons_append, List.nil_append]
        rw [takeCheckArguments_valueArgument (by decide) hformat,
          takeCheckArguments_valueArgument (by decide) hgiven,
          takeCheckArguments_failArgument hfail,
          takeCheckArguments_valueArgument (by decide) rfl]
        exact takeCheckArguments_path h rfl
      exact readArguments_of_taken htaken rfl rfl

end TagNesting
