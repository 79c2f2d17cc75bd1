import MqmGateway.ConverterNameParser.Scanning

/-!
# Quoted arguments

Texts that give the first arguments by position and others by name, with every
value in quotes, and what `parseArgs` reads from them.
-/

namespace MqmGateway

/-- An argument in a text; one that is given by position has no name. -/
structure ArgumentText where
  name : Payload
  value : Payload
  quote : Char
  beforeName : Nat
  afterName : Nat
  beforeValue : Nat
  afterValue : Nat
  filled : value ≠ []
  isQuote : quote = '"' ∨ quote = '\''
  unquoted : quote ∉ value

namespace ArgumentText

def blanks (count : Nat) : Payload :=
  List.replicate count ' '

def nameText (argument : ArgumentText) : Payload :=
  if argument.name = [] then []
  else
    blanks argument.beforeName ++
      (argument.name ++ (blanks argument.afterName ++ ['=']))

def valueText (argument : ArgumentText) : Payload :=
  blanks argument.beforeValue ++
    (argument.quote :: (argument.value ++
      argument.quote :: blanks argument.afterValue))

def text (argument : ArgumentText) : Payload :=
  argument.nameText ++ argument.valueText

end ArgumentText

/-- Characters with a meaning of their own outside quotes. -/
def argSpecials : Payload :=
  "=,'\"\\ ".toList

/-- Different names that need no quotes. -/
structure PlainNames (args : ConverterArgs) : Prop where
  distinct : (args.map ConverterArg.name).Nodup
  named : ∀ arg ∈ args, arg.name ≠ []
  plain : ∀ arg ∈ args, ∀ char ∈ arg.name, char ∉ argSpecials

/-- Arguments by position and after them others by name. -/
structure ArgumentsText (args : ConverterArgs) where
  positional : List ArgumentText
  named : List ArgumentText
  blankCount : Nat
  unnamed : ∀ argument ∈ positional, argument.name = []
  fits : positional.length ≤ args.length
  remaining : ∀ argument ∈ named, argument.name ∈
    (args.drop positional.length).map ConverterArg.name
  distinct : (named.map ArgumentText.name).Nodup

namespace ArgumentsText

variable {args : ConverterArgs}

def arguments (given : ArgumentsText args) : List ArgumentText :=
  given.positional ++ given.named

/-- Without arguments there may still be blanks. -/
def text (given : ArgumentsText args) : Payload :=
  if given.arguments = [] then ArgumentText.blanks given.blankCount
  else [','].intercalate (given.arguments.map ArgumentText.text)

def pairs (given : ArgumentsText args) : List (Payload × Payload) :=
  (args.map ConverterArg.name).zip
      (given.positional.map ArgumentText.value) ++
    given.named.map fun argument => (argument.name, argument.value)

end ArgumentsText

/-- The declared arguments with the given values, and the defaults for all
others. -/
def assignedValues (args : ConverterArgs) (pairs : List (Payload × Payload)) :
    ConverterArgValues :=
  { values := args.map fun arg =>
      { argName := arg.name
        argType := arg.argType
        value := (pairs.lookup arg.name).getD arg.defaultValue } }

namespace ConverterArgParser

variable {parser : ConverterArgParser}

theorem step_of_scan (scanning : parser.top = .scan) (char : Char) :
    parser.step char = parser.scanChar char := by
  rw [step, scanning]

theorem reads_blanks (scanning : parser.top = .scan) (count : Nat) :
    (ArgumentText.blanks count).foldlM step parser = .ok parser := by
  induction count with
  | zero => rfl
  | succ count induction =>
    exact foldlM_cons_ok (step_of_scan scanning ' ') induction

theorem scanChar_plain {char : Char} (plain : char ∉ argSpecials) :
    parser.scanChar char = .ok (parser.addChar char) := by
  unfold scanChar
  split
  all_goals first
    | rfl
    | exact absurd (by decide) plain

theorem reads_added {text : Payload} (added : ∀ char ∈ text, ∀ argValue,
      { parser with argValue }.step char =
        .ok ({ parser with argValue }.addChar char)) :
    text.foldlM step parser =
      .ok { parser with argValue := parser.argValue ++ text } := by
  induction text generalizing parser with
  | nil =>
    rw [List.append_nil]
    rfl
  | cons char text induction =>
    obtain ⟨here, later⟩ := List.forall_mem_cons.mp added
    have rest := @induction (parser.addChar char) later
    rw [addChar, List.append_assoc] at rest
    exact foldlM_cons_ok (here parser.argValue) rest

theorem reads_plain {text : Payload} (scanning : parser.top = .scan)
    (plain : ∀ char ∈ text, char ∉ argSpecials) :
    text.foldlM step parser =
      .ok { parser with argValue := parser.argValue ++ text } := by
  apply reads_added
  intro char listed argValue
  have top : { parser with argValue }.top = .scan := scanning
  rw [step_of_scan top, scanChar_plain (plain char listed)]

theorem reads_inside {quote : Char} {text : Payload}
    (inside : parser.top = .argValue)
    (delimited : parser.strDelimiter = some quote) (unquoted : quote ∉ text) :
    text.foldlM step parser =
      .ok { parser with argValue := parser.argValue ++ text } := by
  apply reads_added
  intro char listed argValue
  have other : quote ≠ char := by
    rintro rfl
    exact unquoted listed
  have top : { parser with argValue }.top = .argValue := inside
  rw [step, top]
  change (if _ then _ else _) = _
  rw [if_neg (by simp [delimited]),
    if_neg (by simpa [delimited] using other)]

/-- The parser between two arguments. -/
structure Idle (parser : ConverterArgParser) : Prop where
  pushed : parser.pushed = []
  argName : parser.argName = []
  argValue : parser.argValue = []
  strDelimiter : parser.strDelimiter = none

def given (parser : ConverterArgParser) (argument : ArgumentText) :
    ConverterArgParser :=
  { parser with argName := argument.name, argValue := argument.value }

theorem top_eq_scan (empty : parser.pushed = []) : parser.top = .scan := by
  rw [top, empty]
  rfl

theorem reads_valueText (argument : ArgumentText)
    (empty : parser.pushed = []) (unread : parser.argValue = [])
    (undelimited : parser.strDelimiter = none) :
    argument.valueText.foldlM step parser =
      .ok { parser with argValue := argument.value } := by
  let opened : ConverterArgParser :=
    { parser.push .argValue with strDelimiter := some argument.quote }
  have first : parser.step argument.quote = .ok opened := by
    rw [step_of_scan (top_eq_scan empty)]
    rcases argument.isQuote with double | single
    · simp only [opened, double]
      rfl
    · simp only [opened, single]
      rfl
  have inside : argument.value.foldlM step opened =
      .ok { opened with argValue := argument.value } := by
    have read := @reads_inside opened _ _ rfl rfl argument.unquoted
    rwa [show opened.argValue = [] from unread, List.nil_append] at read
  have last : ConverterArgParser.step
      { opened with argValue := argument.value } argument.quote =
        .ok { parser with argValue := argument.value } := by
    change (if _ then _ else _) = _
    rw [if_neg (by simp [opened]), if_pos rfl]
    simp only [pop, opened, push, List.tail_cons, undelimited]
  have behind := @reads_blanks { parser with argValue := argument.value }
    (top_eq_scan empty) argument.afterValue
  exact foldlM_append_ok (reads_blanks (top_eq_scan empty) _)
    (foldlM_cons_ok first
      (foldlM_append_ok inside (foldlM_cons_ok last behind)))

theorem reads_text {argument : ArgumentText} (idle : parser.Idle)
    (plain : ∀ char ∈ argument.name, char ∉ argSpecials) :
    argument.text.foldlM step parser = .ok (parser.given argument) := by
  have scanning := top_eq_scan idle.pushed
  have value := @reads_valueText { parser with argName := argument.name }
    argument idle.pushed idle.argValue idle.strDelimiter
  refine foldlM_append_ok ?_ value
  rw [ArgumentText.nameText]
  split
  · rename_i unnamed
    have same : parser.argName = argument.name :=
      idle.argName.trans unnamed.symm
    rw [← same]
    rfl
  · rename_i named
    have read := reads_plain scanning plain
    rw [idle.argValue, List.nil_append] at read
    have sign : ConverterArgParser.step
        { parser with argValue := argument.name } '=' =
          .ok { parser with argName := argument.name } := by
      rw [@step_of_scan { parser with argValue := argument.name } scanning]
      change (if _ then _ else _) = _
      rw [if_neg named, if_neg (not_not.mpr idle.argName), ← idle.argValue]
    have behind := @reads_blanks { parser with argValue := argument.name }
      scanning argument.afterName
    exact foldlM_append_ok (reads_blanks scanning _)
      (foldlM_append_ok read
        (foldlM_append_ok behind (foldlM_cons_ok sign rfl)))

def assign (parser : ConverterArgParser) (argument : ArgumentText) :
    Except String ConverterArgParser :=
  (parser.given argument).setArgValue

theorem Idle.assign {next : ConverterArgParser} {argument : ArgumentText}
    (idle : parser.Idle) (ran : parser.assign argument = .ok next) :
    next.Idle := by
  obtain ⟨_, _, _, _, _, _, _, rfl⟩ := setArgValue_ok ran
  exact ⟨idle.pushed, rfl, rfl, idle.strDelimiter⟩

theorem step_comma (idle : parser.Idle) (argument : ArgumentText) :
    (parser.given argument).step ',' = parser.assign argument := by
  have filled : (parser.given argument).argValue ≠ [] := argument.filled
  have scanning : (parser.given argument).top = .scan :=
    top_eq_scan idle.pushed
  rw [step_of_scan scanning]
  exact if_neg filled

theorem finish_given (idle : parser.Idle) (argument : ArgumentText) :
    (parser.given argument).finish =
      (parser.assign argument).map ConverterArgParser.values := by
  have filled : (parser.given argument).argValue ≠ [] := argument.filled
  have scanning : (parser.given argument).top = .scan :=
    top_eq_scan idle.pushed
  rw [finish, scanning]
  exact if_neg filled

theorem reads_joined {arguments : List ArgumentText} (idle : parser.Idle)
    (filled : arguments ≠ [])
    (plain : ∀ argument ∈ arguments, ∀ char ∈ argument.name,
      char ∉ argSpecials) :
    (([','].intercalate (arguments.map ArgumentText.text)).foldlM step
        parser >>= finish) =
      (arguments.foldlM assign parser).map ConverterArgParser.values := by
  induction arguments generalizing parser with
  | nil => exact absurd rfl filled
  | cons argument arguments induction =>
    obtain ⟨here, later⟩ := List.forall_mem_cons.mp plain
    have read := reads_text idle here
    rw [List.foldlM_cons]
    cases arguments with
    | nil =>
      rw [List.map_singleton, List.intercalate_singleton, read]
      change finish _ = _
      rw [finish_given idle]
      cases parser.assign argument <;> rfl
    | cons second arguments =>
      rw [List.map_cons, List.map_cons, List.intercalate_cons_cons,
        List.append_assoc, List.foldlM_append, read]
      change (List.foldlM step (parser.given argument)
        (',' :: _) >>= finish) = _
      rw [List.foldlM_cons, step_comma idle]
      cases ran : parser.assign argument with
      | error message => rfl
      | ok next => exact induction (idle.assign ran) (by simp) later

end ConverterArgParser

section Assigning

variable {args : ConverterArgs} {pairs : List (Payload × Payload)}
  {name value : Payload}

theorem names_assignedValues :
    (assignedValues args pairs).names = args.map ConverterArg.name := by
  rw [ConverterArgValues.names, assignedValues, List.map_map]
  rfl

theorem create_eq_assignedValues
    (distinct : (args.map ConverterArg.name).Nodup) :
    ConverterArgValues.create args = assignedValues args [] := by
  have added (start : List ConverterArgValue)
      (new : ∀ arg ∈ args,
        arg.name ∉ start.map ConverterArgValue.argName) :
      args.foldl (fun values arg =>
        if arg.name ∈ values.map ConverterArgValue.argName then
          values
        else
          values ++ [{ argName := arg.name
                       argType := arg.argType
                       value := arg.defaultValue }]) start =
        start ++ (assignedValues args []).values := by
    induction args generalizing start with
    | nil => exact (List.append_nil start).symm
    | cons arg args induction =>
      obtain ⟨here, later⟩ := List.forall_mem_cons.mp new
      obtain ⟨other, rest⟩ := List.nodup_cons.mp distinct
      rw [List.foldl_cons, if_neg here, induction rest]
      · rw [List.append_assoc]
        rfl
      · intro following listed
        rw [List.map_append, List.mem_append]
        rintro (earlier | same)
        · exact later following listed earlier
        · have equal : following.name = arg.name :=
            List.mem_singleton.mp same
          exact other (equal ▸ List.mem_map_of_mem listed)
  rw [ConverterArgValues.create, added [] (by simp)]
  rfl

theorem setArgValue_assignedValues
    (declared : name ∈ args.map ConverterArg.name)
    (new : name ∉ pairs.map Prod.fst) :
    (assignedValues args pairs).setArgValue name value =
      .ok (assignedValues args (pairs ++ [(name, value)])) := by
  have listed : name ∈ (assignedValues args pairs).values.map
      ConverterArgValue.argName := by
    rwa [← ConverterArgValues.names, names_assignedValues]
  have unset : pairs.lookup name = none := by
    rw [List.lookup_eq_none_iff]
    intro pair member
    have different : name ≠ pair.1 := by
      rintro rfl
      exact new (List.mem_map_of_mem member)
    simpa using different
  rw [ConverterArgValues.setArgValue, if_pos listed, assignedValues,
    assignedValues, List.map_map]
  congr 2
  apply List.map_congr_left
  intro arg _
  rw [Function.comp_apply, List.lookup_append]
  by_cases same : arg.name = name
  · rw [if_pos same, same, unset]
    simp
  · rw [if_neg same]
    simp [same]

end Assigning

namespace ConverterArgParser

variable {args nextArgs : ConverterArgs} {useArgOrder : Bool}
  {pairs : List (Payload × Payload)}

def after (args : ConverterArgs) (useArgOrder : Bool)
    (nextArgs : ConverterArgs) (pairs : List (Payload × Payload)) :
    ConverterArgParser :=
  { args
    useArgOrder
    nextArgs
    processedArgs := pairs.map Prod.fst
    values := assignedValues args pairs }

theorem setArgValue_chosen {parser chosen : ConverterArgParser}
    {values : ConverterArgValues} (chose : parser.chooseArg = .ok chosen)
    (new : chosen.argName ∉ chosen.processedArgs)
    (set : chosen.values.setArgValue chosen.argName chosen.argValue =
      .ok values) :
    parser.setArgValue = .ok
      { chosen with
        values
        processedArgs := chosen.processedArgs ++ [chosen.argName]
        argName := []
        argValue := [] } := by
  rw [setArgValue, chose]
  change (if _ then _ else _) = _
  rw [if_neg new, set]
  rfl

theorem assign_positional {argument : ArgumentText} {arg : ConverterArg}
    (unnamed : argument.name = [])
    (declared : arg.name ∈ args.map ConverterArg.name)
    (new : arg.name ∉ pairs.map Prod.fst) :
    (after args true (arg :: nextArgs) pairs).assign argument =
      .ok (after args true nextArgs (pairs ++ [(arg.name, argument.value)])) := by
  have chose : ((after args true (arg :: nextArgs) pairs).given
      argument).chooseArg = .ok
        { (after args true nextArgs pairs).given argument with
          argName := arg.name } := by
    rw [chooseArg]
    exact if_neg (not_not.mpr unnamed)
  rw [assign, setArgValue_chosen chose new
    (setArgValue_assignedValues declared new)]
  simp [after, given]

theorem assign_named {argument : ArgumentText} (named : argument.name ≠ [])
    (declared : argument.name ∈ args.map ConverterArg.name)
    (new : argument.name ∉ pairs.map Prod.fst) :
    (after args useArgOrder nextArgs pairs).assign argument =
      .ok (after args false nextArgs
        (pairs ++ [(argument.name, argument.value)])) := by
  have chose : ((after args useArgOrder nextArgs pairs).given
      argument).chooseArg =
        .ok ((after args false nextArgs pairs).given argument) := by
    rw [chooseArg]
    exact if_pos named
  rw [assign, setArgValue_chosen chose new
    (setArgValue_assignedValues declared new)]
  simp [after, given]

theorem nodup_set {name : Payload} {names : List Payload} (value : Payload)
    (distinct : (pairs.map Prod.fst ++ name :: names).Nodup) :
    name ∉ pairs.map Prod.fst ∧
      ((pairs ++ [(name, value)]).map Prod.fst ++ names).Nodup := by
  refine ⟨?_, ?_⟩
  · intro listed
    exact List.disjoint_of_nodup_append distinct listed List.mem_cons_self
  · rw [List.map_append, List.append_assoc]
    exact distinct

theorem assigns_positional {arguments : List ArgumentText}
    (unnamed : ∀ argument ∈ arguments, argument.name = [])
    (fits : arguments.length ≤ nextArgs.length)
    (declared : ∀ arg ∈ nextArgs, arg.name ∈ args.map ConverterArg.name)
    (distinct : (pairs.map Prod.fst ++ nextArgs.map ConverterArg.name).Nodup) :
    arguments.foldlM assign (after args true nextArgs pairs) =
      .ok (after args true (nextArgs.drop arguments.length)
        (pairs ++ (nextArgs.map ConverterArg.name).zip
          (arguments.map ArgumentText.value))) := by
  induction arguments generalizing nextArgs pairs with
  | nil =>
    rw [List.map_nil, List.zip_nil_right, List.append_nil]
    rfl
  | cons argument arguments induction =>
    obtain ⟨here, later⟩ := List.forall_mem_cons.mp unnamed
    cases nextArgs with
    | nil => simp at fits
    | cons arg nextArgs =>
      obtain ⟨known, others⟩ := List.forall_mem_cons.mp declared
      obtain ⟨new, distinctRest⟩ := nodup_set argument.value distinct
      refine foldlM_cons_ok (assign_positional here known new) ?_
      have rest := induction later (by simpa using fits) others
        distinctRest
      rw [List.append_assoc] at rest
      exact rest

theorem assigns_named {arguments : List ArgumentText}
    (named : ∀ argument ∈ arguments, argument.name ≠ [])
    (declared : ∀ argument ∈ arguments,
      argument.name ∈ args.map ConverterArg.name)
    (distinct : (pairs.map Prod.fst ++ arguments.map ArgumentText.name).Nodup) :
    ∃ order, arguments.foldlM assign (after args useArgOrder nextArgs pairs) =
      .ok (after args order nextArgs (pairs ++
        arguments.map fun argument => (argument.name, argument.value))) := by
  induction arguments generalizing useArgOrder pairs with
  | nil =>
    refine ⟨useArgOrder, ?_⟩
    rw [List.map_nil, List.append_nil]
    rfl
  | cons argument arguments induction =>
    obtain ⟨here, later⟩ := List.forall_mem_cons.mp named
    obtain ⟨known, others⟩ := List.forall_mem_cons.mp declared
    obtain ⟨new, distinctRest⟩ := nodup_set argument.value distinct
    obtain ⟨order, rest⟩ := @induction false _ later others distinctRest
    refine ⟨order, foldlM_cons_ok (assign_named here known new) ?_⟩
    rw [List.append_assoc] at rest
    exact rest

end ConverterArgParser

namespace ArgumentsText

variable {args : ConverterArgs}

theorem map_fst_zip_take {α β : Type} (first : List α) (second : List β) :
    (first.zip second).map Prod.fst = first.take second.length := by
  induction first generalizing second with
  | nil => simp
  | cons item first induction =>
    cases second with
    | nil => simp
    | cons other second => simp [induction]

theorem exists_declared (given : ArgumentsText args) {argument : ArgumentText}
    (listed : argument ∈ given.named) :
    ∃ arg ∈ args, arg.name = argument.name := by
  obtain ⟨arg, later, same⟩ :=
    List.mem_map.mp (given.remaining argument listed)
  exact ⟨arg, List.mem_of_mem_drop later, same⟩

theorem plain_names (plain : PlainNames args) (given : ArgumentsText args) :
    ∀ argument ∈ given.arguments, ∀ char ∈ argument.name,
      char ∉ argSpecials := by
  intro argument listed
  rcases List.mem_append.mp listed with positional | named
  · rw [given.unnamed argument positional]
    exact List.forall_mem_nil _
  · obtain ⟨arg, declared, same⟩ := given.exists_declared named
    rw [← same]
    exact plain.plain arg declared

/-- Setting the arguments one after the other gives every one its value. -/
theorem assigns (plain : PlainNames args) (given : ArgumentsText args) :
    (given.arguments.foldlM ConverterArgParser.assign
        (.create args)).map ConverterArgParser.values =
      .ok (assignedValues args given.pairs) := by
  have start : ConverterArgParser.create args =
      .after args true args [] := by
    rw [ConverterArgParser.create, create_eq_assignedValues plain.distinct]
    rfl
  have first := @ConverterArgParser.assigns_positional args args []
    given.positional given.unnamed given.fits
    (fun arg listed => List.mem_map_of_mem listed) plain.distinct
  have distinct : (((args.map ConverterArg.name).zip
      (given.positional.map ArgumentText.value)).map Prod.fst ++
        given.named.map ArgumentText.name).Nodup := by
    rw [map_fst_zip_take, List.length_map]
    have parts := plain.distinct
    rw [← List.take_append_drop given.positional.length
      (args.map ConverterArg.name)] at parts
    refine parts.of_append_left.append given.distinct ?_
    intro name inFront listed
    obtain ⟨argument, member, rfl⟩ := List.mem_map.mp listed
    have later := given.remaining argument member
    rw [List.map_drop] at later
    exact List.disjoint_of_nodup_append parts inFront later
  obtain ⟨order, second⟩ := @ConverterArgParser.assigns_named args
    (args.drop given.positional.length) true _ given.named
    (fun argument listed => by
      obtain ⟨arg, declared, same⟩ := given.exists_declared listed
      rw [← same]
      exact plain.named arg declared)
    (fun argument listed => by
      obtain ⟨arg, declared, same⟩ := given.exists_declared listed
      exact List.mem_map.mpr ⟨arg, declared, same⟩)
    distinct
  rw [start, arguments, foldlM_append_ok first second]
  rfl

/-- What is written in quotes is read back. -/
theorem arguments_read_back {args : ConverterArgs} (plain : PlainNames args)
    (given : ArgumentsText args) :
    ConverterNameParser.parseArgs args given.text =
      .ok (assignedValues args given.pairs) := by
  have idle : (ConverterArgParser.create args).Idle := ⟨rfl, rfl, rfl, rfl⟩
  have assigned := given.assigns plain
  rw [text]
  split
  · rename_i none
    rw [none] at assigned
    rw [ConverterNameParser.parseArgs,
      ConverterArgParser.reads_blanks (ConverterArgParser.top_eq_scan rfl)]
    exact assigned
  · rename_i filled
    rw [← assigned, ← ConverterArgParser.reads_joined idle filled
      (given.plain_names plain)]
    rfl

theorem plain_of_all (checked : args.all (fun arg => arg.name.all
      fun char => !argSpecials.contains char) = true) :
    ∀ arg ∈ args, ∀ char ∈ arg.name, char ∉ argSpecials := by
  simpa only [List.all_eq_true, Bool.not_eq_true', List.contains_eq_mem,
    decide_eq_false_iff_not] using checked

theorem arguments_read_back_two : ConverterNameParser.parseArgs
      [⟨"low".toList, .int, "0".toList⟩, ⟨"high".toList, .int, "9".toList⟩,
        ⟨"text".toList, .string, "x".toList⟩]
      "'1' , text = \"a,'b=\\ \"".toList =
    .ok { values := [⟨"low".toList, .int, "1".toList⟩,
      ⟨"high".toList, .int, "9".toList⟩,
      ⟨"text".toList, .string, "a,'b=\\ ".toList⟩] } := by
  exact @arguments_read_back
    [⟨"low".toList, .int, "0".toList⟩, ⟨"high".toList, .int, "9".toList⟩,
      ⟨"text".toList, .string, "x".toList⟩]
    { distinct := by decide
      named := by decide
      plain := plain_of_all rfl }
    { positional := [⟨[], "1".toList, '\'', 0, 0, 0, 1, by decide, .inr rfl,
        by decide⟩]
      named := [⟨"text".toList, "a,'b=\\ ".toList, '"', 1, 1, 1, 0,
        by decide, .inl rfl, by decide⟩]
      blankCount := 0
      unnamed := by decide
      fits := by decide
      remaining := by decide
      distinct := by decide }

end ArgumentsText

end MqmGateway
