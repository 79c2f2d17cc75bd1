import Mathlib.Data.List.Nodup
import MqmGateway.ConverterNameParser
import MqmGateway.Library.Fallible

/-!
# Arguments as they stand in the text

A text is cut at the commas and equal signs that are neither quoted nor
escaped.  The names and values that this gives are compared with what
`parseArgs` makes of the same text.
-/

namespace MqmGateway

inductive Quoting where
  | outside
  | quoted (delimiter : Char)
  | escaped
deriving DecidableEq, Repr

/-- What has been read of a text: the word that is being read and the name in
front of it, the values without a name and those with one. -/
structure ArgScan where
  quoting : Quoting := .outside
  name : Option Payload := none
  word : Payload := []
  positional : List Payload := []
  named : List (Payload × Payload) := []
deriving DecidableEq, Repr

namespace ArgScan

def addChar (scan : ArgScan) (char : Char) : ArgScan :=
  { scan with word := scan.word ++ [char] }

/-- The word is the value of the name in front of it. -/
def closed (scan : ArgScan) : ArgScan :=
  match scan.name with
  | none =>
    { scan with word := [], positional := scan.positional ++ [scan.word] }
  | some name =>
    { scan with
      name := none
      word := []
      named := scan.named ++ [(name, scan.word)] }

/-- A word is the name of what follows an equal sign. -/
def equalSign (scan : ArgScan) : ArgScan :=
  match scan.name with
  | none => { scan with name := some scan.word, word := [] }
  | some _ => { scan.closed with name := some scan.word }

def outsideChar (scan : ArgScan) (char : Char) : ArgScan :=
  match char with
  | '\\' => { scan with quoting := .escaped }
  | '=' => scan.equalSign
  | ',' => scan.closed
  | '"' | '\'' => { scan with quoting := .quoted char }
  | ' ' => scan
  | _ => scan.addChar char

def next (scan : ArgScan) (char : Char) : ArgScan :=
  match scan.quoting with
  | .outside => scan.outsideChar char
  | .quoted delimiter =>
    if delimiter = char then { scan with quoting := .outside }
    else scan.addChar char
  | .escaped => { scan.addChar char with quoting := .outside }

def read (data : Payload) : ArgScan :=
  data.foldl next {}

def blank (scan : ArgScan) : Bool :=
  scan.name.isNone && scan.word.isEmpty

end ArgScan

/-- The values without a name, in the order of the text. -/
def positionalValues (data : Payload) : List Payload :=
  let scan := ArgScan.read data
  if scan.blank then scan.positional else scan.closed.positional

/-- The names in front of equal signs, each with what stands behind it. -/
def namedValues (data : Payload) : List (Payload × Payload) :=
  let scan := ArgScan.read data
  if scan.blank then scan.named else scan.closed.named

namespace ConverterArgValues

variable {values next : ConverterArgValues} {name value : Payload}

def names (values : ConverterArgValues) : List Payload :=
  values.values.map ConverterArgValue.argName

def Holds (values : ConverterArgValues) (name value : Payload) : Prop :=
  ∃ given, values.getArgValue name = .ok given ∧ given.value = value

theorem setArgValue_ok (set : values.setArgValue name value = .ok next) :
    name ∈ values.names ∧ next.values = values.values.map fun given =>
        if given.argName = name then { given with value } else given := by
  rw [setArgValue] at set
  split at set
  · rename_i listed
    cases set
    exact ⟨listed, rfl⟩
  · cases set

theorem names_setArgValue (set : values.setArgValue name value = .ok next) :
    next.names = values.names := by
  rw [names, (setArgValue_ok set).2, names, List.map_map]
  apply List.map_congr_left
  intro given _
  rw [Function.comp_apply]
  split <;> rfl

theorem getArgValue_setArgValue
    (set : values.setArgValue name value = .ok next) (other : Payload) :
    next.getArgValue other = if other = name then
        (values.getArgValue other).map fun given => { given with value }
      else
        values.getArgValue other := by
  have renamed : (fun given : ConverterArgValue =>
      decide (given.argName = other)) ∘ (fun given : ConverterArgValue =>
        if given.argName = name then { given with value } else given) =
      fun given => decide (given.argName = other) := by
    funext given
    rw [Function.comp_apply]
    split <;> rfl
  rw [getArgValue, (setArgValue_ok set).2, List.find?_map, renamed,
    getArgValue]
  cases found : values.values.find? fun given => given.argName = other with
  | none => by_cases equal : other = name <;> simp [equal, Except.map]
  | some given =>
    have same : given.argName = other := by
      simpa using List.find?_some found
    by_cases equal : other = name <;> simp [equal, same, Except.map]

theorem exists_getArgValue (listed : name ∈ values.names) :
    ∃ given, values.getArgValue name = .ok given := by
  obtain ⟨listedValue, member, same⟩ := List.mem_map.mp listed
  rw [getArgValue]
  cases found : values.values.find? fun given => given.argName = name with
  | none =>
    have other := List.find?_eq_none.mp found listedValue member
    exact absurd same (by simpa using other)
  | some given => exact ⟨given, rfl⟩

theorem holds_setArgValue (set : values.setArgValue name value = .ok next) :
    next.Holds name value := by
  obtain ⟨given, found⟩ := exists_getArgValue (setArgValue_ok set).1
  have written := getArgValue_setArgValue set name
  rw [if_pos rfl, found] at written
  exact ⟨_, written, rfl⟩

theorem Holds.setArgValue {other text : Payload}
    (holds : values.Holds other text) (different : other ≠ name)
    (set : values.setArgValue name value = .ok next) :
    next.Holds other text := by
  obtain ⟨given, found, same⟩ := holds
  refine ⟨given, ?_, same⟩
  rw [getArgValue_setArgValue set, if_neg different, found]

/-- An argument starts with the default of its first declaration. -/
theorem find?_create (args : ConverterArgs) (name : Payload) :
    ((create args).values.find? fun given => given.argName = name) =
      (args.find? fun arg => arg.name = name).map fun arg =>
        { argName := arg.name
          argType := arg.argType
          value := arg.defaultValue } := by
  have added (start : List ConverterArgValue) :
      ((args.foldl (fun values arg =>
        if arg.name ∈ values.map ConverterArgValue.argName then
          values
        else
          values ++ [{ argName := arg.name
                       argType := arg.argType
                       value := arg.defaultValue }]) start).find?
            fun given => given.argName = name) =
        (start.find? fun given => given.argName = name).or
          ((args.find? fun arg => arg.name = name).map fun arg =>
            { argName := arg.name
              argType := arg.argType
              value := arg.defaultValue }) := by
    induction args generalizing start with
    | nil => simp
    | cons arg args induction =>
      rw [List.foldl_cons, induction, List.find?_cons]
      split <;> rename_i listed <;> by_cases same : arg.name = name
      · obtain ⟨given, member, named⟩ := List.mem_map.mp listed
        have found : (start.find? fun given =>
            given.argName = name).isSome = true :=
          List.find?_isSome.mpr ⟨given, member, by simp [named, same]⟩
        rw [Option.or_of_isSome found, Option.or_of_isSome found]
      · simp [same]
      · simp [List.find?_append, same]
      · simp [List.find?_append, same]
  rw [create, added]
  simp

theorem mem_names_create {args : ConverterArgs} :
    name ∈ (create args).names ↔ name ∈ args.map ConverterArg.name := by
  have found := congrArg Option.isSome (find?_create args name)
  rw [Option.isSome_map, Bool.eq_iff_iff, List.find?_isSome,
    List.find?_isSome] at found
  simpa [names] using found

end ConverterArgValues

namespace ConverterArgParser

variable {parser next : ConverterArgParser} {char : Char}

/-- The name that a value is for. -/
inductive Chooses (parser : ConverterArgParser) :
    Payload → Bool → ConverterArgs → Prop where
  | named (given : parser.argName ≠ []) :
      Chooses parser parser.argName false parser.nextArgs
  | positional {arg : ConverterArg} {rest : ConverterArgs}
      (unnamed : parser.argName = []) (ordered : parser.useArgOrder = true)
      (following : parser.nextArgs = arg :: rest) :
      Chooses parser arg.name true rest

theorem chooseArg_ok (ran : parser.chooseArg = .ok next) :
    ∃ argName useArgOrder nextArgs,
      parser.Chooses argName useArgOrder nextArgs ∧
      next = { parser with useArgOrder, argName, nextArgs } := by
  rw [chooseArg] at ran
  split at ran
  · rename_i given
    cases ran
    exact ⟨_, _, _, .named given, rfl⟩
  · rename_i unnamed
    have empty : parser.argName = [] := not_not.mp unnamed
    split at ran
    · cases ran
    · rename_i ordered
      have inOrder : parser.useArgOrder = true := by simpa using ordered
      split at ran
      · cases ran
      · rename_i arg rest following
        cases ran
        refine ⟨_, _, _, .positional empty inOrder following, ?_⟩
        rw [← inOrder]

/-- A value that has been set is that of an argument without one. -/
theorem setArgValue_ok (ran : parser.setArgValue = .ok next) :
    ∃ name useArgOrder nextArgs values,
      parser.Chooses name useArgOrder nextArgs ∧
      name ∉ parser.processedArgs ∧
      parser.values.setArgValue name parser.argValue = .ok values ∧
      next =
        { parser with
          useArgOrder
          nextArgs
          values
          processedArgs := parser.processedArgs ++ [name]
          argName := []
          argValue := [] } := by
  obtain ⟨chosen, chose, ran⟩ := exists_of_bind ran
  obtain ⟨name, useArgOrder, nextArgs, chooses, rfl⟩ := chooseArg_ok chose
  split at ran
  · cases ran
  · rename_i unprocessed
    obtain ⟨values, set, same⟩ := exists_of_bind ran
    cases same
    dsimp only at set
    cases written : parser.values.setArgValue name parser.argValue with
    | error message =>
      rw [written] at set
      cases set
    | ok given =>
      rw [written] at set
      cases set
      exact ⟨name, useArgOrder, nextArgs, _, chooses, unprocessed,
        written, rfl⟩

end ConverterArgParser

def Quoting.pushed : Quoting → List ArgParserState
  | .outside => []
  | .quoted _ => [.argValue]
  | .escaped => [.escape]

def Quoting.delimiter : Quoting → Option Char
  | .quoted delimiter => some delimiter
  | _ => none

/-- The arguments that the parser has set are those that stand in the text in
front of it. -/
structure Recorded (args : ConverterArgs) (useArgOrder : Bool)
    (nextArgs : ConverterArgs) (processedArgs : List Payload)
    (values : ConverterArgValues) (positional : List Payload)
    (named : List (Payload × Payload)) : Prop where
  ordered : useArgOrder = true → named = []
  following : nextArgs = args.drop positional.length
  processed : processedArgs =
    (args.map ConverterArg.name).take positional.length ++ named.map Prod.fst
  distinct : processedArgs.Nodup
  declared : ∀ name ∈ processedArgs, name ∈ args.map ConverterArg.name
  names : values.names = (ConverterArgValues.create args).names
  held : ∀ pair ∈ named, pair.2 ≠ [] ∧ values.Holds pair.1 pair.2

namespace Recorded

variable {args nextArgs : ConverterArgs} {useArgOrder : Bool}
  {processedArgs : List Payload} {values next : ConverterArgValues}
  {positional : List Payload} {named : List (Payload × Payload)}
  {name word : Payload}
  (record : Recorded args useArgOrder nextArgs processedArgs values
    positional named)
  (unprocessed : name ∉ processedArgs)
  (set : values.setArgValue name word = .ok next)

include record

include unprocessed in
theorem distinct_append : (processedArgs ++ [name]).Nodup :=
  record.distinct.append (List.nodup_singleton _)
    (List.disjoint_singleton.mpr unprocessed)

include set in
theorem declared_append : ∀ other ∈ processedArgs ++ [name],
      other ∈ args.map ConverterArg.name := by
  intro other listed
  rcases List.mem_append.mp listed with earlier | last
  · exact record.declared other earlier
  · cases List.mem_singleton.mp last
    rw [← ConverterArgValues.mem_names_create, ← record.names]
    exact (ConverterArgValues.setArgValue_ok set).1

include set in
theorem names_eq : next.names = (ConverterArgValues.create args).names :=
  (ConverterArgValues.names_setArgValue set).trans record.names

include unprocessed set in
theorem held_next : ∀ pair ∈ named, pair.2 ≠ [] ∧ next.Holds pair.1 pair.2 := by
  intro pair listed
  obtain ⟨given, holds⟩ := record.held pair listed
  refine ⟨given, holds.setArgValue ?_ set⟩
  rintro rfl
  apply unprocessed
  rw [record.processed]
  exact List.mem_append_right _ (List.mem_map_of_mem listed)

include unprocessed set in
theorem setNamed (filled : word ≠ []) :
    Recorded args false nextArgs (processedArgs ++ [name]) next positional
      (named ++ [(name, word)]) where
  ordered := by simp
  following := record.following
  processed := by
    rw [record.processed, List.map_append, List.append_assoc]
    rfl
  distinct := record.distinct_append unprocessed
  declared := record.declared_append set
  names := record.names_eq set
  held := by
    intro pair listed
    rcases List.mem_append.mp listed with earlier | last
    · exact record.held_next unprocessed set pair earlier
    · cases List.mem_singleton.mp last
      exact ⟨filled, ConverterArgValues.holds_setArgValue set⟩

theorem setPositional {arg : ConverterArg} {rest : ConverterArgs}
    (unprocessed : arg.name ∉ processedArgs)
    (set : values.setArgValue arg.name word = .ok next)
    (ordered : useArgOrder = true) (following : nextArgs = arg :: rest) :
    Recorded args true rest (processedArgs ++ [arg.name]) next
      (positional ++ [word]) named := by
  have unmixed : named = [] := record.ordered ordered
  rw [record.following] at following
  have after : rest = args.drop (positional.length + 1) := by
    rw [← List.tail_drop, following]
    rfl
  have listed : (args.map ConverterArg.name)[positional.length]? =
      some arg.name := by
    rw [List.getElem?_map, ← List.head?_drop, following]
    rfl
  refine ⟨fun _ => unmixed, ?_, ?_, record.distinct_append unprocessed,
    record.declared_append set, record.names_eq set,
    record.held_next unprocessed set⟩
  · rw [List.length_append]
    exact after
  · rw [record.processed, unmixed, List.length_append,
      List.length_singleton, List.take_add_one, listed]
    simp

end Recorded

structure Agrees (args : ConverterArgs) (parser : ConverterArgParser)
    (scan : ArgScan) : Prop where
  pushed : parser.pushed = scan.quoting.pushed
  delimiter : parser.strDelimiter = scan.quoting.delimiter
  name : parser.argName = scan.name.getD []
  named : scan.name ≠ some []
  word : parser.argValue = scan.word
  record : Recorded args parser.useArgOrder parser.nextArgs
    parser.processedArgs parser.values scan.positional scan.named

namespace Agrees

variable {args : ConverterArgs} {parser next : ConverterArgParser}
  {scan : ArgScan} {char : Char}

theorem initial : Agrees args (.create args) {} where
  pushed := rfl
  delimiter := rfl
  name := rfl
  named := by simp
  word := rfl
  record :=
    { ordered := fun _ => rfl
      following := rfl
      processed := rfl
      distinct := List.nodup_nil
      declared := List.forall_mem_nil _
      names := rfl
      held := List.forall_mem_nil _ }

theorem name_eq_none (agrees : Agrees args parser scan)
    (unnamed : parser.argName = []) : scan.name = none := by
  cases known : scan.name with
  | none => rfl
  | some argName =>
    rw [agrees.name, known] at unnamed
    exact absurd (known.trans (congrArg some unnamed)) agrees.named

theorem closed (agrees : Agrees args parser scan) (filled : scan.word ≠ [])
    (ran : parser.setArgValue = .ok next) : Agrees args next scan.closed := by
  obtain ⟨name, useArgOrder, nextArgs, values, chooses, unprocessed, set,
    rfl⟩ := ConverterArgParser.setArgValue_ok ran
  rw [agrees.word] at set
  cases chooses with
  | named given =>
    cases known : scan.name with
    | none =>
      rw [agrees.name, known] at given
      exact absurd rfl given
    | some argName =>
      have same : parser.argName = argName := by
        rw [agrees.name, known]
        rfl
      rw [ArgScan.closed, known, ← same]
      exact ⟨agrees.pushed, agrees.delimiter, rfl, by simp, rfl,
        agrees.record.setNamed unprocessed set filled⟩
  | positional unnamed ordered following =>
    have none := agrees.name_eq_none unnamed
    rw [ArgScan.closed, none]
    exact ⟨agrees.pushed, agrees.delimiter, rfl, by simp, rfl,
      agrees.record.setPositional unprocessed set ordered following⟩

theorem equalSign (agrees : Agrees args parser scan)
    (ran : parser.scanChar '=' = .ok next) :
    Agrees args next scan.equalSign := by
  change (if _ then _ else _) = _ at ran
  split at ran
  · cases ran
  · rename_i filled
    split at ran
    · cases ran
    · rename_i unnamed
      cases ran
      have none := agrees.name_eq_none (not_not.mp unnamed)
      rw [agrees.word] at filled
      rw [ArgScan.equalSign, none]
      exact ⟨agrees.pushed, agrees.delimiter, agrees.word,
        fun empty => filled (Option.some.inj empty), rfl, agrees.record⟩

theorem addChar (agrees : Agrees args parser scan) :
    Agrees args (parser.addChar char) (scan.addChar char) where
  pushed := agrees.pushed
  delimiter := agrees.delimiter
  name := agrees.name
  named := agrees.named
  word := congrArg (· ++ [char]) agrees.word
  record := agrees.record

theorem scanChar (agrees : Agrees args parser scan)
    (outside : scan.quoting = .outside)
    (ran : parser.scanChar char = .ok next) :
    Agrees args next (scan.outsideChar char) := by
  have empty : parser.pushed = [] := by
    rw [agrees.pushed, outside]
    rfl
  have undelimited : parser.strDelimiter = none := by
    rw [agrees.delimiter, outside]
    rfl
  unfold ConverterArgParser.scanChar at ran
  split at ran
  · cases ran
    exact ⟨congrArg (_ :: ·) empty, undelimited, agrees.name, agrees.named,
      agrees.word, agrees.record⟩
  · exact agrees.equalSign ran
  · split at ran
    · cases ran
    · rename_i filled
      rw [agrees.word] at filled
      exact agrees.closed filled ran
  · cases ran
    exact ⟨congrArg (_ :: ·) empty, rfl, agrees.name, agrees.named,
      agrees.word, agrees.record⟩
  · cases ran
    exact ⟨congrArg (_ :: ·) empty, rfl, agrees.name, agrees.named,
      agrees.word, agrees.record⟩
  · cases ran
    exact agrees
  · cases ran
    have other : scan.outsideChar char = scan.addChar char := by
      unfold ArgScan.outsideChar
      split <;> simp_all
    rw [other]
    exact agrees.addChar

theorem step (agrees : Agrees args parser scan)
    (ran : parser.step char = .ok next) :
    Agrees args next (scan.next char) := by
  have top : parser.top = scan.quoting.pushed.head?.getD .scan := by
    rw [ConverterArgParser.top, agrees.pushed]
  cases quoting : scan.quoting with
  | outside =>
    rw [quoting] at top
    rw [ConverterArgParser.step, top] at ran
    rw [ArgScan.next, quoting]
    exact agrees.scanChar quoting ran
  | quoted delimiter =>
    have delimited : parser.strDelimiter = some delimiter := by
      rw [agrees.delimiter, quoting]
      rfl
    rw [quoting] at top
    rw [ConverterArgParser.step, top] at ran
    change (if _ then _ else _) = _ at ran
    rw [if_neg (by simp [delimited]), delimited] at ran
    rw [ArgScan.next, quoting]
    change Agrees args next (if _ then _ else _)
    by_cases last : delimiter = char
    · rw [if_pos (congrArg some last)] at ran
      cases ran
      rw [if_pos last]
      exact ⟨by rw [ConverterArgParser.pop, agrees.pushed, quoting]; rfl,
        rfl, agrees.name, agrees.named, agrees.word, agrees.record⟩
    · rw [if_neg (by simpa using last)] at ran
      cases ran
      rw [if_neg last]
      exact agrees.addChar
  | escaped =>
    have undelimited : parser.strDelimiter = none := by
      rw [agrees.delimiter, quoting]
      rfl
    rw [quoting] at top
    rw [ConverterArgParser.step, top] at ran
    cases ran
    rw [ArgScan.next, quoting]
    refine ⟨?_, undelimited, agrees.name, agrees.named,
      congrArg (· ++ [char]) agrees.word, agrees.record⟩
    change parser.pushed.tail = []
    rw [agrees.pushed, quoting]
    rfl

theorem foldlM {data : Payload} (agrees : Agrees args parser scan)
    (ran : data.foldlM ConverterArgParser.step parser = .ok next) :
    Agrees args next (data.foldl ArgScan.next scan) := by
  induction data generalizing parser scan with
  | nil =>
    cases ran
    exact agrees
  | cons char data induction =>
    obtain ⟨middle, first, rest⟩ := exists_of_bind ran
    exact induction (agrees.step first) rest

end Agrees

/-- Every name is declared and has its value, and no argument is given twice,
be it by name or by position. -/
structure NoneIgnored (args : ConverterArgs) (data : Payload)
    (values : ConverterArgValues) : Prop where
  declared : ∀ pair ∈ namedValues data, pair.1 ∈ args.map ConverterArg.name
  assigned : ∀ pair ∈ namedValues data,
    pair.2 ≠ [] ∧ values.Holds pair.1 pair.2
  once : ((args.map ConverterArg.name).take (positionalValues data).length ++
    (namedValues data).map Prod.fst).Nodup

def EndsInName (data : Payload) : Prop :=
  (ArgScan.read data).name ≠ none ∧ (ArgScan.read data).word = []

theorem Agrees.noneIgnored {args : ConverterArgs} {data : Payload}
    {parser : ConverterArgParser} {scan : ArgScan}
    (agrees : Agrees args parser scan)
    (positional : positionalValues data = scan.positional)
    (named : namedValues data = scan.named) :
    NoneIgnored args data parser.values := by
  have record := agrees.record
  refine ⟨?_, ?_, ?_⟩
  · intro pair listed
    rw [named] at listed
    apply record.declared
    rw [record.processed]
    exact List.mem_append_right _ (List.mem_map_of_mem listed)
  · rw [named]
    exact record.held
  · rw [named, positional, ← record.processed]
    exact record.distinct

/-- Arguments are ignored only at the end of a text, where a name without a
value is dropped. -/
theorem arguments_used_iff {args : ConverterArgs} {data : Payload}
    {values : ConverterArgValues}
    (parsed : ConverterNameParser.parseArgs args data = .ok values) :
    NoneIgnored args data values ↔ ¬ EndsInName data := by
  obtain ⟨parser, ran, finished⟩ := exists_of_bind parsed
  have agrees : Agrees args parser (ArgScan.read data) :=
    Agrees.initial.foldlM ran
  rw [ConverterArgParser.finish] at finished
  split at finished
  · split at finished
    · rename_i unfilled
      cases finished
      rw [agrees.word] at unfilled
      cases known : (ArgScan.read data).name with
      | none =>
        have blank : (ArgScan.read data).blank = true := by
          simp [ArgScan.blank, known, unfilled]
        refine iff_of_true (agrees.noneIgnored ?_ ?_) ?_
        · simp [positionalValues, blank]
        · simp [namedValues, blank]
        · intro ends
          exact ends.1 known
      | some name =>
        refine iff_of_false ?_ ?_
        · intro used
          have listed : (name, []) ∈ namedValues data := by
            simp [namedValues, ArgScan.blank, known, ArgScan.closed,
              unfilled]
          exact (used.assigned _ listed).1 rfl
        · intro ended
          exact ended ⟨by simp [known], unfilled⟩
    · rename_i filled
      rw [agrees.word] at filled
      have blank : (ArgScan.read data).blank = false := by
        simp [ArgScan.blank, filled]
      cases set : parser.setArgValue with
      | error message =>
        rw [set] at finished
        cases finished
      | ok last =>
        rw [set] at finished
        cases finished
        refine iff_of_true ((agrees.closed filled set).noneIgnored ?_ ?_) ?_
        · simp [positionalValues, blank]
        · simp [namedValues, blank]
        · intro ends
          exact filled ends.2
  · cases finished
  · cases finished

theorem arguments_used_example : ∃ values, ConverterNameParser.parseArgs
        [⟨"a".toList, .int, []⟩, ⟨"b".toList, .string, []⟩]
        "1, b='x'".toList = .ok values ∧
      NoneIgnored [⟨"a".toList, .int, []⟩, ⟨"b".toList, .string, []⟩]
        "1, b='x'".toList values := by
  have parsed : ConverterNameParser.parseArgs
      [⟨"a".toList, .int, []⟩, ⟨"b".toList, .string, []⟩]
      "1, b='x'".toList = .ok
        { values := [⟨"a".toList, .int, "1".toList⟩,
            ⟨"b".toList, .string, "x".toList⟩] } := by decide +kernel
  refine ⟨_, parsed, (arguments_used_iff parsed).mpr ?_⟩
  unfold EndsInName
  decide +kernel

/-- An unknown name and a declared one without a value are ignored at the
end. -/
theorem arguments_ignored :
    (ConverterNameParser.parseArgs [⟨"a".toList, .int, "7".toList⟩]
        "a=1, b=".toList =
      .ok { values := [⟨"a".toList, .int, "1".toList⟩] } ∧
      ("b".toList, []) ∈ namedValues "a=1, b=".toList ∧
      ¬ NoneIgnored [⟨"a".toList, .int, "7".toList⟩] "a=1, b=".toList
        { values := [⟨"a".toList, .int, "1".toList⟩] }) ∧
    (ConverterNameParser.parseArgs [⟨"a".toList, .int, "7".toList⟩]
        "a=''".toList =
      .ok { values := [⟨"a".toList, .int, "7".toList⟩] } ∧
      ("a".toList, []) ∈ namedValues "a=''".toList ∧
      ¬ NoneIgnored [⟨"a".toList, .int, "7".toList⟩] "a=''".toList
        { values := [⟨"a".toList, .int, "7".toList⟩] }) := by
  have unknown : ("b".toList, []) ∈ namedValues "a=1, b=".toList := by
    decide +kernel
  have unset : ("a".toList, []) ∈ namedValues "a=''".toList := by
    decide +kernel
  refine ⟨⟨by decide +kernel, unknown, ?_⟩, by decide +kernel, unset, ?_⟩
  · intro used
    exact absurd (used.declared _ unknown) (by decide)
  · intro used
    exact (used.assigned _ unset).1 rfl

end MqmGateway
