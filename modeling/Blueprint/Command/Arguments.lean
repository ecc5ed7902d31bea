/-!
# Arguments of the command line

The program has three commands: `generate`, `check` and `context-schema`. A command is
followed by its operands and options; the two global options, `--verbose` and `--log-file`,
may stand on either side of it.

An option that takes a value has it behind an equals sign or as the next argument, which
then may not start with a hyphen, unless it is one. A value is never empty. An option
stands once on each side of the command. Behind two hyphens there are only operands.

Arguments are read from the first to the last, and the first that does not fit decides;
so does the first that asks for help or for the version.
-/

namespace Blueprint

namespace Command

/-! ### What is asked for -/

/-- The arguments of `generate`. -/
structure GenerateArguments where
  definition : String
  config : Option String
  templateDir : Option String
  outputDir : Option String
  strict : Bool
  dryRun : Bool
deriving DecidableEq

/-- The arguments of `check`. -/
structure CheckArguments where
  definition : String
  config : Option String
  dump : Bool
deriving DecidableEq

/-- **A command with its arguments.** -/
inductive Action where
  | generate (arguments : GenerateArguments)
  | check (arguments : CheckArguments)
  | contextSchema (out : Option String)
deriving DecidableEq

/-- The definition that a command works on. -/
def Action.definition? : Action → Option String
  | .generate arguments => some arguments.definition
  | .check arguments => some arguments.definition
  | .contextSchema _ => none

/-- **A command as it is invoked**, with the global options. -/
structure Invocation where
  verbose : Bool
  logFile : Option String
  action : Action
deriving DecidableEq

/-- Why there is no command to run. -/
inductive NoAction where
  | help
  | version
  | misuse
deriving DecidableEq

/-! ### Reading options -/

/-- **What may be given**: options without and with a value, and operands. -/
structure Grammar where
  flags : List String
  valued : List String
  operands : Nat
  hasVersion : Bool

/-- **What is given.** -/
structure Given where
  flags : List String
  values : List (String × String)
  operands : List String

namespace Given

/-- Nothing. -/
def none : Given := ⟨[], [], []⟩

/-- The value of an option. -/
def value? (g : Given) (name : String) : Option String :=
  (g.values.find? fun entry => entry.1 == name).map (·.2)

/-- The option is given without a value. -/
def has (g : Given) (name : String) : Bool := g.flags.contains name

/-- The option is given. -/
def mentions (g : Given) (name : String) : Bool := g.has name || (g.value? name).isSome

/-- One more flag. -/
def addFlag (g : Given) (name : String) : Except NoAction Given :=
  if g.mentions name then .error .misuse else .ok { g with flags := name :: g.flags }

/-- One more value. -/
def addValue (g : Given) (name value : String) : Except NoAction Given :=
  if g.mentions name || value = "" then .error .misuse
  else .ok { g with values := (name, value) :: g.values }

/-- One more operand. -/
def addOperand (grammar : Grammar) (g : Given) (operand : String) : Except NoAction Given :=
  if operand = "" || grammar.operands ≤ g.operands.length then .error .misuse
  else .ok { g with operands := g.operands ++ [operand] }

end Given

/-- **How an argument starts.** -/
inductive ArgumentForm where
  | operand
  /-- The two hyphens after which there are only operands. -/
  | separator
  /-- A hyphen and a letter. -/
  | short (letter : Char)
  /-- A name after two hyphens, with what stands behind an equals sign. -/
  | long (name : String) (value : Option String)

/-- The form of an argument. A single hyphen is an operand. -/
def argumentForm (argument : String) : ArgumentForm :=
  match argument.toList with
  | ['-', '-'] => .separator
  | '-' :: '-' :: cs =>
    .long (String.ofList (cs.takeWhile fun c => c != '='))
      (match cs.dropWhile fun c => c != '=' with
        | [] => none
        | _ :: value => some (String.ofList value))
  | '-' :: c :: _ => .short c
  | _ => .operand

/-- The argument can be the value of the option before it. -/
def canBeValue (argument : String) : Bool :=
  match argumentForm argument with
  | .operand => true
  | _ => false

/-- An option of one letter, which there is only for help and the version. -/
def shortOption {α : Type} (grammar : Grammar) (letter : Char) : Except NoAction α :=
  if letter = 'h' then .error .help
  else if letter = 'V' && grammar.hasVersion then .error .version
  else .error .misuse

/-- An option that is no option of the grammar but asks for help or the version. -/
def otherOption {α : Type} (grammar : Grammar) (name : String) : Except NoAction α :=
  if name = "help" then .error .help
  else if name = "version" && grammar.hasVersion then .error .version
  else .error .misuse

/-- **The arguments from the first to the last.** With `stops`, the first operand ends the
reading and is left with those after it. -/
def readArguments (grammar : Grammar) (stops : Bool) :
    List String → Given → Except NoAction (Given × List String)
  | [], given => .ok (given, [])
  | argument :: rest, given =>
    match argumentForm argument with
    | .operand =>
      if stops then .ok (given, argument :: rest)
      else do readArguments grammar stops rest (← given.addOperand grammar argument)
    | .separator => do return (← rest.foldlM (Given.addOperand grammar) given, [])
    | .short letter => shortOption grammar letter
    | .long name none =>
      if grammar.flags.contains name then do
        readArguments grammar stops rest (← given.addFlag name)
      else if grammar.valued.contains name then
        match rest with
        | value :: rest =>
          if canBeValue value then do
            readArguments grammar stops rest (← given.addValue name value)
          else .error .misuse
        | [] => .error .misuse
      else otherOption grammar name
    | .long name (some value) =>
      if grammar.valued.contains name then do
        readArguments grammar stops rest (← given.addValue name value)
      else .error .misuse

/-! ### Commands -/

/-- What stands before a command: the global options. -/
def globalGrammar : Grammar := ⟨["verbose"], ["log-file"], 0, true⟩

/-- What stands behind a command, beside the global options. -/
def commandGrammar (flags valued : List String) (operands : Nat) : Grammar :=
  ⟨"verbose" :: flags, "log-file" :: valued, operands, false⟩

/-- The operand that must be there. -/
def soleOperand (given : Given) : Except NoAction String :=
  match given.operands with
  | [operand] => .ok operand
  | _ => .error .misuse

/-- A command read from the arguments behind its name. -/
def readAction (name : String) (rest : List String) : Except NoAction (Given × Action) := do
  match name with
  | "generate" =>
    let (given, _) ← readArguments
      (commandGrammar ["strict", "dry-run"] ["config", "template-dir", "output-dir"] 1) false
      rest .none
    return (given, .generate ⟨← soleOperand given, given.value? "config",
      given.value? "template-dir", given.value? "output-dir", given.has "strict",
      given.has "dry-run"⟩)
  | "check" =>
    let (given, _) ← readArguments (commandGrammar ["dump"] ["config"] 1) false rest .none
    return (given, .check ⟨← soleOperand given, given.value? "config", given.has "dump"⟩)
  | "context-schema" =>
    let (given, _) ← readArguments (commandGrammar [] ["out"] 0) false rest .none
    return (given, .contextSchema (given.value? "out"))
  | _ => throw .misuse

/-- The commands that help can be asked for. -/
def commandNames : List String := ["generate", "check", "context-schema", "help"]

/-- The answer to the command `help`, which takes the name of a command. -/
def readHelp (rest : List String) : NoAction :=
  match rest with
  | [] => .help
  | [name] => if commandNames.contains name then .help else .misuse
  | _ => .misuse

/-- **The invocation that arguments say**, or what they say instead. -/
def readInvocation (arguments : List String) : Except NoAction Invocation := do
  let (before, rest) ← readArguments globalGrammar true arguments .none
  match rest with
  | [] => throw .misuse
  | name :: rest =>
    if name = "help" then throw (readHelp rest)
    let (behind, action) ← readAction name rest
    return ⟨before.has "verbose" || behind.has "verbose",
      (behind.value? "log-file") <|> (before.value? "log-file"), action⟩

end Command

end Blueprint
