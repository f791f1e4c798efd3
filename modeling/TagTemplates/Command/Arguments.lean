import TagTemplates.Text.Basic

/-!
# Reading arguments

The arguments of a command line are read from left to right against a level: its options, its
operands (the arguments that stand on their own, in their order), and the names of the commands that
it leads to.

An option or an operand is not taken down when it is met but only when the next one begins, or at
the end: until then it is pending, and what is wrong with it does not show.  So a word that is
unknown is reported before a missing value in front of it, and so is everything behind the name of a
command.

* `Word.ofArgument` tells the shapes of arguments apart.
* `Reader.settle` takes the pending one down.
* `Level.read` reads arguments up to the name of a command or to the end.
-/

namespace TagTemplates.Command

/-- Why arguments are refused, or what they ask for instead of a run. -/
inductive UsageError where
  /-- The help is asked for. -/
  | help
  /-- The version is asked for. -/
  | version
  /-- There is nothing at all. -/
  | nothing
  /-- There is no command. -/
  | missingCommand
  | unknownCommand
  | unknownArgument
  /-- An option or an operand has no value or an empty path. -/
  | missingValue
  /-- An option that takes no value has one. -/
  | unwantedValue
  /-- Options exclude each other, or one is repeated that may not be. -/
  | conflict
  /-- An option or an operand that has to be there is not. -/
  | missingArgument
  deriving DecidableEq, Repr

/-- The status that a program ends with: asking for help or for the version is no failure. -/
def UsageError.exitCode : UsageError → Nat
  | help => 0
  | version => 0
  | _ => 2

/-- What an option does. -/
inductive Role where
  /-- It is there or not. -/
  | flag
  /-- It has one value and may be given once. -/
  | value
  /-- It has a value each time. -/
  | values
  | help
  | version
  deriving DecidableEq, Repr

/-- An option or an operand. -/
structure Parameter where
  name : String
  role : Role
  /-- The letter that stands for the name. -/
  letter : Option Char := none
  /-- Whether its values are paths, which are not empty. -/
  isPath : Bool := false
  /-- Whether a value is a list with commas. -/
  isList : Bool := false
  deriving DecidableEq, Repr

/-- Whether an option is followed by a value. -/
def Parameter.takesValue (parameter : Parameter) : Bool :=
  parameter.role == .value || parameter.role == .values

/-- What can be given at one place of a command line. -/
structure Level where
  options : List Parameter
  operands : List Parameter := []
  commands : List String := []

/-- The command that shows the help of the others. -/
def helpCommand : String := "help"

/-- The parameters that are given, with the values of each time. -/
abbrev Given := List (String × List String)

namespace Given

def has (given : Given) (name : String) : Bool := given.any (·.1 == name)

/-- All values of a parameter. -/
def values (given : Given) (name : String) : List String :=
  (given.filter (·.1 == name)).flatMap (·.2)

/-- The first value of a parameter. -/
def value? (given : Given) (name : String) : Option String := (given.values name).head?

end Given

/-! ## Words -/

/-- The shape of an argument. -/
inductive Word where
  /-- Two hyphens: only operands follow. -/
  | divider
  /-- A name behind two hyphens, and the value behind an equals sign. -/
  | long (name : String) (value : Option String)
  /-- Letters behind a hyphen. -/
  | letters (cs : List Char)
  /-- Everything else, a hyphen alone among it. -/
  | plain
  deriving DecidableEq, Repr

/-- The shape of an argument. -/
def Word.ofArgument (argument : String) : Word :=
  match argument.toList with
  | ['-', '-'] => divider
  | '-' :: '-' :: cs =>
    match Text.cutAt? '=' cs with
    | some (name, value) => long (String.ofList name) (some (String.ofList value))
    | none => long (String.ofList cs) none
  | '-' :: c :: cs => letters (c :: cs)
  | _ => plain

/-! ## Readers -/

/-- What has been read of a level. -/
structure Reader where
  given : Given := []
  /-- The parameter that is not yet taken down, with its value. -/
  pending : Option (Parameter × Option String) := none
  /-- Whether the value of the pending option comes next. -/
  isOpen : Bool := false
  /-- Whether only operands follow. -/
  isDivided : Bool := false
  /-- The operands that have not been met. -/
  operands : List Parameter

namespace Reader

/-- Take a parameter down. -/
def take (reader : Reader) (parameter : Parameter) (value : Option String) :
    Except UsageError Reader :=
  let add (values : List String) : Except UsageError Reader :=
    if parameter.role != .values && reader.given.has parameter.name then .error .conflict
    else if parameter.isPath && values.any (·.isEmpty) then .error .missingValue
    else .ok { reader with given := reader.given ++ [(parameter.name, values)] }
  match parameter.role, value with
  | .help, _ => .error .help
  | .version, _ => .error .version
  | .flag, _ => add []
  | _, none => .error .missingValue
  | _, some value =>
    if parameter.isList then add ((Text.splitChar ',' value.toList).map String.ofList)
    else add [value]

/-- Take the pending parameter down. -/
def settle (reader : Reader) : Except UsageError Reader :=
  match reader.pending with
  | none => .ok reader
  | some (parameter, value) =>
    { reader with pending := none, isOpen := false }.take parameter value

/-- Meet a parameter whose value, if it takes one, is there. -/
def meet (reader : Reader) (parameter : Parameter) (value : Option String) :
    Except UsageError Reader := do
  (← reader.settle).take parameter value

/-- Meet an option whose value comes next. -/
def await (reader : Reader) (parameter : Parameter) : Except UsageError Reader := do
  return { ← reader.settle with pending := some (parameter, none), isOpen := true }

/-- Meet an option by its name. -/
def readLong (reader : Reader) (options : List Parameter) (name : String) (value : Option String) :
    Except UsageError Reader :=
  match options.find? (·.name == name) with
  | none => .error .unknownArgument
  | some option =>
    match option.takesValue, value with
    | true, none => reader.await option
    | true, some value => reader.meet option (some value)
    | false, none => reader.meet option none
    | false, some _ => .error .unwantedValue

/-- Meet options by their letters.  The letters behind an option with a value are that value. -/
def readLetters (options : List Parameter) : Reader → List Char → Except UsageError Reader
  | reader, [] => .ok reader
  | reader, c :: cs =>
    match options.find? (·.letter == some c) with
    | none => .error .unknownArgument
    | some option =>
      if option.takesValue then
        match cs with
        | [] => reader.await option
        | '=' :: cs => reader.meet option (some (String.ofList cs))
        | cs => reader.meet option (some (String.ofList cs))
      else do
        readLetters options (← reader.meet option none) cs

/-- Meet an argument that stands on its own: the value of an open option, or an operand. -/
def readPlain (level : Level) (reader : Reader) (argument : String) : Except UsageError Reader :=
  match reader.isOpen && !reader.isDivided, reader.pending, reader.operands with
  | true, some (option, _), _ =>
    .ok { reader with pending := some (option, some argument), isOpen := false }
  | _, _, operand :: operands => do
    return { ← reader.settle with pending := some (operand, some argument), operands }
  | _, _, [] =>
    if level.commands.isEmpty || (reader.isDivided && level.commands.contains argument) then
      .error .unknownArgument
    else .error .unknownCommand

/-- Meet an argument. -/
def read (level : Level) (reader : Reader) (argument : String) : Except UsageError Reader :=
  if reader.isDivided then reader.readPlain level argument
  else
    match Word.ofArgument argument with
    | .divider => .ok { reader with isDivided := true }
    | .long name value => reader.readLong level.options name value
    | .letters cs => readLetters level.options reader cs
    | .plain => reader.readPlain level argument

end Reader

/-! ## Levels -/

namespace Level

/-- The reader at the beginning of a level. -/
def reader (level : Level) : Reader := { operands := level.operands }

/-- Read arguments up to the name of a command, which is answered with the arguments behind it, or
to the end. -/
def read (level : Level) : Reader → List String → Except UsageError (Reader × List String)
  | reader, [] => .ok (reader, [])
  | reader, argument :: rest =>
    if !reader.isDivided && !reader.isOpen && level.commands.contains argument then
      .ok (reader, argument :: rest)
    else do
      level.read (← reader.read level argument) rest

/-- Read all arguments of a level without commands. -/
def readAll (level : Level) (arguments : List String) : Except UsageError Given := do
  return (← (← level.read level.reader arguments).1.settle).given

end Level

end TagTemplates.Command
