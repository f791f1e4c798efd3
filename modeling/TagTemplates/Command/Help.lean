import TagTemplates.Command.Invocation
import TagTemplates.Settings.Basic

/-!
# Help

What is printed instead of the answer of a command: the help, the version, and what is wrong with
the arguments.
-/

namespace TagTemplates.Command

/-- The name and the version of the program. -/
def versionText : String := Settings.fileStem ++ " 0.1.0"

/-- An option as the help lists it. -/
def Parameter.usage (parameter : Parameter) : String :=
  "--" ++ parameter.name ++ (if parameter.takesValue then " VALUE" else "") ++
    (parameter.letter.elim "" fun c => ", -" ++ c.toString)

/-- A level as the help lists it. -/
def Level.usage (name : String) (level : Level) : String :=
  Text.join " " (name :: level.operands.map fun operand => "<" ++ operand.name ++ ">") ++
    Text.concat (level.options.map fun option => "\n  " ++ option.usage)

/-- The help. -/
def helpText : String :=
  Text.join "\n\n" (Level.usage Settings.fileStem topLevel ::
    commandNames.filterMap fun name =>
      (commandOf name).map fun command => Level.usage name command.1)

/-- The text for arguments that lead to no run. -/
def UsageError.message : UsageError → String
  | help => helpText
  | version => versionText
  | nothing => helpText
  | missingCommand => "error: a command is required"
  | unknownCommand => "error: unknown command"
  | unknownArgument => "error: unexpected argument"
  | missingValue => "error: a value is required"
  | unwantedValue => "error: a flag takes no value"
  | conflict => "error: an argument cannot be used twice or with another one"
  | missingArgument => "error: a required argument is missing"

end TagTemplates.Command
