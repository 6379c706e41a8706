import Tunnel.Text.Quoted

/-!
# Notices to a caller

What a caller is shown instead of the work of a command: a page that was asked for, or an error in the
arguments. An error says what is wrong, may hint at what was meant, shows the usage of the command that
found it where that helps, and ends with how to get more help.
-/
namespace Tunnel.CommandLine

inductive Hint where
  | name (name : String)
  | below (name command : String)
  deriving DecidableEq, Repr

/-- What is wrong with arguments. Usage lines belong to the command that found the error. -/
inductive UsageError where
  | unexpected (arg : String) (hint : Option Hint) (usage : String)
  | dashesBeforeCommand (arg usage : String)
  | similarCommands (arg : String) (names : List String) (call usage : String)
  | noSuchCommand (arg call : String)
  | missing (options : List String) (usage : String)
  | noValue (option : String) (choices : List String)
  | unneededValue (value flag usage : String)
  | badChoice (value option : String) (choices : List String) (similar : Option String)
  | badValue (value option fault : String)
  | repeated (option usage : String)
  deriving DecidableEq, Repr

def dashesHint (arg : String) : String :=
  if arg.toList.head? = some '-' then
    s!"\n\n\tIf you tried to supply `{arg}` as a value rather than a flag, use `-- {arg}`"
  else ""

def Hint.message : Hint → String
  | .name n => s!"\n\n\tDid you mean '--{n}'?"
  | .below n command => s!"\n\n\tDid you mean to put '--{n}' after the subcommand '{command}'?"

def choiceLine (choices : List String) : String :=
  if choices.isEmpty then ""
  else "\n\t[possible values: " ++ String.intercalate ", " choices ++ "]"

def UsageError.cause : UsageError → String
  | .unexpected arg hint _ =>
    s!"Found argument '{arg}' which wasn't expected, or isn't valid in this context" ++
      (hint.map Hint.message).getD "" ++ dashesHint arg
  | .dashesBeforeCommand arg _ =>
    s!"Found argument '{arg}' which wasn't expected, or isn't valid in this context" ++
      dashesHint arg ++
      s!"\n\n\tIf you tried to supply `{arg}` as a subcommand, remove the '--' before it."
  | .similarCommands arg names call _ =>
    s!"The subcommand '{arg}' wasn't recognized\n\n\tDid you mean " ++
      String.intercalate " or " (names.map fun n => s!"'{n}'") ++
      "?\n\nIf you believe you received this message in error, try re-running with " ++
      s!"'{call} -- {arg}'"
  | .noSuchCommand arg _ => s!"The subcommand '{arg}' wasn't recognized"
  | .missing options _ =>
    "The following required arguments were not provided:" ++
      String.join (options.map fun o => "\n    " ++ o)
  | .noValue option choices =>
    s!"The argument '{option}' requires a value but none was supplied" ++ choiceLine choices
  | .unneededValue value flag _ =>
    s!"The value '{value}' was provided to '{flag}' but it wasn't expecting any more values"
  | .badChoice value option choices similar =>
    Quoted.quote value ++ s!" isn't a valid value for '{option}'" ++ choiceLine choices ++
      (similar.map fun s => "\n\n\tDid you mean " ++ Quoted.quote s ++ "?").getD ""
  | .badValue value option fault =>
    "Invalid value " ++ Quoted.quote value ++ s!" for '{option}': {fault}"
  | .repeated option _ =>
    s!"The argument '{option}' was provided more than once, but cannot be used multiple times"

def UsageError.usageLine : UsageError → Option String
  | .unexpected _ _ usage => some ("USAGE:\n    " ++ usage)
  | .dashesBeforeCommand _ usage => some ("USAGE:\n    " ++ usage)
  | .similarCommands _ _ _ usage => some ("USAGE:\n    " ++ usage)
  | .noSuchCommand _ call => some s!"USAGE:\n    {call} <subcommands>"
  | .missing _ usage => some ("USAGE:\n    " ++ usage)
  | .unneededValue _ _ usage => some usage
  | .repeated _ usage => some ("USAGE:\n    " ++ usage)
  | _ => none

def UsageError.message (e : UsageError) : String :=
  "error: " ++ e.cause ++ (e.usageLine.map fun u => "\n\n" ++ u).getD "" ++
    "\n\nFor more information try --help\n"

/-- What a caller is shown: a page that was asked for, the page of a command that was called without
arguments, or an error. -/
inductive Notice where
  | page (text : String)
  | pageForNothing (text : String)
  | error (e : UsageError)
  deriving DecidableEq, Repr

def Notice.status : Notice → UInt8
  | .page _ => 0
  | _ => 2

def Notice.output : Notice → String
  | .page text => text
  | _ => ""

def Notice.errorOutput : Notice → String
  | .page _ => ""
  | .pageForNothing text => text
  | .error e => e.message

end Tunnel.CommandLine
