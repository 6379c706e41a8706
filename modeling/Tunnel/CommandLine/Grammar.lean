/-!
# Grammars of commands

A command has flags, options that take one value each, and commands below it. Its usage is one line,
which names the options that must be given and those that a caller gave. A flag stops the reading of
arguments and shows something; an option that must be given is shown without brackets.
-/
namespace Tunnel.CommandLine

structure Flag where
  name : String
  short : Char
  text : String
  deriving DecidableEq, Repr

/-- An option: its name, whether it must be given, the values that it can have, if only some, and
what is wrong with a value. -/
structure Opt where
  name : String
  short : Option Char := none
  required : Bool := false
  choices : List String := []
  fault : String → Option String := fun _ => none

def Opt.shown (o : Opt) : String := s!"--{o.name} <{o.name}>"

/-- A command: the words that call it, its flags and options, and the names of the commands below
it. -/
structure Grammar where
  call : String
  flags : List Flag := []
  options : List Opt := []
  commands : List String := []

namespace Grammar

def option? (g : Grammar) (name : String) : Option Opt :=
  g.options.find? fun o => o.name == name

def longNames (g : Grammar) : List String :=
  g.flags.map Flag.name ++ g.options.map Opt.name

def shown (g : Grammar) (name : String) : String :=
  match g.option? name with
  | some o => o.shown
  | none => s!"--{name}"

def required (g : Grammar) : List String :=
  (g.options.filter Opt.required).map Opt.name

def commandSlot (g : Grammar) : String :=
  if g.commands.isEmpty then "" else " <SUBCOMMAND>"

def slots (g : Grammar) (names : List String) : String :=
  String.join (names.map fun n => " " ++ g.shown n)

def usage (g : Grammar) (given : List String) : String :=
  if given.isEmpty then
    let optional := if g.options.any (fun o => !o.required) then " [OPTIONS]" else ""
    g.call ++ optional ++ g.slots g.required ++ g.commandSlot
  else
    g.call ++ g.slots (g.required ++ given).eraseDups ++ g.commandSlot

end Grammar

end Tunnel.CommandLine
