import Tunnel.CommandLine.Grammar
import Tunnel.CommandLine.Notice
import Tunnel.Text.Similarity

/-!
# Reading arguments

The arguments of a command are read one by one. An option takes its value from the same argument or
from the next one, unless that looks like a flag itself. After two dashes nothing is an option. What
was given is checked at the end: that nothing is missing, then each option in the order in which it
first came.
-/
namespace Tunnel.CommandLine

structure Use where
  option : Opt
  value : Option String

/-- What has been read: the uses of options, whether the last of them waits for its value, and
whether two dashes came. -/
structure Reading where
  uses : List Use := []
  waits : Bool := false
  dashes : Bool := false

namespace Reading

/-- The names of the options that were given, in the order in which they first came. -/
def names (r : Reading) : List String :=
  (r.uses.map fun u => u.option.name).eraseDups

def values (r : Reading) (name : String) : List String :=
  (r.uses.filter fun u => u.option.name == name).filterMap Use.value

def value? (r : Reading) (name : String) : Option String :=
  (r.values name).head?

def use (r : Reading) (o : Opt) (value : Option String) : Reading :=
  { r with uses := r.uses ++ [⟨o, value⟩], waits := value.isNone }

def fill (r : Reading) (value : String) : Reading :=
  { r with
    uses := r.uses.modify (r.uses.length - 1) fun u => { u with value := some value }
    waits := false }

end Reading

/-- What a command is called with: its options, and perhaps a command below it with the arguments
after that. -/
structure Call where
  reading : Reading
  below : Option (String × List String) := none

/-- An argument after two dashes: a name and, after an equals sign, a value. -/
def splitValue (cs : List Char) : String × Option String :=
  let name := cs.takeWhile (· ≠ '=')
  match cs.drop name.length with
  | _ :: value => (String.ofList name, some (String.ofList value))
  | [] => (String.ofList name, none)

namespace Grammar

/-- What may have been meant by a name that does not follow two dashes here. `below` are the names
that may follow them in the commands below, and `rest` are the arguments that are left. -/
def hint? (g : Grammar) (below : List (String × List String)) (name : String)
    (rest : List String) : Option Hint :=
  match Similarity.best? name g.longNames with
  | some n => some (.name n)
  | none =>
    let found := below.filterMap fun c => do
      let n ← Similarity.best? name c.2
      let place ← rest.idxOf? c.1
      return (place, Hint.below n c.1)
    (found.mergeSort fun a b => a.1 ≤ b.1).head?.map Prod.snd

def unknownName (g : Grammar) (below : List (String × List String)) (r : Reading) (name : String)
    (rest : List String) : UsageError :=
  let hint := g.hint? below name rest
  let given := match hint with
    | some (.name n) => (r.names ++ [n]).eraseDups
    | _ => r.names
  .unexpected s!"--{name}" hint (g.usage given)

def stray (g : Grammar) (r : Reading) (arg : String) : UsageError :=
  if r.dashes ∧ g.commands.contains arg then .dashesBeforeCommand arg (g.usage [])
  else match Similarity.similar arg g.commands with
    | [] => .unexpected arg none (g.usage [])
    | names => .similarCommands arg names g.call (g.usage [])

def readLong (g : Grammar) (below : List (String × List String)) (r : Reading) (cs : List Char)
    (rest : List String) : Except Notice Reading :=
  let (name, value) := splitValue cs
  match g.option? name, g.flags.find? (fun f => f.name == name), value with
  | some o, _, value => .ok (r.use o value)
  | none, some f, none => .error (.page f.text)
  | none, some f, some value => .error (.error (.unneededValue value s!"--{f.name}" (g.usage
      (r.names.filter fun n => !g.required.contains n))))
  | none, none, _ => .error (.error (g.unknownName below r name rest))

/-- Reads what follows a single dash in an argument. What follows an option is its value. -/
def readShort (g : Grammar) (r : Reading) (c : Char) (cs : List Char) : Except Notice Reading :=
  match g.options.find? (fun o => o.short == some c), g.flags.find? (fun f => f.short == c) with
  | some o, _ =>
    match cs with
    | [] => .ok (r.use o none)
    | '=' :: value => .ok (r.use o (some (String.ofList value)))
    | value => .ok (r.use o (some (String.ofList value)))
  | none, some f => .error (.page f.text)
  | none, none => .error (.error (.unexpected (String.ofList ['-', c]) none (g.usage [])))

def readAll (g : Grammar) (below : List (String × List String)) (r : Reading) :
    List String → Except Notice Call
  | [] => .ok ⟨r, none⟩
  | arg :: rest =>
    if r.dashes then .error (.error (g.stray r arg))
    else if !r.waits ∧ g.commands.contains arg then .ok ⟨r, some (arg, rest)⟩
    else match arg.toList with
      | ['-', '-'] => g.readAll below { r with dashes := true } rest
      | '-' :: '-' :: cs => do g.readAll below (← g.readLong below r cs rest) rest
      | '-' :: c :: cs => do g.readAll below (← g.readShort r c cs) rest
      | _ =>
        if r.waits then g.readAll below (r.fill arg) rest
        else .error (.error (g.stray r arg))

def valueError? (o : Opt) (value : String) : Option UsageError :=
  if !o.choices.isEmpty ∧ !o.choices.contains value then
    some (.badChoice value o.shown o.choices (Similarity.best? value o.choices))
  else (o.fault value).map fun fault => .badValue value o.shown fault

def useError? (g : Grammar) (r : Reading) (o : Opt) : Option UsageError :=
  let values := r.values o.name
  if values.isEmpty then some (.noValue o.shown o.choices)
  else match values.findSome? (valueError? o) with
    | some e => some e
    | none =>
      if 1 < (r.uses.countP fun u => u.option.name == o.name) then
        some (.repeated o.shown (g.usage []))
      else none

def unfilled? (r : Reading) : Option Opt := do
  let u ← r.uses.getLast?
  if r.waits ∧ (r.values u.option.name).isEmpty then some u.option else none

def check (g : Grammar) (r : Reading) : Except UsageError Unit :=
  let missing := g.required.filter fun n => !r.names.contains n
  match unfilled? r with
  | some o => .error (.noValue o.shown o.choices)
  | none =>
    if !missing.isEmpty then .error (.missing (missing.map g.shown) (g.usage r.names))
    else match (r.names.filterMap g.option?).findSome? (g.useError? r) with
      | some e => .error e
      | none => .ok ()

end Grammar

end Tunnel.CommandLine
