import Tunnel.CommandLine.Page
import Tunnel.CommandLine.Reader
import Tunnel.Connector
import Tunnel.Pairing.Store

/-!
# The command line

One command stores the pairing with a relay, the other serves the requests that come from it. A command
line is read as one of them or as a notice to the caller. Options are checked when all of them have been
read, and the first fault is the one that is told. Spans of time are given in whole seconds.
-/
namespace Tunnel.CommandLine

structure PairCommand where
  path : String
  relayUrl : String
  token : String
  deriving DecidableEq, Repr

structure RunCommand where
  path : String
  maxInFlight : Option Nat
  overflow : OverflowPolicy
  heartbeat : Duration
  liveness : Option Duration
  deriving DecidableEq, Repr

inductive Command where
  | pair (c : PairCommand)
  | run (c : RunCommand)
  deriving DecidableEq, Repr

def usualPath : String := "relaylink.json"

def faultOf {α : Type} (check : String → Except Validation.Refusal α) (value : String) :
    Option String :=
  match check value with
  | .ok _ => none
  | .error e => some e.message

def configOption : Opt := { name := "config", short := some 'c' }

def runGrammar : Grammar where
  call := "relaylink-cli run"
  flags := [⟨"help", 'h', Page.run⟩]
  options :=
    [configOption,
      { name := "max-in-flight", fault := faultOf Validation.positive },
      { name := "overflow", choices := ["queue", "reject"] },
      { name := "heartbeat-secs", fault := faultOf Validation.positive },
      { name := "liveness-timeout-secs", fault := faultOf Validation.positive }]

def pairGrammar : Grammar where
  call := "relaylink-cli pair"
  flags := [⟨"help", 'h', Page.pair⟩]
  options :=
    [configOption,
      { name := "relay-url", short := some 'r', required := true,
        fault := faultOf Validation.relayUrl },
      { name := "token", short := some 't', required := true,
        fault := faultOf Validation.nonBlank }]

def programGrammar : Grammar where
  call := "relaylink-cli"
  flags := [⟨"help", 'h', Page.program⟩, ⟨"version", 'V', Page.version⟩]
  commands := ["run", "pair", "help"]

def namesBelow : List (String × List String) :=
  [("run", runGrammar.longNames), ("pair", pairGrammar.longNames)]

def readOptions (g : Grammar) (args : List String) : Except Notice Reading := do
  let call ← g.readAll [] {} args
  match g.check call.reading with
  | .ok () => return call.reading
  | .error e => throw (.error e)

def seconds? (r : Reading) (name : String) : Option Duration := do
  match Validation.positive (← r.value? name) with
  | .ok n => some (.ofSeconds n)
  | .error _ => none

def readRun (args : List String) : Except Notice RunCommand := do
  let r ← readOptions runGrammar args
  return {
    path := (r.value? "config").getD usualPath
    maxInFlight := (r.value? "max-in-flight").bind fun v => (Validation.positive v).toOption
    overflow := if r.value? "overflow" = some "reject" then .reject else .queue
    heartbeat := (seconds? r "heartbeat-secs").getD (.ofSeconds 30)
    liveness := seconds? r "liveness-timeout-secs" }

def readPair (args : List String) : Except Notice PairCommand := do
  let r ← readOptions pairGrammar args
  return {
    path := (r.value? "config").getD usualPath
    relayUrl := (r.value? "relay-url").getD ""
    token := (r.value? "token").getD "" }

def pages : List (String × String) :=
  [("run", Page.run), ("pair", Page.pair), ("help", Page.help)]

/-- What is shown for the words after the command for pages: no command has commands below it. -/
def helpPage : List String → Notice
  | [] => .page Page.program
  | word :: rest =>
    match pages.lookup word, rest with
    | none, _ => .error (.noSuchCommand word programGrammar.call)
    | some page, [] => .page page
    | some _, word :: _ => .error (.noSuchCommand word programGrammar.call)

def read (args : List String) : Except Notice Command := do
  let call ← programGrammar.readAll namesBelow {} args
  match call.below with
  | none => throw (.pageForNothing Page.program)
  | some ("run", rest) => return .run (← readRun rest)
  | some ("pair", rest) => return .pair (← readPair rest)
  | some (_, rest) => throw (helpPage rest)

def PairCommand.store (c : PairCommand) (files : FileTree) : Except StoreError Unit × FileTree :=
  FilePairing.save files c.path ⟨some c.relayUrl, some c.token⟩

def RunCommand.credentials (c : RunCommand) (files : FileTree) : Except PairingError Credentials :=
  (PairingStore.file files c.path).credentials

def RunCommand.connector (c : RunCommand) (credentials : Credentials) (client : Client) :
    Connector :=
  .new { heartbeat := c.heartbeat, liveness := c.liveness } credentials
    ⟨c.maxInFlight, c.overflow⟩ {} client

/-- How a command turns out: it ends at once, well or not, or serves requests until it is stopped. -/
inductive Result where
  | ended (success : Bool)
  | serving (c : Connector)

def Command.execute (c : Command) (files : FileTree) (client : Client) : Result × FileTree :=
  match c with
  | .pair c =>
    match c.store files with
    | (.ok (), files) => (.ended true, files)
    | (.error _, files) => (.ended false, files)
  | .run c =>
    match c.credentials files with
    | .error _ => (.ended false, files)
    | .ok credentials => (.serving (c.connector credentials client), files)

end Tunnel.CommandLine
