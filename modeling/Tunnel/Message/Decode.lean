import Tunnel.Message.Target

/-!
# Reading messages

A frame is one object with its kind among its members, or a list that starts with the kind. The
kind is read where it stands, so a fault in it has a place in the frame. The other members are
read once the whole frame has been, in the order they were written.
-/
namespace Tunnel.Message

open Json (Cause Cursor Fault Reader)

def Kind.ofName? (name : String) : Option Kind :=
  Kind.all.find? fun k => k.name = name

def Kind.listed : String :=
  "one of " ++ String.intercalate ", " (Kind.all.map fun k => s!"`{k.name}`")

def kindReader : Reader Kind := fun c =>
  let c := c.skipSpace
  let expected := "variant identifier"
  match c.rest with
  | .char '"' :: rest => do
    let (name, c) ← Json.textBody ⟨rest, c.offset + 1⟩
    match Kind.ofName? name with
    | some k => return (k, c)
    | none => throw (c.fault (.unknownName name Kind.listed))
  | .char '[' :: _ => .error (c.fault (.wrongType .sequence expected))
  | .char '\x7b' :: _ => .error (c.fault (.wrongType .map expected))
  | _ => do
    let (v, c) ← Json.value 0 0 c
    throw (c.fault (.wrongType v.found expected))

inductive Content where
  | members (ms : List (String × Json))
  | items (vs : List Json)

structure Frame where
  kind : Kind
  content : Content

def kindName : String := "type"

/-- Reads one member of a frame: its kind, once, or any other. -/
def frameMember (value : Reader Json) (s : Option Kind × List (String × Json)) (name : String) :
    Reader (Option Kind × List (String × Json)) := fun c =>
  if name = kindName then
    match s.1 with
    | some _ => .error (c.refuseObject (.repeatedField kindName))
    | none => do
      let (_, c) ← Json.colon c
      let (k, c) ← kindReader c
      return ((some k, s.2), c)
  else do
    let (ms, c) ← Json.pushMember value s.2 name c
    return ((s.1, ms), c)

def frameReader (size : Nat) : Reader Frame := fun c =>
  let c := c.skipSpace
  let value := Json.value size (Json.maxDepth - 1)
  match c.rest with
  | .char '\x7b' :: rest => do
    let ((kind, ms), c) ← Json.members (frameMember value) size true (none, [])
      ⟨rest, c.offset + 1⟩
    match kind with
    | some k => return (⟨k, .members ms.reverse⟩, c)
    | none => throw (c.fault (.missingField kindName))
  | .char '[' :: rest => do
    let (more, c) ← Json.nextItem true ⟨rest, c.offset + 1⟩
    if more then
      let (k, c) ← kindReader c
      let (vs, c) ← Json.items (Json.pushItem value) size false [] c
      return (⟨k, .items vs.reverse⟩, c)
    else throw (c.fault (.missingField kindName))
  | _ => do
    let (v, c) ← Json.value size 0 c
    throw (c.fault (.wrongType v.found "internally tagged enum Message"))

structure Draft where
  requestId : Option RequestId := none
  target : Option Target := none
  timeoutMs : Option UInt64 := none
  statusCode : Option UInt16 := none
  headers : Option Headers := none
  data : Option String := none
  index : Option UInt64 := none
  error : Option String := none
  ts : Option UInt64 := none

def Kind.knows : Kind → List String
  | .request => ["requestId", "target", "timeoutMs"]
  | .start => ["requestId", "statusCode", "headers"]
  | .chunk => ["requestId", "data", "index"]
  | .finish => ["requestId"]
  | .failure => ["requestId", "error"]
  | .ping => ["ts"]
  | .pong => ["ts"]

def requestIdOf (v : Json) : Except Cause RequestId :=
  RequestId.mk <$> Field.text v

/-- Reads one member that the kind knows; others are passed over. -/
def Draft.add (k : Kind) (d : Draft) (name : String) (v : Json) : Except Cause Draft :=
  if ¬ k.knows.contains name then return d
  else match name with
  | "requestId" => return { d with requestId := ← Field.once name d.requestId (requestIdOf v) }
  | "target" => return { d with target := ← Field.once name d.target (Target.ofJson v) }
  | "timeoutMs" => return { d with timeoutMs := ← Field.once name d.timeoutMs (Field.word64 v) }
  | "statusCode" => return { d with statusCode := ← Field.once name d.statusCode (Field.word16 v) }
  | "headers" => return { d with headers := ← Field.once name d.headers (Headers.ofJson v) }
  | "data" => return { d with data := ← Field.once name d.data (Field.text v) }
  | "index" => return { d with index := ← Field.once name d.index (Field.word64 v) }
  | "error" => return { d with error := ← Field.once name d.error (Field.text v) }
  | "ts" => return { d with ts := ← Field.once name d.ts (Field.word64 v) }
  | _ => return d

def Draft.finish (d : Draft) : Kind → Except Cause Message
  | .request => do
    let id ← Field.require "requestId" d.requestId
    let target ← Field.require "target" d.target
    let timeoutMs ← Field.require "timeoutMs" d.timeoutMs
    return .request ⟨id, target, timeoutMs⟩
  | .start => do
    let id ← Field.require "requestId" d.requestId
    let status ← Field.require "statusCode" d.statusCode
    let headers ← Field.require "headers" d.headers
    return .start id status headers
  | .chunk => do
    let id ← Field.require "requestId" d.requestId
    let data ← Field.require "data" d.data
    let index ← Field.require "index" d.index
    return .chunk id data index
  | .finish => do
    let id ← Field.require "requestId" d.requestId
    return .finish id
  | .failure => do
    let id ← Field.require "requestId" d.requestId
    let error ← Field.require "error" d.error
    return .failure id error
  | .ping => return .ping (d.ts.getD 0)
  | .pong => return .pong (d.ts.getD 0)

def ofItems (k : Kind) (vs : List Json) : Except Cause Message :=
  match k with
  | .request => do
    let expected := "struct HttpRequest with 3 elements"
    let (id, vs) ← Field.item expected 0 requestIdOf vs
    let (target, vs) ← Field.item expected 1 Target.ofJson vs
    let (timeoutMs, vs) ← Field.item expected 2 Field.word64 vs
    Field.noMore 3 vs
    return .request ⟨id, target, timeoutMs⟩
  | .start => do
    let expected := "struct ResponseStart with 3 elements"
    let (id, vs) ← Field.item expected 0 requestIdOf vs
    let (status, vs) ← Field.item expected 1 Field.word16 vs
    let (headers, vs) ← Field.item expected 2 Headers.ofJson vs
    Field.noMore 3 vs
    return .start id status headers
  | .chunk => do
    let expected := "struct ResponseChunk with 3 elements"
    let (id, vs) ← Field.item expected 0 requestIdOf vs
    let (data, vs) ← Field.item expected 1 Field.text vs
    let (index, vs) ← Field.item expected 2 Field.word64 vs
    Field.noMore 3 vs
    return .chunk id data index
  | .finish => do
    let (id, vs) ← Field.item "struct ResponseEnd with 1 element" 0 requestIdOf vs
    Field.noMore 1 vs
    return .finish id
  | .failure => do
    let expected := "struct ResponseError with 2 elements"
    let (id, vs) ← Field.item expected 0 requestIdOf vs
    let (error, vs) ← Field.item expected 1 Field.text vs
    Field.noMore 2 vs
    return .failure id error
  | .ping => do
    let (ts, vs) ← Field.itemOr 0 Field.word64 vs
    Field.noMore 1 vs
    return .ping ts
  | .pong => do
    let (ts, vs) ← Field.itemOr 0 Field.word64 vs
    Field.noMore 1 vs
    return .pong ts

def ofFrame (f : Frame) : Except Cause Message :=
  match f.content with
  | .members ms => do (← Field.ofMembers (Draft.add f.kind) {} ms).finish f.kind
  | .items vs => ofItems f.kind vs

/-- Reads a message. A fault among its fields has no place in the frame. -/
def reader (size : Nat) : Reader Message := fun c => do
  let (f, c) ← frameReader size c
  match ofFrame f with
  | .ok m => return (m, c)
  | .error cause => throw ⟨cause, none⟩

structure Malformed where
  frame : String
  fault : Fault

def Malformed.message (e : Malformed) : String :=
  s!"Frame is not a recognized relay message: {e.fault.message (Utf8.ofText e.frame)}"

def decode (frame : String) : Except Malformed Message :=
  let gs := Utf8.ofText frame
  match Json.document (reader (gs.length + 1)) gs with
  | .ok m => .ok m
  | .error fault => .error ⟨frame, fault⟩

end Tunnel.Message
