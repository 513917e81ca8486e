import SplitterLaunch.Json.Decode
import SplitterLaunch.Node
import SplitterLaunch.Text.Quoted
import SplitterLaunch.Url

/-! JSON-RPC: what the text of a reply says, and how a failed request is reported. A reply is an object with
    an identifier, the version and either a result or an error, and with no other members. -/

namespace SplitterLaunch

/-- Why a request failed. -/
inductive RpcFault where
  /-- The request did not reach the node at a URL. -/
  | unreachable (url : String) (fault : OsFault)
  /-- Requests cannot be sent to a URL. -/
  | unsupported (url : String)
  /-- A URL that requests can be sent to holds a character that no request may hold, or is too long. -/
  | unsendable (url : String)
  /-- The node answered with an error. -/
  | refused (code : Int) (message : String) (data : Option Json)
  /-- The node answered with a text that is no reply, or not one to the request. -/
  | undecodable (text : String)
  /-- Any other fault, told in words. -/
  | other (text : String)

namespace Json

mutual

/-- A value as reports show it, each kind by its name. -/
def describe : Json → List Char
  | .null => "Null".toList
  | .bool true => "Bool(true)".toList
  | .bool false => "Bool(false)".toList
  | .number n => "Number(".toList ++ writeNumber n ++ [')']
  | .string s => "String(".toList ++ (Text.quoted s).toList ++ [')']
  | .array items => "Array [".toList ++ describeItems items ++ [']']
  | .object members => "Object \x7b".toList ++ describeMembers members ++ ['\x7d']

def describeItems : List Json → List Char
  | [] => []
  | [item] => describe item
  | item :: next :: rest => describe item ++ ", ".toList ++ describeItems (next :: rest)

def describeMembers : List (String × Json) → List Char
  | [] => []
  | [(name, item)] => (Text.quoted name).toList ++ ": ".toList ++ describe item
  | (name, item) :: next :: rest =>
    (Text.quoted name).toList ++ ": ".toList ++ describe item ++ ", ".toList ++ describeMembers (next :: rest)

end

end Json

namespace RpcFault

def signed (n : Int) : String := String.ofList (Json.writeInteger n)

/-- The messages of what lies below a failed connection, the outermost first. -/
def connectionMessages (fault : OsFault) : List String :=
  ["error trying to connect: tcp connect error: " ++ fault.message,
   "tcp connect error: " ++ fault.message,
   fault.message]

/-- The messages of a fault, the general one first. -/
def messages : RpcFault → List String
  | .unreachable url fault =>
    ("error sending request for url (" ++ url ++ "): error trying to connect: tcp connect error: "
      ++ fault.message) :: connectionMessages fault
  | .unsupported url =>
    ["builder error for url (" ++ url ++ "): URL scheme is not allowed", "URL scheme is not allowed"]
  | .unsendable url =>
    ["builder error for url (" ++ url ++ "): Parsed Url is not a valid Uri", "Parsed Url is not a valid Uri"]
  | .refused code message data =>
    let shown := match data with
      | none => "None"
      | some j => "Some(" ++ String.ofList j.describe ++ ")"
    ["(code: " ++ signed code ++ ", message: " ++ message ++ ", data: " ++ shown ++ ")"]
  | .undecodable text => ["Deserialization Error. Response: " ++ text]
  | .other text => ["custom error: " ++ text]

def message (f : RpcFault) : String := f.messages.headD ""

/-- Whether the node itself answered with an error. -/
def isRefusal : RpcFault → Bool
  | .refused _ _ _ => true
  | _ => false

end RpcFault

/-- How a request can end without an answer. -/
inductive Unanswered where
  | silence
  | fault (fault : RpcFault)

namespace Rpc

def memberNames : List String := ["jsonrpc", "id", "result", "error", "method", "params"]

/-- The values of those members. None may stand in a reply twice, and no other may stand in it. -/
def members? (source : Json.Source) : Option (String → Option Json.Source) := do
  let members ← source.members?
  let named ← members.mapM fun (name, value) => do
    let text := String.ofList name
    if memberNames.contains text then some (text, value) else none
  if (named.map (·.1)).Nodup then return fun name => named.lookup name else none

/-- A whole number of 64 bits with a sign. -/
def asInt64? : Json → Option Int
  | .number (.integer n) => if n.toInt < 9223372036854775808 then some n.toInt else none
  | _ => none

/-- The fields of an error, in the order in which an array has them. -/
def refusalNames : List String := ["code", "message", "data"]

/-- The error in a reply. None of its fields may stand there twice. -/
def refusal? (source : Json.Source) : Option RpcFault := do
  let written ← (Json.writtenInside? 1 source).filter (Json.repeatsNone refusalNames)
  let f ← written.sorted.fields?
  let code ← f.required? 0 "code" asInt64?
  let message ← f.required? 1 "message" Json.asString?
  let data ← f.nullable? 2 "data" some
  if f.fits 3 then return .refused code message data else none

/-- What a reply says: a result, as it is written, or an error. -/
def read? (text : String) : Option (Except RpcFault Json.Source) := do
  let source ← Json.Source.read? text.toList
  let member ← members? source
  let version ← member "jsonrpc"
  let identifier ← member "id"
  if (match version with
      | .string s => String.ofList s != "2.0"
      | _ => true) then none
  else if (Json.ofSource? identifier).bind Json.asUInt64? |>.isNone then none
  else if (member "method").isSome || (member "params").isSome then none
  else match member "result", member "error" with
    | some result, none => return .ok result
    | none, some error => return .error (← refusal? error)
    | _, _ => none

/-- What a reply to a request at a URL means, given how to read its result. -/
def interpret {α : Type} (url : Url) (decode : Json.Source → Option α) : Reply → Except Unanswered α
  | .silence => .error .silence
  | .unreachable fault => .error (.fault (.unreachable url.text fault))
  | .body text =>
    match read? text with
    | none => .error (.fault (.undecodable text))
    | some (.error fault) => .error (.fault fault)
    | some (.ok result) =>
      match decode result with
      | some x => .ok x
      | none => .error (.fault (.undecodable text))

end Rpc
end SplitterLaunch
