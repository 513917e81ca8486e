import SplitterLaunch.Json.Token

/-! The grammar of JSON over tokens. A reading takes up one token at a time and keeps the arrays and objects
    that are still open in a list, so that it needs no look-ahead and no recursion into values. Of a text
    with a mistake it tells what came before the mistake. -/

namespace SplitterLaunch
namespace Json

/-- An array or object that is still open: what it holds so far, the latest first, and for an object the
    name of the member whose value is being read. -/
inductive Frame where
  | array (before : List Source)
  | object (before : List (List Char × Source)) (name : List Char)

/-- How far a reading has come, with the open arrays and objects from the inside out. -/
inductive Reading where
  /-- A value must come. -/
  | value (frames : List Frame)
  /-- An item, or the end of the array that was just opened. -/
  | item (frames : List Frame)
  /-- A member's name. In an object that was just opened, `fresh`, its end may come instead. -/
  | key (fresh : Bool) (before : List (List Char × Source)) (frames : List Frame)
  /-- The colon after a member's name. -/
  | colon (before : List (List Char × Source)) (name : List Char) (frames : List Frame)
  /-- A value has come. -/
  | done (v : Source) (frames : List Frame)

namespace Reading

def start (frames : List Frame) : Token → Option Reading
  | .null => some (.done .null frames)
  | .bool b => some (.done (.bool b) frames)
  | .number n => some (.done (.number n) frames)
  | .string s => some (.done (.string s) frames)
  | .openArray => some (.item (.array [] :: frames))
  | .openObject => some (.key true [] frames)
  | _ => none

def step : Reading → Token → Option Reading
  | .value frames, token => start frames token
  | .item (.array [] :: frames), .closeArray => some (.done (.array []) frames)
  | .item frames, token => start frames token
  | .key true _ frames, .closeObject => some (.done (.object []) frames)
  | .key _ before frames, .string name => some (.colon before name frames)
  | .key _ _ _, _ => none
  | .colon before name frames, .colon => some (.value (.object before name :: frames))
  | .colon _ _ _, _ => none
  | .done v (.array before :: frames), .comma => some (.value (.array (v :: before) :: frames))
  | .done v (.array before :: frames), .closeArray => some (.done (.array (v :: before).reverse) frames)
  | .done v (.object before name :: frames), .comma => some (.key false ((name, v) :: before) frames)
  | .done v (.object before name :: frames), .closeObject =>
    some (.done (.object ((name, v) :: before).reverse) frames)
  | .done _ _, _ => none

/-- Takes up tokens as long as they fit, and tells whether all did. -/
def run (r : Reading) : List Token → Reading × Bool
  | [] => (r, true)
  | token :: tokens =>
    match r.step token with
    | some r => run r tokens
    | none => (r, false)

/-- The value, once it is complete. -/
def result? : Reading → Option Source
  | .done v [] => some v
  | _ => none

/-- The open arrays and objects from the inside out, and the value that has come last inside them. -/
def opened : Reading → List Frame × Option Source
  | .value frames => (frames, none)
  | .item frames => (frames, none)
  | .key _ before frames => (.object before [] :: frames, none)
  | .colon before name frames => (.object before name :: frames, none)
  | .done v frames => (frames, some v)

end Reading

/-- The array or object as if it ended here, with the value that is being read in it. -/
def Frame.close (last : Option Source) : Frame → Source
  | .array before => .array (before.reverse ++ last.toList)
  | .object before name => .object (before.reverse ++ last.toList.map fun v => (name, v))

/-- What the outermost `levels` arrays and objects hold so far. A value further inside counts once it is
    complete. -/
def Reading.soFar (levels : Nat) (r : Reading) : Option Source :=
  let (frames, last) := r.opened
  let inner := frames.length - levels
  (frames.drop inner).foldl (fun last frame => some (frame.close last)) (if inner = 0 then last else none)

/-- A text as far as it is JSON: the value that it spells, or what the outermost `levels` of that value hold
    before the first mistake. -/
structure Excerpt where
  value : Option Source
  whole : Bool

def Excerpt.read (levels : Nat) (cs : List Char) : Excerpt :=
  let (tokens, ended) := tokens cs
  let (reading, fit) := Reading.run (.value []) tokens
  match reading.result? with
  | some v => ⟨some v, ended && fit⟩
  | none => ⟨reading.soFar levels, false⟩

def Source.read? (cs : List Char) : Option Source :=
  let excerpt := Excerpt.read 0 cs
  if excerpt.whole then excerpt.value else none

end Json
end SplitterLaunch
