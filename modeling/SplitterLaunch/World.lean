import SplitterLaunch.Failure

/-! What a command acts on: a node, files, a clock and the text it prints. A run changes the world also when
    it ends without an answer, so that all it did up to there can be seen. -/

namespace SplitterLaunch

/-- The world of a command. The exchanges with the node are kept, the latest first. -/
structure World where
  node : Node
  exchanges : List Exchange
  disk : Disk
  now : Timestamp
  printed : String

/-- A part of a command: it acts on a world and answers, fails or crashes. -/
abbrev Run (α : Type) := ExceptT (Stop Failure) (StateM World) α

namespace World

def start (node : Node) (files : Files) (now : Timestamp) : World where
  node := node
  exchanges := []
  disk := ⟨files, []⟩
  now := now
  printed := ""

/-- The requests that the node received, in order. -/
def requests (w : World) : List Request := ((w.exchanges.filter Exchange.received).map Exchange.request).reverse

end World

namespace Run

def fail {α : Type} (failure : Failure) : Run α := throw (.failed failure)

def crash {α : Type} : Run α := throw .crashed

/-- Goes on with a result, or ends with the failure that its fault is. -/
def require {ε α : Type} (failure : ε → Failure) : Except ε α → Run α
  | .ok x => pure x
  | .error fault => fail (failure fault)

/-- Goes on with the answer of an outcome, or ends as it does. -/
def settle {ε α : Type} (failure : ε → Failure) : Outcome ε α → Run α
  | .ok x => pure x
  | .error stop => throw (stop.map failure)

def print (line : String) : Run Unit := modify fun w => { w with printed := w.printed ++ line ++ "\n" }

def printAll (lines : List String) : Run Unit := lines.forM print

def ask (request : Request) : Run Reply := do
  let w ← get
  let reply := w.node.reply w.exchanges request
  set { w with exchanges := ⟨request, reply⟩ :: w.exchanges }
  return reply

def files : Run Files := do return (← get).disk.files

end Run
end SplitterLaunch
