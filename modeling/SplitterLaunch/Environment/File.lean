import SplitterLaunch.Environment
import SplitterLaunch.Files
import SplitterLaunch.Text.Alphanumeric

/-! Files of variables. A line gives a name and a value; a value may be quoted, also over several lines, and
    may refer to variables with a dollar sign. A variable that is set already keeps its value. Reading ends
    at the first line that cannot be read, and what stands before it holds. -/

namespace SplitterLaunch
namespace EnvironmentFile

/-! ### Lines -/

/-- Where in a value the next character stands. -/
inductive Place where
  | plain
  | blank
  | escape
  | weak
  | weakEscape
  | strong
  | strongEscape
deriving DecidableEq, Repr

def Place.next (p : Place) (c : Char) : Place :=
  match p with
  | .escape => .plain
  | .weak => if c = '\\' then .weakEscape else if c = '"' then .plain else .weak
  | .weakEscape => .weak
  | .strong => if c = '\\' then .strongEscape else if c = '\'' then .plain else .strong
  | .strongEscape => .strong
  | _ =>
    if p = .plain ∧ Text.isBlank c ∧ c ≠ '\n' ∧ c ≠ '\r' then .blank
    else if c = '\\' then .escape
    else if c = '"' then .weak
    else if c = '\'' then .strong
    else .plain

/-- What stands before the comment in a text that starts at a place. A comment starts after a blank. -/
def beforeComment? (p : Place) : List Char → Option (List Char)
  | [] => none
  | c :: cs => if p = .blank ∧ c = '#' then some [] else (beforeComment? (p.next c) cs).map (c :: ·)

/-- The lines of a text, each with its end. -/
def physicalLines : List Char → List (List Char)
  | [] => []
  | c :: cs =>
    if c = '\n' then [c] :: physicalLines cs
    else match physicalLines cs with
      | [] => [[c]]
      | line :: lines => (c :: line) :: lines

def withoutEnd (line : List Char) : List Char :=
  match line.reverse with
  | '\n' :: '\r' :: cs => cs.reverse
  | '\n' :: cs => cs.reverse
  | _ => line

def isComment (line : List Char) : Bool := (Text.trimStart line).head? == some '#'

/-- The lines of a file without comments. A quote that is open at the end of a line goes on in the next one;
    one that is open at the end of the file leaves a line that cannot be read. -/
def logicalLines (before : List Char) (p : Place) : List (List Char) → List (Option (List Char))
  | [] => if p = .plain then [] else [none]
  | line :: lines =>
    if isComment (before ++ line) then some [] :: logicalLines [] .plain lines
    else match beforeComment? p line with
      | some cs => some (before ++ cs) :: logicalLines [] .plain lines
      | none =>
        let q := line.foldl Place.next p
        if q = .plain then some (withoutEnd (before ++ line)) :: logicalLines [] .plain lines
        else logicalLines (before ++ line) q lines

/-! ### Values -/

/-- How the next character of a value is read. The characters of a name come the last first. -/
inductive Mode where
  | plain
  | weak
  | strong
  | escaped (inWeak : Bool)
  | name (inWeak : Bool) (cs : List Char)
  | braced (inWeak : Bool) (cs : List Char)
  | ended
deriving DecidableEq, Repr

namespace Mode

/-- The mode inside weak quotes or outside quotes. -/
def ofWeak (inWeak : Bool) : Mode := if inWeak then weak else plain

/-- The characters that a backslash may stand before, and what it makes of them. -/
def unescape? (c : Char) : Option Char :=
  if c = 'n' then some '\n'
  else if c = '\\' ∨ c = '\'' ∨ c = '"' ∨ c = '$' ∨ c = ' ' then some c
  else none

/-- The value of the variable with a name, given from its end, or nothing. -/
def substitute (env : Environment) (cs : List Char) : List Char :=
  ((env (String.ofList cs.reverse)).getD "").toList

/-- Whether characters after a value are blanks and a comment. -/
def isTail : List Char → Bool
  | [] => true
  | c :: cs => c == '#' || (c == ' ' || c == '\t') && isTail cs

def read? (env : Environment) (mode : Mode) : List Char → Option (List Char)
  | [] =>
    match mode with
    | plain | ended | escaped false => some []
    | name false cs => some (substitute env cs)
    | _ => none
  | c :: rest =>
    match mode with
    | ended => if isTail (c :: rest) then some [] else none
    | escaped inWeak => do return (← unescape? c) :: (← read? env (ofWeak inWeak) rest)
    | strong => if c = '\'' then read? env plain rest else (read? env strong rest).map (c :: ·)
    | name inWeak cs =>
      if Text.isAlphanumeric c then read? env (name inWeak (c :: cs)) rest
      else if c = '\x7b' ∧ cs = [] then read? env (braced inWeak []) rest
      else if c = '$' then (read? env (name inWeak []) rest).map (substitute env cs ++ ·)
      else (read? env (ofWeak inWeak) rest).map (substitute env cs ++ c :: ·)
    | braced inWeak cs =>
      if c = '\x7d' then (read? env (ofWeak inWeak) rest).map (substitute env cs ++ ·)
      else read? env (braced inWeak (c :: cs)) rest
    | weak =>
      if c = '$' then read? env (name true []) rest
      else if c = '"' then read? env plain rest
      else if c = '\\' then read? env (escaped true) rest
      else (read? env weak rest).map (c :: ·)
    | plain =>
      if c = '$' then read? env (name false []) rest
      else if c = '\'' then read? env strong rest
      else if c = '"' then read? env weak rest
      else if c = '\\' then read? env (escaped false) rest
      else if c = ' ' ∨ c = '\t' then read? env ended rest
      else (read? env plain rest).map (c :: ·)

end Mode

/-! ### Entries -/

def isNameStart (c : Char) : Bool := c.isAlpha || c == '_'

def isNamePart (c : Char) : Bool := c.isAlphanum || c == '_' || c == '.'

/-- The name at the start of a text, and the text after it and its blanks. -/
def name? (cs : List Char) : Option (List Char × List Char) :=
  if cs.head?.any isNameStart then some (cs.takeWhile isNamePart, Text.trimStart (cs.dropWhile isNamePart))
  else none

def afterEquals? : List Char → Option (List Char)
  | '=' :: cs => some (Text.trimStart cs)
  | _ => none

/-- The name and the value's text in a line. The name may have `export` in front of it. -/
def split? (cs : List Char) : Option (List Char × List Char) := do
  let (name, rest) ← name? cs
  match afterEquals? rest with
  | some value => return (name, value)
  | none =>
    if name = "export".toList then
      let (name, rest) ← name? rest
      return (name, ← afterEquals? rest)
    else none

/-- The name and the value in a line, if there are any; a line that is neither empty nor a comment must have
    them. -/
def entry? (env : Environment) (line : List Char) : Option (Option (String × String)) :=
  let cs := Text.trimStart (Text.trimEnd line)
  if cs.isEmpty || cs.head? == some '#' then some none
  else do
    let (name, text) ← split? cs
    let value ← if text.isEmpty || text.head? == some '#' then some [] else Mode.read? env .plain text
    return some (String.ofList name, String.ofList value)

/-- The environment with a variable set, unless it is set already. A value with a zero character cannot be
    set. -/
def set? (env : Environment) (name value : String) : Option Environment :=
  if (env name).isSome then some env
  else if value.toList.contains '\x00' then none
  else some fun other => if other = name then some value else env other

def loadLines? (env : Environment) : List (Option (List Char)) → Option Environment
  | [] => some env
  | none :: _ => some env
  | some line :: lines =>
    match entry? env line with
    | none => some env
    | some none => loadLines? env lines
    | some (some (name, value)) =>
      match set? env name value with
      | none => none
      | some env => loadLines? env lines

/-- The environment with the variables of a file, unless one cannot be set. -/
def load? (env : Environment) (text : List Char) : Option Environment :=
  let text := if text.head? = some '\uFEFF' then text.tail else text
  loadLines? env (logicalLines [] .plain (physicalLines text))

/-! ### The file of a working directory -/

/-- The lines at the start of a content that are text. -/
def textLines (content : List UInt8) : List Char :=
  let step (acc : List UInt8 × List (List UInt8)) (b : UInt8) :=
    if b = 10 then ([], (b :: acc.1).reverse :: acc.2) else (b :: acc.1, acc.2)
  let (last, lines) := content.foldl step ([], [])
  let texts := (last.reverse :: lines).reverse.map fun line => Text.ofBytes? line
  (texts.takeWhile Option.isSome).flatMap fun text => (text.getD "").toList

def fileName : String := ".env"

/-- The content of the file in the nearest directory that has one, from a directory on upwards. -/
def find? (f : Files) : Location → Option (List UInt8)
  | [] =>
    match f.lookup? [fileName] with
    | some (.file content) => some content
    | _ => none
  | l@(_ :: above) =>
    match f.lookup? (fileName :: l) with
    | some (.file content) => some content
    | _ => find? f above

/-- The environment with the variables of the working directory's file, unless one cannot be set. -/
def environment? (f : Files) (env : Environment) : Option Environment :=
  match find? f f.workingDirectory with
  | some content => load? env (textLines content)
  | none => some env

end EnvironmentFile
end SplitterLaunch
