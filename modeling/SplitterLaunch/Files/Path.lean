/-! Paths as text. `parent?` and `fileName?` look at the names in a path and skip slashes and single dots
    that do not matter; `sibling` replaces the last name. A path that ends in `..`, or has no name at all,
    has no file name. -/

namespace SplitterLaunch
namespace Path

/-- A path from its end backwards, without the slashes and single dots it ends in. The slash of the root
    and a dot at the start stay. -/
def trimEnd : List Char → List Char
  | ['/'] => ['/']
  | '/' :: rest => trimEnd rest
  | '.' :: '/' :: rest => trimEnd ('/' :: rest)
  | rest => rest
termination_by rest => rest.length

/-- The last name of a path and what stands before it, both from the end backwards. The root and the empty
    path have no last name. -/
def splitLast? (path : String) : Option (List Char × List Char) :=
  match trimEnd path.toList.reverse with
  | [] => none
  | ['/'] => none
  | rest => some (rest.takeWhile (· ≠ '/'), rest.dropWhile (· ≠ '/'))

def parent? (path : String) : Option String :=
  (splitLast? path).map fun (_, before) => String.ofList (trimEnd before).reverse

/-- The last name, unless it stands for a directory by its position. -/
def fileName? (path : String) : Option String :=
  (splitLast? path).bind fun (last, _) =>
    let name := String.ofList last.reverse
    if name == "." || name == ".." then none else some name

def join (directory name : String) : String :=
  if directory.isEmpty || directory.toList.getLast? == some '/' then directory ++ name
  else directory ++ "/" ++ name

/-- The path with another name in place of its file name, or with the name added if it has none. -/
def sibling (path name : String) : String :=
  match fileName? path with
  | some _ => join ((parent? path).getD "") name
  | none => join path name

end Path
end SplitterLaunch
