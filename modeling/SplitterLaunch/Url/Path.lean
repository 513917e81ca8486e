import SplitterLaunch.Url.Percent

/-! Paths in URLs. Names in a path are followed one after another: `.` stays, and `..` goes up, but not above
    the name of a drive, a letter and a colon. -/

namespace SplitterLaunch
namespace Url

def isDot (name : List Char) : Bool := [".", "%2e"].contains (String.ofList (name.map Char.toLower))

def isDoubleDot (name : List Char) : Bool :=
  ["..", ".%2e", "%2e.", "%2e%2e"].contains (String.ofList (name.map Char.toLower))

/-- Whether a text starts with the name of a drive, of which the second character may be a bar. -/
def startsWithDrive : List Char → Bool
  | a :: b :: cs => a.isAlpha && (b == ':' || b == '|') && match cs with
    | [] => true
    | c :: _ => c == '/' || c == '\\' || c == '?' || c == '#'
  | _ => false

def isDrive (name : List Char) : Bool := name.length == 2 && startsWithDrive name

/-- Whether a name is the name of a drive in its normal form. -/
def isNormalDrive (name : List Char) : Bool := isDrive name && name.getLast? == some ':'

def lastName (path : List Char) : List Char := (path.reverse.takeWhile (· != '/')).reverse

/-- The path up to its last slash, that slash included. -/
def upToSlash (path : List Char) : List Char := path.take (path.length - (lastName path).length)

/-- Goes up from a path that ends with a slash. The names of drives stay, in a path of files also where the
    slash after them is missing. -/
def goUp (files : Bool) (path : List Char) : List Char :=
  let shorter := path.dropLast
  let path := if shorter.contains '/' && !startsWithDrive (lastName shorter ++ ['/']) then shorter else path
  if files && isNormalDrive (lastName path) then path else upToSlash path

/-- A slash at the end, unless there is one. -/
def withSlash (path : List Char) : List Char := if path.getLast? = some '/' then path else path ++ ['/']

/-- A path that is followed name by name. -/
structure Route where
  path : List Char
  /-- Whether the path starts with the name of a drive that came first in it. -/
  onDrive : Bool

/-- Follows a name, which a slash comes after unless it is the last. -/
def Route.follow (files isLast : Bool) (r : Route) (name : List Char) : Route :=
  let ending := if isLast then [] else ['/']
  if isDoubleDot name then
    let up := goUp files r.path
    { r with path := if isLast then up else withSlash up }
  else if isDot name then { r with path := withSlash r.path }
  else if files && r.path.length == 1 && isDrive name then
    ⟨r.path ++ name.take 1 ++ ':' :: ending, true⟩
  else { r with path := r.path ++ name ++ ending }

def Route.followAll (files : Bool) : Route → List (List Char) → Route
  | r, [] => r
  | r, [name] => r.follow files true name
  | r, name :: names => followAll files (r.follow files false name) names

/-- The route along a written path from a start. In paths that always have a host a backslash is a slash.
    Paths of files have one slash in front. -/
def Route.along (hosted files : Bool) (start written : List Char) : Route :=
  let written := if hosted then written.map fun c => if c == '\\' then '/' else c else written
  let r := Route.followAll files ⟨start, false⟩ ((written.splitOn '/').map (encode pathSpecial))
  if files then { r with path := '/' :: r.path.dropWhile (· == '/') } else r

end Url
end SplitterLaunch
