import RadiusSentry.Text.Split

/-!
# Paths

A path is a text; a slash separates names. Joining keeps both texts as they are,
and an absolute second part replaces the first.
-/

set_option autoImplicit false

namespace RadiusSentry

/-- The text of a path. -/
abbrev Path := String

namespace Path

def isAbsolute (path : Path) : Bool :=
  path.toList.head? == some '/'

/-- `name` below `dir`. -/
def join (dir name : Path) : Path :=
  if isAbsolute name || dir.toList = [] then name
  else if dir.toList.getLast? = some '/' then dir ++ name
  else dir ++ "/" ++ name

/-- The names between the slashes; empty ones stand for nothing. -/
def names (path : Path) : List String :=
  ((Text.split '/' path.toList).filter (· ≠ [])).map String.ofList

def parent (path : Path) : Path :=
  String.ofList (path.toList.reverse.dropWhile (· ≠ '/')).reverse

/-- Whether the path ends with a slash, and so names a directory. -/
def endsWithSlash (path : Path) : Bool :=
  path.toList.getLast? == some '/'

end Path

end RadiusSentry
