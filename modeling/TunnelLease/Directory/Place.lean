/-!
# Places

A path is a text with names between slashes.  It starts at the top of a directory, or
at the root of everything if a slash stands in front.  Empty and `.` components go
nowhere, and `..` goes back up.  What is left of a path is the place it leads to: an
origin and the names from there on, so that two paths to one place give one place.
-/

namespace TunnelLease

/-- The components of a path, without those that go nowhere. -/
def pathComponents (path : String) : List String :=
  ((path.toList.splitOn '/').filter fun part => part ≠ [] ∧ part ≠ ['.']).map String.ofList

/-- A path without the components that go nowhere. -/
def normalPath (path : String) : String :=
  let joined := "/".intercalate (pathComponents path)
  if path.startsWith "/" then
    if path.startsWith "//" && !path.startsWith "///" then "//" ++ joined else "/" ++ joined
  else if joined = "" then "."
  else joined

inductive Place.Origin where
  /-- So many folders above the top of the directory. -/
  | above (levels : Nat)
  | root
deriving DecidableEq

/-- A place: the names that lead there from its origin, the innermost name first. -/
structure Place where
  origin : Place.Origin
  names : List String
deriving DecidableEq

namespace Place

def top : Place := ⟨.above 0, []⟩

/-- The folder above a folder, except that nothing is above the root. -/
def Origin.up : Origin → Origin
  | .above levels => .above (levels + 1)
  | .root => .root

def step (place : Place) (component : String) : Place :=
  if component = ".." then
    match place.names with
    | [] => { place with origin := place.origin.up }
    | _ :: outer => { place with names := outer }
  else { place with names := component :: place.names }

def start (path : String) : Place :=
  if path.startsWith "/" then ⟨.root, []⟩ else top

def ofPath (path : String) : Place :=
  (pathComponents path).foldl step (start path)

/-- Whether a place is below another one, or the same. -/
def isWithin (place outer : Place) : Bool :=
  place.origin = outer.origin && outer.names.isSuffixOf place.names

end Place

end TunnelLease
