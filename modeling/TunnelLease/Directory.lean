import TunnelLease.Directory.Place

/-!
# Directories

A snapshot of a directory tree: files with their bytes, and folders, by their places.
Of what surrounds the directory it knows only the way up.  A path is followed name
by name, so it leads nowhere if it passes through something that is no folder, and a
name may be too long only where it is looked up.
-/

namespace TunnelLease

inductive Directory.Item where
  | folder
  | file (bytes : List UInt8)

/-- Files and folders by their places, the latest first. -/
structure Directory where
  items : List (Place × Directory.Item)

inductive Lookup where
  /-- No file: nothing at all, or a folder. -/
  | absent
  | file (bytes : List UInt8)
  /-- A component, or the path as a whole, is longer than names may be. -/
  | tooLong
deriving DecidableEq

namespace Directory

def componentLimit : Nat := 255

def pathLimit : Nat := 4095

def empty : Directory := ⟨[]⟩

/-- Puts a file or a folder where a path leads, instead of what is there. -/
def insert (directory : Directory) (path : String) (item : Item) : Directory :=
  ⟨(Place.ofPath path, item) :: directory.items⟩

/-- The directory with the given files and folders, of which later ones count. -/
def ofList (items : List (String × Item)) : Directory :=
  items.foldl (fun directory item => directory.insert item.1 item.2) empty

/-- Whether a place is a folder: each origin is one, and so is whatever holds
something. -/
def isFolder (directory : Directory) (place : Place) : Bool :=
  place.names.isEmpty || directory.items.any fun item =>
    match item.2 with
    | .folder => item.1.isWithin place
    | .file _ => item.1.isWithin place && item.1 != place

def at? (directory : Directory) (place : Place) : Option Item :=
  if directory.isFolder place then some .folder
  else (directory.items.find? fun item => item.1 == place).map (·.2)

def walk (directory : Directory) (place : Place) : List String → Lookup
  | [] =>
      match directory.at? place with
      | some (.file bytes) => .file bytes
      | _ => .absent
  | component :: later =>
      if !directory.isFolder place then .absent
      else if componentLimit < component.utf8ByteSize then .tooLong
      else walk directory (place.step component) later

def lookup (directory : Directory) (path : String) : Lookup :=
  if path.contains '\x00' then .absent
  else if pathLimit < path.utf8ByteSize then .tooLong
  else walk directory (Place.start path) (pathComponents path)

end Directory

end TunnelLease
