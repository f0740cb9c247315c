import RowQuery.Command.Surroundings
/-!
# A given set of files

Files held in memory, by their paths below a directory that is also the place
from which relative paths start. A path is followed part by part, so it goes
through directories only.
-/

namespace RowQuery.Command

structure Files where
  /-- The directory the files stand in, as an absolute path. -/
  root : String
  /-- The parts of each file's path below the root, and its text. -/
  texts : List (List String × String)

namespace Files

/-- The parts of a path; empty ones come from repeated slashes. -/
def parts (path : String) : List String := path.splitOn "/"

/-- A part that leads to where one is already. -/
def isHere (part : String) : Bool := part == "" || part == "."

def ofList (root : String) (files : List (String × String)) : Files :=
  ⟨root, files.map fun (path, text) => ((parts path).filter fun p => !isHere p, text)⟩

/-- What stands at a place below the root. -/
def atPlace (f : Files) (place : List String) : Found :=
  match f.texts.lookup place with
  | some text => .text text
  | none =>
    if place.isEmpty || f.texts.any (fun e => place.isPrefixOf e.1) then .directory else .missing

/-- The longest name of a file, in bytes. -/
def maxNameSize : Nat := 255

/-- Follows parts from a place; none is the directory above the root, of which
nothing is known. -/
def follow (f : Files) : Option (List String) → List String → Found
  | none, [] => .directory
  | some place, [] => f.atPlace place
  | none, p :: rest => if isHere p || p == ".." then follow f none rest else .missing
  | some place, p :: rest =>
    match f.atPlace place with
    | .directory =>
      if isHere p then follow f (some place) rest
      else if p == ".." then follow f (if place.isEmpty then none else some place.dropLast) rest
      else if maxNameSize < p.utf8ByteSize then .tooLong
      else follow f (some (place ++ [p])) rest
    | .text _ => .throughFile
    | found => found

/-- The parts behind the root, when a path starts with it. -/
def belowRoot? (f : Files) (path : List String) : Option (List String) :=
  let root := parts f.root
  if root.isPrefixOf path then some (path.drop root.length) else none

/-- What a path leads to. -/
def find (f : Files) (path : String) : Found :=
  match parts path with
  | [""] => .missing
  | "" :: rest =>
    match f.belowRoot? ("" :: rest) with
    | some below => f.follow (some []) below
    | none => f.follow none rest
  | below => f.follow (some []) below

end Files

end RowQuery.Command
