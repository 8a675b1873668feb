import CrateGen.Error
import CrateGen.Text.Lines
import Std.Data.ExtTreeMap
import Std.Data.ExtTreeSet

namespace CrateGen

/-- The files and directories below a directory, by their paths from there. The directory itself
has the empty path. -/
structure FileTree where
  directories : Std.ExtTreeSet String := .ofList [""]
  files : Std.ExtTreeMap String String := ∅

namespace FileTree

/-- The longest name of a file or directory, in bytes. -/
def nameLimit : Nat := 255

/-- The longest path of a file, in bytes. It leaves room for the path of the directory itself. -/
def pathLimit : Nat := 4064

def isName (name : String) : Bool :=
  name.utf8ByteSize ≤ nameLimit && !name.toList.contains '\x00'

/-- The path of the place that names lead to, innermost first. -/
def pathOf (place : List String) : String :=
  "/".intercalate place.reverse

/-- Where a name leads from a place. An empty name and `.` stay there, and `..` goes up. -/
def follow (place : List String) (name : String) : Except Error (List String) :=
  if name = "" ∨ name = "." then .ok place
  else if name = ".." then
    match place with
    | [] => .ok [".."]
    | last :: above => .ok (if last = ".." then ".." :: place else above)
  else if isName name then .ok (name :: place)
  else .error .io

/-- Goes from a place through directories, which are created unless they exist. -/
def enter (t : FileTree) (place : List String) :
    List String → Except Error (FileTree × List String)
  | [] => .ok (t, place)
  | name :: rest => do
    let place ← follow place name
    if t.files.contains (pathOf place) then throw .io
    enter { t with directories := t.directories.insert (pathOf place) } place rest

/-- The names on a path, outermost first. -/
def namesOf (path : String) : List String :=
  (Text.splitAt '/' path.toList).map String.ofList

/-- Writes a file, in place of the one that was there, and creates the directories above it. -/
def write (t : FileTree) (path text : String) : Except Error FileTree := do
  if pathLimit < path.utf8ByteSize then throw .io
  let names := namesOf path
  let (t, place) ← t.enter [] names.dropLast
  let place ← follow place (names.getLast?.getD "")
  if t.directories.contains (pathOf place) then throw .io
  return { t with files := t.files.insert (pathOf place) text }

/-- Goes from a place to the place that names lead to, through directories that exist. -/
def find (t : FileTree) (place : List String) : List String → Except Error (List String)
  | [] => .ok place
  | name :: rest => do
    if !t.directories.contains (pathOf place) then throw .io
    find t (← follow place name) rest

def read (t : FileTree) (path : String) : Except Error String := do
  let place ← t.find [] (namesOf path)
  match t.files[pathOf place]? with
  | some text => return text
  | none => throw .io

end FileTree

end CrateGen
