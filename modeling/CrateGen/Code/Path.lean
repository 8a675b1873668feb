import CrateGen.Text.Lines

namespace CrateGen.Path

/-- What stands before and after the last `::` of a path. -/
def splitLastChars? : List Char → Option (List Char × List Char)
  | [] => none
  | c :: rest =>
    match splitLastChars? rest with
    | some (before, after) => some (c :: before, after)
    | none =>
      match c, rest with
      | ':', ':' :: rest => some ([], rest)
      | _, _ => none

def splitLast? (path : String) : Option (String × String) :=
  (splitLastChars? path.toList).map fun (before, after) => (.ofList before, .ofList after)

def lastSegment (path : String) : String :=
  match splitLast? path with
  | some (_, last) => last
  | none => path

/-- How often `::` occurs, counted from the left without overlap. -/
def countSeparators : List Char → Nat
  | ':' :: ':' :: rest => countSeparators rest + 1
  | _ :: rest => countSeparators rest
  | [] => 0

def depth (path : String) : Nat :=
  countSeparators path.toList

end CrateGen.Path
