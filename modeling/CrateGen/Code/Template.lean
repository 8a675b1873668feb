import CrateGen.Code.Basic
import CrateGen.Text.LetterCase
import CrateGen.Text.WordChar

namespace CrateGen

/-- Keys bound together: each in lower case, as written, and with its argument. -/
abbrev Scope := List (String × String × Arg Code)

namespace Scope

/-- Binds arguments; keys that differ in case only are the same key. -/
def ofArgs (args : List (String × Arg Code)) : Except Error Scope :=
  go [] args
where
  go (bound : Scope) : List (String × Arg Code) → Except Error Scope
    | [] => .ok bound
    | (key, arg) :: rest =>
      let low := lowercase key
      if bound.any (·.1 == low) then .error (.duplicateTemplateKey key)
      else go (bound ++ [(low, key, arg)]) rest

/-- The argument bound to a key in lower case. -/
def get? (s : Scope) (key : String) : Option (Arg Code) :=
  (s.find? (·.1 == key)).map (·.2.2)

/-- The argument of the nearest scope that binds the key; the innermost scope comes first. -/
def lookup (scopes : List Scope) (key : String) : Option (Arg Code) :=
  scopes.findSome? (·.get? key)

/-- Every key bound by some scope, as written. -/
def keys (scopes : List Scope) : List String :=
  scopes.flatMap fun s => s.map (·.2.1)

end Scope

namespace Template

/-- A part of a template: a character, an escaped number sign, or a key with the letter that
says how its argument is rendered. -/
inductive Piece where
  | char (c : Char)
  | sharp
  | directive (key : String) (kind : Option Char)

/-- What a directive may look like. -/
structure Form where
  isKeyChar : Char → Bool
  kindOptional : Bool

/-- Directives as authors write them, `#{Key}` or `#{Key:K}`. -/
def Form.authored : Form where
  isKeyChar c := c.isAlphanum || c == '_'
  kindOptional := true

/-- Directives with a lower-case key and a kind, `#{key:K}`. -/
def Form.canonical : Form where
  isKeyChar c := c.isLower || c.isDigit || c == '_'
  kindOptional := false

/-- The piece that starts with a number sign before `cs`, and its further length. -/
def Form.read? (form : Form) : List Char → Option (Piece × Nat)
  | '#' :: _ => some (.sharp, 1)
  | '{' :: cs =>
    let key := cs.takeWhile form.isKeyChar
    if key.isEmpty then none
    else
      match cs.dropWhile form.isKeyChar with
      | '}' :: _ =>
        if form.kindOptional then some (.directive (.ofList key) none, key.length + 2) else none
      | ':' :: kind :: '}' :: _ =>
        if isWordChar kind then some (.directive (.ofList key) (some kind), key.length + 4)
        else none
      | _ => none
  | _ => none

/-- The pieces of a template from left to right; the first `skip` characters belong to a piece
already read. What is not a directive is text. -/
def Form.pieces (form : Form) : Nat → List Char → List Piece
  | _, [] => []
  | skip + 1, _ :: cs => form.pieces skip cs
  | 0, '#' :: cs =>
    match form.read? cs with
    | some (piece, length) => piece :: form.pieces length cs
    | none => .char '#' :: form.pieces 0 cs
  | 0, c :: cs => .char c :: form.pieces 0 cs

/-- The canonical text of a piece. -/
def Piece.canonical : Piece → List Char
  | .char c => [c]
  | .sharp => ['#', '#']
  | .directive key kind =>
    '#' :: '{' :: (lowercase key).toList ++ [':', kind.getD 'T', '}']

/-- The first key that no scope binds, as written. -/
def missing? (scopes : List Scope) (pieces : List Piece) : Option String :=
  pieces.findSome? fun
    | .directive key _ => if (Scope.lookup scopes (lowercase key)).isNone then some key else none
    | _ => none

/-- A template with every directive in canonical form, if every key is bound. -/
def canonicalize (scopes : List Scope) (template : List Char) : Except Error (List Char) :=
  let pieces := Form.authored.pieces 0 template
  match missing? scopes pieces with
  | some key => .error (.unbound key (Scope.keys scopes))
  | none => .ok (pieces.flatMap Piece.canonical)

end Template

end CrateGen
