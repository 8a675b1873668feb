import CrateGen.Code.Basic
import CrateGen.Model.Basic
import CrateGen.Text.Blank

namespace CrateGen.Code

/-- Modeled documentation and a note; without documentation, the note behind an attribute that
allows its absence, if `suppress` asks for one. -/
def docsOrFallback (text : Option String) (suppress : Bool) (note : Option String) : Code :=
  match text.filter (!Text.isBlankText ·) with
  | some text => docs text ++ optional note fun n => docs "" ++ docs n
  | none =>
    (if suppress then line "#[allow(missing_docs)] // documentation missing in model"
      else nothing) ++ optional note docs

/-- The documentation of a shape; a member without one has that of its target. -/
def documentation? (m : Model) (s : Shape) : Option String :=
  s.documentation?.or ((s.target?.bind m.get?).bind Shape.documentation?)

def documentShape (m : Model) (s : Shape) (note : Option String) : Code :=
  docsOrFallback (documentation? m s) true note

def deprecatedShape (s : Shape) : Code :=
  match s.deprecation? with
  | none => nothing
  | some notice =>
    let args := (notice.message.map fun t => "note = " ++ Text.quote t).toList ++
      (notice.since.map fun t => "since = " ++ Text.quote t).toList
    if args.isEmpty then line "#[deprecated]"
    else line ("#[deprecated(" ++ ", ".intercalate args ++ ")]")

/-- The body on the value inside an optional member, or on the value itself. -/
def ifSome (member : Symbol Code) (value : String) (body : String → Code) : Code :=
  if member.isOptional then
    withName "inner" fun inner =>
      block ("if let Some(" ++ inner ++ ") = " ++ value) (body inner)
  else body value

/-- The condition that a value differs from the default of a shape's type. -/
def differsFromDefault (s : Shape) (value : String) : String :=
  match s.primitive? with
  | some .float | some .double => "if " ++ value ++ " != 0.0"
  | some .boolean => "if " ++ value
  | some type => if type.isNumber then "if " ++ value ++ " != 0" else ""
  | none => ""

/-- The body, run only when the value differs from the default of the shape's type. -/
def ifNotDefault (s : Shape) (value : String) (body : String → Code) : Code :=
  block (differsFromDefault s value) (body value)

/-- The body on a member's value when it is present and not the default. -/
def ifSet (s : Shape) (member : Symbol Code) (value : String) (body : String → Code) : Code :=
  ifSome member value fun inner => ifNotDefault s inner body

def elementId (m : Model) (member : ShapeId) : Except Error ShapeId := do
  let target ← m.memberTarget (← m.expect member)
  return target.id

/-- The body for each item of a list or value of a map; it gets the loop variable and the id of
the element's shape. -/
def forEach (m : Model) (s : Shape) (field : String) (body : String → ShapeId → Code) : Code :=
  match s.kind with
  | .list item =>
    match elementId m item with
    | .error e => fail e
    | .ok element =>
      withName "item" fun item =>
        block ("for " ++ item ++ " in " ++ field) (body item element)
  | .map _ value =>
    match elementId m value with
    | .error e => fail e
    | .ok element =>
      withName "key" fun key =>
        withName "value" fun item =>
          block ("for (" ++ key ++ ", " ++ item ++ ") in " ++ field) (body item element)
  | _ => fail (.unexpectedShapeKind s.id "list or map")

end CrateGen.Code
