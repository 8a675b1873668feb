import CrateGen.Model.Basic

namespace CrateGen

/-- The shape of a scalar type that every model holds. -/
def Primitive.shape (p : Primitive) : Shape :=
  { id := .root "smithy.api" p.name, kind := .primitive p }

def prelude : Model :=
  (⟨∅⟩ : Model).insertAll (Primitive.all.map Primitive.shape)

/-- A member to be added with its container. -/
structure MemberDef where
  name : String
  target : String
  traits : List Trait := []

/-- A model under construction, and the first text given for an id that is not one. -/
structure Builder where
  model : Model := prelude
  invalid : Option String := none

namespace Builder

def ofModel (m : Model) : Builder :=
  { model := m }

def add (b : Builder) (s : Shape) : Builder :=
  { b with model := b.model.insert s }

/-- Reads an id, and remembers the text if it is the first that is not one. -/
def parse (b : Builder) (raw : String) : Option ShapeId × Builder :=
  match ShapeId.parse? raw with
  | some id => (some id, b)
  | none => (none, { b with invalid := b.invalid.or (some raw) })

/-- Reads the ids of a list and leaves out what is not one. -/
def parseAll (b : Builder) : List String → List ShapeId × Builder
  | [] => ([], b)
  | raw :: rest =>
    let (id, b) := b.parse raw
    let (ids, b) := b.parseAll rest
    (id.toList ++ ids, b)

def parseOption (b : Builder) : Option String → Option ShapeId × Builder
  | none => (none, b)
  | some raw => b.parse raw

/-- Adds a member of a container, unless its target or name is not valid. -/
def addMember (b : Builder) (container : ShapeId) (d : MemberDef) : Option ShapeId × Builder :=
  match b.parse d.target with
  | (none, b) => (none, b)
  | (some target, b) =>
    match b.parse (container.display ++ "$" ++ d.name) with
    | (none, b) => (none, b)
    | (some id, b) =>
      (some id, b.add { id, kind := .member target, traits := .ofList d.traits })

def addMembers (b : Builder) (container : ShapeId) : List MemberDef → List ShapeId × Builder
  | [] => ([], b)
  | d :: rest =>
    let (id, b) := b.addMember container d
    let (ids, b) := b.addMembers container rest
    (id.toList ++ ids, b)

def aggregate (b : Builder) (id : String) (kind : List ShapeId → ShapeKind) (traits : List Trait)
    (members : List MemberDef) : Builder :=
  match b.parse id with
  | (none, b) => b
  | (some id, b) =>
    let (ids, b) := b.addMembers id members
    b.add { id, kind := kind ids, traits := .ofList traits }

def «structure» (b : Builder) (id : String) (traits : List Trait) (members : List MemberDef) :
    Builder :=
  b.aggregate id .structure traits members

def union (b : Builder) (id : String) (traits : List Trait) (members : List MemberDef) : Builder :=
  b.aggregate id .union traits members

def list (b : Builder) (id : String) (traits : List Trait) (target : String) : Builder :=
  match b.parse id with
  | (none, b) => b
  | (some id, b) =>
    match b.addMember id { name := "member", target } with
    | (none, b) => b
    | (some item, b) => b.add { id, kind := .list item, traits := .ofList traits }

def map (b : Builder) (id key value : String) : Builder :=
  match b.parse id with
  | (none, b) => b
  | (some id, b) =>
    let (keyId, b) := b.addMember id { name := "key", target := key }
    let (valueId, b) := b.addMember id { name := "value", target := value }
    match keyId, valueId with
    | some key, some value => b.add { id, kind := .map key value }
    | _, _ => b

def simple (b : Builder) (id : String) (kind : ShapeKind) (traits : List Trait) : Builder :=
  match b.parse id with
  | (none, b) => b
  | (some id, b) => b.add { id, kind, traits := .ofList traits }

def primitive (b : Builder) (id : String) (type : Primitive) (traits : List Trait) : Builder :=
  b.simple id (.primitive type) traits

def enumeration (b : Builder) (id : String) (variants : List String) : Builder :=
  b.simple id (.enum variants) []

/-- Adds an operation; ids that are not valid are left out of it. -/
def operation (b : Builder) (id : String) (input output : Option String) (errors : List String) :
    Builder :=
  match b.parse id with
  | (none, b) => b
  | (some id, b) =>
    let (input, b) := b.parseOption input
    let (output, b) := b.parseOption output
    let (errors, b) := b.parseAll errors
    b.add { id, kind := .operation input output errors }

/-- Adds a service; ids that are not valid are left out of it. -/
def service (b : Builder) (id version : String) (operations : List String)
    (traits : List Trait) : Builder :=
  match b.parse id with
  | (none, b) => b
  | (some id, b) =>
    let (operations, b) := b.parseAll operations
    b.add { id, kind := .service version operations, traits := .ofList traits }

/-- The model, if every text given for an id was one and every reference resolves. A text that
was not an id is reported once and then forgotten; the shapes stay. -/
def build (b : Builder) : Except Error Model × Builder :=
  match b.invalid with
  | some raw => (.error (.invalidShapeId raw), { b with invalid := none })
  | none => (b.model.validate.map fun _ => b.model, b)

end Builder

end CrateGen
