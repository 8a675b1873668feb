import CrateGen.Json.Fault
import CrateGen.Model.ShapeId

namespace CrateGen

/-- Why a model cannot be transformed or a crate cannot be generated. -/
inductive Error where
  | missingTemplateKey (key : String) (bound : List String)
  | duplicateTemplateKey (key : String)
  | invalidTemplateArgument (key : String) (kind : Char) (expected : String)
  | namespaceOutsideCrate (file ns : String)
  | unknownFile (path : String)
  | invalidShapeId (raw : String)
  | missingShape (id : ShapeId)
  | danglingReference (source target : ShapeId)
  | unexpectedShapeKind (id : ShapeId) (expected : String)
  | unbuildableConstrainedTarget (member target : ShapeId)
  | refactoredNameExhausted (member : ShapeId)
  | unsupportedEventHeader (member target : ShapeId)
  /-- A list or map that contains itself has no type. -/
  | recursiveType (id : ShapeId)
  | decorator (name : String) (source : Error)
  | unsupportedProtocol (service : ShapeId) (protocol : Option String)
  /-- The setting `field` must not be blank. -/
  | blankSetting (field : String)
  | custom (text : String)
  | io
  | json (fault : Json.Fault)

namespace Error

/-- A key that nothing binds, and the keys that are bound, in order and each once. -/
def unbound (key : String) (bound : List String) : Error :=
  .missingTemplateKey key (Std.ExtTreeSet.ofList bound).toList

def describeProtocol : Option String → String
  | none => "None"
  | some name => "Some(" ++ Text.quote name ++ ")"

/-- The text of an error; a malformed settings text and a file that cannot be read have none. -/
def message? : Error → Option String
  | .missingTemplateKey key bound =>
    some (r"template references `#{" ++ key ++ r"}` but nothing is bound to it (bound keys: " ++
      Text.quoteList bound ++ ")")
  | .duplicateTemplateKey key =>
    some ("template key `" ++ key ++
      "` is bound more than once in the same scope (keys are case-insensitive)")
  | .invalidTemplateArgument key kind expected =>
    some ("template argument `" ++ key ++ "` cannot be rendered with `:" ++ kind.toString ++
      "`, expected " ++ expected)
  | .namespaceOutsideCrate file ns =>
    some ("can only write into modules within the crate, got namespace `" ++ ns ++ "` for `" ++
      file ++ "`")
  | .unknownFile path => some ("no generated file at `" ++ path ++ "`")
  | .invalidShapeId raw => some ("invalid shape id `" ++ raw ++ "`")
  | .missingShape id => some ("expected shape `" ++ id.display ++ "` to be present in the model")
  | .danglingReference source target =>
    some ("shape `" ++ source.display ++ "` references `" ++ target.display ++
      "`, which is not in the model")
  | .unexpectedShapeKind id expected =>
    some ("expected `" ++ id.display ++ "` to be a " ++ expected ++ " shape")
  | .unbuildableConstrainedTarget member target =>
    some ("constraint traits on `" ++ member.display ++ "` cannot be extracted: target `" ++
      target.display ++ "` is not a buildable shape")
  | .refactoredNameExhausted member =>
    some ("a unique name for the refactored structure type could not be generated for `" ++
      member.display ++ "`")
  | .unsupportedEventHeader member target =>
    some ("event stream header `" ++ member.display ++ "` targets `" ++ target.display ++
      "`, which cannot be read from a frame header")
  | .recursiveType id => some ("the type of `" ++ id.display ++ "` contains itself")
  | .decorator name source =>
    some ("decorator `" ++ name ++ "` failed: " ++ source.message?.getD "")
  | .unsupportedProtocol service protocol =>
    some ("service `" ++ service.display ++ "` uses protocol " ++ describeProtocol protocol ++
      ", which has no registered generator")
  | .blankSetting field => some ("invalid codegen settings: `" ++ field ++ "` must not be empty")
  | .custom text => some text
  | .io => none
  | .json fault => fault.message?.map ("JSON error: " ++ ·)

end Error

end CrateGen
