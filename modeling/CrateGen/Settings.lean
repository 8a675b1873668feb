import CrateGen.Model.ShapeId

namespace CrateGen

/-- The side of the protocol that is generated. -/
inductive Target where
  | client
  | server
deriving DecidableEq

/-- Clients tolerate events that they do not know; servers reject them. -/
def Target.rendersUnknownVariant : Target → Bool
  | .client => true
  | .server => false

structure CodegenOptions where
  target : Target := .client
  includeBanner : Bool := true
  debugMode : Bool := false
deriving DecidableEq

/-- The packages that generated code calls at run time, and their version. -/
structure RuntimePackages where
  eventStreamCrate : String := "aws-smithy-eventstream"
  httpCrate : String := "aws-smithy-http"
  typesCrate : String := "aws-smithy-types"
  version : String := "1"
deriving DecidableEq

structure Settings where
  service : ShapeId
  moduleName : String
  moduleVersion : String := "0.1.0"
  moduleDescription : Option String := none
  codegen : CodegenOptions := {}
  runtime : RuntimePackages := {}
deriving DecidableEq

end CrateGen
