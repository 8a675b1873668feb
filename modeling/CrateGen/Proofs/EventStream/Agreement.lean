import CrateGen.Proofs.EventStream.Semantics

namespace CrateGen.EventStream

variable {Doc : Type}

/-- The runtime reads messages as the frames here are read. -/
structure Host.Reads (host : Host Doc) : Prop where
  routing : ∀ frame, host.routing frame = (Routing.ofFrame frame).mapError DecodeError.message
  header : ∀ (type : HeaderType) h,
    host.header type.reader h = (h.read type).mapError DecodeError.message

def headerTypes : List HeaderType :=
  [.bool, .byte, .int16, .int32, .int64, .byteArray, .string, .timestamp]

/-- The runtime that generated code expects, with the decoder and the setters. -/
def Host.ofSetters (decoder : Decoder Doc) (slot : Symbol Code → String → String) : Host Doc where
  routing frame := (Routing.ofFrame frame).mapError DecodeError.message
  header reader h :=
    match headerTypes.find? (·.reader == reader) with
    | some type => (h.read type).mapError DecodeError.message
    | none => .error reader
  decoder
  slot

namespace Stmt

variable {call : Call Doc} {l : Locals Doc}

end Stmt

section

variable {call : Call Doc} {l : Locals Doc} {builder : Symbol Code} {fields : Fields Doc}

end

section

variable (call : Call Doc) (l : Locals Doc) (plan : Plan)

end

end CrateGen.EventStream
