import CrateGen.Proofs.EventStream.References
import CrateGen.Proofs.Model.Faults

namespace CrateGen

open Outcome

namespace SymbolTable

variable {t : SymbolTable}

theorem memberSymbol_faultless {symbolOf : Shape → Except Error (Symbol Code)}
    (hof : ∀ s, Faultless (fun _ => True) (symbolOf s)) (member : Shape) :
    Faultless (fun _ => True) (t.memberSymbol symbolOf member) := by
  refine (t.model.memberTarget_faultless member).bind fun target _ => ?_
  refine (hof target).bind fun symbol _ => ?_
  exact (t.model.expect_faultless _).bind fun container _ => .ok trivial

theorem symbolWithin_faultless (depth : Nat) (s : Shape) :
    Faultless (fun _ => True) (t.symbolWithin depth s) := by
  induction depth generalizing s with
  | zero => exact .error not_false
  | succ depth ih =>
    unfold symbolWithin
    split
    · exact .ok trivial
    · exact .ok trivial
    · exact .ok trivial
    · refine (t.model.expect_faultless _).bind fun item _ => ?_
      exact (memberSymbol_faultless ih item).bind fun symbol _ => .ok trivial
    · refine (t.model.expect_faultless _).bind fun key _ => ?_
      refine (memberSymbol_faultless ih key).bind fun symbol _ => ?_
      refine (t.model.expect_faultless _).bind fun value _ => ?_
      exact (memberSymbol_faultless ih value).bind fun symbol _ => .ok trivial
    · exact .ok trivial
    · exact .ok trivial
    · exact .ok trivial
    · exact memberSymbol_faultless ih s

theorem symbol_faultless (t : SymbolTable) (s : Shape) :
    Faultless (fun _ => True) (t.symbol s) :=
  symbolWithin_faultless _ s

end SymbolTable

/-- The parsers of a protocol are found, or an error that is not of a template is reported. -/
structure Protocol.Faultless (protocol : Protocol) : Prop where
  payload : ∀ operation member,
    CrateGen.Faultless (fun _ => True) (protocol.payloadParser operation member)
  error : ∀ operation s, CrateGen.Faultless (fun _ => True) (protocol.errorParser operation s)

theorem Protocol.json_faultless (name : String) (ctx : Context) :
    (Protocol.json name ctx).Faultless where
  payload _ member := (ctx.model.memberTarget_faultless member).bind fun _ _ => .ok trivial
  error _ s := by
    dsimp only [Protocol.json]
    split
    · exact .error not_false
    split <;> exact .ok trivial

namespace EventStream.Plan

variable {protocol : Protocol} (hp : protocol.Faultless)
include hp

theorem payloadBinding_faultless (ctx : Context) (operation member : Shape) :
    Faultless (fun _ => True) (payloadBinding ctx protocol operation member) := by
  refine (ctx.model.memberTarget_faultless member).bind fun target _ => ?_
  have hkind : Faultless (fun _ => True) (payloadKind protocol operation member target) := by
    have hparser : Faultless (fun _ => True)
        (PayloadKind.structured <$> protocol.payloadParser operation member) := by
      rw [map_eq_pure_bind]
      exact (hp.payload operation member).bind fun _ _ => .ok trivial
    unfold payloadKind
    split
    · exact .ok trivial
    · exact .ok trivial
    · exact hparser
    · exact hparser
    · exact .error not_false
  exact hkind.bind fun _ _ => .ok trivial

omit hp in
theorem headerBinding_faultless (ctx : Context) (member : Shape) :
    Faultless (fun _ => True) (headerBinding ctx member) := by
  refine (ctx.model.memberTarget_faultless member).bind fun target _ => ?_
  split
  · exact .ok trivial
  · exact .error not_false

theorem eventBody_faultless (ctx : Context) (operation member target : Shape)
    (fields : List Shape) :
    Faultless (fun _ => True) (eventBody ctx protocol operation member target fields) := by
  unfold eventBody
  dsimp only
  split
  · exact (ctx.symbols.symbol_faultless target).bind fun _ _ => .ok trivial
  split
  · exact (hp.payload operation member).bind fun _ _ => .ok trivial
  · refine (Ends.optionMapM fun field _ => payloadBinding_faultless hp ctx operation field).bind
      fun payload _ => ?_
    refine (Ends.mapM fun field _ => headerBinding_faultless ctx field).bind fun headers _ => ?_
    exact (ctx.symbols.symbol_faultless target).bind fun _ _ => .ok trivial

theorem branch_faultless (ctx : Context) (operation member : Shape) :
    Faultless (fun _ => True) (branch ctx protocol operation member) := by
  refine (ctx.model.memberTarget_faultless member).bind fun target _ => ?_
  dsimp only
  split
  · exact .error not_false
  split
  · refine (ctx.symbols.symbol_faultless target).bind fun symbol _ => ?_
    exact (hp.error operation target).bind fun _ _ => .ok trivial
  · refine (ctx.model.membersOf_faultless target).bind fun fields _ => ?_
    exact (eventBody_faultless hp ctx operation member target fields).bind fun _ _ => .ok trivial

theorem build_faultless (ctx : Context) (operation union : Shape) :
    Faultless (fun _ => True) (build ctx protocol operation union) := by
  unfold build
  cases union.isUnion with
  | false => exact .error not_false
  | true =>
  refine (ctx.symbols.symbol_faultless union).bind fun symbol _ => ?_
  refine (ctx.model.membersOf_faultless union).bind fun members _ => ?_
  refine (Ends.mapM fun member _ => branch_faultless hp ctx operation member).bind
    fun branches _ => ?_
  exact .ok trivial

end EventStream.Plan

end CrateGen
