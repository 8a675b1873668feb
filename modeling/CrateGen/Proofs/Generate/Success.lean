import CrateGen.Proofs.Code.Success
import CrateGen.Proofs.EventStream.PrintedPlan
import CrateGen.Proofs.Generate.Run

namespace CrateGen

open CrateGen.Action
open Code.Succeeds (line comment)
open EventStream (fits_literal isLine_literal)
open Template (Part)

namespace Code.Succeeds

theorem documentShape (m : Model) (s : Shape) (note : Option String) :
    (Code.documentShape m s note).Succeeds := by
  unfold Code.documentShape docsOrFallback
  split
  · exact (comment _ _).seq (optional fun _ => (comment _ _).seq (comment _ _))
  · exact (line _).seq (optional fun _ => comment _ _)

theorem deprecatedShape (s : Shape) : (Code.deprecatedShape s).Succeeds := by
  unfold Code.deprecatedShape
  split
  · exact nothing
  · dsimp only
    split <;> exact line _

end Code.Succeeds

def Operation.unmarshallerLines (path : String) : List (List Part) :=
  [[.text "/// Creates the decoder for this operation's event stream."],
    [.text "pub fn unmarshaller() -> ", .hole "Unmarshaller" path, .text r" {"],
    [.text "    ", .hole "Unmarshaller" path, .text "::new()"],
    [.text r"}"]]

theorem Operation.writes_unmarshaller (scopes : List Scope) (t : RuntimeType Code) :
    Code.Writes scopes (writeUnmarshaller t)
      [⟨.marked, 0, Template.fill (Template.sheet (unmarshallerLines t.path))⟩] := by
  have hhole : (Part.hole "Unmarshaller" t.path).Fits
      ([(lowercase "Unmarshaller", "Unmarshaller", .type t)] :: scopes) :=
    ⟨by decide +kernel, .head rfl⟩
  refine Code.Writes.template rfl ⟨?_, Text.startsFlush_literal rfl (by decide),
    isLine_literal rfl (by decide) (by decide), ⟨?_, ?_⟩, ⟨?_, ?_⟩,
    isLine_literal rfl (by decide) (by decide)⟩
  · simp only [unmarshallerLines, List.map_cons, List.map_nil, Template.written,
      List.foldr_cons, List.foldr_nil, Part.written, String.append_empty]
    rfl
  · exact ⟨fits_literal rfl (by decide), hhole, fits_literal rfl (by decide)⟩
  · exact Text.endsFlush_literal rfl (by decide)
  · exact ⟨fits_literal rfl (by decide), hhole, fits_literal rfl (by decide)⟩
  · exact Text.endsFlush_literal rfl (by decide)

theorem Operation.write_succeeds (m : Model) (operation : Shape) (name : String)
    (unmarshaller : Option (RuntimeType Code)) :
    (write m operation name [] unmarshaller).Succeeds := by
  refine ((((Code.Succeeds.documentShape _ _ _).seq .nothing).seq (.deprecatedShape _)).seq
    (.line _)).seq (.block _ (((Code.Succeeds.line _).seq ?_).seq .nothing))
  cases unmarshaller with
  | none => exact .nothing
  | some t => exact .of_writes fun scopes => ⟨_, writes_unmarshaller scopes t⟩

theorem Config.write_succeeds : (write []).Succeeds :=
  (((((((comment _ _).seq (line _)).seq (.block _ .nothing)).seq
    (.block _ ((line _).seq .nothing))).seq (comment _ _)).seq (line _)).seq
    (.block _ .nothing)).seq (.block _ ((((line _).seq .nothing).seq (comment _ _)).seq
      (.block _ (.block _ .nothing))))

theorem Endpoint.writes_fromConfig (scopes : List Scope) :
    ∃ es, Code.Writes scopes
      (.blockTemplate "pub fn from_config(config: &#{Config}) -> Self"
        [("Config", .symbol (.named "Config" Config.module.fullPath))] (.block "Self" .nothing))
      es := by
  have hhole : (Part.hole "Config" "crate::config::Config").Fits
      ([(lowercase "Config", "Config", .symbol (.named "Config" Config.module.fullPath))] ::
        scopes) :=
    ⟨by decide +kernel, .head rfl⟩
  have hself : Text.Firm "Self" := ⟨by decide, by decide⟩
  have hspelled : Code.Writes.Spelled
      ([(lowercase "Config", "Config", .symbol (.named "Config" Config.module.fullPath))] ::
        scopes) "pub fn from_config(config: &#{Config}) -> Self"
      [[.text "pub fn from_config(config: &", .hole "Config" "crate::config::Config",
        .text ") -> Self"]] := by
    refine ⟨?_, Text.startsFlush_literal rfl (by decide), ?_, ?_⟩
    · simp only [List.map_cons, List.map_nil, Template.written, List.foldr_cons, List.foldr_nil,
        Part.written, String.append_empty]
      rfl
    · exact ⟨fits_literal rfl (by decide), hhole, fits_literal rfl (by decide)⟩
    · exact Text.endsFlush_literal rfl (by decide)
  exact ⟨_, .blockTemplate rfl hspelled
    (EventStream.startsFlush_fill (Text.startsFlush_literal rfl (by decide)) _)
    (.block (by decide) hself .nothing)⟩

theorem Endpoint.write_succeeds : (write []).Succeeds :=
  ((((comment _ _).seq (line _)).seq (line _)).seq (.block _ .nothing)).seq
    (.block _ (((comment _ _).seq (line _)).seq (.of_writes writes_fromConfig)))

theorem Generator.writeRoot_succeeds (ctx : Context) (operations : List (Symbol Code)) :
    (writeRoot ctx operations).Succeeds := by
  refine .preamble (((comment _ _).seq ?_).seq (line _))
  split
  · exact .nothing
  · exact (((comment _ _).seq (comment _ _)).seq (comment _ _)).seq (comment _ _)

theorem ProtocolTable.exists_json_of_select {service : Shape}
    {select : Context → Protocol} (h : ProtocolTable.default.select service = .ok select) :
    ∃ name, select = Protocol.json name := by
  unfold ProtocolTable.select at h
  split at h
  · split at h
    · next found hfound =>
      cases h
      obtain ⟨id, -, hentry⟩ := Option.bind_eq_some_iff.mp hfound
      obtain ⟨name, hmem⟩ := SortedMap.mem_of_getElem?_ofList hentry
      obtain ⟨name', -, heq⟩ := List.mem_map.mp hmem
      exact ⟨name', (Prod.mk.inj heq).2.symm⟩
    · cases h
  · cases h

/-- A decorator that changes nothing but models. -/
structure Decorator.Bare {σ : Type} (d : Decorator σ) : Prop where
  operations : ∀ ctx operation base, d.operationCustomizations ctx operation base = pure base
  config : ∀ ctx base, d.configCustomizations ctx base = pure base
  endpoint : ∀ ctx base, d.endpointCustomizations ctx base = pure base
  protocols : ∀ service table, d.protocols service table = pure table

theorem Decorator.bare_chain_nil {σ : Type} : (Decorator.chain (σ := σ) []).Bare :=
  ⟨fun _ _ _ => rfl, fun _ _ => rfl, fun _ _ => rfl, fun _ _ => rfl⟩

namespace Generator

variable {σ : Type} {settings : Settings} {m : Model} {service : Shape}
  {protocol : Context → Protocol} {operations : List Shape} {c : Crate} {s : σ}

theorem exists_renderOperations {d : Decorator σ} (hd : d.Bare) {ctx : Context}
    {protocol : Protocol}
    (hsymbols : ∀ operation ∈ operations, ∃ symbol, ctx.symbols.symbol operation = .ok symbol)
    (hstreams : ∀ operation ∈ operations, ∃ t, unmarshaller? ctx protocol operation = .ok t)
    (c : Crate) (s : σ) :
    ∃ c', ∀ depth, outcome
      (renderOperations (depth + 1) d ctx protocol c operations) s = (.ok c', s) := by
  induction operations generalizing c with
  | nil => exact ⟨c, fun _ => rfl⟩
  | cons operation operations ih =>
    obtain ⟨symbol, hsymbol⟩ := hsymbols operation List.mem_cons_self
    obtain ⟨t, ht⟩ := hstreams operation List.mem_cons_self
    obtain ⟨c₁, hwrite⟩ := Crate.exists_write_of_succeeds
      (Operation.write_succeeds ctx.model operation symbol.name t)
      (m := Operation.module operation) rfl c
    have hrender (depth : Nat) :
        outcome (Operation.render (depth + 1) ctx operation [] t) c = (.ok (), c₁) := by
      unfold Operation.render
      rw [hsymbol, outcome_bind_ok (outcome_ofExcept_ok symbol c)]
      exact hwrite depth
    obtain ⟨c', hrest⟩ := ih (fun o ho => hsymbols o (List.mem_cons_of_mem _ ho))
      (fun o ho => hstreams o (List.mem_cons_of_mem _ ho)) c₁
    refine ⟨c', fun depth => ?_⟩
    have hcustom : outcome (ofHook (d.operationCustomizations ctx operation [])) s =
        (.ok [], s) := by
      rw [hd.operations]
      rfl
    unfold renderOperations
    rw [outcome_bind_ok hcustom, outcome_bind_ok (outcome_ofExcept_eq_ok.mpr ⟨ht, rfl⟩),
      outcome_bind_ok (outcome_onCrate_eq_ok.mpr ⟨hrender depth, rfl⟩)]
    exact hrest depth

theorem apply_chain_nil {id : ShapeId} (hvalid : m.validate = .ok ())
    (hservice : Context.expectService m id = .ok service) (s : σ) :
    ((Decorator.chain []).apply m id).run.run s = (.ok m, s) := by
  have hchain : (Decorator.chain (σ := σ) []).transformModel id m = pure m := rfl
  unfold Decorator.apply
  rw [hservice, hchain, pure_bind, hvalid]
  rfl

theorem expect_of_expectService {id : ShapeId}
    (h : Context.expectService m id = .ok service) : m.expect id = .ok service := by
  obtain ⟨shape, hshape, h⟩ := Outcome.bind_eq_ok.mp h
  split at h
  · cases h
    exact hshape
  · cases h

/-- A service whose modules are written if nothing is added to them: its protocol is known, its
operations have symbols, and their event streams have plans. -/
structure Ready (settings : Settings) (m : Model) (shape : Shape) (select : Context → Protocol)
    (shapes : List Shape) : Prop where
  valid : m.validate = .ok ()
  service : Context.expectService m settings.service = .ok shape
  protocol : ProtocolTable.default.select shape = .ok select
  operations : m.serviceOperations settings.service = .ok shapes
  symbols : ∀ operation ∈ shapes,
    ∃ symbol, (Context.mk m settings).symbols.symbol operation = .ok symbol
  streams : ∀ operation ∈ shapes,
    ∃ t, unmarshaller? ⟨m, settings⟩ (select ⟨m, settings⟩) operation = .ok t

section

variable {g : Generator σ} {given : Model} {s₁ : σ}
  (h : Ready g.settings m service protocol operations) (hd : g.decorator.Bare)
  (happly : (g.decorator.apply given g.settings.service).run.run s = (.ok m, s₁))
include h hd happly

theorem Ready.exists_modules :
    ∃ written, ∀ depth, outcome (g.modules (depth + 1) given) s = (.ok written, s₁) := by
  have hctx : Context.ofModel m g.settings = .ok ⟨m, g.settings⟩ := by
    unfold Context.ofModel
    rw [h.service]
    rfl
  obtain ⟨symbols, hsymbols⟩ := Outcome.exists_mapM_eq_ok h.symbols
  obtain ⟨c₁, hroot⟩ := Crate.exists_write_of_succeeds (writeRoot_succeeds ⟨m, g.settings⟩ symbols)
    Module.rooted_root (Crate.ofSettings g.settings)
  obtain ⟨c₂, hconfig⟩ := Crate.exists_write_of_succeeds Config.write_succeeds
    (m := Config.module) rfl c₁
  obtain ⟨c₃, hendpoint⟩ := Crate.exists_write_of_succeeds Endpoint.write_succeeds
    (m := Endpoint.module) rfl c₂
  obtain ⟨c', hrender⟩ := exists_renderOperations hd h.symbols h.streams c₃ s₁
  refine ⟨c', fun depth => ?_⟩
  have hok {α : Type} {x : Except Error α} {a : α} (h : x = .ok a) :
      outcome (ofExcept x : Run σ α) s₁ = (.ok a, s₁) :=
    outcome_ofExcept_eq_ok.mpr ⟨h, rfl⟩
  have hwrite {c c' : Crate} {action : CrateM Unit} (h : outcome action c = (.ok (), c')) :
      outcome (onCrate c action : Run σ Crate) s₁ = (.ok c', s₁) :=
    outcome_onCrate_eq_ok.mpr ⟨h, rfl⟩
  have htable : outcome (ofHook (g.decorator.protocols g.settings.service .default)) s₁ =
      (.ok .default, s₁) := by
    rw [hd.protocols]
    rfl
  have hconfigs : outcome (ofHook (g.decorator.configCustomizations ⟨m, g.settings⟩ [])) s₁ =
      (.ok [], s₁) := by
    rw [hd.config]
    rfl
  have hendpoints : outcome (ofHook (g.decorator.endpointCustomizations ⟨m, g.settings⟩ [])) s₁ =
      (.ok [], s₁) := by
    rw [hd.endpoint]
    rfl
  unfold modules
  rw [outcome_bind_ok (outcome_ofHook_eq_ok.mpr happly),
    outcome_bind_ok (hok hctx), outcome_bind_ok htable,
    outcome_bind_ok (hok (expect_of_expectService h.service)), outcome_bind_ok (hok h.protocol),
    outcome_bind_ok (hok h.operations), outcome_bind_ok (hok hsymbols),
    outcome_bind_ok (hwrite (hroot depth)), outcome_bind_ok hconfigs,
    outcome_bind_ok (hwrite (hconfig depth)),
    outcome_bind_ok hendpoints, outcome_bind_ok (hwrite (hendpoint depth))]
  exact hrender depth

theorem Ready.setup_of_apply {ctx : Context} {protocol' : Protocol} {operations' : List Shape}
    (hsetup : g.Setup given s ctx protocol' operations') :
    ctx = ⟨m, g.settings⟩ ∧ protocol' = protocol ⟨m, g.settings⟩ ∧ operations' = operations := by
  obtain ⟨s', hmodel⟩ := hsetup.model
  have hctx : ctx = ⟨m, g.settings⟩ := by
    obtain ⟨model, settings'⟩ := ctx
    have hm : model = m := Except.ok.inj (Prod.mk.inj (hmodel.symm.trans happly)).1
    have hs : settings' = g.settings := hsetup.settings
    rw [hm, hs]
  subst hctx
  obtain ⟨s₂, s₃, table, service', select, htable, hservice', hselect, hprotocol⟩ :=
    hsetup.protocol
  rw [hd.protocols] at htable
  have htable' : table = .default := Except.ok.inj (Prod.mk.inj htable).1.symm
  have hservice := Model.expect_eq_ok.mp (expect_of_expectService h.service)
  have heq : service = service' := Option.some.inj (hservice.symm.trans hservice')
  rw [htable', ← heq, h.protocol] at hselect
  refine ⟨rfl, ?_, Except.ok.inj (hsetup.operations.symm.trans h.operations)⟩
  rw [hprotocol, Except.ok.inj hselect]

end

theorem Ready.setup (h : Ready settings m service protocol operations) {ctx : Context}
    {protocol' : Protocol} {operations' : List Shape} {s : σ}
    (hsetup : Setup { settings, decorators := [] } m s ctx protocol' operations') :
    ctx = ⟨m, settings⟩ ∧ protocol' = protocol ⟨m, settings⟩ ∧ operations' = operations :=
  Ready.setup_of_apply (g := { settings, decorators := [] }) h Decorator.bare_chain_nil
    (apply_chain_nil h.valid h.service s) hsetup

end Generator

end CrateGen
