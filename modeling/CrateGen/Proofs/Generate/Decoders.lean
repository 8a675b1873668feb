import CrateGen.Proofs.EventStream.References
import CrateGen.Proofs.EventStream.Unmarshaller
import CrateGen.Proofs.Generate.Success
import CrateGen.Proofs.Model.Faults

namespace CrateGen

open CrateGen.Action
open EventStream (Plan unionOf? unmarshallerModule mem_toList_of_unionOf?)

def EventStream.Plan.item (plan : Plan) : InlineItem Code where
  key := plan.render.path
  module := unmarshallerModule
  code := plan.writeUnmarshaller

theorem EventStream.Plan.render_path (plan : Plan) :
    plan.render.path = "crate::event_stream_serde::" ++ plan.unmarshaller :=
  rfl

/-- Code that refers to no item with the path of an unmarshaller. -/
def noUnmarshaller : Permit where
  item i := ∀ plan : Plan, i.key ≠ plan.render.path

/-- No customization goes beyond what is permitted. -/
structure Decorator.Keeps {σ : Type} (p : Permit) (d : Decorator σ) : Prop where
  operation : ∀ {ctx operation s s' customizations},
    (d.operationCustomizations ctx operation []).run.run s = (.ok customizations, s') →
    ∀ f ∈ customizations, ∀ place, (f place).Permitted p
  config : ∀ {ctx s s' customizations},
    (d.configCustomizations ctx []).run.run s = (.ok customizations, s') →
    ∀ f ∈ customizations, ∀ place, (f place).Permitted p
  endpoint : ∀ {ctx s s' customizations},
    (d.endpointCustomizations ctx []).run.run s = (.ok customizations, s') →
    ∀ f ∈ customizations, ∀ place, (f place).Permitted p

theorem Decorator.Bare.keeps {σ : Type} {d : Decorator σ} (hd : d.Bare) (p : Permit) :
    d.Keeps p := by
  refine ⟨?_, ?_, ?_⟩
  · intro ctx operation s s' customizations h f hf
    rw [hd.operations] at h
    cases h
    cases hf
  · intro ctx s s' customizations h f hf
    rw [hd.config] at h
    cases h
    cases hf
  · intro ctx s s' customizations h f hf
    rw [hd.endpoint] at h
    cases h
    cases hf

theorem Decorator.keeps_chain_nil {σ : Type} (p : Permit) : (chain (σ := σ) []).Keeps p :=
  bare_chain_nil.keeps p

theorem Decorator.Keeps.mono {σ : Type} {p q : Permit} {d : Decorator σ} (hd : d.Keeps p)
    (h : p.Within q) : d.Keeps q where
  operation hrun f hf place := Code.permitted_mono h _ (hd.operation hrun f hf place)
  config hrun f hf place := Code.permitted_mono h _ (hd.config hrun f hf place)
  endpoint hrun f hf place := Code.permitted_mono h _ (hd.endpoint hrun f hf place)

section Permitted

variable {p : Permit}

theorem Code.permitted_documentShape (m : Model) (s : Shape) (note : Option String) :
    (documentShape m s note).Permitted p := by
  have hnote {note : Option String} {f : String → Code} (hf : ∀ n, (f n).Permitted p) :
      (optional note f).Permitted p := by
    cases note with
    | none => trivial
    | some n => exact hf n
  unfold documentShape docsOrFallback
  split
  · exact ⟨trivial, hnote fun _ => ⟨trivial, trivial⟩⟩
  · exact ⟨trivial, hnote fun _ => trivial⟩

theorem Code.permitted_deprecatedShape (s : Shape) : (deprecatedShape s).Permitted p := by
  unfold deprecatedShape
  split
  · trivial
  · dsimp only
    split <;> trivial

theorem Operation.write_permitted {m : Model} {operation : Shape} {name : String}
    {customizations : List OperationCustomization} {unmarshaller : Option (RuntimeType Code)}
    (hcustom : ∀ f ∈ customizations, ∀ place, (f place).Permitted p)
    (ht : ∀ t ∈ unmarshaller, t.Permitted p) :
    (write m operation name customizations unmarshaller).Permitted p := by
  have hsections (place : OperationSection) : (sections customizations place).Permitted p := by
    refine Code.permitted_join fun c hc => ?_
    obtain ⟨f, hf, rfl⟩ := List.mem_map.mp hc
    exact hcustom f hf place
  refine ⟨⟨⟨⟨Code.permitted_documentShape _ _ _, hsections _⟩,
    Code.permitted_deprecatedShape _⟩, trivial⟩, ⟨⟨trivial, ?_⟩, hsections _⟩⟩
  cases unmarshaller with
  | none => trivial
  | some t => exact ⟨ht t rfl, trivial⟩

theorem Config.write_permitted {customizations : List ConfigCustomization}
    (hcustom : ∀ f ∈ customizations, ∀ place, (f place).Permitted p) :
    (write customizations).Permitted p := by
  have hsections (place : ConfigSection) : (sections customizations place).Permitted p := by
    refine Code.permitted_join fun c hc => ?_
    obtain ⟨f, hf, rfl⟩ := List.mem_map.mp hc
    exact hcustom f hf place
  exact ⟨⟨⟨⟨⟨⟨⟨trivial, trivial⟩, hsections _⟩, ⟨trivial, hsections _⟩⟩, trivial⟩, trivial⟩,
    hsections _⟩, ⟨⟨⟨trivial, hsections _⟩, trivial⟩, hsections _⟩⟩

theorem Endpoint.write_permitted {customizations : List EndpointCustomization}
    (hcustom : ∀ f ∈ customizations, ∀ place, (f place).Permitted p) :
    (write customizations).Permitted p := by
  have hsections (place : EndpointSection) : (sections customizations place).Permitted p := by
    refine Code.permitted_join fun c hc => ?_
    obtain ⟨f, hf, rfl⟩ := List.mem_map.mp hc
    exact hcustom f hf place
  refine ⟨⟨⟨⟨trivial, trivial⟩, trivial⟩, hsections _⟩, ⟨⟨trivial, trivial⟩,
    ⟨⟨?_, trivial⟩, hsections _⟩⟩⟩
  exact fun d hd => (List.not_mem_nil hd).elim

theorem Generator.writeRoot_permitted (ctx : Context) (operations : List (Symbol Code)) :
    (writeRoot ctx operations).Permitted p := by
  refine ⟨⟨trivial, ?_⟩, trivial⟩
  split
  · trivial
  · exact ⟨⟨⟨trivial, trivial⟩, trivial⟩, trivial⟩

end Permitted

namespace Operation

theorem write_records {m : Model} {operation : Shape} {name : String}
    {customizations : List OperationCustomization} {plan : Plan} {fuel : Nat} {w w' : Writer}
    (h : outcome ((write m operation name customizations (some plan.render)).run fuel) w =
      (.ok (), w')) :
    ∃ i, w'.dependencies.inline[plan.render.path]? = some i := by
  cases fuel with
  | zero => cases h
  | succ depth =>
    have hpart : (writeUnmarshaller plan.render).Has
        (write m operation name customizations (some plan.render)) :=
      .second (.block (.first (.second .self)))
    obtain ⟨v, v', hrun, hwithin⟩ := hpart.runs h
    have hbound : Scope.get? [("unmarshaller", "Unmarshaller", .type plan.render)] "unmarshaller" =
        some (.type plan.render) := rfl
    have hitem : plan.render.dependency = some (.inline plan.item) := rfl
    obtain ⟨i, hi⟩ := Code.template_records hrun rfl hbound hitem (by decide +kernel)
    exact ⟨i, hwithin _ i hi⟩

end Operation

theorem Streams.unmarshaller {ctx : Context} {protocol : Protocol} {operation : Shape}
    {plan : Plan} (h : Streams ctx protocol operation plan) :
    plan.unmarshaller = Name.pascalCase plan.union.name ++ "Unmarshaller" := by
  obtain ⟨union, -, h⟩ := h
  exact (Plan.sources_of_build h).unmarshaller

theorem Streams.unique {ctx : Context} {protocol : Protocol} {operation : Shape}
    {plan plan' : Plan} (h : Streams ctx protocol operation plan)
    (h' : Streams ctx protocol operation plan') : plan = plan' := by
  obtain ⟨union, hunion, hplan⟩ := h
  obtain ⟨union', hunion', hplan'⟩ := h'
  rw [hunion] at hunion'
  cases hunion'
  exact Except.ok.inj (hplan.symm.trans hplan')

theorem Streams.path_eq_iff {ctx : Context} {protocol : Protocol} {operation operation' : Shape}
    {plan plan' : Plan} (h : Streams ctx protocol operation plan)
    (h' : Streams ctx protocol operation' plan') :
    plan.render.path = plan'.render.path ↔
      Name.pascalCase plan.union.name = Name.pascalCase plan'.union.name := by
  rw [plan.render_path, plan'.render_path, h.unmarshaller, h'.unmarshaller, String.append_right_inj,
    String.append_left_inj]

theorem Streams.succeeds {ctx : Context} {protocol : Protocol} {operation : Shape} {plan : Plan}
    (h : Streams ctx protocol operation plan) (hm : ctx.model.Worded) :
    plan.writeUnmarshaller.Succeeds := by
  obtain ⟨union, hunion, hplan⟩ := h
  have hu := hm.isWords (mem_toList_of_unionOf? hunion)
  have hnamed := (EventStream.Plan.built_of_build hplan).named hm hu
  exact .of_writes fun scopes => ⟨_, hnamed.writes scopes⟩

theorem Streams.permitted {ctx : Context} {name : String} {operation : Shape} {plan : Plan}
    (h : Streams ctx (.json name ctx) operation plan) (p : Permit) :
    plan.writeUnmarshaller.Permitted p := by
  obtain ⟨union, -, hplan⟩ := h
  exact EventStream.Plan.writeUnmarshaller_permitted
    (EventStream.Plan.permitted_of_build (Protocol.json_keeps p name ctx) hplan)

namespace Generator

variable {σ : Type} {g : Generator σ} {m : Model} {s s' : σ} {c c' : Crate} {fuel : Nat}
  {ctx : Context} {protocol : Protocol} {operations : List Shape}

theorem unmarshaller?_eq_ok {operation : Shape} {unmarshaller : Option (RuntimeType Code)}
    (h : unmarshaller? ctx protocol operation = .ok unmarshaller) :
    (unionOf? ctx.model operation = none ∧ unmarshaller = none) ∨
      ∃ plan, Streams ctx protocol operation plan ∧ unmarshaller = some plan.render := by
  unfold unmarshaller? at h
  split at h
  · next hnone =>
    cases h
    exact .inl ⟨hnone, rfl⟩
  · next union hunion =>
    obtain ⟨plan, hplan, h⟩ := Outcome.bind_eq_ok.mp h
    cases h
    exact .inr ⟨plan, ⟨union, hunion, hplan⟩, rfl⟩

theorem unmarshaller?_streams {operation : Shape} {plan : Plan}
    (h : Streams ctx protocol operation plan) :
    unmarshaller? ctx protocol operation = .ok (some plan.render) := by
  obtain ⟨union, hunion, hplan⟩ := h
  unfold unmarshaller?
  rw [hunion]
  dsimp only
  rw [hplan]
  rfl

/-- The inline item is the unmarshaller of an operation's event stream, or it has no path of an
unmarshaller. -/
def Supplied (ctx : Context) (protocol : Protocol) (operations : List Shape)
    (i : InlineItem Code) : Prop :=
  (∃ operation ∈ operations, ∃ plan, Streams ctx protocol operation plan ∧ i = plan.item) ∨
    ∀ plan : Plan, i.key ≠ plan.render.path

section

variable {p : Permit} (hd : g.decorator.Keeps p)
include hd

theorem writesOperation_permitted {operation : Shape}
    (hplan : ∀ plan, Streams ctx protocol operation plan → p.item plan.item)
    {write : Module × Code} (h : WritesOperation g.decorator ctx protocol operation write) :
    write.2.Permitted p := by
  obtain ⟨symbol, customizations, unmarshaller, _, _, -, hcustom, hunmarshaller, hcode⟩ := h.code
  rw [hcode]
  apply Operation.write_permitted (hd.operation hcustom)
  intro t ht d hd
  rcases unmarshaller?_eq_ok hunmarshaller with ⟨-, rfl⟩ | ⟨plan, hstreams, rfl⟩
  · cases ht
  · cases ht
    cases hd
    exact hplan plan hstreams

theorem writesCommon_permitted {writes : List (Module × Code)}
    (h : WritesCommon g.decorator ctx writes) : ∀ write ∈ writes, write.2.Permitted p := by
  obtain ⟨symbols, config, endpoint, _, _, _, _, hconfig, hendpoint, rfl⟩ := h.eq
  intro write hmem
  rcases List.mem_cons.mp hmem with rfl | hmem
  · exact writeRoot_permitted ctx symbols
  rcases List.mem_cons.mp hmem with rfl | hmem
  · exact Config.write_permitted (hd.config hconfig)
  · cases List.mem_singleton.mp hmem
    exact Endpoint.write_permitted (hd.endpoint hendpoint)

/-- The modules of a generation refer to the unmarshallers of the operations' event streams, and to
what customizations refer to. -/
theorem refersTo_of_writings
    (hplan : ∀ operation ∈ operations, ∀ plan, Streams ctx protocol operation plan →
      p.item plan.item)
    {common writes : List (Module × Code)} (hcommon : WritesCommon g.decorator ctx common)
    (hwrites : List.Forall₂ (WritesOperation g.decorator ctx protocol) operations writes)
    (h : (Crate.ofSettings g.settings).Writings (common ++ writes) c) :
    c.All (Writer.RefersTo p.item) := by
  have hempty : (Crate.ofSettings g.settings).All (Writer.RefersTo p.item) :=
    .new g.settings.codegen.includeBanner g.settings.codegen.debugMode
  refine hempty.writings h (Writer.RefersTo.inherent _) fun write hmem fuel w hw => hw.run ?_ fuel
  have hitems : p.Within { item := p.item } := ⟨id, fun _ => trivial⟩
  refine Code.permitted_mono hitems write.2 ?_
  rcases List.mem_append.mp hmem with hmem | hmem
  · exact writesCommon_permitted hd hcommon write hmem
  · obtain ⟨operation, hoperation, hwrite⟩ := Outcome.exists_of_forall₂ hwrites hmem
    exact writesOperation_permitted hd (hplan operation hoperation) hwrite

end

theorem noUnmarshaller_within :
    noUnmarshaller.Within { item := Supplied ctx protocol operations } where
  item h := .inr h
  child _ := trivial

/-- How the event stream of an operation is decoded in a generated crate. -/
structure Decodes (ctx : Context) (protocol : Protocol) (operations : List Shape)
    (writes : List (Module × Code)) (steps : List Crate.Step) (operation : Shape) (plan : Plan) :
    Prop where
  /-- The function of the operation refers to the unmarshaller of the operation's plan. -/
  refers : ∃ name customizations, (Operation.module operation,
    Operation.write ctx.model operation name customizations (some plan.render)) ∈ writes
  /-- The unmarshaller is rendered in one step, from the plan of an operation whose union has the
  same name up to letter case and underscores. -/
  rendered : ∃ step ∈ steps, step.item.key = plan.render.path ∧
    (∀ step' ∈ steps, step'.item.key = plan.render.path → step' = step) ∧
    ∃ operation' ∈ operations, ∃ plan', Streams ctx protocol operation' plan' ∧
      step.item = plan'.item ∧
      Name.pascalCase plan'.union.name = Name.pascalCase plan.union.name
  /-- It is rendered from the operation's own plan where no other plan has such a union. -/
  own : (∀ operation' ∈ operations, ∀ plan', Streams ctx protocol operation' plan' →
      Name.pascalCase plan'.union.name = Name.pascalCase plan.union.name → plan' = plan) →
    ∃ step ∈ steps, step.item = plan.item

theorem decodes {writes : List (Module × Code)} {written c₁ : Crate}
    {rounds : List (List Crate.Step)} (hr : Crate.Resolution written rounds c₁)
    (hrendered : written.rendered = [])
    (hrefers : written.All (Writer.RefersTo (Supplied ctx protocol operations)))
    {operation : Shape} {plan : Plan} (hstreams : Streams ctx protocol operation plan)
    {i : InlineItem Code} (hi : i ∈ written.items) (hkey : i.key = plan.render.path)
    (hwrite : ∃ name customizations, (Operation.module operation,
      Operation.write ctx.model operation name customizations (some plan.render)) ∈ writes) :
    Decodes ctx protocol operations writes rounds.flatten operation plan := by
  obtain ⟨step, hstep, hitem, hkey'⟩ := hr.runs.exists_first hrendered hi
  have hpath : step.item.key = plan.render.path := hkey'.trans hkey
  have hfrom : ∃ operation' ∈ operations, ∃ plan', Streams ctx protocol operation' plan' ∧
      step.item = plan'.item ∧
      Name.pascalCase plan'.union.name = Name.pascalCase plan.union.name := by
    rcases hrefers.items hitem with ⟨operation', hmem, plan', hstreams', heq⟩ | hno
    · have hsame : plan'.render.path = plan.render.path := by
        rw [← hpath, heq]
        rfl
      exact ⟨operation', hmem, plan', hstreams', heq, (hstreams'.path_eq_iff hstreams).mp hsame⟩
    · exact absurd hpath (hno plan)
  refine ⟨hwrite, ⟨step, hstep, hpath, ?_, hfrom⟩, fun hown => ?_⟩
  · intro step' hstep' hpath'
    exact hr.unique hstep' hstep (hpath'.trans hpath.symm)
  · obtain ⟨operation', hmem, plan', hstreams', heq, hname⟩ := hfrom
    rw [hown operation' hmem plan' hstreams' hname] at heq
    exact ⟨step, hstep, heq⟩

theorem mem_writes_of_streams {d : Decorator σ} {writes : List (Module × Code)}
    (hwrites : List.Forall₂ (WritesOperation d ctx protocol) operations writes) {operation : Shape}
    (hmem : operation ∈ operations) {plan : Plan} (h : Streams ctx protocol operation plan) :
    ∃ name customizations, (Operation.module operation,
      Operation.write ctx.model operation name customizations (some plan.render)) ∈ writes := by
  obtain ⟨write, hwrite, hmodule, symbol, customizations, unmarshaller, _, _, -, -, hunmarshaller,
    hcode⟩ := Outcome.exists_of_forall₂_left hwrites hmem
  have hsome := unmarshaller?_streams h
  rw [hunmarshaller] at hsome
  have heq : write = (Operation.module operation,
      Operation.write ctx.model operation symbol.name customizations (some plan.render)) := by
    rw [← Except.ok.inj hsome, ← hcode, ← hmodule]
  exact ⟨symbol.name, customizations, heq ▸ hwrite⟩

theorem exists_item_of_write {P : InlineItem Code → Prop} {writes : List (Module × Code)}
    {written c₀ : Crate} (h : c₀.Writings writes written)
    (hrefers : written.All (Writer.RefersTo P)) {module : Module} {operation : Shape}
    {name : String} {customizations : List OperationCustomization} {plan : Plan}
    (hwrite : (module, Operation.write m operation name customizations (some plan.render)) ∈
      writes) :
    ∃ i ∈ written.items, i.key = plan.render.path := by
  obtain ⟨c₁, c₂, rest, hw, hrest⟩ := h.exists_write hwrite
  obtain ⟨fuel, w, hrun, hown⟩ := hw.own
  obtain ⟨i, hi⟩ := Operation.write_records hrun
  obtain ⟨w', hw', hwithin⟩ := hrest.writer_within (Crate.mem_writers_of_writerOf? hown)
  have hi' := hwithin _ i hi
  exact ⟨i, Crate.mem_items.mpr ⟨w', hw', _, hi'⟩, ((hrefers.writers hw').inline hi').2⟩

/-- A crate that is generated has a decoder for the event stream of every operation. Two operations
have one decoder just where the names of their unions are alike up to letter case and
underscores. -/
theorem generate_decoders (hd : g.decorator.Keeps noUnmarshaller)
    (h : outcome (g.generate fuel m) s = (.ok c, s')) :
    ∃ ctx protocol operations writes written rounds c₁,
      g.Setup m s ctx protocol operations ∧
      (Crate.ofSettings g.settings).Writings writes written ∧
      Crate.Resolution written rounds c₁ ∧
      (∃ files, c = { c₁ with files, inlineModules := ∅, finalized := true }) ∧
      ∀ operation ∈ operations,
        (∀ union, unionOf? ctx.model operation = some union →
          ∃ plan, Plan.build ctx protocol operation union = .ok plan) ∧
        ∀ plan, Streams ctx protocol operation plan →
          Decodes ctx protocol operations writes rounds.flatten operation plan ∧
          ∀ operation' ∈ operations, ∀ plan', Streams ctx protocol operation' plan' →
            (plan.render.path = plan'.render.path ↔
              Name.pascalCase plan.union.name = Name.pascalCase plan'.union.name) := by
  obtain ⟨written, hmodules, hfinalize⟩ := generate_eq_ok.mp h
  obtain ⟨ctx, protocol, operations, common, writes, hsetup, hcommon, hwrites, hwritings⟩ :=
    modules_ok hmodules
  obtain ⟨files, inlineModules, hrest⟩ := hwritings.rest
  have hrendered : written.rendered = [] := by
    rw [hrest]
    rfl
  have hfinalized : written.finalized = false := by
    rw [hrest]
    rfl
  have hrefers : written.All (Writer.RefersTo (Supplied ctx protocol operations)) :=
    refersTo_of_writings (hd.mono noUnmarshaller_within)
      (fun operation hmem plan hplan => .inl ⟨operation, hmem, plan, hplan, rfl⟩) hcommon hwrites
      hwritings
  obtain ⟨c₁, c₂, hrender, hembed, rfl⟩ := Crate.finalize_eq_ok hfinalized hfinalize
  obtain ⟨rounds, hrounds⟩ := Crate.Rounds.of_renderPending hrender
  obtain ⟨files, rfl⟩ := Crate.embedAll_files hembed
  have hresolution := hrounds.resolution hrendered
  refine ⟨ctx, protocol, operations, common ++ writes, written, rounds, c₁, hsetup, hwritings,
    hresolution, ⟨files, rfl⟩, fun operation hmem => ?_⟩
  constructor
  · intro union hunion
    obtain ⟨_, -, -, _, _, unmarshaller, _, _, -, -, hunmarshaller, -⟩ :=
      Outcome.exists_of_forall₂_left hwrites hmem
    rcases unmarshaller?_eq_ok hunmarshaller with ⟨hnone, -⟩ | ⟨plan, ⟨union', hunion', hplan⟩, -⟩
    · rw [hunion] at hnone
      cases hnone
    · rw [hunion] at hunion'
      cases hunion'
      exact ⟨plan, hplan⟩
  · intro plan hplan
    obtain ⟨name, customizations, hwrite⟩ := mem_writes_of_streams hwrites hmem hplan
    have hwrite := List.mem_append_right common hwrite
    obtain ⟨i, hi, hkey⟩ := exists_item_of_write hwritings hrefers hwrite
    exact ⟨decodes hresolution hrendered hrefers hplan hi hkey ⟨name, customizations, hwrite⟩,
      fun operation' _ plan' hplan' => hplan.path_eq_iff hplan'⟩

/-- The inline item is the unmarshaller of an operation's event stream. -/
def Unmarshals (ctx : Context) (protocol : Protocol) (operations : List Shape)
    (i : InlineItem Code) : Prop :=
  ∃ operation ∈ operations, ∃ plan, Streams ctx protocol operation plan ∧ i = plan.item

section

variable {common writes : List (Module × Code)} {written : Crate}
  (hd : g.decorator.Keeps { item := Unmarshals ctx protocol operations })
  (hcommon : WritesCommon g.decorator ctx common)
  (hwrites : List.Forall₂ (WritesOperation g.decorator ctx protocol) operations writes)
  (h : (Crate.ofSettings g.settings).Writings (common ++ writes) written)

include hcommon hwrites h in
theorem written_of_writings : Crate.Written written := by
  refine h.written (.fresh _ _) fun write hmem => ?_
  rcases List.mem_append.mp hmem with hmem | hmem
  · exact hcommon.rooted hmem
  · obtain ⟨operation, -, hwrite⟩ := Outcome.exists_of_forall₂ hwrites hmem
    rw [hwrite.module]
    exact rfl

include hd hcommon hwrites h

theorem unmarshals_of_writings :
    written.All (Writer.RefersTo (Unmarshals ctx protocol operations)) :=
  refersTo_of_writings hd (fun operation hmem plan hplan => ⟨operation, hmem, plan, hplan, rfl⟩)
    hcommon hwrites h

/-- The inline items of a crate can be rendered: the unmarshallers are written without fail, and
refer to no inline items themselves. -/
theorem resolvable_of_writings (hm : ctx.model.Worded)
    (hjson : ∃ name, protocol = Protocol.json name ctx) : Crate.Resolvable written := by
  obtain ⟨name, rfl⟩ := hjson
  have hkey (i : InlineItem Code) (hi : Unmarshals ctx (.json name ctx) operations i) :
      i.key ∈ operations.filterMap fun operation =>
        (unmarshaller? ctx (.json name ctx) operation).toOption.join.map (·.path) := by
    obtain ⟨operation, hmem, plan, hstreams, rfl⟩ := hi
    refine List.mem_filterMap.mpr ⟨operation, hmem, ?_⟩
    rw [unmarshaller?_streams hstreams]
    rfl
  refine Crate.resolvable_of_refersTo (unmarshals_of_writings hd hcommon hwrites h) ?_ ?_ ?_ hkey
  · rintro i ⟨operation, hmem, plan, hstreams, rfl⟩
    exact Module.rooted_named _ _
  · rintro i ⟨operation, hmem, plan, hstreams, rfl⟩
    exact hstreams.succeeds hm
  · rintro i ⟨operation, hmem, plan, hstreams, rfl⟩
    exact hstreams.permitted _

end

/-- A crate is generated with the unmarshallers of the event streams, if nothing is added to its
modules. -/
theorem Ready.exists_generate {given : Model} {service : Shape} {select : Context → Protocol}
    {s₁ : σ} (h : Ready g.settings m service select operations) (hm : m.Worded)
    (hd : g.decorator.Bare)
    (happly : (g.decorator.apply given g.settings.service).run.run s = (.ok m, s₁)) :
    ∃ fuel₀ c, (∀ fuel ≥ fuel₀, outcome (g.generate fuel given) s = (.ok c, s₁)) ∧
      c.rendered.Nodup ∧ ∀ key, key ∈ c.rendered ↔ ∃ operation ∈ operations, ∃ plan,
        Streams ⟨m, g.settings⟩ (select ⟨m, g.settings⟩) operation plan ∧
          plan.render.path = key := by
  obtain ⟨name, rfl⟩ := ProtocolTable.exists_json_of_select h.protocol
  obtain ⟨written, hmodules⟩ := h.exists_modules hd happly
  obtain ⟨ctx, protocol, operations', common, writes, hsetup, hcommon, hwrites, hwritings⟩ :=
    modules_ok (hmodules 0)
  obtain ⟨rfl, rfl, rfl⟩ := h.setup_of_apply hd happly hsetup
  have hkeeps := hd.keeps
    { item := Unmarshals ⟨m, g.settings⟩ (.json name ⟨m, g.settings⟩) operations' }
  have hrefers := unmarshals_of_writings hkeeps hcommon hwrites hwritings
  have hwritten := written_of_writings hcommon hwrites hwritings
  obtain ⟨rounds, c₁, c, fuel₀, hrounds, hrendered, -, hfinalize⟩ := hwritten.exists_finalize
    (resolvable_of_writings hkeeps hcommon hwrites hwritings hm ⟨name, rfl⟩)
  have hresolution := hrounds.resolution hwritten.rendered
  refine ⟨fuel₀ + 1, c, fun fuel hfuel => ?_, ?_, fun key => ?_⟩
  · obtain ⟨depth, rfl⟩ := Nat.exists_eq_add_one.mpr (Nat.lt_of_lt_of_le (Nat.succ_pos _) hfuel)
    exact generate_eq_ok.mpr ⟨written, hmodules depth,
      (hfinalize (depth + 1) (Nat.le_of_succ_le hfuel)).2⟩
  · rw [hrendered]
    exact hresolution.once
  rw [hrendered]
  constructor
  · intro hmem
    rw [hresolution.keys] at hmem
    obtain ⟨step, hstep, rfl⟩ := List.mem_map.mp hmem
    have hcode (i : InlineItem Code)
        (hi : Unmarshals ⟨m, g.settings⟩ (.json name ⟨m, g.settings⟩) operations' i) :
        i.code.Permitted
          { item := Unmarshals ⟨m, g.settings⟩ (.json name ⟨m, g.settings⟩) operations' } := by
      obtain ⟨operation, hmem, plan, hstreams, rfl⟩ := hi
      exact hstreams.permitted _
    have hall := (hrounds.reaches .refl).refersTo hrefers hcode
    have hitem := (hrounds.steps.renders hstep).items_grow (hrounds.item_mem step hstep)
    obtain ⟨operation, hmem, plan, hstreams, heq⟩ :=
      hall.items (hrounds.steps.after_grow hstep hitem)
    rw [heq]
    exact ⟨operation, hmem, plan, hstreams, rfl⟩
  · rintro ⟨operation, hmem, plan, hstreams, rfl⟩
    obtain ⟨name, customizations, hwrite⟩ := mem_writes_of_streams hwrites hmem hstreams
    obtain ⟨i, hi, hkey⟩ := exists_item_of_write hwritings hrefers
      (List.mem_append_right common hwrite)
    rw [← hkey]
    exact hresolution.complete i (hrounds.steps.items_grow hi)

/-! ## Unions whose names differ in letter case only -/

/-- Two operations, of which one streams the union `A_B` and the other one the union `Ab`. -/
def acronyms : Model :=
  (((((((({} : Builder).structure "ns#Event" [] []).union "ns#A_B" [.streaming]
      [⟨"e", "ns#Event", []⟩]).union "ns#Ab" [.streaming]
      [⟨"f", "ns#Event", []⟩]).structure "ns#FirstOutput" []
      [⟨"stream", "ns#A_B", []⟩]).structure "ns#SecondOutput" []
      [⟨"stream", "ns#Ab", []⟩]).operation "ns#First" none (some "ns#FirstOutput") []).operation
      "ns#Second" none (some "ns#SecondOutput") []).service "ns#Service" "1"
      ["ns#First", "ns#Second"] [.protocol "aws.protocols#restJson1"] |>.model

/-- The calls that make the model of two event streams. -/
def acronymCalls : List Builder.Command :=
  [.structure "ns#Event" [] [], .union "ns#A_B" [.streaming] [⟨"e", "ns#Event", []⟩],
    .union "ns#Ab" [.streaming] [⟨"f", "ns#Event", []⟩],
    .structure "ns#FirstOutput" [] [⟨"stream", "ns#A_B", []⟩],
    .structure "ns#SecondOutput" [] [⟨"stream", "ns#Ab", []⟩],
    .operation "ns#First" none (some "ns#FirstOutput") [],
    .operation "ns#Second" none (some "ns#SecondOutput") [],
    .service "ns#Service" "1" ["ns#First", "ns#Second"] [.protocol "aws.protocols#restJson1"]]

theorem acronyms_worded : acronyms.Worded := by
  refine Builder.worded_foldl_perform Builder.worded_start acronymCalls fun c hc s hs => ?_
  subst hs
  simp [acronymCalls] at hc

def acronymSettings : Settings :=
  { service := .root "ns" "Service", moduleName := "acronyms" }

def acronymGenerator : Generator Unit :=
  .ofSettings acronymSettings []

def acronymContext : Context :=
  { model := acronyms, settings := acronymSettings }

def acronymProtocol : Protocol :=
  .json "aws.protocols#restJson1" acronymContext

def firstOperation : Shape :=
  { id := .root "ns" "First", kind := .operation none (some (.root "ns" "FirstOutput")) [] }

def secondOperation : Shape :=
  { id := .root "ns" "Second", kind := .operation none (some (.root "ns" "SecondOutput")) [] }

def acronymPlan (union event variant : String) : Plan where
  unmarshaller := "AbUnmarshaller"
  union := .named union "crate::types"
  error := .named (union ++ "Error") "crate::types::error"
  target := .client
  runtime := acronymSettings.runtime
  events := [⟨event, variant, .empty (.named "Event" "crate::types")⟩]
  errors := []
  genericErrorParser := some { path := "crate::json_errors::parse_event_stream_error_metadata" }

theorem first_streams : Streams acronymContext acronymProtocol firstOperation
    (acronymPlan "AB" "e" "E") :=
  ⟨{ id := .root "ns" "A_B", kind := .union [⟨"ns", "A_B", some "e"⟩],
     traits := .ofList [.streaming] }, rfl, rfl⟩

theorem second_streams : Streams acronymContext acronymProtocol secondOperation
    (acronymPlan "Ab" "f" "F") :=
  ⟨{ id := .root "ns" "Ab", kind := .union [⟨"ns", "Ab", some "f"⟩],
     traits := .ofList [.streaming] }, rfl, rfl⟩

theorem acronyms_operations : acronyms.serviceOperations acronymSettings.service =
    .ok [firstOperation, secondOperation] := by
  have hsort : [firstOperation, secondOperation].mergeSort
      (fun a b => (compare a.id b.id).isLE) = [firstOperation, secondOperation] :=
    List.mergeSort_of_pairwise (by decide +kernel)
  have hservice : acronyms.expect acronymSettings.service = .ok {
      id := .root "ns" "Service", kind := .service "1" [.root "ns" "First", .root "ns" "Second"],
      traits := .ofList [.protocol "aws.protocols#restJson1"] } := rfl
  refine Outcome.bind_eq_ok.mpr ⟨_, hservice, ?_⟩
  refine Outcome.bind_eq_ok.mpr ⟨[firstOperation, secondOperation], rfl, ?_⟩
  exact congrArg Except.ok hsort

theorem acronymGenerator_eq :
    acronymGenerator = { settings := acronymSettings, decorators := [] } := by
  have hsort : Decorator.sort (σ := Unit) [] [] = [] := List.mergeSort_nil
  exact congrArg (Generator.mk acronymSettings) hsort

theorem acronyms_ready : Ready acronymSettings acronyms
    { id := .root "ns" "Service", kind := .service "1" [.root "ns" "First", .root "ns" "Second"],
      traits := .ofList [.protocol "aws.protocols#restJson1"] }
    (.json "aws.protocols#restJson1") [firstOperation, secondOperation] where
  valid := rfl
  service := rfl
  protocol := rfl
  operations := acronyms_operations
  symbols operation hmem := by
    rcases List.mem_cons.mp hmem with rfl | hmem
    · exact ⟨_, rfl⟩
    · cases List.mem_singleton.mp hmem
      exact ⟨_, rfl⟩
  streams operation hmem := by
    rcases List.mem_cons.mp hmem with rfl | hmem
    · exact ⟨_, unmarshaller?_streams first_streams⟩
    · cases List.mem_singleton.mp hmem
      exact ⟨_, unmarshaller?_streams second_streams⟩

theorem acronyms_streams {operation : Shape}
    (hmem : operation ∈ [firstOperation, secondOperation]) {plan : Plan}
    (h : Streams acronymContext acronymProtocol operation plan) :
    plan = acronymPlan "AB" "e" "E" ∨ plan = acronymPlan "Ab" "f" "F" := by
  rcases List.mem_cons.mp hmem with rfl | hmem
  · exact .inl (h.unique first_streams)
  · cases List.mem_singleton.mp hmem
    exact .inr (h.unique second_streams)

theorem acronyms_generated : ∃ fuel c,
    outcome (acronymGenerator.generate fuel acronyms) () = (.ok c, ()) ∧
      c.rendered = ["crate::event_stream_serde::AbUnmarshaller"] := by
  obtain ⟨fuel, c, hrun, hnodup, hkeys⟩ := Ready.exists_generate
    (g := { settings := acronymSettings, decorators := [] }) acronyms_ready acronyms_worded
    Decorator.bare_chain_nil (apply_chain_nil acronyms_ready.valid acronyms_ready.service ())
  have hrun := hrun fuel (Nat.le_refl fuel)
  rw [← acronymGenerator_eq] at hrun
  refine ⟨fuel, c, hrun, ?_⟩
  have hall (key : String) (hmem : key ∈ c.rendered) :
      key = "crate::event_stream_serde::AbUnmarshaller" := by
    obtain ⟨operation, hoperation, plan, hstreams, rfl⟩ := (hkeys key).mp hmem
    rcases acronyms_streams hoperation hstreams with rfl | rfl <;> rfl
  have hmem : "crate::event_stream_serde::AbUnmarshaller" ∈ c.rendered :=
    (hkeys _).mpr ⟨firstOperation, List.mem_cons_self, _, first_streams, rfl⟩
  cases hrendered : c.rendered with
  | nil =>
    rw [hrendered] at hmem
    cases hmem
  | cons key keys =>
    rw [hrendered] at hall hnodup
    obtain ⟨hfresh, -⟩ := List.nodup_cons.mp hnodup
    have hkey := hall key List.mem_cons_self
    have hnil : keys = [] := by
      refine List.eq_nil_iff_forall_not_mem.mpr fun other hother => hfresh ?_
      rw [hkey, ← hall other (List.mem_cons_of_mem key hother)]
      exact hother
    rw [hkey, hnil]

theorem generate_decoders_acronyms : ∃ fuel c,
    acronymGenerator.decorator.Keeps noUnmarshaller ∧
    outcome (acronymGenerator.generate fuel acronyms) () = (.ok c, ()) ∧
    ∃ ctx protocol operations writes written rounds c₁,
      acronymGenerator.Setup acronyms () ctx protocol operations ∧
      (Crate.ofSettings acronymGenerator.settings).Writings writes written ∧
      Crate.Resolution written rounds c₁ ∧
      (∃ files, c = { c₁ with files, inlineModules := ∅, finalized := true }) ∧
      ∀ operation ∈ operations,
        (∀ union, unionOf? ctx.model operation = some union →
          ∃ plan, Plan.build ctx protocol operation union = .ok plan) ∧
        ∀ plan, Streams ctx protocol operation plan →
          Decodes ctx protocol operations writes rounds.flatten operation plan ∧
          ∀ operation' ∈ operations, ∀ plan', Streams ctx protocol operation' plan' →
            (plan.render.path = plan'.render.path ↔
              Name.pascalCase plan.union.name = Name.pascalCase plan'.union.name) := by
  have hkeeps : acronymGenerator.decorator.Keeps noUnmarshaller := by
    rw [acronymGenerator_eq]
    exact Decorator.keeps_chain_nil _
  obtain ⟨fuel, c, h, -⟩ := acronyms_generated
  exact ⟨fuel, c, hkeeps, h, generate_decoders hkeeps h⟩

/-- Two operations stream different unions, and their functions refer to one decoder, which is the
only item that is rendered. -/
theorem generate_merges_decoders : ∃ fuel c,
    outcome (acronymGenerator.generate fuel acronyms) () = (.ok c, ()) ∧
    acronymGenerator.Setup acronyms () acronymContext acronymProtocol
      [firstOperation, secondOperation] ∧
    (∃ plan plan', Streams acronymContext acronymProtocol firstOperation plan ∧
      Streams acronymContext acronymProtocol secondOperation plan' ∧
      plan.union.type = "crate::types::AB" ∧ plan'.union.type = "crate::types::Ab" ∧
      plan.events.map (·.eventType) = ["e"] ∧ plan'.events.map (·.eventType) = ["f"] ∧
      plan.render.path = plan'.render.path ∧ c.rendered = [plan.render.path]) := by
  obtain ⟨fuel, c, h, hrendered⟩ := acronyms_generated
  obtain ⟨written, hmodules, -⟩ := generate_eq_ok.mp h
  obtain ⟨ctx, protocol, operations, _, _, hsetup, -⟩ := modules_ok hmodules
  have hstart := hsetup
  rw [acronymGenerator_eq] at hstart
  obtain ⟨rfl, rfl, rfl⟩ := acronyms_ready.setup hstart
  exact ⟨fuel, c, h, hsetup, _, _, first_streams, second_streams, rfl, rfl, rfl, rfl, rfl,
    hrendered⟩

end Generator

end CrateGen
