import CrateGen.Proofs.EventStream.References
import CrateGen.Proofs.Generate.Decoders
import CrateGen.Proofs.Generate.OperationBlocks

namespace CrateGen.Generator

open CrateGen.Action
open EventStream (Plan)

variable {σ : Type} {g : Generator σ} {m : Model} {s s' : σ} {c : Crate} {fuel : Nat}
  {ctx : Context} {protocol : Protocol} {operations : List Shape} {P : InlineItem Code → Prop}
  {ms : List Module}

/-- Whatever customizations and parsers lead to is for the modules `ms`. -/
structure Confines (g : Generator σ) (m : Model) (s : σ) (P : InlineItem Code → Prop)
    (ms : List Module) : Prop where
  customizations : g.decorator.Keeps { item := P }
  parsers : ∀ {ctx protocol operations},
    g.Setup m s ctx protocol operations → protocol.Keeps { item := P }
  modules : ∀ i, P i → i.module ∈ ms
  codes : ∀ i, P i → i.code.Permitted { item := P }

/-- What a run records: the unmarshallers of the operations and what `P` allows. -/
def Recorded (ctx : Context) (protocol : Protocol) (operations : List Shape)
    (P : InlineItem Code → Prop) (i : InlineItem Code) : Prop :=
  (∃ operation ∈ operations, ∃ plan, Streams ctx protocol operation plan ∧ i = plan.item) ∨ P i

theorem Confines.recorded_permitted (h : g.Confines m s P ms)
    (hsetup : g.Setup m s ctx protocol operations) {i : InlineItem Code}
    (hi : Recorded ctx protocol operations P i) :
    i.code.Permitted { item := Recorded ctx protocol operations P } := by
  have hwithin : Permit.Within { item := P } { item := Recorded ctx protocol operations P } :=
    ⟨.inr, id⟩
  rcases hi with ⟨operation, -, plan, ⟨union, -, hplan⟩, rfl⟩ | hi
  · have hparsers := (h.parsers hsetup).mono hwithin
    exact EventStream.Plan.writeUnmarshaller_permitted
      (EventStream.Plan.permitted_of_build hparsers hplan)
  · exact Code.permitted_mono hwithin _ (h.codes i hi)

theorem Confines.recorded_module (h : g.Confines m s P ms) {i : InlineItem Code}
    (hi : Recorded ctx protocol operations P i) : i.module ∈ Operation.others ms := by
  unfold Operation.others
  rcases hi with ⟨operation, -, plan, -, rfl⟩ | hi
  · exact List.mem_append_left _ (List.mem_of_elem_eq_true rfl)
  · exact List.mem_append_right _ (h.modules i hi)

theorem isWord_of_serviceOperations {model : Model} {service : ShapeId} (hm : model.Worded)
    (h : model.serviceOperations service = .ok operations) :
    ∀ operation ∈ operations, Name.IsWord operation.id.name := by
  intro operation hmem
  obtain ⟨shape, -, h⟩ := Outcome.bind_eq_ok.mp h
  split at h
  · obtain ⟨shapes, hshapes, h⟩ := Outcome.bind_eq_ok.mp h
    cases h
    obtain ⟨id, -, hid⟩ := Outcome.exists_of_forall₂ (Outcome.mapM_eq_ok.mp hshapes)
      (List.mem_mergeSort.mp hmem)
    exact (hm id operation (Model.expect_eq_ok.mp hid)).1
  · cases h

theorem exists_operationBlocks (hconfines : g.Confines m s P ms) (hms : Operation.Spares ms)
    (hwords : ∀ {model s₁}, (g.decorator.apply m g.settings.service).run.run s = (.ok model, s₁) →
      model.Worded)
    (h : outcome (g.generate fuel m) s = (.ok c, s')) :
    ∃ ctx protocol operations bs, g.Setup m s ctx protocol operations ∧
      OperationBlocks g.decorator ctx protocol operations bs c := by
  obtain ⟨written, hmodules, hfinalize⟩ := generate_eq_ok.mp h
  obtain ⟨ctx, protocol, operations, common, writes, hsetup, hcommon, hwrites, hwritings⟩ :=
    modules_ok hmodules
  obtain ⟨files, inlineModules, hrest⟩ := hwritings.rest
  have hfinalized : written.finalized = false := by
    rw [hrest]
    rfl
  obtain ⟨c₁, c₂, hrender, hembed, rfl⟩ := Crate.finalize_eq_ok hfinalized hfinalize
  obtain ⟨rounds, hrounds⟩ := Crate.Rounds.of_renderPending hrender
  have hrefers : written.All (Writer.RefersTo (Recorded ctx protocol operations P)) :=
    refersTo_of_writings (p := { item := Recorded ctx protocol operations P })
      (hconfines.customizations.mono ⟨.inr, id⟩)
      (fun operation hmem plan hplan => .inl ⟨operation, hmem, plan, hplan, rfl⟩) hcommon hwrites
      hwritings
  have hitems : ∀ call ∈ rounds.flatten.map Crate.Step.call, call.1 ∈ Operation.others ms := by
    intro call hcall
    obtain ⟨step, hstep, rfl⟩ := List.mem_map.mp hcall
    have hall := (hrounds.reaches .refl).refersTo hrefers
      fun i hi => hconfines.recorded_permitted hsetup hi
    have hitem := (hrounds.steps.renders hstep).items_grow (hrounds.item_mem step hstep)
    exact hconfines.recorded_module (hall.items (hrounds.steps.after_grow hstep hitem))
  obtain ⟨s₁, hmodel⟩ := hsetup.model
  have hleaves := Operation.leaves_below
    (isWord_of_serviceOperations (hwords hmodel) hsetup.operations)
  have hcalls := calls_of_writes hms hleaves hcommon hwrites hitems
  have hconsistent := hcalls.consistent hleaves hms
  have hlogged :=
    ((Crate.Logged.new g.settings.codegen.includeBanner g.settings.codegen.debugMode).writings
      (writings_leaves hwrites hwritings)).steps hrounds.steps
  rw [List.nil_append] at hlogged
  obtain ⟨bs, c', hnested, hembed', -⟩ := Crate.embedAll_nested hconsistent.toTree hlogged.gathers
  rw [hembed] at hembed'
  cases hembed'
  have hblocks := hcalls.operationBlocks hleaves hms (hnested.layout hlogged hconsistent)
  exact ⟨ctx, protocol, operations, _, hsetup, hblocks.names, hblocks.ascending, hblocks.module,
    hblocks.block, hblocks.file, hblocks.opened⟩

/-- The operations of a service are in one block for each name in snake case, and each has a block
of its own just where no two have the same. -/
theorem generate_operationBlocks (hconfines : g.Confines m s P ms) (hms : Operation.Spares ms)
    (hwords : ∀ {model s₁}, (g.decorator.apply m g.settings.service).run.run s = (.ok model, s₁) →
      model.Worded)
    (h : outcome (g.generate fuel m) s = (.ok c, s')) :
    ∃ ctx protocol operations bs, g.Setup m s ctx protocol operations ∧
      OperationBlocks g.decorator ctx protocol operations bs c ∧
      bs.length = (operations.map fun o => Name.snakeCase o.id.name).dedup.length ∧
      ((∀ b ∈ bs, ∃ operation,
          operations.filter (fun o => Name.snakeCase o.id.name == b.module.name) = [operation]) ↔
        (operations.map fun o => Name.snakeCase o.id.name).Nodup) := by
  obtain ⟨ctx, protocol, operations, bs, hsetup, hblocks⟩ :=
    exists_operationBlocks hconfines hms hwords h
  exact ⟨ctx, protocol, operations, bs, hsetup, hblocks, hblocks.length_eq, hblocks.separate_iff⟩

theorem spares_nil : Operation.Spares [] where
  consistent := by
    decide +kernel
  file := List.not_mem_nil
  free := nofun

/-- Without decorators nothing but the parsers of the protocol is referred to, by their paths. -/
theorem Ready.confines {settings : Settings} {service : Shape} {select : Context → Protocol}
    (h : Ready settings m service select operations) (s : σ) :
    Confines { settings, decorators := [] } m s (fun _ => False) [] where
  customizations := Decorator.keeps_chain_nil _
  parsers hsetup := by
    obtain ⟨name, rfl⟩ := ProtocolTable.exists_json_of_select h.protocol
    obtain ⟨-, hprotocol, -⟩ := h.setup hsetup
    rw [hprotocol]
    exact Protocol.json_keeps _ name _
  modules _ hi := hi.elim
  codes _ hi := hi.elim

/-! ## Operations whose names are the same in snake case -/

def things : Model :=
  ((({} : Builder).operation "ns#GetThing" none none []).operation "ns#Get_Thing" none none
    []).service "ns#Service" "1" ["ns#GetThing", "ns#Get_Thing"]
      [.protocol "aws.protocols#restJson1"] |>.model

def thingSettings : Settings :=
  { service := .root "ns" "Service", moduleName := "things" }

def thingGenerator : Generator Unit :=
  { settings := thingSettings, decorators := [] }

def getThing : Shape :=
  { id := .root "ns" "GetThing", kind := .operation none none [] }

def getThingAlike : Shape :=
  { id := .root "ns" "Get_Thing", kind := .operation none none [] }

theorem things_operations : things.serviceOperations thingSettings.service =
    .ok [getThing, getThingAlike] := by
  have hsort : [getThing, getThingAlike].mergeSort (fun a b => (compare a.id b.id).isLE) =
      [getThing, getThingAlike] :=
    List.mergeSort_of_pairwise (by decide +kernel)
  have hservice : things.expect thingSettings.service = .ok {
      id := .root "ns" "Service", kind := .service "1" [getThing.id, getThingAlike.id],
      traits := .ofList [.protocol "aws.protocols#restJson1"] } := rfl
  refine Outcome.bind_eq_ok.mpr ⟨_, hservice, ?_⟩
  refine Outcome.bind_eq_ok.mpr ⟨[getThing, getThingAlike], rfl, ?_⟩
  exact congrArg Except.ok hsort

theorem things_ready : Ready thingSettings things
    { id := .root "ns" "Service", kind := .service "1" [getThing.id, getThingAlike.id],
      traits := .ofList [.protocol "aws.protocols#restJson1"] }
    (.json "aws.protocols#restJson1") [getThing, getThingAlike] where
  valid := rfl
  service := rfl
  protocol := rfl
  operations := things_operations
  symbols operation hmem := by
    rcases List.mem_cons.mp hmem with rfl | hmem
    · exact ⟨_, rfl⟩
    · cases List.mem_singleton.mp hmem
      exact ⟨_, rfl⟩
  streams operation hmem := by
    rcases List.mem_cons.mp hmem with rfl | hmem
    · exact ⟨none, rfl⟩
    · cases List.mem_singleton.mp hmem
      exact ⟨none, rfl⟩

theorem things_worded : things.Worded := by
  apply Model.worded_of_toList
  decide +kernel

theorem things_transformed {model : Model} {s₁ : Unit}
    (h : (thingGenerator.decorator.apply things thingSettings.service).run.run () =
      (.ok model, s₁)) : model.Worded := by
  have happly := apply_chain_nil things_ready.valid things_ready.service ()
  have hmodel : model = things := Except.ok.inj (Prod.mk.inj (h.symm.trans happly)).1
  rw [hmodel]
  exact things_worded

theorem things_generated : ∃ fuel c,
    outcome (thingGenerator.generate fuel things) () = (.ok c, ()) := by
  obtain ⟨fuel, c, h, -⟩ := Ready.exists_generate (g := thingGenerator) things_ready things_worded
    Decorator.bare_chain_nil (apply_chain_nil things_ready.valid things_ready.service ())
  exact ⟨fuel, c, h fuel (Nat.le_refl fuel)⟩

theorem generate_operationBlocks_things : ∃ fuel c,
    thingGenerator.Confines things () (fun _ => False) [] ∧ Operation.Spares [] ∧
    (∀ {model s₁}, (thingGenerator.decorator.apply things thingSettings.service).run.run () =
      (.ok model, s₁) → model.Worded) ∧
    outcome (thingGenerator.generate fuel things) () = (.ok c, ()) ∧
    ∃ ctx protocol operations bs, thingGenerator.Setup things () ctx protocol operations ∧
      OperationBlocks thingGenerator.decorator ctx protocol operations bs c ∧
      bs.length = (operations.map fun o => Name.snakeCase o.id.name).dedup.length ∧
      ((∀ b ∈ bs, ∃ operation,
          operations.filter (fun o => Name.snakeCase o.id.name == b.module.name) = [operation]) ↔
        (operations.map fun o => Name.snakeCase o.id.name).Nodup) := by
  obtain ⟨fuel, c, h⟩ := things_generated
  have hconfines := things_ready.confines ()
  exact ⟨fuel, c, hconfines, spares_nil, things_transformed, h,
    generate_operationBlocks hconfines spares_nil things_transformed h⟩

/-- Two operations, and only one block, which holds the types of both. -/
theorem generate_merges_operations : ∃ fuel c,
    outcome (thingGenerator.generate fuel things) () = (.ok c, ()) ∧
    getThing.id ≠ getThingAlike.id ∧
    ∃ ctx protocol b log own,
      thingGenerator.Setup things () ctx protocol [getThing, getThingAlike] ∧
      (∃ (w : Writer) (m : Module) (own' : Writer),
        c.files[Operation.parentModule.filePath]? = some w ∧
        m.filePath = Operation.parentModule.filePath ∧
        Writer.Assembled (c.newFile m) [] own' [b] w) ∧
      b.module = Operation.module getThing ∧
      List.Forall₂ (fun o e =>
          WritesOperation thingGenerator.decorator ctx protocol o (Operation.module o, e.code))
        [getThing, getThingAlike] log ∧
      Writer.Assembled (c.newInline b.module) log own [] b.writer := by
  obtain ⟨fuel, c, h⟩ := things_generated
  obtain ⟨ctx, protocol, operations, bs, hsetup, hblocks⟩ := exists_operationBlocks
    (things_ready.confines ()) spares_nil things_transformed h
  obtain ⟨-, -, rfl⟩ := things_ready.setup hsetup
  have hlength := hblocks.length_eq
  have hnames : ([getThing, getThingAlike].map fun o => Name.snakeCase o.id.name) =
      ["get_thing", "get_thing"] := by
    decide +kernel
  rw [hnames] at hlength
  obtain ⟨b, rfl⟩ := List.length_eq_one_iff.mp hlength
  obtain ⟨w, hw⟩ := SortedMap.mem_iff.mp (hblocks.opened (List.cons_ne_nil b []))
  obtain ⟨m, own', hpath, hfile⟩ := hblocks.file hw
  obtain ⟨log, own, hlog, hblock⟩ := hblocks.block b List.mem_cons_self
  obtain ⟨first, hfind, hmodule⟩ := hblocks.module b List.mem_cons_self
  have hname : b.module.name = "get_thing" := by
    have hmem := (hblocks.names b.module.name).mp List.mem_cons_self
    obtain ⟨operation, hmem, hname⟩ := hmem
    have hall : Name.snakeCase operation.id.name ∈
        [getThing, getThingAlike].map fun o => Name.snakeCase o.id.name :=
      List.mem_map_of_mem hmem
    rw [hnames, hname] at hall
    rcases List.mem_cons.mp hall with hall | hall
    · exact hall
    · exact List.mem_singleton.mp hall
  have hsame : ∀ o ∈ [getThing, getThingAlike],
      (Name.snakeCase o.id.name == "get_thing") = true := by
    decide +kernel
  rw [hname, List.filter_eq_self.mpr hsame] at hlog
  have hfirst : [getThing, getThingAlike].find? (fun o => Name.snakeCase o.id.name == "get_thing") =
      some getThing :=
    List.find?_cons_of_pos (hsame getThing List.mem_cons_self)
  rw [hname, hfirst] at hfind
  cases hfind
  exact ⟨fuel, c, h, by decide, ctx, _, b, log, own, hsetup, ⟨w, m, own', hw, hpath, hfile⟩,
    hmodule, hlog, hblock⟩

end CrateGen.Generator
