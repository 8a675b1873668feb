import CrateGen.Proofs.EventStream.Faults
import CrateGen.Proofs.Extraction.Faults
import CrateGen.Proofs.Generate.Decoders

/-!
A run with no other decorators than those that come with the generator ends, and where it fails no
template is the reason: what a model lacks is told by errors of the model, and all that is written
from it can be written (`Code.Succeeds`), whatever scopes it is written in.
-/

namespace CrateGen

open CrateGen.Action
open EventStream (Plan feed feedBuilder feedPlan feedSettings feed_built feed_unwritten misses
  exists_of_misses mem_toList_of_unionOf?)
open Outcome

/-! ## Decorators -/

namespace Decorator

variable {σ : Type} {ds : List (Decorator σ)}

/-- The decorators that come with the generator, and combinations of these. -/
inductive BuiltIn : Decorator σ → Prop where
  | extraction : BuiltIn Decorator.extraction
  | retryableErrors (service : ShapeId) (errors : ShapeIds) :
      BuiltIn (Decorator.retryableErrors service errors)
  | combine {ds extras : List (Decorator σ)} (h : ∀ d ∈ ds ++ extras, BuiltIn d) :
      BuiltIn (Decorator.combine ds extras)

/-- A decorator that changes models only. They keep ids of words, and where that fails no template
is the reason. -/
structure Harmless (d : Decorator σ) : Prop extends d.Bare where
  transform : ∀ (service : ShapeId) {m : Model}, m.Worded →
    ∀ s, Faultless Model.Worded ((d.transformModel service m).run.run s).1

theorem ofExcept_faultless {α : Type} {P : α → Prop} {x : Except Error α} (h : Faultless P x)
    (s : σ) : Faultless P ((ofExcept x : Hook σ α).run.run s).1 := by
  cases h with
  | ok h => exact .ok h
  | error h => exact .error h

theorem blame_faultless {α : Type} {P : α → Prop} {d : Decorator σ} {hook : Hook σ α} {s : σ}
    (h : Faultless P (hook.run.run s).1) : Faultless P ((d.blame hook).run.run s).1 := by
  have hrun : ((d.blame hook).run.run s).1 =
      (hook.run.run s).1.mapError (Error.decorator d.name) := rfl
  rw [hrun]
  generalize (hook.run.run s).1 = result at h
  cases h with
  | ok h => exact .ok h
  | error h => exact .error h

theorem runAll_faultless {α : Type} {P : α → Prop} {hook : Decorator σ → α → Hook σ α}
    (hook_faultless : ∀ d ∈ ds, ∀ a, P a → ∀ s, Faultless P ((hook d a).run.run s).1)
    (service : ShapeId) {base : α} (hbase : P base) (s : σ) :
    Faultless P ((runAll ds service hook base).run.run s).1 := by
  have hfilter : ∀ d ∈ ds.filter (·.appliesTo service), ∀ a, P a →
      ∀ s, Faultless P ((hook d a).run.run s).1 :=
    fun d hd => hook_faultless d (List.mem_of_mem_filter hd)
  unfold runAll
  generalize ds.filter (·.appliesTo service) = applied at hfilter
  induction applied generalizing base s with
  | nil => exact .ok hbase
  | cons d applied ih =>
    rw [List.foldlM_cons]
    refine (blame_faultless (hfilter d List.mem_cons_self base hbase s)).run_bind
      fun a s' ha => ?_
    exact ih ha s' fun d hd => hfilter d (List.mem_cons_of_mem _ hd)

theorem runAll_pure {α : Type} {hook : Decorator σ → α → Hook σ α}
    (hook_pure : ∀ d ∈ ds, ∀ a, hook d a = pure a) (service : ShapeId) (base : α) :
    runAll ds service hook base = pure base := by
  have hfilter : ∀ d ∈ ds.filter (·.appliesTo service), ∀ a, hook d a = pure a :=
    fun d hd => hook_pure d (List.mem_of_mem_filter hd)
  unfold runAll
  generalize ds.filter (·.appliesTo service) = applied at hfilter
  induction applied with
  | nil => rfl
  | cons d applied ih =>
    have hblame : d.blame (pure base : Hook σ α) = pure base := rfl
    rw [List.foldlM_cons, hfilter d List.mem_cons_self, hblame, pure_bind]
    exact ih fun d hd => hfilter d (List.mem_cons_of_mem _ hd)

theorem harmless_chain (h : ∀ d ∈ ds, d.Harmless) : (chain ds).Harmless where
  transform service _ hm s :=
    runAll_faultless (fun d hd _ hm s => (h d hd).transform service hm s) service hm s
  operations ctx operation :=
    runAll_pure (fun d hd => (h d hd).operations ctx operation) ctx.service
  config ctx := runAll_pure (fun d hd => (h d hd).config ctx) ctx.service
  endpoint ctx := runAll_pure (fun d hd => (h d hd).endpoint ctx) ctx.service
  protocols service := runAll_pure (fun d hd => (h d hd).protocols service) service

theorem BuiltIn.harmless {d : Decorator σ} (h : d.BuiltIn) : d.Harmless := by
  induction h with
  | extraction =>
    exact ⟨⟨fun _ _ _ => rfl, fun _ _ => rfl, fun _ _ => rfl, fun _ _ => rfl⟩,
      fun _ _ hm => ofExcept_faultless (Model.extractConstraints_faultless hm)⟩
  | retryableErrors service errors =>
    exact ⟨⟨fun _ _ _ => rfl, fun _ _ => rfl, fun _ _ => rfl, fun _ _ => rfl⟩,
      fun _ _ hm => ofExcept_faultless (Model.markRetryable_faultless hm errors)⟩
  | combine _ ih => exact harmless_chain fun d hd => ih d (List.mem_mergeSort.mp hd)

end Decorator

theorem Context.expectService_faultless (m : Model) (id : ShapeId) :
    Faultless (fun _ => True) (expectService m id) := by
  refine (m.expect_faultless id).bind fun s _ => ?_
  split
  · exact .ok trivial
  · exact .error not_false

theorem Decorator.Harmless.apply {σ : Type} {d : Decorator σ} (hd : d.Harmless) {m : Model}
    (hm : m.Worded) (service : ShapeId) (s : σ) :
    Faultless Model.Worded ((d.apply m service).run.run s).1 := by
  have hservice (s : σ) : Faultless (fun _ => True)
      ((discard (Decorator.ofExcept (Context.expectService m service)) : Hook σ PUnit).run.run
        s).1 := by
    have h := Context.expectService_faultless m service
    cases hx : Context.expectService m service with
    | ok a => exact .ok trivial
    | error e =>
      rw [hx] at h
      exact .error h.of_error
  refine (hservice s).run_bind fun _ s₁ _ => ?_
  refine (hd.transform service hm s₁).run_bind fun result s₂ hresult => ?_
  refine (Decorator.ofExcept_faultless result.validate_faultless s₂).run_bind fun _ s₃ _ => ?_
  exact .ok hresult

theorem ProtocolTable.select_faultless (table : ProtocolTable) (service : Shape) :
    Faultless (fun select => table.select service = .ok select) (table.select service) := by
  cases hselect : table.select service with
  | ok select => exact .ok rfl
  | error e =>
    unfold select at hselect
    split at hselect
    · split at hselect
      · cases hselect
      · cases hselect
        exact .error not_false
    · cases hselect
      exact .error not_false

/-! ## Runs -/

/-- The run ended by itself, and no template was the reason. -/
def Halt.Ordinary : Halt → Prop
  | .failed e => ¬e.IsTemplateFault
  | .exhausted => False

namespace Generator

variable {σ α : Type} {P : α → Prop} {g : Generator σ} {m : Model}

theorem ofExcept_ends {x : Except Error α} (h : Faultless P x) (s : σ) :
    Ends Halt.Ordinary P (outcome (ofExcept x : Run σ α) s).1 := by
  cases h with
  | ok h => exact .ok h
  | error h => exact .error h

theorem ofHook_ends {hook : Hook σ α} {s : σ} (h : Faultless P (hook.run.run s).1) :
    Ends Halt.Ordinary P (outcome (ofHook hook) s).1 := by
  rw [outcome_ofHook]
  generalize (hook.run.run s).1 = result at h
  cases h with
  | ok h => exact .ok h
  | error h => exact .error h

theorem onCrate_ends {action : CrateM Unit} {Q : Unit → Prop} {c : Crate}
    (h : Ends Halt.Ordinary Q (outcome action c).1) (s : σ) :
    Ends Halt.Ordinary (fun _ => True) (outcome (onCrate c action : Run σ Crate) s).1 := by
  rw [outcome_onCrate]
  generalize (outcome action c).1 = result at h
  cases h with
  | ok h => exact .ok trivial
  | error h => exact .error h

theorem write_ends {code : Code} (h : code.Succeeds) {module : Module} (hm : module.Rooted)
    (depth : Nat) (c : Crate) :
    Ends Halt.Ordinary (fun _ => True) (outcome (Crate.write (depth + 1) module code) c).1 := by
  obtain ⟨c', hwrite⟩ := Crate.exists_write_of_succeeds h hm c
  rw [hwrite depth]
  exact .ok trivial

theorem unmarshaller?_faultless {ctx : Context} {protocol : Protocol} (hp : protocol.Faultless)
    (operation : Shape) : Faultless (fun _ => True) (unmarshaller? ctx protocol operation) := by
  unfold unmarshaller?
  split
  · exact .ok trivial
  · exact (EventStream.Plan.build_faultless hp ctx operation _).bind fun _ _ => .ok trivial

theorem renderOperations_ends {d : Decorator σ} (hd : d.Bare) {ctx : Context}
    {protocol : Protocol} (hp : protocol.Faultless) (operations : List Shape) (depth : Nat)
    (c : Crate) (s : σ) :
    Ends Halt.Ordinary (fun _ => True)
      (outcome (renderOperations (depth + 1) d ctx protocol c operations) s).1 := by
  induction operations generalizing c s with
  | nil => exact .ok trivial
  | cons operation operations ih =>
    have hcustom : Ends Halt.Ordinary (· = [])
        (outcome (ofHook (d.operationCustomizations ctx operation [])) s).1 := by
      rw [hd.operations]
      exact .ok rfl
    have hrender (unmarshaller : Option (RuntimeType Code)) (c : Crate) :
        Ends Halt.Ordinary (fun _ => True)
          (outcome (Operation.render (depth + 1) ctx operation [] unmarshaller) c).1 := by
      refine (ofExcept_ends (ctx.symbols.symbol_faultless operation) c).run_bind
        fun symbol c' _ => ?_
      have hrooted : (Operation.module operation).Rooted := rfl
      exact write_ends (Operation.write_succeeds ctx.model operation symbol.name unmarshaller)
        hrooted depth c'
    refine hcustom.run_bind fun customizations s₁ hnil => ?_
    subst hnil
    refine (ofExcept_ends (unmarshaller?_faultless hp operation) s₁).run_bind
      fun unmarshaller s₂ _ => ?_
    exact (onCrate_ends (hrender unmarshaller c) s₂).run_bind fun c' s₃ _ => ih c' s₃

theorem builtIn_ofSettings (settings : Settings) {decorators : List (Decorator σ)}
    (hd : ∀ d ∈ decorators, d.BuiltIn) : (ofSettings settings decorators).decorator.BuiltIn := by
  refine .combine fun d hmem => ?_
  rcases List.mem_append.mp hmem with hmem | hmem
  · exact hd d hmem
  cases htarget : settings.codegen.target with
  | client =>
    rw [htarget] at hmem
    cases hmem
  | server =>
    rw [htarget] at hmem
    cases List.mem_singleton.mp hmem
    exact .extraction

section

variable (hd : g.decorator.Harmless) (hm : m.Worded)
include hd hm

theorem modules_ends (depth : Nat) (s : σ) :
    Ends Halt.Ordinary (fun _ => True) (outcome (g.modules (depth + 1) m) s).1 := by
  refine (ofHook_ends (hd.apply hm g.settings.service s)).run_bind fun model s₁ _ => ?_
  have hctx : Faultless (fun _ => True) (Context.ofModel model g.settings) :=
    (Context.expectService_faultless model _).discard.bind fun _ _ => .ok trivial
  refine (ofExcept_ends hctx s₁).run_bind fun ctx s₂ _ => ?_
  have htable : Ends Halt.Ordinary (· = ProtocolTable.default)
      (outcome (ofHook (g.decorator.protocols g.settings.service .default)) s₂).1 := by
    rw [hd.protocols]
    exact .ok rfl
  refine htable.run_bind fun table s₃ hdefault => ?_
  subst hdefault
  refine (ofExcept_ends (model.expect_faultless _) s₃).run_bind fun service s₄ _ => ?_
  refine (ofExcept_ends (ProtocolTable.default.select_faultless service) s₄).run_bind
    fun select s₅ hselect => ?_
  obtain ⟨name, rfl⟩ := ProtocolTable.exists_json_of_select hselect
  refine (ofExcept_ends (model.serviceOperations_faultless _) s₅).run_bind
    fun operations s₆ _ => ?_
  have hsymbols : Faultless (fun _ => True) (operations.mapM ctx.symbols.symbol) :=
    (Ends.mapM fun o _ => ctx.symbols.symbol_faultless o).mono fun _ _ => trivial
  refine (ofExcept_ends hsymbols s₆).run_bind fun symbols s₇ _ => ?_
  refine (onCrate_ends (write_ends (writeRoot_succeeds ctx symbols) Module.rooted_root depth _)
    s₇).run_bind fun c₁ s₈ _ => ?_
  have hconfig : Ends Halt.Ordinary (· = [])
      (outcome (ofHook (g.decorator.configCustomizations ctx [])) s₈).1 := by
    rw [hd.config]
    exact .ok rfl
  refine hconfig.run_bind fun config s₉ hnil => ?_
  subst hnil
  have hrooted : Config.module.Rooted ∧ Endpoint.module.Rooted := ⟨rfl, rfl⟩
  refine (onCrate_ends (write_ends Config.write_succeeds hrooted.1 depth c₁) s₉).run_bind
    fun c₂ s₁₀ _ => ?_
  have hendpoint : Ends Halt.Ordinary (· = [])
      (outcome (ofHook (g.decorator.endpointCustomizations ctx [])) s₁₀).1 := by
    rw [hd.endpoint]
    exact .ok rfl
  refine hendpoint.run_bind fun endpoint s₁₁ hnil => ?_
  subst hnil
  refine (onCrate_ends (write_ends Endpoint.write_succeeds hrooted.2 depth c₂) s₁₁).run_bind
    fun c₃ s₁₂ _ => ?_
  exact renderOperations_ends hd.toBare (Protocol.json_faultless name ctx) operations depth c₃ s₁₂

theorem Setup.worded {s : σ} {ctx : Context} {protocol : Protocol} {operations : List Shape}
    (h : g.Setup m s ctx protocol operations) :
    ctx.model.Worded ∧ ∃ name, protocol = Protocol.json name ctx := by
  constructor
  · obtain ⟨s', hmodel⟩ := h.model
    have hworded := hd.apply hm g.settings.service s
    rw [hmodel] at hworded
    exact hworded.of_ok
  · obtain ⟨s₁, s₂, table, service, select, htable, -, hselect, rfl⟩ := h.protocol
    rw [hd.protocols] at htable
    cases htable
    obtain ⟨name, rfl⟩ := ProtocolTable.exists_json_of_select hselect
    exact ⟨name, rfl⟩

/-- With enough fuel a run ends by itself, and not over a template. -/
theorem exists_generate_ends (s : σ) :
    ∃ fuel₀, ∀ fuel ≥ fuel₀,
      Ends Halt.Ordinary (fun _ => True) (outcome (g.generate fuel m) s).1 := by
  have hmodules := modules_ends hd hm 0 s
  cases hrun : outcome (g.modules 1 m) s with
  | mk result s' =>
    rw [hrun] at hmodules
    have hmore (fuel : Nat) (hfuel : fuel ≥ 1) (hne : result ≠ .error .exhausted) :
        outcome (g.modules fuel m) s = (result, s') := by
      have hbelow := modules_below hfuel g m s
      rw [hrun] at hbelow
      exact hbelow hne
    cases result with
    | error halt =>
      have hne : (Except.error halt : Except Halt Crate) ≠ .error .exhausted := by
        intro heq
        cases heq
        exact hmodules.of_error
      refine ⟨1, fun fuel hfuel => ?_⟩
      rw [generate_eq, outcome_bind, hmore fuel hfuel hne]
      exact .error hmodules.of_error
    | ok written =>
      obtain ⟨ctx, protocol, operations, common, writes, hsetup, hcommon, hwrites, hwritings⟩ :=
        modules_ok hrun
      obtain ⟨hworded, name, rfl⟩ := hsetup.worded hd hm
      have hresolvable := resolvable_of_writings (hd.toBare.keeps _) hcommon hwrites hwritings hworded
        ⟨name, rfl⟩
      obtain ⟨rounds, c₁, c, fuel₀, -, -, -, hfinalize⟩ :=
        (written_of_writings hcommon hwrites hwritings).exists_finalize hresolvable
      refine ⟨max 1 fuel₀, fun fuel hfuel => ?_⟩
      have hwritten := hmore fuel (Nat.le_trans (Nat.le_max_left 1 fuel₀) hfuel) nofun
      have hgenerate : outcome (g.generate fuel m) s = (.ok c, s') :=
        generate_eq_ok.mpr ⟨written, hwritten,
          (hfinalize fuel (Nat.le_trans (Nat.le_max_right 1 fuel₀) hfuel)).2⟩
      rw [hgenerate]
      exact .ok trivial

end

/-- Whatever the settings are, a run with the decorators that come with the generator comes to an
end, and where it fails no template is the reason: every key that a template names is bound once
and to what the template asks for, and every module has its file. A crate is generated as soon as
the transformed model has all that its modules are written from. The unmarshaller of every plan is
written without fail, at the level of its writer. The model may be any whose ids were read, as those
of a builder are (`Builder.worded_foldl_perform`). -/
theorem generate_faultless (settings : Settings) {decorators : List (Decorator σ)}
    (hd : ∀ d ∈ decorators, d.BuiltIn) (hm : m.Worded) (s : σ) :
    (∀ fuel e s', outcome ((ofSettings settings decorators).generate fuel m) s =
      (.error (.failed e), s') → ¬e.IsTemplateFault) ∧
    (∃ fuel₀, ∀ fuel ≥ fuel₀,
      (outcome ((ofSettings settings decorators).generate fuel m) s).1 ≠ .error .exhausted) ∧
    (∀ {model s₁ service select operations},
      ((ofSettings settings decorators).decorator.apply m settings.service).run.run s =
        (.ok model, s₁) → Ready settings model service select operations →
      ∃ fuel₀ c, ∀ fuel ≥ fuel₀,
        outcome ((ofSettings settings decorators).generate fuel m) s = (.ok c, s₁)) ∧
    ∀ {ctx protocol operation union plan}, ctx.model.Worded → union.id.IsWords →
      Plan.build ctx protocol operation union = .ok plan → ∀ depth w, ∃ w',
        outcome (Code.run (depth + 1) plan.writeUnmarshaller) w = (.ok (), w') ∧
          w'.level = w.level := by
  have hharmless := (builtIn_ofSettings settings hd).harmless
  obtain ⟨fuel₀, hends⟩ := exists_generate_ends hharmless hm s
  refine ⟨fun fuel e s' hrun => ?_, ⟨fuel₀, fun fuel hfuel hexhausted => ?_⟩,
    fun happly hready => ?_, fun hm hu h => EventStream.Plan.exists_written hm hu h⟩
  · -- enough fuel makes no difference to a run that has ended
    have hmore := generate_below (Nat.le_max_left fuel fuel₀) (ofSettings settings decorators) m s
    rw [hrun] at hmore
    have hend := hends (max fuel fuel₀) (Nat.le_max_right fuel fuel₀)
    rw [hmore nofun] at hend
    exact hend.of_error
  · have hend := hends fuel hfuel
    rw [hexhausted] at hend
    exact hend.of_error
  · have hworded := hharmless.apply hm settings.service s
    rw [happly] at hworded
    obtain ⟨fuel₁, c, hrun, -⟩ := Ready.exists_generate (g := ofSettings settings decorators)
      hready hworded.of_ok hharmless.toBare happly
    exact ⟨fuel₁, c, hrun⟩

theorem feed_misses :
    (feedBuilder "Feed#{x}" []).build.1.toOption.isSome = true ∧
    misses "x" (outcome ((ofSettings feedSettings ([] : List (Decorator Unit))).generate 2
      (feed "Feed#{x}" [])) ()) = true := by
  decide +kernel

/-- A directive that stands in the name of a union is read as one when the unmarshaller is written,
and no key is bound for it. -/
theorem generate_misses_key :
    (feed "Feed#{x}" []).Built ∧
    (∃ bound, ∀ fuel ≥ 2,
      outcome ((ofSettings feedSettings ([] : List (Decorator Unit))).generate fuel
        (feed "Feed#{x}" [])) () = (.error (.failed (.missingTemplateKey "x" bound)), ())) ∧
    ∃ plan, feedPlan "Feed#{x}" [] = .ok plan ∧ ∃ bound w,
      outcome (Code.run 1 plan.writeUnmarshaller) (.ofModule .root) =
        (.error (.failed (.missingTemplateKey "x" bound)), w) := by
  obtain ⟨hbuilt, hmisses⟩ := feed_misses
  obtain ⟨bound, s, hrun⟩ := exists_of_misses hmisses
  refine ⟨feed_built hbuilt, ⟨bound, fun fuel hfuel => ?_⟩, feed_unwritten⟩
  have hmore := generate_below hfuel (ofSettings feedSettings ([] : List (Decorator Unit)))
    (feed "Feed#{x}" []) ()
  rw [hrun] at hmore
  exact hmore nofun

def acronymDecorators : List (Decorator Unit) :=
  [.extraction, .retryableErrors acronymSettings.service (.ofList [ShapeId.root "ns" "Event"])]

theorem builtIn_of_mem_acronymDecorators {d : Decorator Unit} (h : d ∈ acronymDecorators) :
    d.BuiltIn := by
  rcases List.mem_cons.mp h with rfl | h
  · exact .extraction
  · cases List.mem_singleton.mp h
    exact .retryableErrors _ _

theorem acronyms_kept : acronyms.extractConstraints = .ok acronyms ∧
    acronyms.markRetryable (.ofList [ShapeId.root "ns" "Event"]) = .ok acronyms :=
  ⟨rfl, rfl⟩

theorem acronyms_transformed :
    ((ofSettings acronymSettings acronymDecorators).decorator.apply acronyms
      acronymSettings.service).run.run () = (.ok acronyms, ()) := by
  have hsort : Decorator.sort acronymDecorators [] = acronymDecorators :=
    List.mergeSort_of_pairwise (List.pairwise_pair.mpr (by decide))
  have hchain : (ofSettings acronymSettings acronymDecorators).decorator =
      Decorator.chain acronymDecorators :=
    congrArg Decorator.chain hsort
  have htransform : (Decorator.chain acronymDecorators).transformModel acronymSettings.service
        acronyms = (do
      let m ← Decorator.blame .extraction (Decorator.ofExcept acronyms.extractConstraints)
      Decorator.blame (.retryableErrors acronymSettings.service
        (.ofList [ShapeId.root "ns" "Event"]))
        (Decorator.ofExcept (m.markRetryable (.ofList [ShapeId.root "ns" "Event"])))) := rfl
  have hpure (d : Decorator Unit) : d.blame (Decorator.ofExcept (.ok acronyms)) = pure acronyms := rfl
  rw [hchain, Decorator.apply, htransform, acronyms_kept.1, hpure, pure_bind, acronyms_kept.2,
    hpure, pure_bind, acronyms_ready.service, acronyms_ready.valid]
  rfl

theorem generate_faultless_acronyms :
    (∀ d ∈ acronymDecorators, d.BuiltIn) ∧ acronyms.Worded ∧
    (∀ fuel e s', outcome ((ofSettings acronymSettings acronymDecorators).generate fuel acronyms)
      () = (.error (.failed e), s') → ¬e.IsTemplateFault) ∧
    (∃ fuel₀, ∀ fuel ≥ fuel₀,
      (outcome ((ofSettings acronymSettings acronymDecorators).generate fuel acronyms) ()).1 ≠
        .error .exhausted) ∧
    (∃ fuel₀ c, ∀ fuel ≥ fuel₀,
      outcome ((ofSettings acronymSettings acronymDecorators).generate fuel acronyms) () =
        (.ok c, ())) ∧
    ∃ union plan, acronymContext.model.Worded ∧ union.id.IsWords ∧
      Plan.build acronymContext acronymProtocol firstOperation union = .ok plan ∧
      ∀ depth w, ∃ w', outcome (Code.run (depth + 1) plan.writeUnmarshaller) w = (.ok (), w') ∧
        w'.level = w.level := by
  obtain ⟨union, hunion, hplan⟩ := first_streams
  have hwords : union.id.IsWords := acronyms_worded.isWords (mem_toList_of_unionOf? hunion)
  obtain ⟨hfaults, hends, hready, hwritten⟩ := generate_faultless acronymSettings
    (fun d => builtIn_of_mem_acronymDecorators) acronyms_worded ()
  have hmodel : acronymContext.model.Worded := acronyms_worded
  exact ⟨fun d => builtIn_of_mem_acronymDecorators, acronyms_worded, hfaults, hends,
    hready acronyms_transformed acronyms_ready, union, _, hmodel, hwords, hplan,
    hwritten hmodel hwords hplan⟩

end Generator

end CrateGen
