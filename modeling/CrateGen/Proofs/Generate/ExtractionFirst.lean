import CrateGen.Proofs.Generate.Decorators
import CrateGen.Proofs.Generate.Run

/-!
On servers extraction has the lowest order there is. Extras stand behind the decorators they are
added to, so it runs behind those of that order and before all others.
-/

namespace CrateGen

open CrateGen.Action

variable {σ α β : Type} {ds users : List (Decorator σ)} {d : Decorator σ} {s s' s₁ : σ}

/-! ## Runs in two parts -/

namespace HookPoint

variable {p : HookPoint} {base value : p.Value} {before after : List (Decorator σ)}

theorem Runs.append_ok (h : Runs p (before ++ after) base s (.ok value) s') :
    ∃ between s₁, Runs p before base s (.ok between) s₁ ∧
      Runs p after between s₁ (.ok value) s' := by
  induction before generalizing base s with
  | nil => exact ⟨base, s, .done, h⟩
  | cons d before ih =>
    cases h with
    | skip happlies h =>
      obtain ⟨between, s₁, hbefore, hafter⟩ := ih h
      exact ⟨between, s₁, .skip happlies hbefore, hafter⟩
    | step happlies hook_ok h =>
      obtain ⟨between, s₁, hbefore, hafter⟩ := ih h
      exact ⟨between, s₁, .step happlies hook_ok hbefore, hafter⟩

theorem Runs.cons_ok (happlies : d.appliesTo p.service = true)
    (h : Runs p (d :: ds) base s (.ok value) s') :
    ∃ result s₁, (p.hook d base).run.run s = (.ok result, s₁) ∧
      Runs p ds result s₁ (.ok value) s' := by
  cases h with
  | skip hskip =>
    rw [happlies] at hskip
    cases hskip
  | step _ hook_ok h => exact ⟨_, _, hook_ok, h⟩

/-- A run comes to the hook of a decorator, with a value and in a state. -/
def Calls (p : HookPoint) (ds : List (Decorator σ)) (base : p.Value) (s : σ) (d : Decorator σ)
    (value : p.Value) (s₁ : σ) : Prop :=
  ∃ before after, ds = before ++ d :: after ∧ d.appliesTo p.service = true ∧
    Runs p before base s (.ok value) s₁

end HookPoint

namespace Decorator

open HookPoint (Runs Calls)

theorem runAll_append (before after : List (Decorator σ)) (service : ShapeId)
    (hook : Decorator σ → α → Hook σ α) (base : α) :
    runAll (before ++ after) service hook base =
      runAll before service hook base >>= runAll after service hook := by
  rw [runAll, List.filter_append, List.foldlM_append]
  rfl

/-! ## The order on servers -/

/-- The decorators of the lowest order there is, as they stand. -/
def foremost (users : List (Decorator σ)) : List (Decorator σ) :=
  users.filter (·.order = Int8.minValue)

/-- All other decorators in the order in which they run. -/
def others (users : List (Decorator σ)) : List (Decorator σ) :=
  sort (users.filter (·.order ≠ Int8.minValue)) []

theorem order_of_mem_foremost (h : d ∈ foremost users) : d.order = Int8.minValue :=
  of_decide_eq_true (List.mem_filter.mp h).2

theorem foremost_eq_nil (h : ∀ d ∈ users, d.order ≠ Int8.minValue) : foremost users = [] :=
  List.filter_eq_nil_iff.mpr fun d hd hdecide => h d hd (of_decide_eq_true hdecide)

theorem others_eq_sort (h : ∀ d ∈ users, d.order ≠ Int8.minValue) :
    others users = sort users [] := by
  rw [others, List.filter_eq_self.mpr fun d hd => decide_eq_true (h d hd)]

theorem queues_others (users : List (Decorator σ)) :
    Queues (users.filter (·.order ≠ Int8.minValue)) (others users) := by
  have h := queues_sort (users.filter (·.order ≠ Int8.minValue)) []
  rwa [List.append_nil] at h

theorem filter_others (users : List (Decorator σ)) (order : Int8) :
    (others users).filter (·.order = order) =
      if order = Int8.minValue then [] else users.filter (·.order = order) := by
  rw [(queues_others users).ties, List.filter_filter]
  split
  · next h =>
    refine List.filter_eq_nil_iff.mpr fun d _ hd => ?_
    obtain ⟨horder, hother⟩ := Bool.and_eq_true_iff.mp hd
    exact of_decide_eq_true hother ((of_decide_eq_true horder).trans h)
  · next h =>
    refine List.filter_congr fun d _ => ?_
    rw [Bool.and_eq_left_iff_imp]
    exact fun horder => decide_eq_true fun hmin => h ((of_decide_eq_true horder).symm.trans hmin)

theorem filter_foremost (users : List (Decorator σ)) (order : Int8) :
    (foremost users).filter (·.order = order) =
      if order = Int8.minValue then foremost users else [] := by
  split
  · next h =>
    exact List.filter_eq_self.mpr fun d hd =>
      decide_eq_true ((order_of_mem_foremost hd).trans h.symm)
  · next h =>
    refine List.filter_eq_nil_iff.mpr fun d hd horder => h ?_
    exact (of_decide_eq_true horder).symm.trans (order_of_mem_foremost hd)

/-- Extraction stands behind the decorators of its order and before all others. -/
theorem sort_extraction (users : List (Decorator σ)) :
    sort users [extraction] = foremost users ++ extraction :: others users := by
  have hsort := queues_sort users [extraction]
  refine Queues.eq_of_ties hsort.ascending ?_ fun order => (hsort.ties order).trans ?_
  · have hforemost : (foremost users).Pairwise fun a b => a.order ≤ b.order :=
      List.pairwise_of_forall_mem_list fun a ha b _ => order_of_mem_foremost ha ▸ Int8.minValue_le _
    refine List.pairwise_append.mpr ⟨hforemost, ?_, fun a ha b _ => ?_⟩
    · exact List.pairwise_cons.mpr ⟨fun d _ => Int8.minValue_le d.order,
        (queues_others users).ascending⟩
    · rw [order_of_mem_foremost ha]
      exact Int8.minValue_le b.order
  · rw [List.filter_append, List.filter_append, List.filter_cons, List.filter_cons, filter_others,
      filter_foremost]
    by_cases h : order = Int8.minValue
    · subst h
      rfl
    · have hextraction : ¬decide ((extraction : Decorator σ).order = order) = true :=
        fun horder => h (of_decide_eq_true horder).symm
      rw [if_neg hextraction, if_neg hextraction, if_neg h, if_neg h]
      exact List.append_nil _

/-- Whoever runs behind the decorators of the lowest order runs behind extraction. -/
theorem after_extraction {before after : List (Decorator σ)}
    (hsplit : foremost users ++ extraction :: others users = before ++ d :: after)
    (horder : d.order ≠ Int8.minValue) :
    ∃ between, before = foremost users ++ extraction :: between ∧ between <+: others users := by
  rcases List.append_eq_append_iff.mp hsplit with ⟨rest, hbefore, hrest⟩ | ⟨rest, hforemost, hrest⟩
  · cases rest with
    | nil =>
      cases hrest
      exact (horder rfl).elim
    | cons first between =>
      obtain ⟨rfl, hothers⟩ := List.cons.inj hrest
      exact ⟨between, hbefore, d :: after, hothers.symm⟩
  · cases rest with
    | nil =>
      cases hrest
      exact (horder rfl).elim
    | cons first rest =>
      cases hrest
      have hmem : d ∈ foremost users := by
        rw [hforemost]
        exact List.mem_append_right _ List.mem_cons_self
      exact (horder (order_of_mem_foremost hmem)).elim

/-! ## Models that decorators get -/

theorem blame_ofExcept (d : Decorator σ) (x : Except Error α) :
    d.blame (ofExcept x) = ofExcept (x.mapError (Error.decorator d.name)) := by
  cases x <;> rfl

theorem runAll_cons_extraction (service : ShapeId) (m : Model) :
    runAll (extraction :: ds) service (fun d => d.transformModel service) m =
      ofExcept (m.extractConstraints.mapError (Error.decorator "ConstrainedMember")) >>=
        runAll ds service fun d => d.transformModel service := by
  have happlies : (extraction : Decorator σ).appliesTo service = true := rfl
  rw [runAll, List.filter_cons, if_pos happlies, List.foldlM_cons]
  exact congrArg (· >>= _) (blame_ofExcept extraction m.extractConstraints)

theorem runs_cons_extraction {service : ShapeId} {m value : Model}
    (h : Runs (.transformModel service) (extraction :: ds) m s (.ok value) s') :
    ∃ extracted, m.extractConstraints = .ok extracted ∧
      Runs (.transformModel service) ds extracted s (.ok value) s' := by
  obtain ⟨extracted, s₁, hook_ok, h⟩ := h.cons_ok rfl
  have hrun : (ofExcept m.extractConstraints : Hook σ Model).run.run s = (.ok extracted, s₁) :=
    hook_ok
  cases hm : m.extractConstraints with
  | error e =>
    rw [hm] at hrun
    cases hrun
  | ok result =>
    rw [hm] at hrun
    cases hrun
    exact ⟨extracted, rfl, h⟩

/-- What some decorators make of the model that is extracted behind `earlier` ones, and the state
they leave. -/
def FromExtracted (service : ShapeId) (earlier later : List (Decorator σ)) (m : Model) (s : σ)
    (value : Model) (s' : σ) : Prop :=
  ∃ m₀ s₀ extracted between, Runs (.transformModel service) earlier m s (.ok m₀) s₀ ∧
    m₀.extractConstraints = .ok extracted ∧ between <+: later ∧
    Runs (.transformModel service) between extracted s₀ (.ok value) s'

theorem fromExtracted_of_calls {service : ShapeId} {m value : Model}
    (horder : d.order ≠ Int8.minValue)
    (h : Calls (.transformModel service) (foremost users ++ extraction :: others users) m s d value
      s') : FromExtracted service (foremost users) (others users) m s value s' := by
  obtain ⟨before, after, hsplit, -, hruns⟩ := h
  obtain ⟨between, rfl, hbetween⟩ := after_extraction hsplit horder
  obtain ⟨m₀, s₀, hforemost, hrest⟩ := hruns.append_ok
  obtain ⟨extracted, hextracted, hruns⟩ := runs_cons_extraction hrest
  exact ⟨m₀, s₀, extracted, between, hforemost, hextracted, hbetween, hruns⟩

end Decorator

namespace Generator

open Decorator (FromExtracted extraction foremost others)
open HookPoint (Runs Calls)

theorem ofHook_bind (x : Hook σ α) (f : α → Hook σ β) :
    ofHook (x >>= f) = ofHook x >>= fun a => ofHook (f a) := by
  funext s
  change outcome (ofHook (x >>= f)) s = outcome (ofHook x >>= fun a => ofHook (f a)) s
  have hrun : (x >>= f).run.run s =
      (ExceptT.bindCont f (x.run.run s).1).run (x.run.run s).2 := rfl
  rw [outcome_bind, outcome_ofHook, outcome_ofHook, hrun]
  rcases x.run.run s with ⟨e | a, s₁⟩ <;> rfl

theorem ofHook_ofExcept (x : Except Error α) :
    (ofHook (Decorator.ofExcept x) : Run σ α) = ofExcept x := by
  cases x <;> rfl

/-- Generation from the model that decorators give. -/
def renderModel (g : Generator σ) (fuel : Nat) (m : Model) : Run σ Crate := do
  let d := g.decorator
  let ctx ← ofExcept (Context.ofModel m g.settings)
  let table ← ofHook (d.protocols g.settings.service .default)
  let service ← ofExcept (m.expect g.settings.service)
  let protocol ← ofExcept (table.select service)
  let operations ← ofExcept (m.serviceOperations g.settings.service)
  let symbols ← ofExcept (operations.mapM ctx.symbols.symbol)
  let c ← onCrate (Crate.ofSettings g.settings)
    (Crate.write fuel .root (writeRoot ctx symbols))
  let config ← ofHook (d.configCustomizations ctx [])
  let c ← onCrate c (Crate.write fuel Config.module (Config.write config))
  let endpoint ← ofHook (d.endpointCustomizations ctx [])
  let c ← onCrate c (Crate.write fuel Endpoint.module (Endpoint.write endpoint))
  let c ← renderOperations fuel d ctx (protocol ctx) c operations
  onCrate c (Crate.finalize fuel)

theorem generate_eq_apply (g : Generator σ) (fuel : Nat) (m : Model) :
    g.generate fuel m =
      ofHook (g.decorator.apply m g.settings.service) >>= g.renderModel fuel :=
  rfl

theorem ofHook_apply (d : Decorator σ) (m : Model) (service : ShapeId) :
    ofHook (d.apply m service) = (do
      discard <| ofExcept (Context.expectService m service)
      let m ← ofHook (d.transformModel service m)
      ofExcept m.validate
      return m : Run σ Model) := by
  rw [Decorator.apply, ofHook_bind]
  congr 1
  · cases Context.expectService m service <;> rfl
  · funext _
    rw [ofHook_bind]
    refine congrArg _ (funext fun result => ?_)
    rw [ofHook_bind, ofHook_ofExcept]
    rfl

/-- How servers extract the constraints of a model among other transformations. -/
structure Extracts (settings : Settings) (users : List (Decorator σ)) : Prop where
  order : (ofSettings settings users).decorators = foremost users ++ extraction :: others users
  /-- A decorator that is not of the lowest order gets what is made of an extracted model. -/
  called : ∀ d : Decorator σ, d.order ≠ Int8.minValue → ∀ m s value s',
    Calls (.transformModel settings.service) (ofSettings settings users).decorators m s d value
      s' →
    FromExtracted settings.service (foremost users) (others users) m s value s'
  /-- Where no decorator is of the lowest order, extraction comes first. -/
  first : (∀ d ∈ users, d.order ≠ Int8.minValue) →
    (ofSettings settings users).decorators = extraction :: Decorator.sort users [] ∧
    ∀ d ∈ users, ∀ m s value s',
      Calls (.transformModel settings.service) (ofSettings settings users).decorators m s d value
        s' →
      ∃ extracted between, m.extractConstraints = .ok extracted ∧
        between <+: Decorator.sort users [] ∧
        Runs (.transformModel settings.service) between extracted s (.ok value) s'
  generate : ∀ fuel m, (ofSettings settings users).generate fuel m = do
    discard <| ofExcept (Context.expectService m settings.service)
    let m ← ofHook ((Decorator.chain (foremost users)).transformModel settings.service m)
    let m ← ofExcept (m.extractConstraints.mapError (Error.decorator "ConstrainedMember"))
    let m ← ofHook ((Decorator.chain (others users)).transformModel settings.service m)
    ofExcept m.validate
    (ofSettings settings users).renderModel fuel m

theorem decorators_ofSettings {settings : Settings} (htarget : settings.codegen.target = .server)
    (users : List (Decorator σ)) :
    (ofSettings settings users).decorators = foremost users ++ extraction :: others users := by
  rw [ofSettings, htarget]
  exact Decorator.sort_extraction users

theorem generate_ofSettings {settings : Settings} (htarget : settings.codegen.target = .server)
    (users : List (Decorator σ)) (fuel : Nat) (m : Model) :
    (ofSettings settings users).generate fuel m = (do
      discard <| ofExcept (Context.expectService m settings.service)
      let m ← ofHook ((Decorator.chain (foremost users)).transformModel settings.service m)
      let m ← ofExcept (m.extractConstraints.mapError (Error.decorator "ConstrainedMember"))
      let m ← ofHook ((Decorator.chain (others users)).transformModel settings.service m)
      ofExcept m.validate
      (ofSettings settings users).renderModel fuel m) := by
  have htransform : (ofSettings settings users).decorator.transformModel settings.service m =
      (Decorator.chain (foremost users)).transformModel settings.service m >>= fun m =>
        Decorator.ofExcept (m.extractConstraints.mapError (Error.decorator "ConstrainedMember"))
          >>= (Decorator.chain (others users)).transformModel settings.service := by
    change Decorator.runAll (ofSettings settings users).decorators _ _ m = _
    rw [decorators_ofSettings htarget, Decorator.runAll_append]
    exact congrArg _ (funext fun m => Decorator.runAll_cons_extraction settings.service m)
  rw [generate_eq_apply, ofHook_apply]
  change (discard (ofExcept (Context.expectService m settings.service)) >>= fun _ =>
    ofHook ((ofSettings settings users).decorator.transformModel settings.service m) >>= _) >>=
      _ = _
  rw [htransform, ofHook_bind]
  simp only [ofHook_bind, ofHook_ofExcept, bind_assoc, pure_bind]

/-- On servers extraction runs behind the decorators of the lowest order and before all others,
which get extracted models only. -/
theorem extracts_ofSettings (settings : Settings) (users : List (Decorator σ))
    (htarget : settings.codegen.target = .server) : Extracts settings users where
  order := decorators_ofSettings htarget users
  called d horder m s value s' h := by
    rw [decorators_ofSettings htarget] at h
    exact Decorator.fromExtracted_of_calls horder h
  first habove := by
    have hforemost := Decorator.foremost_eq_nil habove
    have hothers := Decorator.others_eq_sort habove
    refine ⟨?_, fun d hd m s value s' h => ?_⟩
    · rw [decorators_ofSettings htarget, hforemost, hothers, List.nil_append]
    · rw [decorators_ofSettings htarget] at h
      obtain ⟨m₀, s₀, extracted, between, hruns, hextracted, hbetween, hrest⟩ :=
        Decorator.fromExtracted_of_calls (habove d hd) h
      rw [hforemost] at hruns
      cases hruns
      exact ⟨extracted, between, hextracted, hothers ▸ hbetween, hrest⟩
  generate fuel m := generate_ofSettings htarget users fuel m

/-- The model of a service whose operation has one constrained member, with this target. -/
def asking (target : String) : Model :=
  ((({} : Builder).structure "ns#Input" [] [⟨"call", target, [.uniqueItems]⟩]).operation "ns#Op"
    (some "ns#Input") none []).service "ns#Service" "1" ["ns#Op"]
      [.protocol "aws.protocols#restJson1"] |>.model

def serverSettings : Settings :=
  { service := .root "ns" "Service", moduleName := "things", codegen := { target := .server } }

/-- A decorator that notes the models it gets. -/
def observer (name : String) (order : Int8) : Decorator (List Model) where
  name
  order
  transformModel _ m := do
    modify (m :: ·)
    return m

def observers : List (Decorator (List Model)) :=
  [observer "checker" 0, observer "early" Int8.minValue, observer "late" Int8.maxValue]

theorem others_observers :
    others observers = [observer "checker" 0, observer "late" Int8.maxValue] :=
  List.mergeSort_of_pairwise (by decide)

theorem extract_asking :
    (asking "smithy.api#String").extractConstraints.toOption.isSome = true ∧
    (asking "smithy.api#String").extractConstraints.toOption ≠
      some (asking "smithy.api#String") := by
  decide +kernel

theorem extracts_observers :
    ∃ extracted, (asking "smithy.api#String").extractConstraints = .ok extracted ∧
      extracted ≠ asking "smithy.api#String" ∧
      (ofSettings serverSettings observers).decorators =
        [observer "early" Int8.minValue, extraction, observer "checker" 0,
          observer "late" Int8.maxValue] ∧
      Calls (.transformModel serverSettings.service)
        (ofSettings serverSettings observers).decorators
        (asking "smithy.api#String") [] (observer "late" Int8.maxValue) extracted
        [extracted, asking "smithy.api#String"] ∧
      FromExtracted serverSettings.service (foremost observers) (others observers)
        (asking "smithy.api#String") [] extracted [extracted, asking "smithy.api#String"] := by
  have h := extracts_ofSettings serverSettings observers rfl
  obtain ⟨hsome, hchanged⟩ := extract_asking
  obtain ⟨extracted, hm⟩ := Outcome.exists_of_isSome hsome
  have horder := h.order
  rw [others_observers] at horder
  have hextraction : (Decorator.ofExcept (asking "smithy.api#String").extractConstraints :
      Hook (List Model) Model).run.run [asking "smithy.api#String"] =
        (.ok extracted, [asking "smithy.api#String"]) := by
    rw [hm]
    rfl
  have hcalls : Calls (.transformModel serverSettings.service)
      (ofSettings serverSettings observers).decorators (asking "smithy.api#String") []
      (observer "late" Int8.maxValue) extracted [extracted, asking "smithy.api#String"] :=
    ⟨[observer "early" Int8.minValue, extraction, observer "checker" 0], [], horder, rfl,
      .step rfl rfl (.step rfl hextraction (.step rfl rfl .done))⟩
  refine ⟨extracted, hm, ?_, horder, hcalls, ?_⟩
  · rintro rfl
    exact hchanged (by rw [hm]; rfl)
  · exact h.called _ (by decide) _ _ _ _ hcalls

/-- The decorator of the lowest order runs on a model that cannot be extracted. -/
theorem observer_before_extraction :
    (ofSettings serverSettings [observer "early" Int8.minValue]).decorators =
      [observer "early" Int8.minValue, extraction] ∧
    outcome ((ofSettings serverSettings [observer "early" Int8.minValue]).generate 1
      (asking "ns#Op")) [] =
      (.error (.failed (.decorator "ConstrainedMember" (.unbuildableConstrainedTarget
        ((ShapeId.root "ns" "Input").withMember "call") (.root "ns" "Op")))),
        [asking "ns#Op"]) := by
  constructor
  · rw [decorators_ofSettings rfl]
    exact congrArg (fun rest => [observer "early" Int8.minValue, extraction] ++ rest)
      List.mergeSort_nil
  · rw [generate_ofSettings rfl]
    rfl

end Generator

end CrateGen
