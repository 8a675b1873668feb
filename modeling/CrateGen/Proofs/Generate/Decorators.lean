import CrateGen.Generate.Decorator
import Mathlib.Logic.ExistsUnique

/-!
Decorators run one after the other in the order of their numbers. Where a decorator stands in the
lists that are combined counts only against decorators of the same number.
-/

namespace CrateGen

variable {σ : Type} {ds queue queue' : List (Decorator σ)}

/-! ## The order of a run -/

namespace Decorator

/-- `queue` holds the decorators of `ds` in ascending order; those of the same order stand as in
`ds`. -/
structure Queues (ds queue : List (Decorator σ)) : Prop where
  perm : queue.Perm ds
  ascending : queue.Pairwise fun a b => a.order ≤ b.order
  ties : ∀ order, queue.filter (·.order = order) = ds.filter (·.order = order)

theorem queues_sort (decorators extras : List (Decorator σ)) :
    Queues (decorators ++ extras) (sort decorators extras) := by
  have htrans (a b c : Decorator σ) (hab : decide (a.order ≤ b.order) = true)
      (hbc : decide (b.order ≤ c.order) = true) : decide (a.order ≤ c.order) = true :=
    decide_eq_true (Int8.le_trans (of_decide_eq_true hab) (of_decide_eq_true hbc))
  have htotal (a b : Decorator σ) :
      (decide (a.order ≤ b.order) || decide (b.order ≤ a.order)) = true := by
    simpa using Int8.le_total a.order b.order
  have hperm := List.mergeSort_perm (decorators ++ extras) fun a b => a.order ≤ b.order
  refine ⟨hperm, ?_, fun order => ?_⟩
  · exact (List.pairwise_mergeSort htrans htotal _).imp of_decide_eq_true
  · have hequal : ((decorators ++ extras).filter (·.order = order)).Pairwise
        fun a b => decide (a.order ≤ b.order) = true := by
      refine List.pairwise_filter.mpr (List.pairwise_of_forall fun a b ha hb => ?_)
      rw [of_decide_eq_true ha, of_decide_eq_true hb]
      exact decide_eq_true (Int8.le_refl order)
    have hsub := (List.sublist_mergeSort htrans htotal hequal List.filter_sublist).filter
      (·.order = order)
    rw [List.filter_filter] at hsub
    simp only [Bool.and_self] at hsub
    exact (hsub.eq_of_length (hperm.filter _).length_eq.symm).symm

namespace Queues

/-- An ascending list starts with the same decorator as any other with the same ties. -/
theorem head_eq {a b : Decorator σ} {as bs : List (Decorator σ)}
    (ha : (a :: as).Pairwise fun a b => a.order ≤ b.order)
    (hb : (b :: bs).Pairwise fun a b => a.order ≤ b.order)
    (hties : ∀ order, (a :: as).filter (·.order = order) = (b :: bs).filter (·.order = order)) :
    a = b := by
  have hle {a b : Decorator σ} {as bs : List (Decorator σ)}
      (hb : (b :: bs).Pairwise fun a b => a.order ≤ b.order)
      (hties : (a :: as).filter (·.order = a.order) = (b :: bs).filter (·.order = a.order)) :
      b.order ≤ a.order := by
    have hmem : a ∈ (b :: bs).filter (·.order = a.order) := by
      rw [← hties]
      exact List.mem_filter.mpr ⟨List.mem_cons_self, decide_eq_true rfl⟩
    rcases List.mem_cons.mp (List.mem_filter.mp hmem).1 with rfl | hmem
    · exact Int8.le_refl _
    · exact (List.pairwise_cons.mp hb).1 a hmem
  have horder : a.order = b.order :=
    Int8.le_antisymm (hle ha (hties b.order).symm) (hle hb (hties a.order))
  have hfilter := hties a.order
  have ha : decide (a.order = a.order) = true := decide_eq_true rfl
  have hb : decide (b.order = a.order) = true := decide_eq_true horder.symm
  rw [List.filter_cons, if_pos ha, List.filter_cons, if_pos hb] at hfilter
  exact (List.cons.inj hfilter).1

theorem eq_of_ties (hqueue : queue.Pairwise fun a b => a.order ≤ b.order)
    (hqueue' : queue'.Pairwise fun a b => a.order ≤ b.order)
    (hties : ∀ order, queue.filter (·.order = order) = queue'.filter (·.order = order)) :
    queue = queue' := by
  induction queue generalizing queue' with
  | nil =>
    cases queue' with
    | nil => rfl
    | cons b bs => simpa using hties b.order
  | cons a as ih =>
    cases queue' with
    | nil => simpa using hties a.order
    | cons b bs =>
      obtain rfl := head_eq hqueue hqueue' hties
      refine congrArg (a :: ·) (ih hqueue.of_cons hqueue'.of_cons fun order => ?_)
      have hrest := hties order
      rw [List.filter_cons, List.filter_cons] at hrest
      split at hrest
      · exact (List.cons.inj hrest).2
      · exact hrest

theorem eq (h : Queues ds queue) (h' : Queues ds queue') : queue = queue' :=
  eq_of_ties h.ascending h'.ascending fun order => (h.ties order).trans (h'.ties order).symm

end Queues

/-- The order of a run depends on the lists only through how decorators of the same order
stand. -/
theorem sort_eq_of_ties {decorators extras decorators' extras' : List (Decorator σ)}
    (hties : ∀ order, (decorators' ++ extras').filter (·.order = order) =
      (decorators ++ extras).filter (·.order = order)) :
    sort decorators' extras' = sort decorators extras := by
  have hsort := queues_sort decorators extras
  have hsort' := queues_sort decorators' extras'
  exact Queues.eq_of_ties hsort'.ascending hsort.ascending fun order =>
    (hsort'.ties order).trans ((hties order).trans (hsort.ties order).symm)

end Decorator

/-! ## Hooks -/

/-- The hooks of a decorator, each with what it gets besides its base value. -/
inductive HookPoint where
  | transformModel (service : ShapeId)
  | operationCustomizations (ctx : Context) (operation : Shape)
  | configCustomizations (ctx : Context)
  | endpointCustomizations (ctx : Context)
  | protocols (service : ShapeId)

namespace HookPoint

def Value : HookPoint → Type
  | transformModel _ => Model
  | operationCustomizations _ _ => List OperationCustomization
  | configCustomizations _ => List ConfigCustomization
  | endpointCustomizations _ => List EndpointCustomization
  | protocols _ => ProtocolTable

def service : HookPoint → ShapeId
  | transformModel service | protocols service => service
  | operationCustomizations ctx _ | configCustomizations ctx | endpointCustomizations ctx =>
    ctx.service

def hook : (p : HookPoint) → Decorator σ → p.Value → Hook σ p.Value
  | transformModel service, d => d.transformModel service
  | operationCustomizations ctx operation, d => d.operationCustomizations ctx operation
  | configCustomizations ctx, d => d.configCustomizations ctx
  | endpointCustomizations ctx, d => d.endpointCustomizations ctx
  | protocols service, d => d.protocols service

theorem hook_chain (p : HookPoint) (ds : List (Decorator σ)) :
    p.hook (Decorator.chain ds) = Decorator.runAll ds p.service p.hook := by
  cases p <;> rfl

/-- A run of the hooks of some decorators one after the other: what it starts from, its outcome
and the state that it leaves. -/
inductive Runs (p : HookPoint) :
    List (Decorator σ) → p.Value → σ → Except Error p.Value → σ → Prop where
  | done {base : p.Value} {s : σ} : Runs p [] base s (.ok base) s
  /-- A decorator that does not apply is passed over. -/
  | skip {d : Decorator σ} {ds : List (Decorator σ)} {base : p.Value} {s s' : σ}
      {result : Except Error p.Value} (happlies : d.appliesTo p.service = false)
      (h : Runs p ds base s result s') : Runs p (d :: ds) base s result s'
  /-- The next decorators get the result of this one. -/
  | step {d : Decorator σ} {ds : List (Decorator σ)} {base value : p.Value} {s s₁ s' : σ}
      {result : Except Error p.Value} (happlies : d.appliesTo p.service = true)
      (hook_ok : (p.hook d base).run.run s = (.ok value, s₁))
      (h : Runs p ds value s₁ result s') : Runs p (d :: ds) base s result s'
  /-- The next decorators do not run, and the error names this one. -/
  | stop {d : Decorator σ} {ds : List (Decorator σ)} {base : p.Value} {s s' : σ} {e : Error}
      (happlies : d.appliesTo p.service = true)
      (hook_error : (p.hook d base).run.run s = (.error e, s')) :
      Runs p (d :: ds) base s (.error (.decorator d.name e)) s'

end HookPoint

namespace Decorator

open HookPoint (Runs)

variable {p : HookPoint} {base : p.Value} {s s' : σ} {result : Except Error p.Value}

theorem runAll_cons_skip {d : Decorator σ} (happlies : d.appliesTo p.service = false) :
    runAll (d :: ds) p.service p.hook base = runAll ds p.service p.hook base := by
  rw [runAll, List.filter_cons, if_neg (by simp [happlies])]
  rfl

theorem run_runAll_cons {d : Decorator σ} (happlies : d.appliesTo p.service = true) :
    (runAll (d :: ds) p.service p.hook base).run.run s =
      match (p.hook d base).run.run s with
      | (.ok value, s₁) => (runAll ds p.service p.hook value).run.run s₁
      | (.error e, s₁) => (.error (.decorator d.name e), s₁) := by
  have hrun : (runAll (d :: ds) p.service p.hook base).run.run s =
      (ExceptT.bindCont (fun value => runAll ds p.service p.hook value)
        (((p.hook d base).run.run s).1.mapError (Error.decorator d.name))).run
        ((p.hook d base).run.run s).2 := by
    rw [runAll, List.filter_cons, if_pos happlies, List.foldlM_cons]
    rfl
  rw [hrun]
  rcases (p.hook d base).run.run s with ⟨e | value, s₁⟩ <;> rfl

theorem runs_runAll (ds : List (Decorator σ)) (base : p.Value) (s : σ) :
    Runs p ds base s ((runAll ds p.service p.hook base).run.run s).1
      ((runAll ds p.service p.hook base).run.run s).2 := by
  induction ds generalizing base s with
  | nil => exact .done
  | cons d ds ih =>
    cases happlies : d.appliesTo p.service with
    | false =>
      rw [runAll_cons_skip happlies]
      exact .skip happlies (ih base s)
    | true =>
      rw [run_runAll_cons happlies]
      rcases hhook : (p.hook d base).run.run s with ⟨e | value, s₁⟩
      · exact .stop happlies hhook
      · exact .step happlies hhook (ih value s₁)

theorem run_runAll_of_runs (h : Runs p ds base s result s') :
    (runAll ds p.service p.hook base).run.run s = (result, s') := by
  induction h with
  | done => rfl
  | skip happlies _ ih => rw [runAll_cons_skip happlies, ih]
  | step happlies hook_ok _ ih =>
    rw [run_runAll_cons happlies, hook_ok]
    exact ih
  | stop happlies hook_error => rw [run_runAll_cons happlies, hook_error]

theorem run_runAll_iff :
    (runAll ds p.service p.hook base).run.run s = (result, s') ↔ Runs p ds base s result s' := by
  constructor
  · intro h
    have hruns := runs_runAll ds base s
    rwa [h] at hruns
  · exact run_runAll_of_runs

theorem run_hook_singleton (ds : List (Decorator σ)) :
    (p.hook (chain [chain ds]) base).run.run s =
      (((p.hook (chain ds) base).run.run s).1.mapError (Error.decorator "CombinedDecorator"),
        ((p.hook (chain ds) base).run.run s).2) := by
  rw [HookPoint.hook_chain p [chain ds], run_runAll_cons rfl]
  rcases (p.hook (chain ds) base).run.run s with ⟨e | value, s₁⟩ <;> rfl

/-- What combining decorators comes to. -/
structure OrderedFold (decorators extras : List (Decorator σ)) : Prop where
  /-- There is one order of a run. -/
  exists_queue : ∃! queue, Queues (decorators ++ extras) queue
  /-- Every hook runs in that order. -/
  run_iff : ∀ {queue}, Queues (decorators ++ extras) queue →
    ∀ (p : HookPoint) base s result s',
      (p.hook (combine decorators extras) base).run.run s = (result, s') ↔
        Runs p queue base s result s'
  /-- Decorators can change places as long as those of the same order do not. -/
  rearranged : ∀ decorators' extras' : List (Decorator σ),
    (∀ order, (decorators' ++ extras').filter (·.order = order) =
      (decorators ++ extras).filter (·.order = order)) →
    ∀ p : HookPoint, p.hook (combine decorators' extras') = p.hook (combine decorators extras)
  /-- Alone in another combination the same results are given, and errors get one more name. -/
  nested : ∀ outer outerExtras : List (Decorator σ),
    outer ++ outerExtras = [combine decorators extras] →
    ∀ (p : HookPoint) base s, (p.hook (combine outer outerExtras) base).run.run s =
      (((p.hook (combine decorators extras) base).run.run s).1.mapError
          (Error.decorator "CombinedDecorator"),
        ((p.hook (combine decorators extras) base).run.run s).2)

/-- Combined decorators run in ascending order, those of the same order as they stand in the two
lists. -/
theorem orderedFold_combine (decorators extras : List (Decorator σ)) :
    OrderedFold decorators extras where
  exists_queue := ⟨_, queues_sort decorators extras, fun _ h => h.eq (queues_sort _ _)⟩
  run_iff hqueue p base s result s' := by
    rw [combine, HookPoint.hook_chain, (queues_sort decorators extras).eq hqueue]
    exact run_runAll_iff
  rearranged decorators' extras' hties p := by
    rw [combine, sort_eq_of_ties hties, combine]
  nested outer outerExtras hsingle p base s := by
    rw [combine, sort, hsingle, List.mergeSort_of_pairwise (List.pairwise_singleton _ _)]
    exact run_hook_singleton _

end Decorator

end CrateGen
