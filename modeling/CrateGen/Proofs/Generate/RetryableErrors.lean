import CrateGen.Proofs.Generate.Decorators
import CrateGen.Proofs.Model.Built
import CrateGen.Proofs.Model.Marking

/-!
Marks on errors add up. A mark does not depend on what else is marked, nor on whether the error was
marked before, so one pass after another comes to a single pass over all the ids, and decorators
that mark errors can stand in any order.
-/

namespace CrateGen

variable {m m' : Model} {ids ids' : ShapeIds} {id : ShapeId} {s s' : Shape}

/-- An error and what it is once it is marked: of its traits those two are changed. -/
structure Shape.Marked (s s' : Shape) : Prop where
  id_eq : s'.id = s.id
  kind_eq : s'.kind = s.kind
  error : s'.traits.get? .error = some (.error .server)
  retryable : s'.traits.get? .retryable = some (.retryable false)
  traits : ∀ k, k ≠ .error → k ≠ .retryable → s'.traits.get? k = s.traits.get? k

/-- An error structure that is to be marked. -/
structure Shape.Markable (ids : ShapeIds) (s : Shape) : Prop where
  mem : s.id ∈ ids
  isStructure : s.isStructure = true
  isError : s.isError = true

/-- What becomes of a model when the errors among the ids are marked. -/
structure Model.Marks (m : Model) (ids : ShapeIds) (m' : Model) : Prop where
  contains : ∀ id, m'.contains id = m.contains id
  markable : ∀ {id s}, m.get? id = some s → s.Markable ids →
    ∃ s', m'.get? id = some s' ∧ s.Marked s'
  others : ∀ {id s}, m.get? id = some s → ¬s.Markable ids → m'.get? id = some s

namespace Shape

theorem Marked.unique {t t' : Shape} (h : s.Marked t) (h' : s.Marked t') : t = t' := by
  have htraits : t.traits = t'.traits := by
    refine Traits.ext (funext fun k => ?_)
    by_cases herror : k = .error
    · rw [herror, h.error, h'.error]
    · by_cases hretryable : k = .retryable
      · rw [hretryable, h.retryable, h'.retryable]
      · rw [h.traits k herror hretryable, h'.traits k herror hretryable]
  cases t
  cases t'
  simp only [Shape.mk.injEq]
  exact ⟨h.id_eq.trans h'.id_eq.symm, h.kind_eq.trans h'.kind_eq.symm, htraits⟩

theorem marked_asRetryable (s : Shape) : s.Marked (Model.asRetryable s) where
  id_eq := rfl
  kind_eq := rfl
  error := rfl
  retryable := rfl
  traits _ herror hretryable := (if_neg hretryable).trans (if_neg herror)

theorem asRetryable_asRetryable (s : Shape) :
    Model.asRetryable (Model.asRetryable s) = Model.asRetryable s := by
  have h := marked_asRetryable s
  have h' := marked_asRetryable (Model.asRetryable s)
  refine Marked.unique (s := s) ⟨rfl, rfl, h'.error, h'.retryable, fun k herror hretryable => ?_⟩ h
  rw [h'.traits k herror hretryable, h.traits k herror hretryable]

theorem mark_of_markable (h : s.Markable ids) : Model.mark ids s = Model.asRetryable s :=
  if_pos ⟨h.mem, by rw [h.isStructure, h.isError]; rfl⟩

theorem mark_of_not_markable (h : ¬s.Markable ids) : Model.mark ids s = s := by
  refine if_neg fun hmark => h ?_
  obtain ⟨hstructure, herror⟩ := Bool.and_eq_true_iff.mp hmark.2
  exact ⟨hmark.1, hstructure, herror⟩

theorem markable_union : s.Markable (ids ∪ ids') ↔ s.Markable ids ∨ s.Markable ids' := by
  constructor
  · intro h
    rcases Std.ExtTreeSet.mem_union_iff.mp h.mem with hmem | hmem
    · exact .inl ⟨hmem, h.isStructure, h.isError⟩
    · exact .inr ⟨hmem, h.isStructure, h.isError⟩
  · rintro (h | h)
    · exact ⟨Std.ExtTreeSet.mem_union_iff.mpr (.inl h.mem), h.isStructure, h.isError⟩
    · exact ⟨Std.ExtTreeSet.mem_union_iff.mpr (.inr h.mem), h.isStructure, h.isError⟩

theorem mark_mark (ids ids' : ShapeIds) (s : Shape) :
    Model.mark ids' (Model.mark ids s) = Model.mark (ids ∪ ids') s := by
  by_cases h : s.Markable ids
  · rw [mark_of_markable h, mark_of_markable (markable_union.mpr (.inl h))]
    by_cases h' : (Model.asRetryable s).Markable ids'
    · rw [mark_of_markable h', asRetryable_asRetryable]
    · exact mark_of_not_markable h'
  · rw [mark_of_not_markable h]
    by_cases h' : s.Markable ids'
    · rw [mark_of_markable h', mark_of_markable (markable_union.mpr (.inr h'))]
    · have hnone : ¬s.Markable (ids ∪ ids') := fun hmarkable =>
        (markable_union.mp hmarkable).elim h h'
      rw [mark_of_not_markable h', mark_of_not_markable hnone]

end Shape

namespace Model

theorem map_mark_map_mark (m : Model) (ids ids' : ShapeIds) :
    (m.map (mark ids)).map (mark ids') = m.map (mark (ids ∪ ids')) := by
  refine ext_get? fun id => ?_
  rw [get?_map, get?_map, get?_map, Option.map_map]
  exact congrArg (fun f => (m.get? id).map f) (funext (Shape.mark_mark ids ids'))

theorem Keyed.map_mark (hk : m.Keyed) (ids : ShapeIds) : (m.map (mark ids)).Keyed := by
  intro id t ht
  rw [get?_map] at ht
  obtain ⟨s, hs, rfl⟩ := Option.map_eq_some_iff.mp ht
  rw [(remarks_mark ids).id_eq]
  exact hk hs

theorem Closed.map_mark (hc : m.Closed) (ids : ShapeIds) : (m.map (mark ids)).Closed := by
  rw [← validate_eq_ok, validate_map (remarks_mark ids)]
  exact validate_eq_ok.mpr hc

theorem map_mark_empty (m : Model) : m.map (mark ∅) = m := by
  refine ext_get? fun id => ?_
  have hnone (s : Shape) : mark ∅ s = s :=
    Shape.mark_of_not_markable fun h => Std.ExtTreeSet.not_mem_empty h.mem
  rw [get?_map, funext hnone, Option.map_id']

theorem marks_map_mark (m : Model) (ids : ShapeIds) : m.Marks ids (m.map (mark ids)) where
  contains := contains_map (mark ids) m
  markable {id s} hs hmarkable := by
    refine ⟨asRetryable s, ?_, Shape.marked_asRetryable s⟩
    rw [get?_map, hs, Option.map_some, Shape.mark_of_markable hmarkable]
  others {id s} hs hother := by
    rw [get?_map, hs, Option.map_some, Shape.mark_of_not_markable hother]

theorem Marks.unique {m₁ m₂ : Model} (h : m.Marks ids m₁) (h' : m.Marks ids m₂) : m₁ = m₂ := by
  refine ext_get? fun id => ?_
  cases hs : m.get? id with
  | none =>
    have hnone {m' : Model} (h : m.Marks ids m') : m'.get? id = none := by
      rw [← contains_eq_false, h.contains, contains_eq_false]
      exact hs
    rw [hnone h, hnone h']
  | some s =>
    by_cases hmarkable : s.Markable ids
    · obtain ⟨t, ht, hmarked⟩ := h.markable hs hmarkable
      obtain ⟨t', ht', hmarked'⟩ := h'.markable hs hmarkable
      rw [ht, ht', hmarked.unique hmarked']
    · rw [h.others hs hmarkable, h'.others hs hmarkable]

/-- One pass after another is a single pass over the ids of both. -/
theorem markRetryable_markRetryable (hk : m.Keyed) (hc : m.Closed) (ids ids' : ShapeIds) :
    (m.map (mark ids)).markRetryable ids' = m.markRetryable (ids ∪ ids') := by
  rw [markRetryable_eq (hk.map_mark ids) (hc.map_mark ids), markRetryable_eq hk hc,
    map_mark_map_mark]

end Model

namespace Decorator

variable {σ : Type}

/-- What a decorator that marks errors is made of: a service and ids. -/
abbrev RetryRequest :=
  ShapeId × ShapeIds

def ofRequest (request : RetryRequest) : Decorator σ :=
  retryableErrors request.1 request.2

def requested (service : ShapeId) : List RetryRequest → ShapeIds
  | [] => ∅
  | request :: rest =>
    if service = request.1 then request.2 ∪ requested service rest else requested service rest

theorem mem_requested {service : ShapeId} {requests : List RetryRequest} :
    id ∈ requested service requests ↔
      ∃ request ∈ requests, service = request.1 ∧ id ∈ request.2 := by
  induction requests with
  | nil =>
    refine iff_of_false Std.ExtTreeSet.not_mem_empty ?_
    rintro ⟨_, hmem, -⟩
    cases hmem
  | cons request rest ih =>
    rw [requested, List.exists_mem_cons_iff]
    split
    · next hservice => rw [Std.ExtTreeSet.mem_union_iff, ih, and_iff_right hservice]
    · next hservice => rw [ih, or_iff_right fun h => hservice h.1]

theorem requested_perm {requests requests' : List RetryRequest} (h : requests.Perm requests')
    (service : ShapeId) : requested service requests = requested service requests' := by
  refine Std.ExtTreeSet.ext_mem fun id => ?_
  simp only [mem_requested, h.mem_iff]

/-- A run of such decorators marks all that is requested for the service. -/
theorem runs_requests (hk : m.Keyed) (hc : m.Closed) (requests : List RetryRequest)
    (service : ShapeId) (s : σ) :
    HookPoint.Runs (.transformModel service) (requests.map ofRequest) m s
      (m.markRetryable (requested service requests)) s := by
  induction requests generalizing m with
  | nil =>
    rw [requested, Model.markRetryable_eq hk hc, Model.map_mark_empty]
    exact .done
  | cons request rest ih =>
    rw [List.map_cons, requested]
    by_cases hservice : service = request.1
    · have hhook : ((ofRequest request : Decorator σ).transformModel service m).run.run s =
          (.ok (m.map (Model.mark request.2)), s) := by
        change (ofExcept (m.markRetryable request.2) : Hook σ Model).run.run s = _
        rw [Model.markRetryable_eq hk hc]
        rfl
      rw [if_pos hservice, ← Model.markRetryable_markRetryable hk hc]
      exact .step (beq_iff_eq.mpr hservice) hhook (ih (hk.map_mark _) (hc.map_mark _))
    · rw [if_neg hservice]
      exact .skip (beq_eq_false_iff_ne.mpr hservice) (ih hk hc)

/-- Decorators that mark errors are all of one order, so they run as they stand. -/
theorem sort_requests (requests extras : List RetryRequest) :
    sort (requests.map ofRequest) (extras.map ofRequest) =
      ((requests ++ extras).map ofRequest : List (Decorator σ)) := by
  rw [sort, ← List.map_append]
  refine List.mergeSort_of_pairwise (List.pairwise_map.mpr ?_)
  exact List.pairwise_of_forall fun _ _ => decide_eq_true (Int8.le_refl 0)

theorem run_combine_requests (hk : m.Keyed) (hc : m.Closed) (requests extras : List RetryRequest)
    (service : ShapeId) (s : σ) :
    ((combine (requests.map ofRequest) (extras.map ofRequest)).transformModel service m).run.run s =
      (m.markRetryable (requested service (requests ++ extras)), s) := by
  rw [combine, sort_requests]
  exact run_runAll_of_runs (runs_requests hk hc (requests ++ extras) service s)

end Decorator

/-- How marks add up on a model. -/
structure Model.MarksTogether (m : Model) : Prop where
  /-- A pass succeeds, and marks the errors among the ids. -/
  marks : ∀ ids, (∃ m', m.markRetryable ids = .ok m') ∧
    ∀ m', m.markRetryable ids = .ok m' ↔ m.Marks ids m'
  union : ∀ ids ids', (m.markRetryable ids >>= fun m' => m'.markRetryable ids') =
    m.markRetryable (ids ∪ ids')
  again : ∀ ids, (m.markRetryable ids >>= fun m' => m'.markRetryable ids) = m.markRetryable ids
  /-- Decorators that mark errors can be listed in any order. -/
  reordered : ∀ {σ : Type} (requests extras requests' extras' : List Decorator.RetryRequest),
    (requests ++ extras).Perm (requests' ++ extras') → ∀ service (s : σ),
      ((Decorator.combine (requests.map .ofRequest) (extras.map .ofRequest)).transformModel
        service m).run.run s =
        (m.markRetryable (Decorator.requested service (requests' ++ extras')), s)

/-- Passes that mark errors succeed on every model that builders give, change nothing but the two
traits of the errors, and add up to one pass over all ids in whatever order they come. -/
theorem Model.marksTogether (hm : m.Built) : m.MarksTogether where
  marks ids := by
    rw [markRetryable_eq hm.keyed hm.closed]
    refine ⟨⟨_, rfl⟩, fun m' => ⟨?_, fun h => ?_⟩⟩
    · rintro ⟨⟩
      exact marks_map_mark m ids
    · rw [(marks_map_mark m ids).unique h]
  union ids ids' := by
    rw [markRetryable_eq hm.keyed hm.closed ids, Outcome.ok_bind]
    exact markRetryable_markRetryable hm.keyed hm.closed ids ids'
  again ids := by
    have hself : ids ∪ ids = ids :=
      Std.ExtTreeSet.ext_mem fun id => Std.ExtTreeSet.mem_union_iff.trans or_self_iff
    rw [markRetryable_eq hm.keyed hm.closed ids, Outcome.ok_bind,
      markRetryable_markRetryable hm.keyed hm.closed, hself, markRetryable_eq hm.keyed hm.closed]
  reordered requests extras requests' extras' hperm service s := by
    rw [Decorator.run_combine_requests hm.keyed hm.closed, Decorator.requested_perm hperm]

namespace Model

/-- Two errors, one of them with the other marks already, and a structure that is no error. -/
def faultsBuilder : Builder :=
  ({} : Builder)
    |>.perform (.structure "ns#Fault" [.error .client, .documentation "No."]
      [⟨"code", "smithy.api#String", []⟩])
    |>.perform (.structure "ns#Busy" [.error .server, .retryable true] [])
    |>.perform (.structure "ns#Plain" [] [])

def faults : Model :=
  faultsBuilder.model

/-- An error, a structure that is none, and nothing that is in the model. -/
def firstFaults : ShapeIds :=
  .ofList [ShapeId.root "ns" "Fault", .root "ns" "Plain", .root "ns" "Missing"]

def allFaults : ShapeIds :=
  .ofList [ShapeId.root "ns" "Busy", .root "ns" "Fault"]

theorem faults_checked :
    faultsBuilder.build.1.toOption.isSome = true ∧
    (faults.markRetryable firstFaults).toOption ≠ some faults ∧
    (faults.markRetryable (firstFaults ∪ allFaults)).toOption ≠
      (faults.markRetryable firstFaults).toOption := by
  decide +kernel

theorem faults_built : faults.Built :=
  Builder.Reached.built (.perform (.perform (.perform .start _) _) _) faults_checked.1

theorem marksTogether_faults :
    ∃ m' m'', faults.Built ∧ faults.markRetryable firstFaults = .ok m' ∧
      faults.Marks firstFaults m' ∧ m' ≠ faults ∧ m'.markRetryable allFaults = .ok m'' ∧
      faults.Marks (firstFaults ∪ allFaults) m'' ∧ m'' ≠ m' ∧
      m''.markRetryable (firstFaults ∪ allFaults) = .ok m'' := by
  have htogether := marksTogether faults_built
  obtain ⟨⟨m', hm'⟩, hmarks⟩ := htogether.marks firstFaults
  obtain ⟨⟨m'', hm''⟩, hmarks'⟩ := htogether.marks (firstFaults ∪ allFaults)
  have hunion := htogether.union firstFaults allFaults
  have hagain := htogether.again (firstFaults ∪ allFaults)
  rw [hm', hm'', Outcome.ok_bind] at hunion
  rw [hm'', Outcome.ok_bind] at hagain
  refine ⟨m', m'', faults_built, hm', (hmarks m').mp hm', ?_, hunion, (hmarks' m'').mp hm'', ?_,
    hagain⟩
  · rintro rfl
    exact faults_checked.2.1 (by rw [hm']; rfl)
  · rintro rfl
    exact faults_checked.2.2 (by rw [hm', hm''])

end Model

end CrateGen
