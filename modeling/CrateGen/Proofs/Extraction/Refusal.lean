import CrateGen.Proofs.Extraction.Idempotence

/-!
An extraction fails for two reasons only: a constrained member targets what no shape can be made
of, or every id that is tried for it is taken. The first such member in the order of a visit decides
which. Nothing else can go wrong in a well-formed model, since what a run puts into the model refers
only to what is there or is put there with it.
-/

namespace CrateGen

variable {m m' : Model} {id : ShapeId} {s member : Shape} {given : List ShapeId} {taken : ShapeIds}
  {e : Error}

namespace Extraction

/-! ## What becomes of a member -/

def candidates (m : Model) (member : ShapeId) : List ShapeId :=
  (numbered ++ growing "_" (m.structures.map (·.id.name))).map (candidate member)

/-- Nothing stands under the id, and no member was given it before. -/
def IsFree (m : Model) (given : List ShapeId) (id : ShapeId) : Prop :=
  m.get? id = none ∧ id ∉ given

instance : Decidable (IsFree m given id) :=
  inferInstanceAs (Decidable (_ ∧ _))

/-- The kinds that a shape to carry constraints cannot have. -/
inductive Unbuildable : ShapeKind → Prop where
  | operation (input output : Option ShapeId) (errors : List ShapeId) :
    Unbuildable (.operation input output errors)
  | service (version : String) (operations : List ShapeId) :
    Unbuildable (.service version operations)
  | member (target : ShapeId) : Unbuildable (.member target)

/-- Why the constraints of a member cannot be moved, given the ids that were given before. -/
inductive Refused (m : Model) (given : List ShapeId) (member : Shape) : Error → Prop where
  | unbuildable {target : Shape} (ht : m.Targets member target) (hk : Unbuildable target.kind) :
    Refused m given member (.unbuildableConstrainedTarget member.id target.id)
  | exhausted {target : Shape} (ht : m.Targets member target) (hk : ¬ Unbuildable target.kind)
    (hnone : ∀ id ∈ candidates m member.id, ¬ IsFree m given id) :
    Refused m given member (.refactoredNameExhausted member.id)

/-- The constraints of a member move to the first id tried for it that is free. -/
structure Moved (m : Model) (given : List ShapeId) (member : Shape) (id : ShapeId) : Prop where
  target : ∃ target, m.Targets member target ∧ ¬ Unbuildable target.kind
  first : (candidates m member.id).find? (IsFree m given ·) = some id

/-- How a run over constrained members ends: with the refusal of the first that is refused, or with
none. -/
inductive Settles (m : Model) : List ShapeId → List Shape → Option Error → Prop where
  | done {given : List ShapeId} : Settles m given [] none
  | refused {given : List ShapeId} {member : Shape} {rest : List Shape} {e : Error}
    (h : Refused m given member e) : Settles m given (member :: rest) (some e)
  | moved {given : List ShapeId} {member : Shape} {rest : List Shape} {id : ShapeId}
    {refusal : Option Error} (h : Moved m given member id)
    (hrest : Settles m (id :: given) rest refusal) : Settles m given (member :: rest) refusal

theorem Refused.unique {e' : Error} (h : Refused m given member e)
    (h' : Refused m given member e') : e = e' := by
  cases h with
  | unbuildable ht hk =>
    cases h' with
    | unbuildable ht' => rw [ht.unique ht']
    | exhausted ht' hk' => exact (hk' (ht.unique ht' ▸ hk)).elim
  | exhausted ht hk =>
    cases h' with
    | unbuildable ht' hk' => exact (hk (ht'.unique ht ▸ hk')).elim
    | exhausted => rfl

theorem Moved.not_refused (h : Moved m given member id) : ¬ Refused m given member e := by
  obtain ⟨target, ht, hk⟩ := h.target
  intro hrefused
  cases hrefused with
  | unbuildable ht' hk' => exact hk (ht'.unique ht ▸ hk')
  | exhausted _ _ hnone =>
    have hfree := List.find?_some h.first
    exact hnone id (List.mem_of_find?_eq_some h.first) (of_decide_eq_true hfree)

theorem Settles.unique {sites : List Shape} {refusal refusal' : Option Error}
    (h : Settles m given sites refusal) (h' : Settles m given sites refusal') :
    refusal = refusal' := by
  induction h with
  | done =>
    cases h'
    rfl
  | refused h =>
    cases h' with
    | refused h' => rw [h.unique h']
    | moved h' => exact (h'.not_refused h).elim
  | moved h _ ih =>
    cases h' with
    | refused h' => exact (h.not_refused h').elim
    | moved h' hrest =>
      cases h.first.symm.trans h'.first
      exact ih hrest

theorem Settles.exists_site {sites : List Shape} (h : Settles m given sites (some e)) :
    ∃ site ∈ sites, (∃ target, e = .unbuildableConstrainedTarget site.id target) ∨
      e = .refactoredNameExhausted site.id := by
  generalize hsome : some e = refusal at h
  induction h with
  | done => cases hsome
  | @refused _ member _ _ h =>
    cases hsome
    refine ⟨member, List.mem_cons_self, ?_⟩
    cases h with
    | unbuildable => exact .inl ⟨_, rfl⟩
    | exhausted => exact .inr rfl
  | moved _ _ ih =>
    obtain ⟨site, hsite, he⟩ := ih hsome
    exact ⟨site, List.mem_cons_of_mem _ hsite, he⟩

/-! ## What a run does -/

theorem isBuildable_eq_false {kind : ShapeKind} : isBuildable kind = false ↔ Unbuildable kind := by
  constructor
  · intro h
    cases kind with
    | operation input output errors => exact .operation input output errors
    | service version operations => exact .service version operations
    | member target => exact .member target
    | _ => cases h
  · rintro (_ | _ | _) <;> rfl

theorem freshId_eq (m : Model) (ht : ∀ id, id ∈ taken ↔ id ∈ given) (member : ShapeId) :
    freshId m taken member =
      match (candidates m member).find? (IsFree m given ·) with
      | some id => .ok id
      | none => .error (.refactoredNameExhausted member) := by
  have hfree : (fun suffix => !m.contains (candidate member suffix) &&
      !taken.contains (candidate member suffix)) =
        (fun id => decide (IsFree m given id)) ∘ candidate member := by
    funext suffix
    rw [Function.comp_apply, Bool.eq_iff_iff, decide_eq_true_iff, Bool.and_eq_true,
      Bool.not_eq_true', Bool.not_eq_true', Model.contains_eq_false, IsFree, ← ht,
      Std.ExtTreeSet.mem_iff_contains, Bool.not_eq_true]
  rw [freshId, candidates, List.find?_map, List.find?_append, ← hfree, Option.orElse_eq_orElse,
    Option.orElse_eq_or]
  cases (numbered.find? _).or ((growing "_" (m.structures.map (·.id.name))).find? _) <;> rfl

/-- The members that a shape of the model owns are there to be copied. -/
theorem exists_copies (hw : m.WellFormed) (hs : m.get? id = some s) (n : ShapeId) :
    ∃ copies, (s.kind.ownedMembers.mapM fun owned => do
      let t ← m.expect owned
      return t.copyTo (n.withMember t.memberName)) = .ok copies := by
  apply Outcome.exists_mapM_eq_ok
  intro x hx
  obtain ⟨-, t, -, -, ht, -⟩ := hw.owned hs hx
  exact ⟨_, Outcome.bind_eq_ok.mpr ⟨t, Model.expect_eq_ok.mpr ht, rfl⟩⟩

theorem extract_settles (hw : m.WellFormed) (ht : ∀ id, id ∈ taken ↔ id ∈ given)
    (hc : member.traits.isConstrained = true) (htarget : ∃ target, m.Targets member target) :
    (∃ e, extract m taken member = .error e ∧ Refused m given member e) ∨
      ∃ found, extract m taken member = .ok (some found) ∧ Moved m given member found.shape.id := by
  obtain ⟨target, htarget⟩ := htarget
  have hget := Model.memberTarget_eq_ok.mpr htarget
  cases hb : isBuildable target.kind with
  | false =>
    refine .inl ⟨_, ?_, .unbuildable htarget (isBuildable_eq_false.mp hb)⟩
    simp only [extract, hc, hget, Outcome.ok_bind, hb]
    rfl
  | true =>
    have hk : ¬ Unbuildable target.kind := by
      intro hk
      rw [isBuildable_eq_false.mpr hk] at hb
      cases hb
    have hfresh := freshId_eq m ht member.id
    cases hfind : (candidates m member.id).find? (IsFree m given ·) with
    | none =>
      rw [hfind] at hfresh
      refine .inl ⟨_, ?_, .exhausted htarget hk ?_⟩
      · simp only [extract, hc, hget, Outcome.ok_bind, hb, hfresh]
        rfl
      · intro id hid
        simpa only [decide_eq_true_eq] using List.find?_eq_none.mp hfind id hid
    | some n =>
      rw [hfind] at hfresh
      have htarget' : m.get? target.id = some target := by
        obtain ⟨t, -, ht⟩ := htarget
        cases hw.built.keyed ht
        exact ht
      obtain ⟨copies, hcopies⟩ := exists_copies hw htarget' n
      have hx : ∃ found, extract m taken member = .ok (some found) ∧ found.shape.id = n := by
        simp only [extract, hc, hget, Outcome.ok_bind, hb, hfresh, hcopies]
        exact ⟨_, rfl, rfl⟩
      obtain ⟨found, hx, rfl⟩ := hx
      exact .inr ⟨found, hx, ⟨target, htarget, hk⟩, hfind⟩

theorem visitMembers_settles (hw : m.WellFormed) {ms : List Shape} {st : State}
    (hms : ∀ member ∈ ms, ∃ target, m.Targets member target)
    (ht : ∀ id, id ∈ st.taken ↔ id ∈ given) :
    Settles m given (ms.filter (·.traits.isConstrained))
      (Outcome.fault? (visitMembers m st ms)) := by
  induction ms generalizing st given with
  | nil => exact .done
  | cons member ms ih =>
    have hrest := fun member hmem => hms member (List.mem_cons_of_mem _ hmem)
    cases hc : member.traits.isConstrained with
    | false =>
      rw [List.filter_cons, hc, visitMembers, extract_of_not_constrained hc]
      exact ih hrest ht
    | true =>
      rw [List.filter_cons, hc, visitMembers]
      rcases extract_settles hw ht hc (hms member List.mem_cons_self) with
        ⟨e, hx, hrefused⟩ | ⟨found, hx, hmoved⟩
      · rw [hx]
        exact .refused hrefused
      · rw [hx]
        apply Settles.moved hmoved
        apply ih hrest
        intro id
        rw [ShapeIds.mem_insert, List.mem_cons, ht]

/-- What a run puts into the model points only at what is there afterwards. -/
theorem Lifting.closed (hw : m.WellFormed) (hl : Lifting m m') : m'.Closed := by
  have hkept {id s} (hs : m.get? id = some s) : ∃ t, m'.get? id = some t := by
    by_cases hsite : m.Site id s
    · obtain ⟨n, target, -, hget⟩ := hl.moved hsite
      exact ⟨_, hget⟩
    · exact ⟨s, hl.kept hs hsite⟩
  have hreferences {id s r} (hs : m.get? id = some s) (hr : r ∈ s.references) :
      ∃ t, m'.get? r = some t := by
    obtain ⟨t, ht⟩ := hw.built.closed hs hr
    exact hkept ht
  intro id s r hs hr
  cases hid : m.contains id with
  | true =>
    obtain ⟨t, ht⟩ := Model.contains_iff.mp hid
    by_cases hsite : m.Site id t
    · obtain ⟨n, target, hlift, hget⟩ := hl.moved hsite
      cases hs.symm.trans hget
      cases List.mem_singleton.mp hr
      exact ⟨_, hlift.shape⟩
    · cases hs.symm.trans (hl.kept ht hsite)
      exact hreferences ht hr
  | false =>
    obtain ⟨i, member, target, n, hsite, hlift, hcase⟩ :=
      hl.new (Model.contains_iff.mpr ⟨s, hs⟩) hid
    rcases hcase with rfl | ⟨x, -, rfl⟩
    · rcases hlift.mem_references hw hs hr with ⟨x, hx, rfl⟩ | href
      · obtain ⟨-, original, -, -, horiginal, -⟩ := hw.owned (hlift.target_get? hw) hx
        refine ⟨{ original with id := id.withMember x }, ?_⟩
        rw [hlift.copies, if_pos hx, horiginal]
        rfl
      · exact hreferences (hlift.target_get? hw) href
    · obtain ⟨original, -, horiginal, rfl⟩ := hlift.copy hs
      exact hreferences horiginal hr

/-- Once all that is to be extracted is known, nothing goes wrong any more. -/
theorem fault?_extractConstraints (hw : m.WellFormed) :
    Outcome.fault? m.extractConstraints = Outcome.fault? (visitRoots m {} (roots m)) := by
  rw [Model.extractConstraints]
  cases hst : visitRoots m {} (roots m) with
  | error e => rfl
  | ok st =>
    have hclosed : (m.insertAll (st.extracts.flatMap Extract.shapes)).Closed :=
      ((visitRoots_result hw.built.keyed hst).lifting hw).closed hw
    rw [Outcome.ok_bind]
    split
    · rfl
    · dsimp only
      rw [Model.validate_eq_ok.mpr hclosed]
      rfl

theorem extractConstraints_settles (hw : m.WellFormed) :
    ∃ sites, SiteOrder m sites ∧ Settles m [] sites (Outcome.fault? m.extractConstraints) := by
  obtain ⟨found, visited, members, hfound, hmembers, heq⟩ := visitRoots_roots hw.built.closed
  refine ⟨_, ⟨m.operations, found, visited, members, operationOrder hw.built.keyed, hfound,
    hmembers, rfl⟩, ?_⟩
  have hfault : Outcome.fault? (visitRoots m {} (roots m)) =
      Outcome.fault? (visitMembers m {} members) := by
    rw [heq]
    cases visitMembers m {} members <;> rfl
  rw [fault?_extractConstraints hw, hfault]
  apply visitMembers_settles hw
  · intro member hmember
    obtain ⟨i, id, s, -, hs, -, hi, hget⟩ := hmembers.live hfound hmember
    exact hw.exists_target hs hi hget
  · intro id
    exact iff_of_false Std.ExtTreeSet.not_mem_empty List.not_mem_nil

end Extraction

/-- The first constrained member, in the order of a visit, that cannot be moved decides how an
extraction fails; where there is none, it succeeds, and what it gives is valid. -/
theorem Model.extractConstraints_refusal (hw : m.WellFormed) :
    (∃ sites, Extraction.SiteOrder m sites) ∧ ∀ sites, Extraction.SiteOrder m sites →
      (∀ e, m.extractConstraints = .error e ↔ Extraction.Settles m [] sites (some e)) ∧
      ((∃ m', m.extractConstraints = .ok m' ∧ m'.validate = .ok ()) ↔
        Extraction.Settles m [] sites none) ∧
      ∀ e, m.extractConstraints = .error e → ∃ site ∈ sites,
        (∃ target, e = .unbuildableConstrainedTarget site.id target) ∨
          e = .refactoredNameExhausted site.id := by
  obtain ⟨sites, horder, hsettles⟩ := Extraction.extractConstraints_settles hw
  refine ⟨⟨sites, horder⟩, ?_⟩
  intro sites' horder'
  cases horder.unique horder'
  have hiff (refusal : Option Error) : Outcome.fault? m.extractConstraints = refusal ↔
      Extraction.Settles m [] sites refusal :=
    ⟨fun h => h ▸ hsettles, hsettles.unique⟩
  have herror (e : Error) : m.extractConstraints = .error e ↔
      Extraction.Settles m [] sites (some e) :=
    Outcome.fault?_eq_some.symm.trans (hiff (some e))
  refine ⟨herror, ?_, fun e he => ((herror e).mp he).exists_site⟩
  rw [← hiff none, Outcome.fault?_eq_none]
  constructor
  · rintro ⟨m', hm', -⟩
    exact ⟨m', hm'⟩
  · rintro ⟨m', hm'⟩
    obtain ⟨-, -, -, hclosed⟩ :=
      Extraction.extractConstraints_eq_ok hw.built.keyed hw.built.closed hm'
    exact ⟨m', hm', Model.validate_eq_ok.mpr hclosed⟩

namespace Extraction

/-- Two members that target operations, of which the one that is met first was added last. -/
def callersBuilder : Builder :=
  ({} : Builder)
    |>.perform (.structure "ns#Late" [] [⟨"call", "ns#A", [.uniqueItems]⟩])
    |>.perform (.structure "ns#Early" []
      [⟨"name", "smithy.api#String", [.pattern "a"]⟩, ⟨"call", "ns#B", [.uniqueItems]⟩])
    |>.perform (.operation "ns#B" (some "ns#Late") none [])
    |>.perform (.operation "ns#A" (some "ns#Early") none [])

def callers : Model :=
  callersBuilder.model

def callersRefusal : Error :=
  .unbuildableConstrainedTarget ((ShapeId.root "ns" "Early").withMember "call") (.root "ns" "B")

theorem callers_checked :
    callersBuilder.build.1.toOption.isSome = true ∧
    (∀ s ∈ callers.toList, ∀ x ∈ s.kind.ownedMembers,
      x = s.id.withMember (x.member.getD "") ∧ ((callers.get? x).bind Shape.target?).isSome) ∧
    (∀ s ∈ callers.toList, callers.contains s.id.container = true) := by
  decide +kernel

theorem callers_wellFormed : callers.WellFormed :=
  .of_toList
    (Builder.Reached.built (.perform (.perform (.perform (.perform .start _) _) _) _)
      callers_checked.1)
    callers_checked.2.1 callers_checked.2.2

theorem callers_refused : callers.extractConstraints = .error callersRefusal := by
  rfl

end Extraction

theorem Model.extractConstraints_refusal_callers :
    Extraction.callers.WellFormed ∧
      Extraction.callers.extractConstraints = .error Extraction.callersRefusal ∧
      ∃ sites, Extraction.SiteOrder Extraction.callers sites ∧
        Extraction.Settles Extraction.callers [] sites (some Extraction.callersRefusal) := by
  obtain ⟨⟨sites, horder⟩, hrefusal⟩ :=
    Model.extractConstraints_refusal Extraction.callers_wellFormed
  have hsettles := ((hrefusal sites horder).1 _).mp Extraction.callers_refused
  exact ⟨Extraction.callers_wellFormed, Extraction.callers_refused, sites, horder, hsettles⟩

end CrateGen
