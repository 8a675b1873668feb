import CrateGen.Proofs.Extraction.Lifting
import CrateGen.Proofs.Model.Marking

/-!
Extraction commutes with the marking of errors. It reads ids, kinds and members only, none of which
the marks change; and no shape that it makes is an error, since it takes over nothing but the
constraints of a member.
-/

namespace CrateGen

variable {m : Model} {f : Shape → Shape} {id x : ShapeId} {s : Shape}

/-- A copy under traits of its own depends on the kind alone. -/
theorem Shape.copyTo_withTraits {s t : Shape} (h : s.kind = t.kind) (id : ShapeId) (ts : Traits) :
    (s.copyTo id).withTraits ts = (t.copyTo id).withTraits ts := by
  simp only [copyTo, withTraits, h]

namespace Extraction

variable (hf : Shape.Remarks f)
include hf

theorem roots_map (m : Model) : roots (m.map f) = roots m := by
  rw [roots, roots, Model.operations_map hf, List.flatMap_map]
  refine congrArg (fun g => m.operations.flatMap g) (funext fun s => ?_)
  rw [hf.kind_eq]

theorem structures_map_name (m : Model) :
    (m.map f).structures.map (·.id.name) = m.structures.map (·.id.name) := by
  have hstructure : Shape.isStructure ∘ f = Shape.isStructure := funext hf.isStructure_eq
  rw [Model.structures, Model.structures, Model.toList_map, List.filter_map, hstructure,
    List.map_map]
  refine congrArg (fun g => (m.toList.filter Shape.isStructure).map g) (funext fun s => ?_)
  rw [Function.comp_apply, hf.id_eq]

theorem freshId_map (m : Model) (taken : ShapeIds) (member : ShapeId) :
    freshId (m.map f) taken member = freshId m taken member := by
  simp only [freshId, Model.contains_map, structures_map_name hf]

variable (hw : m.WellFormed)
include hw

/-- The members that a shape owns carry no marks. -/
theorem expect_owned_map (hs : m.get? id = some s) (hx : x ∈ s.kind.ownedMembers) :
    (m.map f).expect x = m.expect x := by
  obtain ⟨-, member, target, -, hmember, hk⟩ := hw.owned hs hx
  rw [Model.expect_map, Model.expect_eq_ok.mpr hmember]
  exact congrArg Except.ok (hf.eq_of_member hk)

theorem membersOf_map (hs : m.get? id = some s) : (m.map f).membersOf (f s) = m.membersOf s := by
  rw [Model.membersOf, Model.membersOf, hf.memberIds_eq]
  exact Outcome.mapM_congr fun x hx =>
    expect_owned_map hf hw hs (Shape.mem_ownedMembers hx)

theorem extract_map (taken : ShapeIds) (member : Shape) :
    extract (m.map f) taken member = extract m taken member := by
  cases hc : member.traits.isConstrained with
  | false => rw [extract_of_not_constrained hc, extract_of_not_constrained hc]
  | true =>
    have htarget : (m.map f).memberTarget member = f <$> m.memberTarget member := by
      unfold Model.memberTarget
      split
      · exact Model.expect_map f m _
      · rfl
    unfold extract
    rw [hc, htarget]
    cases hm : m.memberTarget member with
    | error e => rfl
    | ok target =>
      obtain ⟨t, -, ht⟩ := Model.memberTarget_eq_ok.mp hm
      have hcopies (n : ShapeId) :
          (target.kind.ownedMembers.mapM fun owned => do
            let s ← (m.map f).expect owned
            return s.copyTo (n.withMember s.memberName)) =
          target.kind.ownedMembers.mapM fun owned => do
            let s ← m.expect owned
            return s.copyTo (n.withMember s.memberName) :=
        Outcome.mapM_congr fun x hx => by rw [expect_owned_map hf hw ht hx]
      have hok : (Except.ok target : Except Error Shape) = pure target := rfl
      simp only [hok, map_pure, pure_bind, hf.kind_eq, hf.id_eq, freshId_map hf, hcopies,
        Shape.copyTo_withTraits (hf.kind_eq target)]

theorem visitMembers_map (st : State) (ms : List Shape) :
    visitMembers (m.map f) st ms = visitMembers m st ms := by
  induction ms generalizing st with
  | nil => rfl
  | cons member ms ih => simp only [visitMembers, extract_map hf hw, ih]

theorem visitShapes_map (st : State) {ss : List Shape} (hss : ∀ s ∈ ss, ∃ id, m.get? id = some s) :
    visitShapes (m.map f) st (ss.map f) = visitShapes m st ss := by
  induction ss generalizing st with
  | nil => rfl
  | cons s ss ih =>
    obtain ⟨id, hs⟩ := hss s List.mem_cons_self
    have ih (st : State) := ih st fun t ht => hss t (List.mem_cons_of_mem _ ht)
    simp only [List.map_cons, visitShapes, hf.isStructure_eq, membersOf_map hf hw hs,
      visitMembers_map hf hw, ih]

theorem visitRoots_map (st : State) (rs : List ShapeId) :
    visitRoots (m.map f) st rs = visitRoots m st rs := by
  induction rs generalizing st with
  | nil => rfl
  | cons root rs ih =>
    have hfound : ∀ s ∈ (m.walk root st.visited).1, ∃ id, m.get? id = some s := by
      intro s hs
      obtain ⟨id, hid, -⟩ := (Model.walk_walked hw.built.keyed root st.visited).finds hs
      exact ⟨id, hid⟩
    have hroot : discard ((m.map f).expect root) = discard (m.expect root) := by
      rw [Model.expect_map]
      cases m.expect root <;> rfl
    simp only [visitRoots, hroot, Model.walk_map hf, visitShapes_map hf hw _ hfound, ih]

theorem Result.map_shapes {es : List Extract} (hr : Result m es) :
    (es.flatMap Extract.shapes).map f = es.flatMap Extract.shapes := by
  refine List.map_congr_left (fun s hs => ?_) |>.trans (List.map_id _)
  obtain ⟨e, he, hcase⟩ := mem_shapes.mp hs
  obtain ⟨i, member, target, hsite, hx⟩ := hr.sound he
  rcases hcase with rfl | hcopy | rfl
  · refine hf.fixed ?_
    have herror : e.shape.isError = false := by
      rw [hx.shape_eq]
      rfl
    rw [herror, Bool.and_false]
  · obtain ⟨x, original, howned, horiginal, rfl⟩ := (hx.mem_members hw).mp hcopy
    obtain ⟨-, t, r, -, ht, hk⟩ := hw.owned (hx.target_get? hw) howned
    cases horiginal.symm.trans ht
    exact hf.eq_of_member hk
  · rw [hx.member_id hw.built.keyed hsite.1.get?]
    exact hf.eq_of_member rfl

theorem extractConstraints_map :
    (m.map f).extractConstraints = (m.extractConstraints).map (Model.map f) := by
  have hroots : roots (m.map f) = roots m := roots_map hf m
  rw [Model.extractConstraints, Model.extractConstraints, hroots, visitRoots_map hf hw]
  cases hst : visitRoots m {} (roots m) with
  | error e => rfl
  | ok st =>
    have hr := visitRoots_result hw.built.keyed hst
    have hshapes := Model.insertAll_map hf m (st.extracts.flatMap Extract.shapes)
    rw [hr.map_shapes hf hw] at hshapes
    change (if st.extracts.isEmpty then pure (m.map f) else do
        ((m.map f).insertAll (st.extracts.flatMap Extract.shapes)).validate
        pure ((m.map f).insertAll (st.extracts.flatMap Extract.shapes))) =
      (if st.extracts.isEmpty then pure m else do
        (m.insertAll (st.extracts.flatMap Extract.shapes)).validate
        pure (m.insertAll (st.extracts.flatMap Extract.shapes))).map (Model.map f)
    rw [← hshapes, Model.validate_map hf]
    cases st.extracts.isEmpty with
    | true => rfl
    | false =>
      cases (m.insertAll (st.extracts.flatMap Extract.shapes)).validate <;> rfl

end Extraction

/-- The errors can be marked before or after the extraction. -/
theorem Model.extractConstraints_markRetryable (hw : m.WellFormed) (ids : ShapeIds) :
    (m.markRetryable ids >>= Model.extractConstraints) =
      (m.extractConstraints >>= fun m' => m'.markRetryable ids) := by
  rw [markRetryable_eq hw.built.keyed hw.built.closed ids]
  change (m.map (mark ids)).extractConstraints = _
  rw [Extraction.extractConstraints_map (remarks_mark ids) hw]
  cases h : m.extractConstraints with
  | error e => rfl
  | ok m' =>
    obtain ⟨es, -, rfl, hc⟩ :=
      Extraction.extractConstraints_eq_ok hw.built.keyed hw.built.closed h
    exact (markRetryable_eq (Keyed.insertAll hw.built.keyed _) hc ids).symm

namespace Extraction

/-- A constrained member whose target is an error that holds another one. -/
def faultyBuilder : Builder :=
  ({} : Builder)
    |>.perform (.structure "ns#Fault" [.error .client]
      [⟨"code", "smithy.api#String", [.pattern "a"]⟩])
    |>.perform (.structure "ns#Input" [] [⟨"cause", "ns#Fault", [.uniqueItems]⟩])
    |>.perform (.operation "ns#Op" (some "ns#Input") none ["ns#Fault"])

def faulty : Model :=
  faultyBuilder.model

/-- The error, its member and the shape that is extracted from the member of the input. -/
def faultyIds : ShapeIds :=
  .ofList [.root "ns" "Fault", (ShapeId.root "ns" "Fault").withMember "code",
    .root "ns" "RefactoredInputCause"]

theorem faulty_checked :
    faultyBuilder.build.1.toOption.isSome = true ∧
    (∀ s ∈ faulty.toList, ∀ x ∈ s.kind.ownedMembers,
      x = s.id.withMember (x.member.getD "") ∧ ((faulty.get? x).bind Shape.target?).isSome) ∧
    (∀ s ∈ faulty.toList, faulty.contains s.id.container = true) ∧
    (faulty.extractConstraints >>= (·.markRetryable faultyIds)).toOption.isSome = true ∧
    (faulty.extractConstraints >>= (·.markRetryable faultyIds)).toOption ≠
      faulty.extractConstraints.toOption ∧
    (faulty.extractConstraints >>= (·.markRetryable faultyIds)).toOption ≠
      (faulty.markRetryable faultyIds).toOption := by
  decide +kernel

theorem faulty_wellFormed : faulty.WellFormed :=
  .of_toList (Builder.Reached.built (.perform (.perform (.perform .start _) _) _) faulty_checked.1)
    faulty_checked.2.1 faulty_checked.2.2.1

end Extraction

theorem Model.extractConstraints_markRetryable_faulty :
    ∃ m', Extraction.faulty.WellFormed ∧
      (Extraction.faulty.markRetryable Extraction.faultyIds >>= extractConstraints) = .ok m' ∧
      (Extraction.faulty.extractConstraints >>= fun m' => m'.markRetryable Extraction.faultyIds) =
        .ok m' ∧
      Extraction.faulty.extractConstraints ≠ .ok m' ∧
      Extraction.faulty.markRetryable Extraction.faultyIds ≠ .ok m' := by
  have hcommute := extractConstraints_markRetryable Extraction.faulty_wellFormed
    Extraction.faultyIds
  obtain ⟨-, -, -, hok, hmarked, hextracted⟩ := Extraction.faulty_checked
  obtain ⟨m', h⟩ := Outcome.exists_of_isSome hok
  rw [h] at hmarked hextracted
  refine ⟨m', Extraction.faulty_wellFormed, hcommute.trans h, h, fun heq => ?_, fun heq => ?_⟩
  · rw [heq] at hmarked
    exact hmarked rfl
  · rw [heq] at hextracted
    exact hextracted rfl

end CrateGen
