import CrateGen.Model.Retryable
import CrateGen.Proofs.Model.Session
import CrateGen.Proofs.Name.Word
import CrateGen.Proofs.Outcome

namespace CrateGen

open Outcome

/-- The errors of templates and of the files that they are written into, also where a decorator
reports them. -/
def Error.IsTemplateFault : Error → Prop
  | .missingTemplateKey _ _ | .duplicateTemplateKey _ | .invalidTemplateArgument _ _ _
  | .namespaceOutsideCrate _ _ | .unknownFile _ => True
  | .decorator _ source => source.IsTemplateFault
  | _ => False

/-- The computation gives such a result, or an error that is not of a template. -/
abbrev Faultless {α : Type} (P : α → Prop) : Except Error α → Prop :=
  Ends (fun e => ¬e.IsTemplateFault) P

namespace Model

variable {m : Model}

theorem Worded.isWords {s : Shape} (hm : m.Worded) (h : s ∈ m.toList) : s.id.IsWords := by
  obtain ⟨id, hs⟩ := mem_toList.mp h
  exact hm id s hs

theorem Worded.insertAll {ss : List Shape} (hm : m.Worded) (h : ∀ s ∈ ss, s.id.IsWords) :
    (m.insertAll ss).Worded := by
  intro id s hs
  rcases get?_insertAll_cases hs with ⟨hmem, -⟩ | hold
  · exact h s hmem
  · exact hm id s hold

theorem expect_faultless (m : Model) (id : ShapeId) : Faultless (· ∈ m.toList) (m.expect id) := by
  unfold expect
  split
  · next s hs => exact .ok (mem_toList.mpr ⟨id, hs⟩)
  · exact .error not_false

theorem memberTarget_faultless (m : Model) (member : Shape) :
    Faultless (· ∈ m.toList) (m.memberTarget member) := by
  unfold memberTarget
  split
  · exact m.expect_faultless _
  · exact .error not_false

theorem membersOf_faultless (m : Model) (s : Shape) :
    Faultless (fun members => ∀ member ∈ members, member ∈ m.toList) (m.membersOf s) :=
  .mapM fun id _ => m.expect_faultless id

theorem serviceOperations_faultless (m : Model) (service : ShapeId) :
    Faultless (fun operations => ∀ operation ∈ operations, operation ∈ m.toList)
      (m.serviceOperations service) := by
  refine (m.expect_faultless service).bind fun s _ => ?_
  split
  · refine (Ends.mapM fun id _ => m.expect_faultless id).bind fun shapes hshapes => .ok ?_
    exact fun operation hmem => hshapes operation (List.mem_mergeSort.mp hmem)
  · exact .error not_false

theorem validate_faultless (m : Model) : Faultless (fun _ => True) m.validate := by
  unfold validate
  split
  · next e he =>
    obtain ⟨s, -, hs⟩ := List.exists_of_findSome?_eq_some he
    obtain ⟨r, -, rfl⟩ := Option.map_eq_some_iff.mp hs
    exact .error not_false
  · exact .ok trivial

theorem markRetryable_faultless (hm : m.Worded) (ids : ShapeIds) :
    Faultless Worded (m.markRetryable ids) := by
  have hmarked : (m.insertAll ((m.errorStructures ids).map asRetryable)).Worded := by
    apply hm.insertAll
    intro s hs
    obtain ⟨original, hmem, rfl⟩ := List.mem_map.mp hs
    obtain ⟨id, -, hid⟩ := List.mem_filterMap.mp (List.mem_of_mem_filter hmem)
    exact hm id original hid
  exact (validate_faultless _).bind fun _ _ => .ok hmarked

end Model

/-! ## Models that builders give -/

theorem MemberDef.isWords_of_mem_declared {container : ShapeId} {d : MemberDef} {x : Declaration}
    (h : x ∈ d.declared container) : x.id.IsWords := by
  unfold declared at h
  split at h
  · next hid =>
    cases List.mem_singleton.mp h
    exact ShapeId.isWords_of_parse? hid
  · cases h

namespace Builder

theorem isWords_of_mem_declaredAggregate {root : ShapeId} (hroot : root.IsWords)
    {kind : List ShapeId → ShapeKind} {traits : List Trait} {members : List MemberDef}
    {x : Declaration} (h : x ∈ declaredAggregate root kind traits members) : x.id.IsWords := by
  rcases List.mem_append.mp h with hmem | hself
  · obtain ⟨d, -, hx⟩ := List.mem_flatMap.mp hmem
    exact MemberDef.isWords_of_mem_declared hx
  · cases List.mem_singleton.mp hself
    exact hroot

theorem Command.isWords_of_mem_declared {c : Command} (hc : ∀ s, c = .add s → s.id.IsWords)
    {x : Declaration} (h : x ∈ c.declared) : x.id.IsWords := by
  have hroot {raw : String} {f : ShapeId → List Declaration}
      (hf : ∀ root, root.IsWords → ∀ x ∈ f root, x.id.IsWords)
      (h : x ∈ (ShapeId.parse? raw).elim [] f) : x.id.IsWords := by
    cases hraw : ShapeId.parse? raw with
    | none =>
      rw [hraw] at h
      cases h
    | some root =>
      rw [hraw] at h
      exact hf root (ShapeId.isWords_of_parse? hraw) x h
  have hsimple {raw : String} {f : ShapeId → Declaration} (hf : ∀ id, (f id).id = id)
      (h : x ∈ (ShapeId.parse? raw).toList.map f) : x.id.IsWords := by
    obtain ⟨id, hid, rfl⟩ := List.mem_map.mp h
    rw [hf]
    exact ShapeId.isWords_of_parse? (Option.mem_toList.mp hid)
  cases c with
  | «structure» => exact hroot (fun root hw x => isWords_of_mem_declaredAggregate hw) h
  | union => exact hroot (fun root hw x => isWords_of_mem_declaredAggregate hw) h
  | list =>
    refine hroot (fun root hw x hx => ?_) h
    rcases List.mem_append.mp hx with hx | hx
    · exact MemberDef.isWords_of_mem_declared hx
    · obtain ⟨item, -, rfl⟩ := List.mem_map.mp hx
      exact hw
  | map =>
    refine hroot (fun root hw x hx => ?_) h
    rcases List.mem_append.mp hx with hx | hx
    · rcases List.mem_append.mp hx with hx | hx <;> exact MemberDef.isWords_of_mem_declared hx
    · split at hx
      · cases List.mem_singleton.mp hx
        exact hw
      · cases hx
  | primitive => exact hsimple (fun _ => rfl) h
  | enumeration => exact hsimple (fun _ => rfl) h
  | operation => exact hsimple (fun _ => rfl) h
  | service => exact hsimple (fun _ => rfl) h
  | add s =>
    cases List.mem_singleton.mp h
    exact hc s rfl

theorem worded_start : ({} : Builder).model.Worded :=
  Model.worded_of_toList (by decide +kernel)

/-- After any calls the ids of a builder are made of words, if those of the shapes that are added
as they are have been read as well. -/
theorem worded_foldl_perform {b : Builder} (hb : b.model.Worded) (cs : List Command)
    (h : ∀ c ∈ cs, ∀ s, c = .add s → s.id.IsWords) : (cs.foldl perform b).model.Worded := by
  induction cs generalizing b with
  | nil => exact hb
  | cons c cs ih =>
    have hc := h c List.mem_cons_self
    have hperform : (b.perform c).model.Worded := by
      rw [perform_eq]
      refine hb.insertAll fun s hs => ?_
      obtain ⟨d, hd, rfl⟩ := List.mem_map.mp hs
      exact Command.isWords_of_mem_declared hc hd
    exact ih hperform fun c' hmem => h c' (List.mem_cons_of_mem _ hmem)

end Builder

end CrateGen
