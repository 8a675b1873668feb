import CrateGen.Model.Extraction
import CrateGen.Proofs.Model.Faults

namespace CrateGen

open Outcome

namespace Extraction

variable {m : Model} {taken : ShapeIds}

theorem isWord_of_mem_numbered {suffix : String} (h : suffix ∈ numbered) :
    Name.IsWord suffix := by
  have hall : (numbered.all fun s => s.toList.all Name.isAsciiWord) = true := by
    decide +kernel
  exact List.all_eq_true.mp hall suffix h

theorem isWord_of_mem_growing {before suffix : String} {names : List String}
    (hbefore : Name.IsWord before) (hnames : ∀ name ∈ names, Name.IsWord name)
    (h : suffix ∈ growing before names) : Name.IsWord suffix := by
  induction names generalizing before with
  | nil => cases h
  | cons name names ih =>
    have hgrown := hbefore.append (hnames name List.mem_cons_self)
    rcases List.mem_cons.mp h with rfl | h
    · exact hgrown
    · exact ih hgrown (fun name hmem => hnames name (List.mem_cons_of_mem _ hmem)) h

theorem candidate_isWords {member : ShapeId} {suffix : String} (h : member.IsWords)
    (hs : Name.IsWord suffix) : (candidate member suffix).IsWords := by
  have hmember : Name.IsWord (member.member.getD "") := by
    cases hm : member.member with
    | none => rfl
    | some name => exact h.2 name hm
  have hword : Name.IsWord "Refactored" := by
    decide
  exact ⟨((hword.append h.1).append hmember.capitalize).append hs, fun _ hm => by cases hm⟩

/-- The id that is found is made of words, or none is found. -/
theorem freshId_faultless (hm : m.Worded) {member : ShapeId} (h : member.IsWords) :
    Faultless ShapeId.IsWords (freshId m taken member) := by
  unfold freshId
  dsimp only
  split
  · next suffix hs =>
    refine .ok (candidate_isWords h ?_)
    rw [Option.orElse_eq_orElse, Option.orElse_eq_or] at hs
    rcases Option.or_eq_some_iff.mp hs with hfind | ⟨-, hfind⟩
    · exact isWord_of_mem_numbered (List.mem_of_find?_eq_some hfind)
    · refine isWord_of_mem_growing (by decide) ?_ (List.mem_of_find?_eq_some hfind)
      intro name hname
      obtain ⟨s, hs, rfl⟩ := List.mem_map.mp hname
      exact (hm.isWords (List.mem_of_mem_filter hs)).1
  · exact .error not_false

/-- The shapes of an extract have words for their ids. -/
def Extract.Worded (e : Extract) : Prop :=
  ∀ s ∈ e.shapes, s.id.IsWords

theorem extract_faultless (hm : m.Worded) {member : Shape} (h : member.id.IsWords) :
    Faultless (fun found => ∀ e ∈ found, e.Worded) (extract m taken member) := by
  unfold extract
  split
  · exact .ok fun e he => (Option.not_mem_none e he).elim
  refine (m.memberTarget_faultless member).bind fun target _ => ?_
  dsimp only
  split
  · exact .error not_false
  refine (freshId_faultless hm h).bind fun id hid => ?_
  have hcopy (owned : ShapeId) : Faultless (·.id.IsWords) (do
      let s ← m.expect owned
      return s.copyTo (id.withMember s.memberName)) :=
    (m.expect_faultless owned).bind fun s hs =>
      .ok ⟨hid.1, fun name hname => by
        cases hname
        exact (hm.isWords hs).memberName⟩
  refine (Ends.mapM fun owned _ => hcopy owned).bind fun members hmembers => .ok ?_
  intro e he
  cases he
  intro s hs
  rcases List.mem_append.mp hs with hs | hs
  · rcases List.mem_cons.mp hs with rfl | hs
    · exact hid
    · exact hmembers s hs
  · cases List.mem_singleton.mp hs
    exact h

def State.Worded (st : State) : Prop :=
  ∀ e ∈ st.extracts, e.Worded

theorem visitMembers_faultless (hm : m.Worded) {ms : List Shape} (hms : ∀ s ∈ ms, s.id.IsWords)
    {st : State} (hst : st.Worded) : Faultless State.Worded (visitMembers m st ms) := by
  induction ms generalizing st with
  | nil => exact .ok hst
  | cons member ms ih =>
    have hrest := fun s hs => hms s (List.mem_cons_of_mem _ hs)
    refine (extract_faultless hm (hms member List.mem_cons_self)).bind fun found hfound => ?_
    cases found with
    | none => exact ih hrest hst
    | some e =>
      refine ih hrest fun e' he' => ?_
      rcases List.mem_append.mp he' with he' | he'
      · exact hst e' he'
      · cases List.mem_singleton.mp he'
        exact hfound e rfl

theorem visitShapes_faultless (hm : m.Worded) (ss : List Shape) {st : State} (hst : st.Worded) :
    Faultless State.Worded (visitShapes m st ss) := by
  induction ss generalizing st with
  | nil => exact .ok hst
  | cons s ss ih =>
    unfold visitShapes
    split
    · refine (m.membersOf_faultless s).bind fun members hmembers => ?_
      exact (visitMembers_faultless hm (fun s hs => hm.isWords (hmembers s hs)) hst).bind
        fun st' hst' => ih hst'
    · exact ih hst

theorem visitRoots_faultless (hm : m.Worded) (ids : List ShapeId) {st : State} (hst : st.Worded) :
    Faultless State.Worded (visitRoots m st ids) := by
  induction ids generalizing st with
  | nil => exact .ok hst
  | cons root ids ih =>
    refine (m.expect_faultless root).discard.bind fun _ _ => ?_
    have hwalked : State.Worded { st with visited := (m.walk root st.visited).2 } := hst
    exact (visitShapes_faultless hm _ hwalked).bind fun st' hst' => ih hst'

end Extraction

/-- What is extracted gets ids of words. -/
theorem Model.extractConstraints_faultless {m : Model} (hm : m.Worded) :
    Faultless Model.Worded m.extractConstraints := by
  have hstart : Extraction.State.Worded {} := fun e he => (List.not_mem_nil he).elim
  refine (Extraction.visitRoots_faultless hm _ hstart).bind fun st hst => ?_
  split
  · exact .ok hm
  have hresult : (m.insertAll (st.extracts.flatMap Extraction.Extract.shapes)).Worded := by
    refine hm.insertAll fun s hs => ?_
    obtain ⟨e, he, hse⟩ := List.mem_flatMap.mp hs
    exact hst e he s hse
  exact (Model.validate_faultless _).bind fun _ _ => .ok hresult

end CrateGen
