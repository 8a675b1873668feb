import CrateGen.Proofs.Extraction.Faults
import CrateGen.Proofs.Extraction.Refusal
import CrateGen.Proofs.Name.Identifiers

/-!
The ids that are tried for what is extracted from a member, each by its place, and which of them is
found. The first 101 are made from the member alone, the others also from the names of the first
structures of the model.
-/

namespace CrateGen

open Name (IsWord)
open ShapeId (IsPart parse?)

variable {m : Model} {taken : ShapeIds} {member id : ShapeId} {ss : List Shape} {s : String}
  {names : List String} {i : Nat}

namespace Extraction

/-- The structures of a model, in the order of their ids. -/
structure StructureOrder (m : Model) (ss : List Shape) : Prop where
  ascending : ss.Pairwise fun s t => compare s.id t.id = .lt
  mem_iff : ∀ s, s ∈ ss ↔ s.isStructure = true ∧ m.get? s.id = some s

theorem structureOrder (hk : m.Keyed) : StructureOrder m m.structures where
  ascending := (Model.toList_ascending hk).filter _
  mem_iff s := by
    rw [Model.structures, List.mem_filter, hk.mem_toList, and_comm]

theorem StructureOrder.eq_structures (hk : m.Keyed) (h : StructureOrder m ss) :
    ss = m.structures :=
  eq_of_ascending h.ascending (structureOrder hk).ascending fun s =>
    (h.mem_iff s).trans ((structureOrder hk).mem_iff s).symm

/-- The suffix in a place: none, then the numbers below a hundred, then as many names of structures
as there are places behind the numbers. -/
def suffixAt (names : List String) : Nat → String
  | 0 => ""
  | i + 1 =>
    if i < 100 then "_" ++ toString i else "_" ++ String.join (names.take (i - 99))

def tried (ss : List Shape) (member : ShapeId) (i : Nat) : ShapeId :=
  .root member.ns ("Refactored" ++ member.name ++ Name.capitalize (member.member.getD "") ++
    suffixAt (ss.map (·.id.name)) i)

def Unused (m : Model) (taken : ShapeIds) (id : ShapeId) : Prop :=
  m.contains id = false ∧ id ∉ taken

/-- The first of the ids that are tried that is not used is in this place. -/
structure FirstUnused (m : Model) (taken : ShapeIds) (ss : List Shape) (member : ShapeId)
    (i : Nat) : Prop where
  bound : i < 101 + ss.length
  unused : Unused m taken (tried ss member i)
  before : ∀ j < i, ¬Unused m taken (tried ss member j)

/-! ## Places -/

theorem growing_eq (before : String) (names : List String) :
    growing before names =
      (List.range names.length).map fun k => before ++ String.join (names.take (k + 1)) := by
  induction names generalizing before with
  | nil => rfl
  | cons name names ih =>
    rw [growing, ih, List.length_cons, List.range_succ_eq_map, List.map_cons, List.map_map,
      List.take_succ_cons, List.take_zero, String.join_cons, String.join_nil, String.append_empty]
    refine congrArg _ (List.map_congr_left fun k _ => ?_)
    rw [Function.comp_apply, List.take_succ_cons, String.join_cons, String.append_assoc]

theorem suffixes_eq (names : List String) :
    numbered ++ growing "_" names = (List.range (101 + names.length)).map (suffixAt names) := by
  rw [List.range_add, List.map_append, List.map_map, List.range_succ_eq_map, List.map_cons,
    List.map_map, growing_eq]
  refine congrArg₂ (· ++ ·) (congrArg _ ?_) ?_
  · refine List.map_congr_left fun i hi => ?_
    exact (if_pos (List.mem_range.mp hi)).symm
  · refine List.map_congr_left fun k _ => ?_
    rw [Function.comp_apply, Nat.add_right_comm 100 1 k, suffixAt, if_neg (by omega)]
    congr 3
    omega

theorem candidates_eq (m : Model) (member : ShapeId) :
    candidates m member =
      (List.range (101 + m.structures.length)).map (tried m.structures member) := by
  rw [candidates, suffixes_eq, List.length_map, List.map_map]
  rfl

theorem unused_iff : Unused m taken id ↔ IsFree m taken.toList id := by
  rw [Unused, IsFree, Model.contains_eq_false, Std.ExtTreeSet.mem_toList]

theorem freshId_eq_tried (m : Model) (taken : ShapeIds) (member : ShapeId) :
    freshId m taken member =
      match (List.range (101 + m.structures.length)).find? fun i =>
        IsFree m taken.toList (tried m.structures member i) with
      | some i => .ok (tried m.structures member i)
      | none => .error (.refactoredNameExhausted member) := by
  rw [freshId_eq m (fun id => Std.ExtTreeSet.mem_toList.symm) member, candidates_eq,
    List.find?_map, Function.comp_def]
  cases (List.range (101 + m.structures.length)).find? _ <;> rfl

/-- The search ends in the first place that is not used, or all places are used. -/
theorem freshId_cases (m : Model) (taken : ShapeIds) (member : ShapeId) :
    (∃ i, FirstUnused m taken m.structures member i ∧
      freshId m taken member = .ok (tried m.structures member i)) ∨
    (∀ i < 101 + m.structures.length, ¬Unused m taken (tried m.structures member i)) ∧
      freshId m taken member = .error (.refactoredNameExhausted member) := by
  have hused {i : Nat}
      (h : (!decide (IsFree m taken.toList (tried m.structures member i))) = true) :
      ¬Unused m taken (tried m.structures member i) := by
    simpa only [unused_iff, Bool.not_eq_true', decide_eq_false_iff_not] using h
  rw [freshId_eq_tried]
  cases hfind : (List.range (101 + m.structures.length)).find? fun i =>
      IsFree m taken.toList (tried m.structures member i) with
  | none => exact .inr ⟨fun i hi => hused (List.find?_range_eq_none.mp hfind i hi), rfl⟩
  | some i =>
    obtain ⟨hfree, hmem, hbefore⟩ := List.find?_range_eq_some.mp hfind
    exact .inl ⟨i, ⟨List.mem_range.mp hmem, unused_iff.mpr (of_decide_eq_true hfree),
      fun j hj => hused (hbefore j hj)⟩, rfl⟩

theorem FirstUnused.unique {j : Nat} (h : FirstUnused m taken ss member i)
    (h' : FirstUnused m taken ss member j) : i = j := by
  rcases Nat.lt_trichotomy i j with hlt | heq | hlt
  · exact (h'.before i hlt h.unused).elim
  · exact heq
  · exact (h.before j hlt h'.unused).elim

theorem FirstUnused.freshId_eq (h : FirstUnused m taken m.structures member i) :
    freshId m taken member = .ok (tried m.structures member i) := by
  rcases freshId_cases m taken member with ⟨j, hfirst, heq⟩ | ⟨hused, -⟩
  · rw [heq, h.unique hfirst]
  · exact (hused i h.bound h.unused).elim

/-! ## Texts of the ids -/

end Extraction

namespace Name

theorem isWord_append {u : String} : IsWord (s ++ u) ↔ IsWord s ∧ IsWord u := by
  rw [IsWord, String.toList_append, List.all_append, Bool.and_eq_true]
  rfl

theorem isWord_join : IsWord (String.join names) ↔ ∀ name ∈ names, IsWord name := by
  induction names with
  | nil => exact iff_of_true rfl (List.forall_mem_nil _)
  | cons name names ih => rw [String.join_cons, isWord_append, ih, List.forall_mem_cons]

end Name

namespace Extraction

theorem isWord_suffixAt (names : List String) (i : Nat) :
    IsWord (suffixAt names i) ↔ ∀ name ∈ names.take (i - 100), IsWord name := by
  have hnumber {i : Nat} (h : i ≤ 100) : ∀ name ∈ names.take (i - 100), IsWord name := by
    rw [Nat.sub_eq_zero_of_le h, List.take_zero]
    exact List.forall_mem_nil _
  cases i with
  | zero => exact iff_of_true rfl (hnumber (Nat.zero_le 100))
  | succ i =>
    rw [suffixAt]
    split
    · next h =>
      refine iff_of_true (isWord_of_mem_numbered ?_) (hnumber h)
      exact List.mem_cons_of_mem _ (List.mem_map.mpr ⟨i, List.mem_range.mpr h, rfl⟩)
    · have hunder : IsWord "_" := by
        decide
      have hplace : i + 1 - 100 = i - 99 := Nat.add_sub_add_right i 1 99
      rw [Name.isWord_append, and_iff_right hunder, Name.isWord_join, hplace]

theorem isPart_tried (h : member.IsWords) (ss : List Shape) (i : Nat) :
    IsPart (tried ss member i).name ↔ ∀ s ∈ ss.take (i - 100), IsWord s.id.name := by
  have hword := (candidate_isWords h (show IsWord "" from rfl)).1
  rw [candidate, ShapeId.withName, ShapeId.root, String.append_empty] at hword
  have hname : IsWord (tried ss member i).name ↔
      ∀ s ∈ ss.take (i - 100), IsWord s.id.name := by
    rw [tried, ShapeId.root, Name.isWord_append, and_iff_right hword, isWord_suffixAt,
      ← List.map_take, List.forall_mem_map]
  rw [← hname]
  constructor
  · intro hpart
    have hid := ShapeId.isWord_of_isIdentifier (ShapeId.isIdentifier_toList.mpr hpart)
    rwa [String.ofList_toList] at hid
  · intro hpart
    refine hpart.isPart_iff.mpr ⟨'R', ?_, .inl (by decide)⟩
    rw [tried, ShapeId.root, String.toList_append, String.toList_append, String.toList_append]
    rfl

theorem parse?_tried (h : member.Valid) (ss : List Shape) (i : Nat) :
    parse? (tried ss member i).display = some (tried ss member i) ↔
      ∀ s ∈ ss.take (i - 100), IsWord s.id.name := by
  have hwords := ShapeId.isWords_of_parse? (ShapeId.parse?_eq_some.mpr ⟨h, rfl⟩)
  rw [ShapeId.parse?_eq_some, and_iff_left rfl, ← isPart_tried hwords]
  exact ⟨ShapeId.Valid.name, fun hname => ⟨h.ns, hname, nofun⟩⟩

/-- What the search for the id of an extracted shape comes to, given the structures of the model in
the order of their ids. -/
structure NameSearch (m : Model) (taken : ShapeIds) (member : ShapeId) (ss : List Shape) :
    Prop where
  found : ∀ id, freshId m taken member = .ok id ↔
    ∃ i, FirstUnused m taken ss member i ∧ tried ss member i = id
  /-- The search fails exactly if all that is tried is used. -/
  exhausted : ∀ e, freshId m taken member = .error e ↔
    e = .refactoredNameExhausted member ∧ ∀ i < 101 + ss.length, ¬Unused m taken (tried ss member i)
  place : ∀ id, freshId m taken member = .ok id → id.ns = member.ns ∧ id.member = none
  /-- The ids that numbers or nothing are added to can be read, and the others as far as the names
  of structures in them are words. -/
  parse?_iff : member.Valid → ∀ i, parse? (tried ss member i).display = some (tried ss member i) ↔
    ∀ s ∈ ss.take (i - 100), IsWord s.id.name
  parse?_found : member.Valid → (∀ s ∈ ss, s.id.Valid) → ∀ id, freshId m taken member = .ok id →
    parse? id.display = some id

end Extraction

/-- The search gives the first id in its order that is neither in the model nor taken, and fails if
there is none. -/
theorem Extraction.nameSearch (hk : m.Keyed) (taken : ShapeIds) (member : ShapeId) :
    (∃ ss, StructureOrder m ss) ∧
      ∀ ss, StructureOrder m ss → NameSearch m taken member ss := by
  refine ⟨⟨m.structures, structureOrder hk⟩, fun ss horder => ?_⟩
  cases horder.eq_structures hk
  have hfound (id : ShapeId) : freshId m taken member = .ok id ↔
      ∃ i, FirstUnused m taken m.structures member i ∧ tried m.structures member i = id := by
    rcases freshId_cases m taken member with ⟨i, hfirst, heq⟩ | ⟨hused, heq⟩
    · rw [heq, Except.ok.injEq]
      exact ⟨fun h => ⟨i, hfirst, h⟩, fun ⟨j, hj, h⟩ => hfirst.unique hj ▸ h⟩
    · rw [heq]
      exact iff_of_false nofun fun ⟨i, hi, _⟩ => hused i hi.bound hi.unused
  refine ⟨hfound, fun e => ?_, fun id h => ?_, fun hmember => parse?_tried hmember m.structures,
    fun hmember hss id h => ?_⟩
  · rcases freshId_cases m taken member with ⟨i, hfirst, heq⟩ | ⟨hused, heq⟩
    · rw [heq]
      exact iff_of_false nofun fun h => h.2 i hfirst.bound hfirst.unused
    · rw [heq, Except.error.injEq, and_iff_left hused, eq_comm]
  · obtain ⟨i, -, rfl⟩ := (hfound id).mp h
    exact ⟨rfl, rfl⟩
  · obtain ⟨i, -, rfl⟩ := (hfound id).mp h
    refine (parse?_tried hmember m.structures i).mpr fun s hs => ?_
    have hvalid := hss s (List.mem_of_mem_take hs)
    exact (ShapeId.isWords_of_parse? (ShapeId.parse?_eq_some.mpr ⟨hvalid, rfl⟩)).1

namespace Extraction

/-- Two structures, added in the opposite order of their ids. -/
def pair : Model :=
  ((({} : Builder).structure "ns#B" [] []).structure "ns#A" []
    [⟨"name", "smithy.api#String", [.pattern "a"]⟩]).model

def pairMember : ShapeId :=
  (ShapeId.root "ns" "A").withMember "name"

def pairStructures : List Shape :=
  [{ id := .root "ns" "A", kind := .structure [pairMember] },
    { id := .root "ns" "B", kind := .structure [] }]

def firstTried (ss : List Shape) (member : ShapeId) (n : Nat) : ShapeIds :=
  .ofList ((List.range n).map (tried ss member))

def pairTaken (n : Nat) : ShapeIds :=
  firstTried pairStructures pairMember n

theorem pair_keyed : pair.Keyed :=
  Builder.Reached.keyed (.perform (.perform .start (.structure "ns#B" [] []))
    (.structure "ns#A" [] [⟨"name", "smithy.api#String", [.pattern "a"]⟩]))

theorem mem_firstTried {n : Nat} :
    id ∈ firstTried ss member n ↔ ∃ j < n, tried ss member j = id := by
  rw [firstTried, Std.ExtTreeSet.mem_ofList, List.contains_iff_mem, List.mem_map]
  simp only [List.mem_range]

theorem not_unused_of_lt {n : Nat} :
    ∀ j < n, ¬Unused m (firstTried ss member n) (tried ss member j) :=
  fun j hj hunused => hunused.2 (mem_firstTried.mpr ⟨j, hj, rfl⟩)

/-- When just the ids before it are taken, an id is found. -/
theorem firstUnused_firstTried {n : Nat} (hn : n < 101 + ss.length)
    (hcontains : m.contains (tried ss member n) = false)
    (hne : ∀ j < n, tried ss member j ≠ tried ss member n) :
    FirstUnused m (firstTried ss member n) ss member n := by
  refine ⟨hn, ⟨hcontains, ?_⟩, not_unused_of_lt⟩
  rw [mem_firstTried]
  rintro ⟨j, hj, heq⟩
  exact hne j hj heq

theorem pair_checked :
    pair.structures = pairStructures ∧
    (parse? pairMember.display = some pairMember ∧
      ∀ s ∈ pairStructures, parse? s.id.display = some s.id) ∧
    (∀ n ∈ [0, 100, 101, 102], pair.contains (tried pairStructures pairMember n) = false ∧
      ∀ j < n, tried pairStructures pairMember j ≠ tried pairStructures pairMember n) ∧
    tried pairStructures pairMember 0 = .root "ns" "RefactoredAName" ∧
    tried pairStructures pairMember 100 = .root "ns" "RefactoredAName_99" ∧
    tried pairStructures pairMember 101 = .root "ns" "RefactoredAName_A" ∧
    tried pairStructures pairMember 102 = .root "ns" "RefactoredAName_AB" := by
  decide +kernel

end Extraction

theorem Extraction.nameSearch_pair :
    pair.Keyed ∧ pairMember.Valid ∧ (∀ s ∈ pairStructures, s.id.Valid) ∧
      freshId pair (pairTaken 0) pairMember = .ok (.root "ns" "RefactoredAName") ∧
      freshId pair (pairTaken 100) pairMember = .ok (.root "ns" "RefactoredAName_99") ∧
      freshId pair (pairTaken 101) pairMember = .ok (.root "ns" "RefactoredAName_A") ∧
      freshId pair (pairTaken 102) pairMember = .ok (.root "ns" "RefactoredAName_AB") ∧
      freshId pair (pairTaken 103) pairMember = .error (.refactoredNameExhausted pairMember) ∧
      parse? (ShapeId.root "ns" "RefactoredAName_AB").display =
        some (.root "ns" "RefactoredAName_AB") := by
  obtain ⟨heq, ⟨hmember, hstructures⟩, hunused, hplain, hlast, hname, hboth⟩ := pair_checked
  have horder : StructureOrder pair pairStructures := heq ▸ structureOrder pair_keyed
  have hvalid := (ShapeId.parse?_eq_some.mp hmember).1
  have hvalids (s : Shape) (hs : s ∈ pairStructures) : s.id.Valid :=
    (ShapeId.parse?_eq_some.mp (hstructures s hs)).1
  have hsearch (taken : ShapeIds) : NameSearch pair taken pairMember pairStructures :=
    (nameSearch pair_keyed taken pairMember).2 _ horder
  have hfirst (n : Nat) (hn : n ∈ [0, 100, 101, 102]) :
      freshId pair (pairTaken n) pairMember = .ok (tried pairStructures pairMember n) := by
    obtain ⟨hcontains, hne⟩ := hunused n hn
    have hlt : n < 103 := by
      simp only [List.mem_cons, List.not_mem_nil, or_false] at hn
      omega
    exact ((hsearch (pairTaken n)).found _).mpr ⟨n, firstUnused_firstTried hlt hcontains hne, rfl⟩
  refine ⟨pair_keyed, hvalid, hvalids, hplain ▸ hfirst 0 (by decide),
    hlast ▸ hfirst 100 (by decide), hname ▸ hfirst 101 (by decide), hboth ▸ hfirst 102 (by decide),
    ?_, ?_⟩
  · exact ((hsearch (pairTaken 103)).exhausted _).mpr ⟨rfl, not_unused_of_lt⟩
  · exact (hsearch (pairTaken 102)).parse?_found hvalid hvalids _ (hboth ▸ hfirst 102 (by decide))

namespace Extraction

/-- A structure, and one whose name was never read. -/
def markedBuilder : Builder :=
  ({} : Builder)
    |>.perform (.structure "ns#A" [] [⟨"name", "smithy.api#String", [.pattern "a"]⟩])
    |>.perform (.add { id := (ShapeId.root "ns" "A").withName "B!", kind := .structure [] })

def marked : Model :=
  markedBuilder.model

def markedStructures : List Shape :=
  [{ id := .root "ns" "A", kind := .structure [pairMember] },
    { id := .root "ns" "B!", kind := .structure [] }]

theorem marked_checked :
    markedBuilder.build.1.toOption.isSome = true ∧ marked.structures = markedStructures ∧
    parse? pairMember.display = some pairMember ∧
    tried markedStructures pairMember 102 = .root "ns" "RefactoredAName_AB!" ∧
    marked.contains (.root "ns" "RefactoredAName_AB!") = false ∧
    (∀ j < 102, tried markedStructures pairMember j ≠ .root "ns" "RefactoredAName_AB!") ∧
    parse? (ShapeId.root "ns" "RefactoredAName_AB!").display = none := by
  decide +kernel

/-- Of a valid member the search makes an id that cannot be read, if the model has a structure with
such an id. -/
theorem nameSearch_marked :
    marked.Built ∧ pairMember.Valid ∧
      freshId marked (firstTried marked.structures pairMember 102) pairMember =
        .ok (.root "ns" "RefactoredAName_AB!") ∧
      parse? (ShapeId.root "ns" "RefactoredAName_AB!").display = none := by
  obtain ⟨hbuilt, hstructures, hmember, hlast, hcontains, hbefore, hunread⟩ := marked_checked
  rw [← hlast] at hcontains hbefore
  have hfirst := firstUnused_firstTried (by decide) hcontains hbefore
  refine ⟨Builder.Reached.built (.perform (.perform .start _) _) hbuilt,
    (ShapeId.parse?_eq_some.mp hmember).1, ?_, hunread⟩
  rw [← hstructures] at hfirst hlast
  rw [hfirst.freshId_eq, hlast]

end Extraction

end CrateGen
