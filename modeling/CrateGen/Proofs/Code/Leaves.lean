import CrateGen.Proofs.Code.Layout

namespace CrateGen

open CrateGen.Action
open CrateGen.Module (closure Consistent)

/-! ## Modules that are written alike -/

namespace Module

/-- Two inline modules with one path in one file. -/
structure Alike (m m' : Module) : Prop where
  inline : m.isInline = true
  inline' : m'.isInline = true
  fullPath : m.fullPath = m'.fullPath
  fileOwner : m.fileOwner = m'.fileOwner

def first (ms : List Module) (m : Module) : Module :=
  (ms.find? (·.fullPath == m.fullPath)).getD m

theorem of_find?_fullPath {ms : List Module} {m m' : Module}
    (h : ms.find? (·.fullPath == m.fullPath) = some m') : m' ∈ ms ∧ m'.fullPath = m.fullPath := by
  have hpath := List.find?_some h
  exact ⟨List.mem_of_find?_eq_some h, eq_of_beq hpath⟩

/-- Either a module before has the path, or the module itself is the first. -/
theorem first_cases (done rest : List Module) (m : Module) :
    first (done ++ m :: rest) m = m ∨
      first (done ++ m :: rest) m ∈ done ∧ (first (done ++ m :: rest) m).fullPath = m.fullPath := by
  unfold first
  rw [List.find?_append]
  cases hf : done.find? (·.fullPath == m.fullPath) with
  | none =>
    left
    have hself : (m :: rest).find? (·.fullPath == m.fullPath) = some m :=
      List.find?_cons_of_pos (beq_self_eq_true m.fullPath)
    rw [Option.none_or, hself, Option.getD_some]
  | some m' => exact .inr (of_find?_fullPath hf)

end Module

namespace Crate

variable {c c' : Crate} {m m' : Module} {calls writes : List (Module × Code)}

theorem write_alike (h : m.Alike m') (hmem : m.fullPath ∈ c.inlineModules) (fuel : Nat)
    (code : Code) : outcome (write fuel m code) c = outcome (write fuel m' code) c := by
  have hwrite {m : Module} (hin : m.isInline = true) (hmem : m.fullPath ∈ c.inlineModules) :
      outcome (write fuel m code) c =
        outcome (onInline m.fullPath (code.run fuel)) (c.openFile m.fileOwner) := by
    obtain ⟨files, hrest⟩ := (Opens.openFile c m.fileOwner).rest
    have hopen : outcome (openInline m) (c.openFile m.fileOwner) =
        (.ok (), c.openFile m.fileOwner) := by
      unfold openInline
      rw [outcome_bind_ok (outcome_get _), hrest]
      dsimp only
      rw [Std.ExtTreeMap.contains_iff_mem.mpr hmem]
      rfl
    unfold write onModule
    rw [hin, if_pos rfl, outcome_bind_ok (outcome_modify _ _), outcome_bind_ok hopen]
  rw [hwrite h.inline hmem, hwrite h.inline' (h.fullPath ▸ hmem), h.fullPath, h.fileOwner]

theorem writings_append {writes' : List (Module × Code)} :
    c.Writings (writes ++ writes') c' ↔ ∃ c₁, c.Writings writes c₁ ∧ c₁.Writings writes' c' := by
  constructor
  · intro h
    induction writes generalizing c with
    | nil => exact ⟨c, .nil c, h⟩
    | cons write writes ih =>
      cases h with
      | cons hw hrest =>
        obtain ⟨c₁, hwrites, hrest⟩ := ih hrest
        exact ⟨c₁, .cons hw hwrites, hrest⟩
  · rintro ⟨c₁, hwrites, hrest⟩
    induction hwrites with
    | nil => exact hrest
    | cons hw _ ih => exact .cons hw (ih hrest)

/-- Of modules that are written alike the first one is written to. -/
theorem Writings.first (done : List Module) (h : c.Writings writes c') (hc : c.Logged calls)
    (hdone : ∀ m ∈ done, m ∈ calls.map (·.1))
    (halike : ∀ m ∈ done ++ writes.map (·.1), ∀ write ∈ writes,
      write.1.fullPath = m.fullPath → write.1.Alike m) :
    c.Writings (writes.map fun write =>
      (Module.first (done ++ writes.map (·.1)) write.1, write.2)) c' := by
  induction h generalizing calls done with
  | nil => exact .nil _
  | @cons c c₁ c' m code fuel writes hw _ ih =>
    have hwrite : outcome (Crate.write fuel
        (Module.first (done ++ m :: writes.map (·.1)) m) code) c = (.ok (), c₁) := by
      rcases Module.first_cases done (writes.map (·.1)) m with heq | ⟨hmem, hpath⟩
      · rw [heq]
        exact hw
      · have hm := halike _ (List.mem_append_left _ hmem) (m, code) List.mem_cons_self hpath.symm
        have hopen := hc.mem_inlineModules (hdone _ hmem) hm.inline'
        rw [← write_alike hm (hm.fullPath ▸ hopen)]
        exact hw
    have hrest := ih (done ++ [m]) (hc.write hw) (fun m' hm' => ?_)
      fun m' hm' write hmem => halike m' ?_ write (List.mem_cons_of_mem _ hmem)
    · rw [← List.append_cons] at hrest
      exact .cons hwrite hrest
    · rw [List.map_append]
      rcases List.mem_append.mp hm' with hm' | hm'
      · exact List.mem_append_left _ (hdone m' hm')
      · exact List.mem_append_right _ hm'
    · rwa [← List.append_cons] at hm'

end Crate

/-! ## Trees with more leaves -/

namespace Module

variable {m parent : Module} {ms ms' leaves : List Module}

theorem closure_subset (h : ms ⊆ ms') : closure ms ⊆ closure ms' := by
  intro m hm
  obtain ⟨m', hm', hmem⟩ := List.mem_flatMap.mp hm
  exact List.mem_flatMap.mpr ⟨m', h hm', hmem⟩

theorem chain_subset (hm : m ∈ closure ms) : m.chain ⊆ closure ms := by
  induction m with
  | top info =>
    intro a ha
    rw [List.mem_singleton.mp ha]
    exact hm
  | child parent info ih =>
    intro a ha
    rw [chain_child] at ha
    rcases List.mem_cons.mp ha with rfl | ha
    · exact hm
    · exact ih (parent_mem_closure hm rfl) ha

theorem Consistent.of_closure (h : Consistent ms) (hsub : closure ms' ⊆ closure ms) :
    Consistent ms' where
  rooted m hm := h.rooted m (hsub hm)
  same m hm m' hm' := h.same m (hsub hm) m' (hsub hm')
  named m hm := h.named m (hsub hm)
  top m hm := h.top m (hsub hm)
  nested m hm := h.nested m (hsub hm)

/-- A path falls into the path above and a name in one way. -/
theorem path_inj {path path' name name' : String} (hn : ':' ∉ name.toList)
    (hn' : ':' ∉ name'.toList) (h : path ++ "::" ++ name = path' ++ "::" ++ name') :
    path = path' ∧ name = name' := by
  have hname : name = name' := by
    have htake (path : String) {name : String} (hn : ':' ∉ name.toList) :
        (path ++ "::" ++ name).toList.reverse.takeWhile (· != ':') = name.toList.reverse := by
      have hall : ∀ c ∈ name.toList.reverse, (c != ':') = true := by
        intro c hc
        rw [bne_iff_ne]
        rintro rfl
        exact hn (List.mem_reverse.mp hc)
      rw [String.toList_append, String.toList_append, List.reverse_append, List.reverse_append,
        List.takeWhile_append_of_pos hall]
      exact List.append_nil _
    have heq := htake path hn
    rw [h, htake path' hn'] at heq
    exact String.toList_injective (List.reverse_injective heq.symm)
  subst hname
  rw [String.append_left_inj, String.append_left_inj] at h
  exact ⟨h, rfl⟩

/-- Inline modules with names of their own that are put below a module. -/
structure Leaves (parent : Module) (leaves : List Module) : Prop where
  below : ∀ m ∈ leaves, m.parent? = some parent
  inline : ∀ m ∈ leaves, m.isInline = true
  named : ∀ m ∈ leaves, ':' ∉ m.name.toList ∧ '/' ∉ m.name.toList
  same : ∀ m ∈ leaves, ∀ m' ∈ leaves, m.name = m'.name → m = m'

namespace Leaves

variable (h : Leaves parent leaves)
include h

theorem mem_closure (hparent : parent ∈ closure ms) (hm : m ∈ closure (ms ++ leaves)) :
    m ∈ closure ms ∨ m ∈ leaves := by
  unfold Module.closure at hm
  rw [List.flatMap_append, List.mem_append] at hm
  rcases hm with hm | hm
  · exact .inl hm
  · obtain ⟨leaf, hleaf, hm⟩ := List.mem_flatMap.mp hm
    cases leaf with
    | top info => cases h.below _ hleaf
    | child above info =>
      have habove := h.below _ hleaf
      cases habove
      rw [chain_child] at hm
      rcases List.mem_cons.mp hm with rfl | hm
      · exact .inr hleaf
      · exact .inl (chain_subset hparent hm)

/-- No module of a tree has the path of a leaf where none is below the same module. -/
theorem fullPath_ne (hms : Consistent ms) (hparent : parent ∈ closure ms)
    (hfree : ∀ m ∈ closure ms, m.parent? ≠ some parent) {leaf : Module} (hleaf : leaf ∈ leaves)
    (hm : m ∈ closure ms) : m.fullPath ≠ leaf.fullPath := by
  intro hpath
  rw [fullPath_of_parent (h.below leaf hleaf)] at hpath
  cases m with
  | top info =>
    have htop : (Module.top info).fullPath = "crate" := hms.rooted _ hm
    have hcolon : ':' ∈ (parent.fullPath ++ "::" ++ leaf.name).toList := by
      rw [String.toList_append, String.toList_append]
      exact List.mem_append_left _ (List.mem_append_right _ List.mem_cons_self)
    rw [← hpath, htop] at hcolon
    revert hcolon
    decide
  | child above info =>
    have habove := (path_inj (hms.named _ hm).1 (h.named leaf hleaf).1 hpath).1
    have hsame := hms.same above (parent_mem_closure hm rfl) parent hparent habove
    exact hfree _ hm (congrArg some hsame)

theorem consistent (hms : Consistent ms) (hparent : parent ∈ closure ms)
    (hfree : ∀ m ∈ closure ms, m.parent? ≠ some parent) : Consistent (ms ++ leaves) := by
  constructor
  · constructor
    · intro m hm
      rcases h.mem_closure hparent hm with hm | hm
      · exact hms.rooted m hm
      · cases m with
        | top info => cases h.below _ hm
        | child above info =>
          have habove := h.below _ hm
          cases habove
          exact hms.rooted parent hparent
    · intro m hm m' hm' hpath
      rcases h.mem_closure hparent hm with hm | hm <;>
        rcases h.mem_closure hparent hm' with hm' | hm'
      · exact hms.same m hm m' hm' hpath
      · exact absurd hpath (h.fullPath_ne hms hparent hfree hm' hm)
      · exact absurd hpath.symm (h.fullPath_ne hms hparent hfree hm hm')
      · rw [fullPath_of_parent (h.below m hm), fullPath_of_parent (h.below m' hm')] at hpath
        exact h.same m hm m' hm' (path_inj (h.named m hm).1 (h.named m' hm').1 hpath).2
    · intro m hm
      exact (h.mem_closure hparent hm).elim (hms.named m) (h.named m)
    · intro m hm hp
      rcases h.mem_closure hparent hm with hm | hm
      · exact hms.top m hm hp
      · rw [h.below m hm] at hp
        cases hp
  · intro m hm above hp hin
    rcases h.mem_closure hparent hm with hm | hm
    · exact hms.nested m hm above hp hin
    · exact h.inline m hm

end Leaves

end Module

end CrateGen
