import CrateGen.Code.Path
import CrateGen.Proofs.Code.Embedding
import CrateGen.Proofs.Text.Flush

namespace CrateGen

namespace Path

theorem countSeparators_skip {c : Char} {cs : List Char} (h : c = ':' → cs.head? ≠ some ':') :
    countSeparators (c :: cs) = countSeparators cs := by
  rw [countSeparators]
  rintro rest rfl rfl
  exact h rfl rfl

theorem countSeparators_name {name : List Char} (h : ':' ∉ name) : countSeparators name = 0 := by
  induction name with
  | nil => rfl
  | cons c name ih =>
    rw [List.mem_cons, not_or] at h
    rw [countSeparators_skip fun hc => absurd hc.symm h.1]
    exact ih h.2

theorem countSeparators_append (cs : List Char) {name : List Char} (h : ':' ∉ name) :
    countSeparators (cs ++ ':' :: ':' :: name) = countSeparators cs + 1 := by
  have hhead : name.head? ≠ some ':' := fun hc => h (List.mem_of_head? hc)
  fun_induction countSeparators cs with
  | case1 rest ih => rw [List.cons_append, List.cons_append, countSeparators, ih]
  | case2 c rest hne ih =>
    cases rest with
    | cons d rest =>
      rw [List.cons_append, countSeparators_skip, ih]
      rintro hc hd
      exact hne rest hc (congrArg (· :: rest) (Option.some.inj hd))
    | nil =>
      by_cases hc : c = ':'
      · subst hc
        rw [List.singleton_append, countSeparators, countSeparators_skip fun _ => hhead,
          countSeparators_name h]
        rfl
      · rw [List.singleton_append, countSeparators_skip fun hc' => absurd hc' hc]
        exact ih
  | case3 => rw [List.nil_append, countSeparators, countSeparators_name h]

theorem depth_below (path : String) {name : String} (h : ':' ∉ name.toList) :
    depth (path ++ "::" ++ name) = depth path + 1 := by
  unfold depth
  rw [String.toList_append, String.toList_append, List.append_assoc]
  exact countSeparators_append path.toList h

/-- Deeper paths come first, and of paths that are equally deep the smaller one. -/
def Before (path path' : String) : Prop :=
  depth path' < depth path ∨ depth path' = depth path ∧ path < path'

namespace Before

variable {path path' path'' : String}

theorem irrefl (path : String) : ¬Before path path := by
  rintro (h | ⟨-, h⟩)
  · exact Nat.lt_irrefl _ h
  · exact String.lt_irrefl path h

theorem trans (h : Before path path') (h' : Before path' path'') : Before path path'' := by
  rcases h with h | ⟨hd, h⟩ <;> rcases h' with h' | ⟨hd', h'⟩
  · exact .inl (Nat.lt_trans h' h)
  · exact .inl (by rw [hd']; exact h)
  · exact .inl (by rw [← hd]; exact h')
  · exact .inr ⟨hd'.trans hd, String.lt_trans h h'⟩

end Before

end Path

namespace Module

variable {m m' parent : Module} {ms : List Module}

def chain (m : Module) : List Module :=
  m :: m.ancestors

def closure (ms : List Module) : List Module :=
  ms.flatMap chain

theorem mem_closure_self (h : m ∈ ms) : m ∈ closure ms :=
  List.mem_flatMap.mpr ⟨m, h, List.mem_cons_self⟩

theorem chain_child (parent : Module) (info : ModuleInfo) :
    (child parent info).chain = child parent info :: parent.chain :=
  rfl

theorem parent_mem_chain (h : m ∈ m'.chain) (hp : m.parent? = some parent) :
    parent ∈ m'.chain := by
  induction m' with
  | top info =>
    rw [List.mem_singleton.mp h] at hp
    cases hp
  | child above info ih =>
    rw [chain_child] at h ⊢
    rcases List.mem_cons.mp h with rfl | h
    · cases hp
      exact List.mem_cons_of_mem _ List.mem_cons_self
    · exact List.mem_cons_of_mem _ (ih h)

theorem parent_mem_closure (h : m ∈ closure ms) (hp : m.parent? = some parent) :
    parent ∈ closure ms := by
  obtain ⟨m', hm', hmem⟩ := List.mem_flatMap.mp h
  exact List.mem_flatMap.mpr ⟨m', hm', parent_mem_chain hmem hp⟩

/-- What holds of a family, and of the parent of what it holds of, holds of every module above. -/
theorem closure_induction {P : Module → Prop} (hms : ∀ m ∈ ms, P m)
    (hparent : ∀ m ∈ closure ms, P m → ∀ parent, m.parent? = some parent → P parent) :
    ∀ m ∈ closure ms, P m := by
  have hchain (m : Module) (hm : m ∈ closure ms) (hPm : P m) : ∀ a ∈ m.chain, P a := by
    induction m with
    | top info =>
      intro a ha
      rw [List.mem_singleton.mp ha]
      exact hPm
    | child parent info ih =>
      intro a ha
      rw [chain_child] at ha
      rcases List.mem_cons.mp ha with rfl | ha
      · exact hPm
      · exact ih (parent_mem_closure hm rfl) (hparent _ hm hPm parent rfl) a ha
  intro a ha
  obtain ⟨m, hm, hmem⟩ := List.mem_flatMap.mp ha
  exact hchain m (mem_closure_self hm) (hms m hm) a hmem

theorem fullPath_of_parent (hp : m.parent? = some parent) :
    m.fullPath = parent.fullPath ++ "::" ++ m.name := by
  cases m with
  | top info => cases hp
  | child above info =>
    cases hp
    rfl

theorem fileOwner_of_inline (hm : m.isInline = true) (hp : m.parent? = some parent) :
    m.fileOwner = parent.fileOwner := by
  cases m with
  | top info => cases hp
  | child above info =>
    cases hp
    exact if_pos hm

theorem fileOwner_of_file (hm : m.isInline = false) : m.fileOwner = m := by
  cases m with
  | top info => rfl
  | child parent info =>
    change info.inline = false at hm
    rw [fileOwner, hm]
    rfl

theorem fileOwner_fileOwner (m : Module) : m.fileOwner.fileOwner = m.fileOwner := by
  induction m with
  | top info => rfl
  | child parent info ih =>
    by_cases h : info.inline = true
    · rw [fileOwner_of_inline (m := .child parent info) h rfl]
      exact ih
    · have hself : (Module.child parent info).fileOwner = .child parent info := if_neg h
      rw [hself, hself]

theorem filePath_fileOwner (m : Module) : m.fileOwner.filePath = m.filePath := by
  unfold filePath
  rw [fileOwner_fileOwner]

theorem filePath_of_inline (hm : m.isInline = true) (hp : m.parent? = some parent) :
    m.filePath = parent.filePath := by
  unfold filePath
  rw [fileOwner_of_inline hm hp]

theorem fileChain_of_parent (hp : m.parent? = some parent) :
    m.fileChain = m :: parent.fileOwner.fileChain := by
  have howner (parent : Module) :
      (parent :: parent.ancestors).filter (fun a => a.isTop || !a.isInline) =
        parent.fileOwner.fileChain := by
    induction parent with
    | top info => rfl
    | child above info ih =>
      cases hin : info.inline with
      | true =>
        rw [fileOwner_of_inline (m := .child above info) hin rfl, ← ih]
        exact List.filter_cons_of_neg (by rw [isInline, Module.info, hin]; exact Bool.false_ne_true)
      | false =>
        rw [fileOwner_of_file (m := .child above info) hin]
        exact List.filter_cons_of_pos (by rw [isInline, Module.info, hin]; rfl)
  cases m with
  | top info => cases hp
  | child above info =>
    cases hp
    exact congrArg (Module.child parent info :: ·) (howner parent)

theorem fullPath_eq (h : m.Rooted) :
    m.fullPath = "crate" ++ String.join (m.segments.map ("::" ++ ·)) := by
  induction m with
  | top info =>
    rw [segments, List.map_nil, String.join_nil, String.append_empty]
    exact h
  | child parent info ih =>
    rw [fullPath, ih h, segments, List.map_append, String.join_append, List.map_singleton,
      String.join_cons, String.join_nil, String.append_empty]
    simp only [String.append_assoc]

/-- The names of the folders of a module's file and of the file itself. -/
def fileNames : Module → List String
  | .top _ => ["lib"]
  | .child parent info => (child parent info).segments

theorem fileNames_ne_nil (m : Module) : m.fileNames ≠ [] := by
  cases m with
  | top info => exact List.cons_ne_nil _ _
  | child parent info => exact List.append_ne_nil_of_right_ne_nil _ (List.cons_ne_nil _ _)

theorem filePath_eq (h : m.isInline = false) :
    m.filePath = "src/" ++ "/".intercalate m.fileNames ++ ".rs" := by
  cases m with
  | top info => rw [fileNames, String.intercalate_singleton]; rfl
  | child parent info =>
    unfold filePath
    rw [fileOwner_of_file h]
    rfl

theorem intercalate_injective {segments segments' : List String}
    (hs : ∀ s ∈ segments, '/' ∉ s.toList) (hs' : ∀ s ∈ segments', '/' ∉ s.toList)
    (hne : segments ≠ []) (hne' : segments' ≠ [])
    (h : "/".intercalate segments = "/".intercalate segments') : segments = segments' := by
  have hsplit {segments : List String} (hs : ∀ s ∈ segments, '/' ∉ s.toList)
      (hne : segments ≠ []) :
      Text.splitAt '/' ("/".intercalate segments).toList = segments.map String.toList := by
    obtain ⟨first, rest, rfl⟩ := List.exists_cons_of_ne_nil hne
    rw [String.toList_intercalate, List.map_cons]
    refine Text.splitAt_intercalate fun piece hp => ?_
    rw [← List.map_cons] at hp
    obtain ⟨s, hmem, rfl⟩ := List.mem_map.mp hp
    exact hs s hmem
  have hlists := hsplit hs hne
  rw [h, hsplit hs' hne'] at hlists
  exact ((List.map_injective_iff.mpr fun _ _ => String.toList_injective) hlists).symm

/-- The modules and those above them make up one tree below the crate: a path belongs to one
module, no name contains what separates the names of a path, and the crate is not inline. -/
structure Tree (ms : List Module) : Prop where
  rooted : ∀ m ∈ closure ms, m.Rooted
  same : ∀ m ∈ closure ms, ∀ m' ∈ closure ms, m.fullPath = m'.fullPath → m = m'
  named : ∀ m ∈ closure ms, ':' ∉ m.name.toList ∧ '/' ∉ m.name.toList
  top : ∀ m ∈ closure ms, m.parent? = none → m.isInline = false

/-- A tree in which no module with a file of its own is below an inline one. -/
structure Consistent (ms : List Module) : Prop extends Tree ms where
  nested : ∀ m ∈ closure ms, ∀ parent ∈ m.parent?, parent.isInline = true → m.isInline = true

instance Tree.decidable (ms : List Module) : Decidable (Tree ms) :=
  decidable_of_iff
    ((∀ m ∈ closure ms, m.Rooted) ∧
      (∀ m ∈ closure ms, ∀ m' ∈ closure ms, m.fullPath = m'.fullPath → m = m') ∧
      (∀ m ∈ closure ms, ':' ∉ m.name.toList ∧ '/' ∉ m.name.toList) ∧
      ∀ m ∈ closure ms, m.parent? = none → m.isInline = false)
    ⟨fun ⟨rooted, same, named, top⟩ => ⟨rooted, same, named, top⟩,
      fun h => ⟨h.rooted, h.same, h.named, h.top⟩⟩

instance Consistent.decidable (ms : List Module) : Decidable (Consistent ms) :=
  decidable_of_iff
    (Tree ms ∧
      ∀ m ∈ closure ms, ∀ parent ∈ m.parent?, parent.isInline = true → m.isInline = true)
    ⟨fun ⟨tree, nested⟩ => ⟨tree, nested⟩, fun h => ⟨h.toTree, h.nested⟩⟩

namespace Tree

variable (h : Tree ms)
include h

theorem depth_parent (hm : m ∈ closure ms) (hp : m.parent? = some parent) :
    Path.depth m.fullPath = Path.depth parent.fullPath + 1 := by
  rw [fullPath_of_parent hp]
  exact Path.depth_below _ (h.named m hm).1

theorem before_parent (hm : m ∈ closure ms) (hp : m.parent? = some parent) :
    Path.Before m.fullPath parent.fullPath := by
  have hdepth := h.depth_parent hm hp
  exact .inl (by omega)

theorem exists_parent (hm : m ∈ closure ms) (hin : m.isInline = true) :
    ∃ parent, m.parent? = some parent := by
  cases hp : m.parent? with
  | some parent => exact ⟨parent, rfl⟩
  | none =>
    rw [h.top m hm hp] at hin
    cases hin

theorem fileNames_named (hm : m ∈ closure ms) : ∀ s ∈ m.fileNames, '/' ∉ s.toList := by
  have hsegments {m : Module} (hm : m ∈ closure ms) : ∀ s ∈ m.segments, '/' ∉ s.toList := by
    induction m with
    | top info => nofun
    | child parent info ih =>
      intro s hs
      rcases List.mem_append.mp hs with hs | hs
      · exact ih (parent_mem_closure hm rfl) s hs
      · rw [List.mem_singleton.mp hs]
        exact (h.named _ hm).2
  cases m with
  | top info =>
    intro s hs
    rw [List.mem_singleton.mp hs]
    decide
  | child parent info => exact hsegments hm

theorem eq_of_segments (hm : m ∈ closure ms) (hm' : m' ∈ closure ms)
    (heq : m.segments = m'.segments) : m = m' := by
  apply h.same m hm m' hm'
  rw [fullPath_eq (h.rooted m hm), fullPath_eq (h.rooted m' hm'), heq]

/-- No two modules share a file where none takes that of the crate. -/
theorem filePath_injective (hlib : ∀ m ∈ closure ms, m.isInline = false → m.segments ≠ ["lib"])
    (hm : m ∈ closure ms) (hm' : m' ∈ closure ms) (hin : m.isInline = false)
    (hin' : m'.isInline = false) (heq : m.filePath = m'.filePath) : m = m' := by
  rw [filePath_eq hin, filePath_eq hin', String.append_left_inj, String.append_right_inj] at heq
  have hnames := intercalate_injective (h.fileNames_named hm) (h.fileNames_named hm')
    (fileNames_ne_nil m) (fileNames_ne_nil m') heq
  cases m with
  | top info =>
    cases m' with
    | top info' => exact h.eq_of_segments hm hm' rfl
    | child parent info' => exact absurd hnames.symm (hlib _ hm' hin')
  | child parent info =>
    cases m' with
    | top info' => exact absurd hnames (hlib _ hm hin)
    | child parent' info' => exact h.eq_of_segments hm hm' hnames

end Tree

namespace Consistent

variable (h : Consistent ms)
include h

theorem file_parent (hm : m ∈ closure ms) (hin : m.isInline = false)
    (hp : m.parent? = some parent) : parent.isInline = false := by
  rw [← Bool.not_eq_true]
  intro hinline
  rw [h.nested m hm parent hp hinline] at hin
  cases hin

/-- What holds of the inline modules of a family, and of an inline parent of what it holds of,
holds of every inline module above. -/
theorem inline_induction {P : Module → Prop} (hms : ∀ m ∈ ms, m.isInline = true → P m)
    (hparent : ∀ m ∈ closure ms, P m → ∀ parent, m.parent? = some parent →
      parent.isInline = true → P parent) :
    ∀ m ∈ closure ms, m.isInline = true → P m := by
  apply closure_induction (P := fun m => m.isInline = true → P m) hms
  intro m hm hPm parent hp hin
  exact hparent m hm (hPm (h.nested m hm parent hp hin)) parent hp hin

end Consistent

end Module

end CrateGen
