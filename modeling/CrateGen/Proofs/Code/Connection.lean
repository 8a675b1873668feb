import CrateGen.Proofs.Code.Declared

namespace CrateGen

open CrateGen.Action
open CrateGen.Module (closure Consistent Tree Declarable DeclaredIn)

theorem filter_key_eq {α : Type u} {β : Type v} [BEq β] [LawfulBEq β] {key : α → β} {l : List α}
    {a : α} (hl : (l.map key).Nodup) (ha : a ∈ l) : l.filter (key · == key a) = [a] := by
  induction l with
  | nil => cases ha
  | cons b l ih =>
    obtain ⟨hb, hl⟩ := List.nodup_cons.mp hl
    rcases List.mem_cons.mp ha with rfl | ha
    · rw [List.filter_cons, if_pos (beq_self_eq_true (key a)), List.filter_eq_nil_iff.mpr]
      intro c hc heq
      rw [← eq_of_beq heq] at hb
      exact hb (List.mem_map_of_mem hc)
    · rw [List.filter_cons_of_neg, ih hl ha]
      intro heq
      rw [eq_of_beq heq] at hb
      exact hb (List.mem_map_of_mem ha)

/-- An item that declares a module: a declaration of a file module by its name, or a block. -/
inductive ModuleItem where
  | declaration (name text : String)
  | block (b : Block)

namespace ModuleItem

def name : ModuleItem → String
  | .declaration name _ => name
  | .block b => b.module.name

def Declares (m : Module) : ModuleItem → Prop
  | .declaration name text =>
    m.isInline = false ∧ name = m.name ∧ text = m.documentedDeclaration
  | .block b => b.module = m

theorem Declares.name_eq {m : Module} {item : ModuleItem} (h : item.Declares m) :
    item.name = m.name := by
  cases item with
  | declaration name text => exact h.2.1
  | block b => exact congrArg Module.name h

end ModuleItem

namespace Writer

variable {w : Writer} {inside : List Block} {item : ModuleItem}

/-- What a writer declares, and the blocks behind what it holds. -/
def moduleItems (w : Writer) (inside : List Block) : List ModuleItem :=
  w.modules.toList.map (fun d => .declaration d.1 d.2) ++ inside.map .block

theorem mem_moduleItems : item ∈ w.moduleItems inside ↔
    (∃ name text, w.modules[name]? = some text ∧ item = .declaration name text) ∨
      ∃ b ∈ inside, item = .block b := by
  unfold moduleItems
  rw [List.mem_append, List.mem_map, List.mem_map]
  simp only [Prod.exists, Std.ExtTreeMap.mem_toList_iff_getElem?_eq_some, eq_comm]

theorem map_name_moduleItems (w : Writer) (inside : List Block) :
    (w.moduleItems inside).map ModuleItem.name =
      w.modules.keys ++ inside.map (·.module.name) := by
  unfold moduleItems
  rw [List.map_append, List.map_map, List.map_map, ← Std.ExtTreeMap.map_fst_toList_eq_keys]
  rfl

theorem modules_embedBlocks (w : Writer) (bs : List Block) :
    (w.embedBlocks bs).modules = w.modules := by
  obtain ⟨page, dependencies, hembed, -⟩ := w.embedBlocks_text bs
  rw [hembed]

end Writer

theorem Module.Tree.eq_of_siblings {ms : List Module} (h : Tree ms) {m m' parent : Module}
    (hm : m ∈ closure ms) (hm' : m' ∈ closure ms) (hp : m.parent? = some parent)
    (hp' : m'.parent? = some parent) (hname : m.name = m'.name) : m = m' := by
  apply h.same m hm m' hm'
  rw [fullPath_of_parent hp, fullPath_of_parent hp', hname]

/-- The writer of a module and the blocks behind what it holds declare the children of the module,
and nothing else but what code may declare. -/
structure Module.DeclaredBy (ms : List Module) (parent : Module) (w : Writer)
    (inside : List Block) : Prop where
  declared : ∀ {name text : String}, w.modules[name]? = some text →
    ∃ d, (Declarable ms d ∨ d ∈ closure ms ∧ d.isInline = false ∧ d.parent? = some parent) ∧
      d.name = name ∧ d.documentedDeclaration = text
  file : ∀ m ∈ closure ms, m.isInline = false → m.parent? = some parent → m.name ∈ w.modules
  blocks : ∀ b ∈ inside,
    b.module ∈ closure ms ∧ b.module.isInline = true ∧ b.module.parent? = some parent
  inline : ∀ m ∈ closure ms, m.isInline = true → m.parent? = some parent →
    ∃ b ∈ inside, b.module = m
  nodup : (inside.map (·.module)).Nodup

namespace Module.DeclaredBy

variable {ms : List Module} {m parent : Module} {w : Writer} {inside : List Block}

/-- A child whose name is declared is the file module that is declared. -/
theorem eq_of_declared (h : DeclaredBy ms parent w inside) (hms : Tree ms) (hm : m ∈ closure ms)
    (hp : m.parent? = some parent) {text : String} (hd : w.modules[m.name]? = some text) :
    m.isInline = false ∧ text = m.documentedDeclaration := by
  obtain ⟨d, hcode | ⟨hmem, hin, hp'⟩, hname, rfl⟩ := h.declared hd
  · obtain ⟨hin, hsame, -⟩ := hcode m hm hname.symm
    exact ⟨hin, hsame.symm⟩
  · have heq := hms.eq_of_siblings hm hmem hp hp' hname.symm
    subst heq
    exact ⟨hin, rfl⟩

theorem nodup_names (h : DeclaredBy ms parent w inside) (hms : Tree ms) :
    ((w.moduleItems inside).map ModuleItem.name).Nodup := by
  rw [Writer.map_name_moduleItems, List.nodup_append]
  refine ⟨Std.ExtTreeMap.nodup_keys, ?_, ?_⟩
  · rw [List.Nodup, List.pairwise_map]
    refine List.Pairwise.imp_of_mem ?_ (List.pairwise_map.mp h.nodup)
    intro b b' hb hb' hne hname
    obtain ⟨hmem, -, hp⟩ := h.blocks b hb
    obtain ⟨hmem', -, hp'⟩ := h.blocks b' hb'
    exact hne (hms.eq_of_siblings hmem hmem' hp hp' hname)
  · rintro name hname _ hblock rfl
    obtain ⟨b, hb, rfl⟩ := List.mem_map.mp hblock
    obtain ⟨text, hd⟩ := SortedMap.mem_iff.mp (Std.ExtTreeMap.mem_keys.mp hname)
    obtain ⟨hmem, hin, hp⟩ := h.blocks b hb
    rw [(h.eq_of_declared hms hmem hp hd).1] at hin
    cases hin

theorem exists_item (h : DeclaredBy ms parent w inside) (hms : Tree ms) (hm : m ∈ closure ms)
    (hp : m.parent? = some parent) : ∃ item ∈ w.moduleItems inside, item.Declares m := by
  cases hin : m.isInline with
  | true =>
    obtain ⟨b, hb, heq⟩ := h.inline m hm hin hp
    exact ⟨.block b, Writer.mem_moduleItems.mpr (.inr ⟨b, hb, rfl⟩), heq⟩
  | false =>
    obtain ⟨text, hd⟩ := SortedMap.mem_iff.mp (h.file m hm hin hp)
    refine ⟨.declaration m.name text, Writer.mem_moduleItems.mpr (.inl ⟨_, _, hd, rfl⟩), ?_⟩
    exact ⟨hin, rfl, (h.eq_of_declared hms hm hp hd).2⟩

end Module.DeclaredBy

namespace Crate

variable {c c' : Crate} {ms : List Module} {bs : List Block} {m parent : Module}

/-- The items that declare modules in the scope of a module: in its block, or at the top of its
file. -/
def scope (c : Crate) (bs : List Block) (m : Module) : List ModuleItem :=
  if m.isInline then
    (bs.filter (·.module == m)).flatMap fun b => b.writer.moduleItems (bs.filter (·.isIn m))
  else
    c.files[m.filePath]?.toList.flatMap fun w => w.moduleItems (bs.filter (·.isOnTop m.filePath))

/-- In the scope of its parent one item has the name of a module, and that item declares it. -/
def Linked (c : Crate) (bs : List Block) (parent m : Module) : Prop :=
  ∃ item, (c.scope bs parent).filter (·.name == m.name) = [item] ∧ item.Declares m

theorem scope_block (hbs : (bs.map (·.module)).Nodup) {b : Block} (hb : b ∈ bs)
    (hin : b.module.isInline = true) :
    c.scope bs b.module = b.writer.moduleItems (bs.filter (·.isIn b.module)) := by
  unfold scope
  rw [if_pos hin, filter_key_eq hbs hb, List.flatMap_singleton]

theorem scope_file {w : Writer} (hin : m.isInline = false) (hw : c.files[m.filePath]? = some w) :
    c.scope bs m = w.moduleItems (bs.filter (·.isOnTop m.filePath)) := by
  unfold scope
  rw [hin, if_neg Bool.false_ne_true, hw, Option.toList_some, List.flatMap_singleton]

theorem linked_of_declaredBy {w : Writer} {inside : List Block}
    (hscope : c.scope bs parent = w.moduleItems inside)
    (h : Module.DeclaredBy ms parent w inside) (hms : Tree ms) (hm : m ∈ closure ms)
    (hp : m.parent? = some parent) : c.Linked bs parent m := by
  obtain ⟨item, hitem, hdeclares⟩ := h.exists_item hms hm hp
  refine ⟨item, ?_, hdeclares⟩
  rw [hscope, ← hdeclares.name_eq]
  exact filter_key_eq (h.nodup_names hms) hitem

namespace Nested

theorem declaredBy_block (h : c.Nested ms bs c') (hd : c.Declared ms) (hms : Consistent ms)
    (hparent : parent ∈ closure ms) (hin : parent.isInline = true) :
    ∃ w inside, c'.scope bs parent = w.moduleItems inside ∧
      Module.DeclaredBy ms parent w inside := by
  obtain ⟨b, hb, rfl⟩ := h.exists_block hms hparent hin
  have hnodup := Block.nodup_of_ordered h.ordered
  refine ⟨_, _, scope_block hnodup hb hin, ?_⟩
  constructor
  · intro name text htext
    rw [h.block b hb, Writer.modules_embedBlocks] at htext
    obtain ⟨d, hdeclarable, hrest⟩ := (hd.target hin).declared htext
    exact ⟨d, .inl hdeclarable, hrest⟩
  · intro m hm hfile hp
    rw [hms.nested m hm _ hp hin] at hfile
    cases hfile
  · intro b' hb'
    obtain ⟨hmem, hisIn⟩ := List.mem_filter.mp hb'
    obtain ⟨hmem, hinline⟩ := h.modules b' hmem
    exact ⟨hmem, hinline, Block.isIn_iff.mp hisIn⟩
  · intro m hm hinline hp
    obtain ⟨b', hb', rfl⟩ := h.exists_block hms hm hinline
    exact ⟨b', List.mem_filter.mpr ⟨hb', Block.isIn_iff.mpr hp⟩, rfl⟩
  · exact hnodup.sublist (List.filter_sublist.map _)

theorem declaredBy_file (h : c.Nested ms bs c') (hd : c.Declared ms) (hms : Consistent ms)
    (hlib : ∀ m ∈ closure ms, m.isInline = false → m.segments ≠ ["lib"])
    (hopened : ∀ m ∈ closure ms, m.filePath ∈ c.files) (hparent : parent ∈ closure ms)
    (hin : parent.isInline = false) :
    ∃ w inside, c'.scope bs parent = w.moduleItems inside ∧
      Module.DeclaredBy ms parent w inside := by
  obtain ⟨own, hown⟩ := SortedMap.mem_iff.mp (hopened parent hparent)
  have hw : c'.files[parent.filePath]? =
      some (own.embedBlocks (bs.filter (·.isOnTop parent.filePath))) := by
    rw [h.file, hown]
    rfl
  refine ⟨_, _, scope_file hin hw, ?_⟩
  constructor
  · intro name text htext
    rw [Writer.modules_embedBlocks] at htext
    obtain ⟨d, hcode | ⟨hmem, hfile, above, hp, hpath⟩, hrest⟩ := (hd.file hown).declared htext
    · exact ⟨d, .inl hcode, hrest⟩
    · have heq := hms.filePath_injective hlib (Module.parent_mem_closure hmem hp) hparent
        (hms.file_parent hmem hfile hp) hin hpath
      subst heq
      exact ⟨d, .inr ⟨hmem, hfile, hp⟩, hrest⟩
  · intro m hm hfile hp
    rw [Writer.modules_embedBlocks]
    obtain ⟨w, hw, hname⟩ := hd.child hm hfile hp (hopened m hm)
    rw [hown] at hw
    cases hw
    exact hname
  · intro b hb
    obtain ⟨hmem, htop⟩ := List.mem_filter.mp hb
    obtain ⟨hmem, hinline⟩ := h.modules b hmem
    obtain ⟨htop, hpath⟩ := Block.isOnTop_iff.mp htop
    obtain ⟨above, hp⟩ := hms.exists_parent hmem hinline
    rw [Module.filePath_of_inline hinline hp] at hpath
    have heq := hms.filePath_injective hlib (Module.parent_mem_closure hmem hp) hparent
      (htop above hp) hin hpath
    subst heq
    exact ⟨hmem, hinline, hp⟩
  · intro m hm hinline hp
    obtain ⟨b, hb, rfl⟩ := h.exists_block hms hm hinline
    refine ⟨b, List.mem_filter.mpr ⟨hb, Block.isOnTop_iff.mpr ⟨?_, ?_⟩⟩, rfl⟩
    · intro above hp'
      rw [hp] at hp'
      cases hp'
      exact hin
    · exact Module.filePath_of_inline hinline hp
  · exact (Block.nodup_of_ordered h.ordered).sublist (List.filter_sublist.map _)

/-- A file module below an inline one is not declared in the block of the inline one. -/
theorem not_linked (h : c.Nested ms bs c') (hd : c.Declared ms) (hm : m ∈ closure ms)
    (hfile : m.isInline = false) (hp : m.parent? = some parent) (hin : parent.isInline = true) :
    ¬c'.Linked bs parent m := by
  rintro ⟨item, hone, hdeclares⟩
  have hitem : item ∈ (c'.scope bs parent).filter (·.name == m.name) := by
    rw [hone]
    exact List.mem_cons_self
  have hscope := (List.mem_filter.mp hitem).1
  unfold scope at hscope
  rw [if_pos hin] at hscope
  obtain ⟨b, hb, hitem⟩ := List.mem_flatMap.mp hscope
  obtain ⟨hb, hmodule⟩ := List.mem_filter.mp hb
  rcases Writer.mem_moduleItems.mp hitem with ⟨name, text, htext, rfl⟩ | ⟨b', hb', rfl⟩
  · -- the writer of an inline module declares nothing but what code declares
    rw [h.block b hb, Writer.modules_embedBlocks] at htext
    obtain ⟨d, hdeclarable, hname, -⟩ := (hd.target (h.modules b hb).2).declared htext
    obtain ⟨-, hsame, -⟩ := hdeclares
    have habove := (hdeclarable m hm (hsame.symm.trans hname.symm)).2.2 parent hp
    rw [hin] at habove
    cases habove
  · have hinline := (h.modules b' (List.mem_filter.mp hb').1).2
    rw [hdeclares, hfile] at hinline
    cases hinline

end Nested

/-- The files that hold the modules of all calls, and the modules above them, are there. -/
theorem Declared.opened {calls : List (Module × Code)} (h : c.Declared (calls.map (·.1)))
    (hms : Tree (calls.map (·.1))) (hc : c.Logged calls) :
    ∀ m ∈ closure (calls.map (·.1)), m.filePath ∈ c.files := by
  apply Module.closure_induction
  · intro m hm
    cases hin : m.isInline with
    | false => exact hc.opened hm hin
    | true =>
      obtain ⟨⟨m', w⟩, hentry⟩ := SortedMap.mem_iff.mp (hc.mem_inlineModules hm hin)
      obtain ⟨⟨hpath, -, hfile, hmem⟩, -⟩ := hc.inline hentry
      rw [hms.same m (Module.mem_closure_self hm) m' (Module.mem_closure_self hmem) hpath]
      exact hfile
  · intro m hm hfile parent hp
    cases hin : m.isInline with
    | true =>
      rw [← Module.filePath_of_inline hin hp]
      exact hfile
    | false =>
      obtain ⟨w, hw, -⟩ := h.child hm hin hp hfile
      exact SortedMap.mem_iff.mpr ⟨_, hw⟩

/-- After codes were written into modules that make up one tree, and the crate was finalized, every
file module is declared in the file that holds its parent. The modules are connected, one item in
the scope of its parent declaring each of them, exactly if no file module is below an inline one. -/
theorem finalize_connects_iff {showsBanner debugMode : Bool} {writes calls : List (Module × Code)}
    {c c₁ : Crate} {rounds : List (List Step)}
    (hwrites : Writings { showsBanner, debugMode } writes c) (hrounds : Rounds c rounds c₁)
    (hcalls : calls = writes ++ rounds.flatten.map Step.call) (hms : Tree (calls.map (·.1)))
    (hlib : ∀ m ∈ closure (calls.map (·.1)), m.isInline = false → m.segments ≠ ["lib"])
    (hcode : ∀ call ∈ calls, call.2.Permitted { child := Declarable (calls.map (·.1)) }) :
    ∃ (bs : List Block) (c' : Crate), c₁.Nested (calls.map (·.1)) bs c' ∧
      (∀ m ∈ closure (calls.map (·.1)), m.isInline = false → ∀ parent, m.parent? = some parent →
        c'.DeclaresChild parent.filePath m) ∧
      ((∀ m ∈ closure (calls.map (·.1)), ∀ parent, m.parent? = some parent →
          c'.Linked bs parent m) ↔
        ∀ m ∈ closure (calls.map (·.1)), ∀ parent, m.parent? = some parent →
          parent.isInline = true → m.isInline = true) ∧
      ∃ fuel₀, ∀ fuel ≥ fuel₀,
        outcome (finalize fuel) c = (.ok (), { c' with finalized := true }) := by
  subst hcalls
  obtain ⟨hlogged, bs, c', hnested, -, hfinalize⟩ := hrounds.nested hwrites hms
  have hmem (call : Module × Code) (hcall : call ∈ writes ++ rounds.flatten.map Step.call) :=
    And.intro (List.mem_map_of_mem (f := (·.1)) hcall) (hcode call hcall)
  have hdeclared := ((Declared.new showsBanner debugMode).writings hms hlib hwrites
    fun write hwrite => hmem write (List.mem_append_left _ hwrite)).steps hms hlib hrounds.steps
    fun s hs => hmem s.call (List.mem_append_right _ (List.mem_map_of_mem hs))
  have hopened := hdeclared.opened hms hlogged
  refine ⟨bs, c', hnested, ?_, ⟨?_, ?_⟩, hfinalize⟩
  · intro m hm hin parent hp
    obtain ⟨w, hw, hname⟩ := hdeclared.child hm hin hp (hopened m hm)
    unfold DeclaresChild
    rw [hnested.file, hw]
    refine ⟨_, rfl, ?_⟩
    rw [Writer.modules_embedBlocks]
    exact hname
  · intro hlinked m hm parent hp hin
    by_contra hfile
    rw [Bool.not_eq_true] at hfile
    exact hnested.not_linked hdeclared hm hfile hp hin (hlinked m hm parent hp)
  · intro hnesting m hm parent hp
    have hparent := Module.parent_mem_closure hm hp
    have hconsistent : Consistent ((writes ++ rounds.flatten.map Step.call).map (·.1)) :=
      ⟨hms, hnesting⟩
    obtain ⟨w, inside, hscope, hdeclaredBy⟩ : ∃ w inside,
        c'.scope bs parent = w.moduleItems inside ∧ Module.DeclaredBy _ parent w inside := by
      cases hin : parent.isInline with
      | true => exact hnested.declaredBy_block hdeclared hconsistent hparent hin
      | false => exact hnested.declaredBy_file hdeclared hconsistent hlib hopened hparent hin
    exact linked_of_declaredBy hscope hdeclaredBy hms hm hp

theorem finalize_connects_nested :
    ∃ c, Writings {} nestedWrites c ∧ Rounds c [] c ∧ Tree (nestedWrites.map (·.1)) ∧
      (∀ m ∈ closure (nestedWrites.map (·.1)), m.isInline = false → m.segments ≠ ["lib"]) ∧
      (∀ call ∈ nestedWrites,
        call.2.Permitted { child := Declarable (nestedWrites.map (·.1)) }) ∧
      ∃ (bs : List Block) (c' : Crate), c.Nested (nestedWrites.map (·.1)) bs c' ∧
        (∀ m ∈ closure (nestedWrites.map (·.1)), m.isInline = false → ∀ parent,
          m.parent? = some parent → c'.DeclaresChild parent.filePath m) ∧
        ((∀ m ∈ closure (nestedWrites.map (·.1)), ∀ parent, m.parent? = some parent →
            c'.Linked bs parent m) ↔
          ∀ m ∈ closure (nestedWrites.map (·.1)), ∀ parent, m.parent? = some parent →
            parent.isInline = true → m.isInline = true) ∧
        ∃ fuel₀, ∀ fuel ≥ fuel₀,
          outcome (finalize fuel) c = (.ok (), { c' with finalized := true }) := by
  obtain ⟨c, hwrites, hrounds⟩ := exists_nestedWrites
  have hms : Tree (nestedWrites.map (·.1)) := by
    decide +kernel
  have hlib : ∀ m ∈ closure (nestedWrites.map (·.1)), m.isInline = false →
      m.segments ≠ ["lib"] := by
    decide +kernel
  have hcode : ∀ call ∈ nestedWrites,
      call.2.Permitted { child := Declarable (nestedWrites.map (·.1)) } := by
    rintro _ (_ | ⟨_, _ | ⟨_, _ | ⟨_, hmem⟩⟩⟩)
    · trivial
    · trivial
    · trivial
    · cases hmem
  exact ⟨c, hwrites, hrounds, hms, hlib, hcode,
    finalize_connects_iff hwrites hrounds rfl hms hlib hcode⟩

def orphan : Module :=
  (Module.named "orphan" .exported).childOf (Module.named "outer" .exported).asInline

/-- The module is declared in the file of the crate, and there is no block for the module above
it. -/
theorem finalize_misplaces_orphan :
    ∃ c c', outcome (write 1 orphan (.line "pub struct Orphan;")) {} = (.ok (), c) ∧
      outcome (finalize 1) c = (.ok (), c') ∧
      c'.renderAll =
        [("src/lib.rs", "pub mod orphan;\n"),
          ("src/outer/orphan.rs", "pub struct Orphan;\n")] :=
  ⟨_, _, rfl, rfl, by decide +kernel⟩

end Crate

end CrateGen
