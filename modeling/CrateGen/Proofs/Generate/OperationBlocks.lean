import CrateGen.Proofs.Code.Connection
import CrateGen.Proofs.Code.Leaves
import CrateGen.Proofs.Generate.Run
import CrateGen.Proofs.Name.Word
import Mathlib.Data.List.Dedup

namespace CrateGen

open CrateGen.Action
open EventStream (unmarshallerModule)
open CrateGen.Module (closure Consistent)

namespace Operation

variable {operation operation' : Shape} {operations : List Shape} {ms : List Module}

theorem fullPath_module (operation : Shape) :
    (module operation).fullPath = parentModule.fullPath ++ "::" ++ (module operation).name :=
  rfl

theorem fullPath_module_eq_iff : (module operation).fullPath = (module operation').fullPath ↔
    (module operation).name = (module operation').name := by
  rw [fullPath_module, fullPath_module, String.append_right_inj]

theorem alike_of_name (h : (module operation).name = (module operation').name) :
    (module operation).Alike (module operation') :=
  ⟨rfl, rfl, fullPath_module_eq_iff.mpr h, rfl⟩

/-- The modules of the operations, each as the first operation of its name has it. -/
def leaves (operations : List Shape) : List Module :=
  operations.map fun operation => Module.first (operations.map module) (module operation)

theorem first_module (hmem : operation ∈ operations) : ∃ leader,
    operations.find? (fun o => (module o).name == (module operation).name) = some leader ∧
      Module.first (operations.map module) (module operation) = module leader := by
  have hpath : ((fun m : Module => m.fullPath == (module operation).fullPath) ∘ module) =
      fun o => (module o).name == (module operation).name := by
    funext o
    rw [Function.comp_apply, Bool.eq_iff_iff, beq_iff_eq, beq_iff_eq, fullPath_module_eq_iff]
  unfold Module.first
  rw [List.find?_map, hpath]
  cases hf : operations.find? fun o => (module o).name == (module operation).name with
  | none => exact absurd (beq_self_eq_true _) (List.find?_eq_none.mp hf operation hmem)
  | some leader => exact ⟨leader, rfl, rfl⟩

/-- A leaf is the module of the first operation of its name. -/
theorem mem_leaves {m : Module} (h : m ∈ leaves operations) : ∃ leader,
    operations.find? (fun o => (module o).name == m.name) = some leader ∧ m = module leader := by
  obtain ⟨operation, hmem, rfl⟩ := List.mem_map.mp h
  obtain ⟨leader, hfind, heq⟩ := first_module hmem
  have hname := List.find?_some hfind
  have hname : (module leader).name = (module operation).name := eq_of_beq hname
  rw [heq, hname]
  exact ⟨leader, hfind, rfl⟩

theorem exists_leaf (hmem : operation ∈ operations) :
    ∃ m ∈ leaves operations, m.name = (module operation).name := by
  obtain ⟨leader, hfind, heq⟩ := first_module hmem
  have hname := List.find?_some hfind
  exact ⟨_, List.mem_map_of_mem hmem, heq ▸ eq_of_beq hname⟩

theorem leaves_below (hwords : ∀ operation ∈ operations, Name.IsWord operation.id.name) :
    Module.Leaves parentModule (leaves operations) where
  below m hm := by
    obtain ⟨leader, -, rfl⟩ := mem_leaves hm
    rfl
  inline m hm := by
    obtain ⟨leader, -, rfl⟩ := mem_leaves hm
    rfl
  named m hm := by
    obtain ⟨leader, hfind, rfl⟩ := mem_leaves hm
    have hword := (hwords leader (List.mem_of_find?_eq_some hfind)).snakeCase
    constructor <;>
    · intro hc
      cases List.all_eq_true.mp hword _ hc
  same m hm m' hm' hname := by
    obtain ⟨leader, hfind, rfl⟩ := mem_leaves hm
    obtain ⟨leader', hfind', rfl⟩ := mem_leaves hm'
    rw [hname, hfind'] at hfind
    cases hfind
    rfl

/-- Modules that make up a tree with those of every crate, and leave the file of the operations to
these. -/
structure Spares (ms : List Module) : Prop where
  consistent : Consistent (parentModule ::
    [.root, Config.module, Endpoint.module, unmarshallerModule] ++ ms)
  file : parentModule ∉ ms
  free : ∀ m ∈ closure ms, m.parent? ≠ some parentModule

/-- The modules of every crate, and others that items are for. -/
def others (ms : List Module) : List Module :=
  [.root, Config.module, Endpoint.module, unmarshallerModule] ++ ms

namespace Spares

variable (h : Spares ms)
include h

theorem not_below {m : Module} (hm : m ∈ closure (parentModule :: others ms)) :
    m.parent? ≠ some parentModule := by
  unfold Module.closure others at hm
  rw [← List.cons_append, List.flatMap_append, List.mem_append] at hm
  rcases hm with hm | hm
  · revert m
    decide +kernel
  · exact h.free m hm

theorem parentModule_notMem : parentModule ∉ others ms := by
  unfold others
  rw [List.mem_append, not_or]
  exact ⟨by decide +kernel, h.file⟩

/-- The file of the operations is no other module's. -/
theorem eq_parentModule {m : Module} (hm : m ∈ closure (parentModule :: others ms))
    (hin : m.isInline = false) (hpath : m.filePath = parentModule.filePath) :
    m = parentModule := by
  have hself : parentModule ∈ closure (parentModule :: others ms) :=
    Module.mem_closure_self List.mem_cons_self
  rw [Module.filePath_eq hin, Module.filePath_eq (m := parentModule) rfl, String.append_left_inj,
    String.append_right_inj] at hpath
  have hnames := Module.intercalate_injective (h.consistent.fileNames_named hm)
    (h.consistent.fileNames_named hself) m.fileNames_ne_nil parentModule.fileNames_ne_nil hpath
  cases m with
  | top info =>
    have hlib : ["lib"] = ["operation"] := hnames
    exact absurd hlib (by decide)
  | child above info => exact h.consistent.eq_of_segments hm hself hnames

end Spares

end Operation

namespace Generator

variable {σ : Type} {g : Generator σ} {m : Model} {s s' : σ} {c c' : Crate} {fuel : Nat}
  {ctx : Context} {protocol : Protocol} {operations : List Shape} {P : InlineItem Code → Prop}
  {ms : List Module}

theorem WritesCommon.module_mem {writes : List (Module × Code)}
    (h : WritesCommon g.decorator ctx writes) {write : Module × Code} (hmem : write ∈ writes) :
    write.1 ∈ Operation.others ms ∧ write.1.isInline = false := by
  obtain ⟨_, _, _, _, _, _, _, -, -, rfl⟩ := h.eq
  rcases List.mem_cons.mp hmem with rfl | hmem
  · exact ⟨List.mem_cons_self, rfl⟩
  rcases List.mem_cons.mp hmem with rfl | hmem
  · exact ⟨List.mem_cons_of_mem _ List.mem_cons_self, rfl⟩
  · cases List.mem_singleton.mp hmem
    exact ⟨List.mem_cons_of_mem _ (List.mem_cons_of_mem _ List.mem_cons_self), rfl⟩

theorem forall₂_inlineCodes {d : Decorator σ} (f : Module → Module) (name path : String)
    {writes : List (Module × Code)}
    (hwrites : List.Forall₂ (WritesOperation d ctx protocol) operations writes)
    (hf : ∀ operation ∈ operations, (f (Operation.module operation)).isInline = true ∧
      ((f (Operation.module operation)).fullPath = path ↔
        (Operation.module operation).name = name)) :
    List.Forall₂ (fun operation code =>
        WritesOperation d ctx protocol operation (Operation.module operation, code))
      (operations.filter fun operation => (Operation.module operation).name == name)
      (Crate.inlineCodes (writes.map fun write => (f write.1, write.2)) path) := by
  induction hwrites with
  | nil => exact .nil
  | @cons operation write operations writes hwrite _ ih =>
    have ih := ih fun o ho => hf o (List.mem_cons_of_mem _ ho)
    obtain ⟨hin, hpath⟩ := hf operation List.mem_cons_self
    obtain ⟨m, code⟩ := write
    have hm : m = Operation.module operation := hwrite.module
    subst hm
    unfold Crate.inlineCodes at ih ⊢
    rw [List.map_cons, List.filter_cons, List.filter_cons, hin, Bool.true_and]
    by_cases hname : (Operation.module operation).name = name
    · rw [if_pos (beq_iff_eq.mpr hname), if_pos (beq_iff_eq.mpr (hpath.mpr hname)), List.map_cons]
      exact .cons hwrite ih
    · rw [if_neg (by rwa [beq_iff_eq]), if_neg (by rwa [beq_iff_eq, hpath])]
      exact ih

/-- Operations are written into their leaves, and everything else into other modules. -/
structure Calls (d : Decorator σ) (ctx : Context) (protocol : Protocol) (operations : List Shape)
    (ms : List Module) (calls : List (Module × Code)) : Prop where
  mem : ∀ call ∈ calls, call.1 ∈ Operation.others ms ∨ call.1 ∈ Operation.leaves operations
  leaf : ∀ leaf ∈ Operation.leaves operations, leaf ∈ calls.map (·.1)
  codes : ∀ leaf ∈ Operation.leaves operations,
    List.Forall₂ (fun operation code =>
        WritesOperation d ctx protocol operation (Operation.module operation, code))
      (operations.filter fun operation => (Operation.module operation).name == leaf.name)
      (Crate.inlineCodes calls leaf.fullPath)

/-- How the operations of a service are laid out: the blocks `bs` are all that is in their file,
each for the operations of one name in snake case. -/
structure OperationBlocks (d : Decorator σ) (ctx : Context) (protocol : Protocol)
    (operations : List Shape) (bs : List Block) (c : Crate) : Prop where
  names : ∀ name, name ∈ bs.map (·.module.name) ↔
    ∃ operation ∈ operations, Name.snakeCase operation.id.name = name
  ascending : (bs.map (·.module.fullPath)).Pairwise (· < ·)
  /-- The module of a block is that of the first operation of the name. -/
  module : ∀ b ∈ bs, ∃ first,
    operations.find? (fun o => Name.snakeCase o.id.name == b.module.name) = some first ∧
      b.module = Operation.module first
  /-- A block holds what the operations of the name write, in their order. -/
  block : ∀ b ∈ bs, ∃ (log : List Contribution) (own : Writer),
    List.Forall₂ (fun o e => WritesOperation d ctx protocol o (Operation.module o, e.code))
      (operations.filter fun o => Name.snakeCase o.id.name == b.module.name) log ∧
    Writer.Assembled (c.newInline b.module) log own [] b.writer
  file : ∀ {w : Writer}, c.files[Operation.parentModule.filePath]? = some w →
    ∃ (m : Module) (own : Writer), m.filePath = Operation.parentModule.filePath ∧
      Writer.Assembled (c.newFile m) [] own bs w
  opened : bs ≠ [] → Operation.parentModule.filePath ∈ c.files

section Blocks

variable {d : Decorator σ} {calls : List (Module × Code)} {bs : List Block}
  (hcalls : Calls d ctx protocol operations ms calls)
  (hleaves : Module.Leaves Operation.parentModule (Operation.leaves operations))
include hcalls hleaves

theorem Calls.mem_closure {m : Module} (hm : m ∈ closure (calls.map (·.1))) :
    m ∈ closure (Operation.parentModule :: Operation.others ms) ∨
      m ∈ Operation.leaves operations := by
  refine hleaves.mem_closure (Module.mem_closure_self List.mem_cons_self)
    (Module.closure_subset (fun m hm => ?_) hm)
  obtain ⟨call, hcall, rfl⟩ := List.mem_map.mp hm
  rcases hcalls.mem call hcall with hm | hm
  · exact List.mem_append_left _ (List.mem_cons_of_mem _ hm)
  · exact List.mem_append_right _ hm

variable (hms : Operation.Spares ms)
include hms

theorem Calls.consistent : Consistent (calls.map (·.1)) := by
  have hself : Operation.parentModule ∈ closure (Operation.parentModule :: Operation.others ms) :=
    Module.mem_closure_self List.mem_cons_self
  refine (hleaves.consistent hms.consistent hself fun m => hms.not_below).of_closure ?_
  refine Module.closure_subset fun m hm => ?_
  obtain ⟨call, hcall, rfl⟩ := List.mem_map.mp hm
  rcases hcalls.mem call hcall with hm | hm
  · exact List.mem_append_left _ (List.mem_cons_of_mem _ hm)
  · exact List.mem_append_right _ hm

theorem Calls.fileCodes_eq_nil :
    Crate.fileCodes calls Operation.parentModule.filePath = [] := by
  unfold Crate.fileCodes
  rw [List.map_eq_nil_iff, List.filter_eq_nil_iff]
  intro call hcall hfile
  rw [Bool.and_eq_true, Bool.not_eq_true', beq_iff_eq] at hfile
  rcases hcalls.mem call hcall with hmem | hmem
  · have hold := Module.mem_closure_self (List.mem_cons_of_mem Operation.parentModule hmem)
    rw [hms.eq_parentModule hold hfile.1 hfile.2] at hmem
    exact hms.parentModule_notMem hmem
  · rw [hleaves.inline _ hmem] at hfile
    cases hfile.1

variable (hlayout : Crate.Layout calls bs c)
include hlayout

theorem Calls.isIn_iff {b : Block} (hb : b ∈ bs) :
    b.isIn Operation.parentModule = true ↔ b.module ∈ Operation.leaves operations := by
  rw [Block.isIn_iff]
  constructor
  · intro hp
    obtain ⟨hmem, -⟩ := (hlayout.modules b.module).mp (List.mem_map_of_mem hb)
    exact (hcalls.mem_closure hleaves hmem).resolve_left fun hold => hms.not_below hold hp
  · exact hleaves.below b.module

theorem Calls.isOnTop_iff {b : Block} (hb : b ∈ bs) :
    b.isOnTop Operation.parentModule.filePath = true ↔
      b.module ∈ Operation.leaves operations := by
  rw [Block.isOnTop_iff]
  constructor
  · rintro ⟨hparent, hpath⟩
    obtain ⟨hmem, hin⟩ := (hlayout.modules b.module).mp (List.mem_map_of_mem hb)
    refine (hcalls.mem_closure hleaves hmem).resolve_left fun hold => ?_
    obtain ⟨parent, hp⟩ := hms.consistent.exists_parent hold hin
    rw [Module.filePath_of_inline hin hp] at hpath
    have heq := hms.eq_parentModule (Module.parent_mem_closure hold hp) (hparent parent hp) hpath
    subst heq
    exact hms.not_below hold hp
  · intro hleaf
    have hp := hleaves.below b.module hleaf
    refine ⟨fun parent hparent => ?_,
      Module.filePath_of_inline (hleaves.inline b.module hleaf) hp⟩
    rw [hp] at hparent
    cases hparent
    rfl

/-- Nothing is put below the module of an operation. -/
theorem Calls.filter_isIn {leaf : Module} (hleaf : leaf ∈ Operation.leaves operations) :
    bs.filter (·.isIn leaf) = [] := by
  refine List.filter_eq_nil_iff.mpr fun b hb hin => ?_
  have hp := Block.isIn_iff.mp hin
  obtain ⟨hmem, -⟩ := (hlayout.modules b.module).mp (List.mem_map_of_mem hb)
  rcases hcalls.mem_closure hleaves hmem with hold | hmem
  · have hpath := hleaves.fullPath_ne hms.consistent (Module.mem_closure_self List.mem_cons_self)
      (fun m => hms.not_below) hleaf (Module.parent_mem_closure hold hp)
    exact hpath rfl
  · have hself := hleaves.below b.module hmem
    rw [hp] at hself
    cases hself
    have hin := hleaves.inline _ hleaf
    cases hin

omit hms in
theorem Calls.exists_block {leaf : Module} (hleaf : leaf ∈ Operation.leaves operations) :
    ∃ b ∈ bs, b.module = leaf := by
  have hmem := (hlayout.modules leaf).mpr
    ⟨Module.mem_closure_self (hcalls.leaf leaf hleaf), hleaves.inline leaf hleaf⟩
  exact List.mem_map.mp hmem

theorem Calls.operationBlocks : OperationBlocks d ctx protocol operations
    (bs.filter (·.isOnTop Operation.parentModule.filePath)) c := by
  have htop {b : Block} (hb : b ∈ bs.filter (·.isOnTop Operation.parentModule.filePath)) :
      b ∈ bs ∧ b.module ∈ Operation.leaves operations := by
    obtain ⟨hb, hontop⟩ := List.mem_filter.mp hb
    exact ⟨hb, (hcalls.isOnTop_iff hleaves hms hlayout hb).mp hontop⟩
  constructor
  · intro name
    constructor
    · intro hname
      obtain ⟨b, hb, rfl⟩ := List.mem_map.mp hname
      obtain ⟨leader, hfind, heq⟩ := Operation.mem_leaves (htop hb).2
      exact ⟨leader, List.mem_of_find?_eq_some hfind, by rw [heq]; rfl⟩
    · rintro ⟨operation, hmem, rfl⟩
      obtain ⟨leaf, hleaf, hname⟩ := Operation.exists_leaf hmem
      obtain ⟨b, hb, rfl⟩ := hcalls.exists_block hleaves hlayout hleaf
      refine List.mem_map.mpr ⟨b, List.mem_filter.mpr ⟨hb, ?_⟩, hname⟩
      exact (hcalls.isOnTop_iff hleaves hms hlayout hb).mpr hleaf
  · have hsame : bs.filter (·.isOnTop Operation.parentModule.filePath) =
        bs.filter (·.isIn Operation.parentModule) := by
      refine List.filter_congr fun b hb => ?_
      rw [Bool.eq_iff_iff, hcalls.isOnTop_iff hleaves hms hlayout hb,
        hcalls.isIn_iff hleaves hms hlayout hb]
    rw [hsame]
    exact hlayout.ascending Operation.parentModule
  · intro b hb
    exact Operation.mem_leaves (htop hb).2
  · intro b hb
    obtain ⟨hb, hleaf⟩ := htop hb
    obtain ⟨log, own, hlog, hassembled⟩ := hlayout.block b hb
    rw [hcalls.filter_isIn hleaves hms hlayout hleaf] at hassembled
    have hcodes := hcalls.codes b.module hleaf
    rw [← hlog, List.forall₂_map_right_iff] at hcodes
    exact ⟨log, own, hcodes, hassembled⟩
  · intro w hw
    obtain ⟨m, log, own, hpath, hlog, hassembled⟩ := hlayout.file hw
    rw [hcalls.fileCodes_eq_nil hleaves hms, List.map_eq_nil_iff] at hlog
    subst hlog
    exact ⟨m, own, hpath, hassembled⟩
  · intro hne
    obtain ⟨b, hb⟩ := List.exists_mem_of_ne_nil _ hne
    obtain ⟨hmem, hontop⟩ := List.mem_filter.mp hb
    obtain ⟨-, hpath⟩ := Block.isOnTop_iff.mp hontop
    rcases hlayout.placed b hmem with ⟨b', hb', hin⟩ | ⟨-, hfile⟩
    · rw [Block.isIn_iff, hleaves.below b.module (htop hb).2] at hin
      have hinline := ((hlayout.modules b'.module).mp (List.mem_map_of_mem hb')).2
      rw [← Option.some.inj hin] at hinline
      cases hinline
    · rwa [hpath] at hfile

end Blocks

theorem writesOperation_module {d : Decorator σ} {writes : List (Module × Code)}
    (hwrites : List.Forall₂ (WritesOperation d ctx protocol) operations writes) :
    writes.map (·.1) = operations.map Operation.module := by
  induction hwrites with
  | nil => rfl
  | cons hwrite _ ih => rw [List.map_cons, List.map_cons, hwrite.module, ih]

/-- The crate that a run writes is the one that results when each operation is written into the
module of the first one of its name. -/
theorem writings_leaves {common writes : List (Module × Code)}
    (hwrites : List.Forall₂ (WritesOperation g.decorator ctx protocol) operations writes)
    (h : (Crate.ofSettings g.settings).Writings (common ++ writes) c) :
    (Crate.ofSettings g.settings).Writings (common ++ writes.map fun write =>
      (Module.first (operations.map Operation.module) write.1, write.2)) c := by
  obtain ⟨c₁, hcommon, hrest⟩ := Crate.writings_append.mp h
  refine Crate.writings_append.mpr ⟨c₁, hcommon, ?_⟩
  have hlogged : c₁.Logged common :=
    (Crate.Logged.new g.settings.codegen.includeBanner g.settings.codegen.debugMode).writings
      hcommon
  have hmodules := writesOperation_module hwrites
  have hfirst := hrest.first [] hlogged nofun fun m hm write hwrite hpath => ?_
  · rw [List.nil_append, hmodules] at hfirst
    exact hfirst
  · have hmem : write.1 ∈ operations.map Operation.module := hmodules ▸ List.mem_map_of_mem hwrite
    rw [List.nil_append, hmodules] at hm
    obtain ⟨operation, -, rfl⟩ := List.mem_map.mp hm
    obtain ⟨operation', -, heq⟩ := List.mem_map.mp hmem
    rw [← heq] at hpath ⊢
    exact Operation.alike_of_name (Operation.fullPath_module_eq_iff.mp hpath)

theorem calls_of_writes {common writes items : List (Module × Code)} (hms : Operation.Spares ms)
    (hleaves : Module.Leaves Operation.parentModule (Operation.leaves operations))
    (hcommon : WritesCommon g.decorator ctx common)
    (hwrites : List.Forall₂ (WritesOperation g.decorator ctx protocol) operations writes)
    (hitems : ∀ item ∈ items, item.1 ∈ Operation.others ms) :
    Calls g.decorator ctx protocol operations ms ((common ++ writes.map fun write =>
      (Module.first (operations.map Operation.module) write.1, write.2)) ++ items) := by
  have hmodules := writesOperation_module hwrites
  have hmap : (writes.map fun write =>
      (Module.first (operations.map Operation.module) write.1, write.2)).map (·.1) =
        Operation.leaves operations := by
    rw [List.map_map]
    change writes.map (Module.first (operations.map Operation.module) ∘ (·.1)) = _
    rw [← List.map_map, hmodules, List.map_map]
    rfl
  constructor
  · intro call hcall
    rcases List.mem_append.mp hcall with hcall | hcall
    · rcases List.mem_append.mp hcall with hcall | hcall
      · exact .inl (hcommon.module_mem hcall).1
      · exact .inr (hmap ▸ List.mem_map_of_mem hcall)
    · exact .inl (hitems call hcall)
  · intro leaf hleaf
    rw [List.map_append, List.map_append, hmap]
    exact List.mem_append_left _ (List.mem_append_right _ hleaf)
  · intro leaf hleaf
    have hother {calls : List (Module × Code)}
        (h : ∀ call ∈ calls, call.1 ∈ Operation.others ms) :
        calls.filter (fun call => call.1.isInline && call.1.fullPath == leaf.fullPath) = [] := by
      refine List.filter_eq_nil_iff.mpr fun call hcall hpath => ?_
      rw [Bool.and_eq_true, beq_iff_eq] at hpath
      have hmem : call.1 ∈ closure (Operation.parentModule :: Operation.others ms) :=
        Module.mem_closure_self (List.mem_cons_of_mem _ (h call hcall))
      exact hleaves.fullPath_ne hms.consistent (Module.mem_closure_self List.mem_cons_self)
        (fun m => hms.not_below) hleaf hmem hpath.2
    have hcodes := forall₂_inlineCodes (Module.first (operations.map Operation.module)) leaf.name
      leaf.fullPath hwrites fun operation hmem => ?_
    · unfold Crate.inlineCodes at hcodes ⊢
      rw [List.filter_append, List.filter_append, hother fun call hcall =>
        (hcommon.module_mem hcall).1, hother hitems, List.nil_append, List.append_nil]
      exact hcodes
    · obtain ⟨leader, hfind, heq⟩ := Operation.first_module hmem
      have hname := List.find?_some hfind
      have hname : (Operation.module leader).name = (Operation.module operation).name :=
        eq_of_beq hname
      obtain ⟨leader', -, rfl⟩ := Operation.mem_leaves hleaf
      rw [heq, Operation.fullPath_module_eq_iff, hname]
      exact ⟨rfl, Iff.rfl⟩

namespace OperationBlocks

variable {d : Decorator σ} {bs : List Block} (h : OperationBlocks d ctx protocol operations bs c)
include h

theorem nodup_names : (bs.map (·.module.name)).Nodup := by
  rw [List.Nodup, List.pairwise_map]
  refine List.Pairwise.imp_of_mem ?_ (List.pairwise_map.mp h.ascending)
  intro b b' hb hb' hlt hname
  obtain ⟨first, -, heq⟩ := h.module b hb
  obtain ⟨first', -, heq'⟩ := h.module b' hb'
  rw [heq, heq'] at hname hlt
  rw [Operation.fullPath_module_eq_iff.mpr hname] at hlt
  exact String.lt_irrefl _ hlt

/-- There are as many blocks as there are names in snake case. -/
theorem length_eq :
    bs.length = (operations.map fun o => Name.snakeCase o.id.name).dedup.length := by
  have hperm : (bs.map (·.module.name)).Perm
      (operations.map fun o => Name.snakeCase o.id.name).dedup := by
    refine (List.perm_ext_iff_of_nodup h.nodup_names (List.nodup_dedup _)).mpr fun name => ?_
    rw [List.mem_dedup, h.names, List.mem_map]
  rw [← List.length_map (·.module.name), hperm.length_eq]

/-- No block is for two operations just where no name in snake case is that of two. -/
theorem separate_iff :
    (∀ b ∈ bs, ∃ operation,
        operations.filter (fun o => Name.snakeCase o.id.name == b.module.name) = [operation]) ↔
      (operations.map fun o => Name.snakeCase o.id.name).Nodup := by
  constructor
  · intro hone
    refine List.nodup_iff_count_le_one.mpr fun name => ?_
    rw [List.count_eq_countP, List.countP_map, List.countP_eq_length_filter]
    by_cases hname : name ∈ bs.map (·.module.name)
    · obtain ⟨b, hb, rfl⟩ := List.mem_map.mp hname
      obtain ⟨operation, hfilter⟩ := hone b hb
      exact Nat.le_of_eq (congrArg List.length hfilter)
    · have hnone : operations.filter ((fun x => x == name) ∘ fun o => Name.snakeCase o.id.name) =
          [] := by
        refine List.filter_eq_nil_iff.mpr fun operation hmem heq => hname ?_
        exact (h.names name).mpr ⟨operation, hmem, eq_of_beq heq⟩
      rw [hnone]
      exact Nat.zero_le 1
  · intro hnodup b hb
    obtain ⟨operation, hmem, hname⟩ := (h.names b.module.name).mp (List.mem_map_of_mem hb)
    rw [← hname]
    exact ⟨operation, filter_key_eq hnodup hmem⟩

end OperationBlocks

end Generator

end CrateGen
