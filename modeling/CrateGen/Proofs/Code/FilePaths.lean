import CrateGen.Proofs.Code.Path
import CrateGen.Proofs.Code.ModuleTree

/-!
Which modules share a file. The path of a file tells the module that has it, but for one clash: the
file of the crate is `src/lib.rs`, and that is where a file module `lib` right below the crate goes
as well.
-/

namespace CrateGen

theorem Path.splitLastChars?_of_notMem {cs : List Char} (h : ':' ∉ cs) :
    splitLastChars? cs = none := by
  cases hsplit : splitLastChars? cs with
  | none => rfl
  | some parts =>
    obtain ⟨front, back⟩ := parts
    rw [eq_of_splitLastChars? hsplit] at h
    exact absurd (List.mem_append_right front List.mem_cons_self) h

namespace Module

/-- A name without the characters that divide paths. Every identifier is such a name. -/
def IsPlain (name : String) : Prop :=
  ':' ∉ name.toList ∧ '/' ∉ name.toList

instance (name : String) : Decidable (IsPlain name) :=
  inferInstanceAs (Decidable (_ ∧ _))

/-- The modules that are made of the root by naming new ones, moving a module below another,
putting it inline and documenting it. -/
inductive Placed : Module → Prop where
  | root : Placed .root
  | named {name : String} (h : IsPlain name) (visibility : Visibility) :
      Placed (named name visibility)
  | childOf {m parent : Module} (hm : Placed m) (hparent : Placed parent) :
      Placed (m.childOf parent)
  | asInline {m : Module} (hm : Placed m) : Placed m.asInline
  | documented {m : Module} (hm : Placed m) (docs : String) : Placed (m.documented docs)

variable {m m' : Module}

/-- The names that a module and those above it go by in paths are plain. -/
structure Named (m : Module) : Prop where
  name : IsPlain m.name
  segments : ∀ s ∈ m.segments, IsPlain s

theorem Named.mapInfo {f : ModuleInfo → ModuleInfo} (hf : ∀ info, (f info).name = info.name)
    (h : m.Named) : (m.mapInfo f).Named := by
  cases m with
  | top info =>
    refine ⟨?_, h.segments⟩
    change IsPlain (f info).name
    rw [hf]
    exact h.name
  | child above info =>
    refine ⟨?_, ?_⟩
    · change IsPlain (f info).name
      rw [hf]
      exact h.name
    · change ∀ s ∈ above.segments ++ [(f info).name], IsPlain s
      rw [hf]
      exact h.segments

namespace Placed

theorem rooted (h : m.Placed) : m.Rooted := by
  induction h with
  | root => exact rooted_root
  | named _ visibility => exact rooted_named _ visibility
  | childOf _ _ _ ihparent => exact ihparent.childOf _
  | asInline _ ih => exact ih.asInline
  | documented _ docs ih => exact ih.documented docs

theorem plain (h : m.Placed) : m.Named := by
  induction h with
  | root => exact ⟨by decide, nofun⟩
  | named h visibility =>
    refine ⟨h, fun s hs => ?_⟩
    rw [List.mem_singleton.mp hs]
    exact h
  | childOf _ _ ih ihparent =>
    refine ⟨ih.name, fun s hs => ?_⟩
    rcases List.mem_append.mp hs with hs | hs
    · exact ihparent.segments s hs
    · rw [List.mem_singleton.mp hs]
      exact ih.name
  | asInline _ ih => exact ih.mapInfo fun _ => rfl
  | documented _ docs ih => exact ih.mapInfo fun _ => rfl

end Placed

theorem splitLast?_fullPath (parent : Module) {info : ModuleInfo} (h : IsPlain info.name) :
    Path.splitLast? (child parent info).fullPath = some (parent.fullPath, info.name) :=
  Path.splitLast?_append (Path.splitLastChars?_of_notMem h.1)
    (fun hhead => h.1 (List.mem_of_head? hhead)) parent.fullPath

/-- A full path has one reading as the names from the crate down. -/
theorem segments_eq_of_fullPath (hm : m.Rooted) (hm' : m'.Rooted)
    (hs : ∀ s ∈ m.segments, IsPlain s) (hs' : ∀ s ∈ m'.segments, IsPlain s)
    (h : m.fullPath = m'.fullPath) : m.segments = m'.segments := by
  have hlast {parent : Module} {info : ModuleInfo}
      (hs : ∀ s ∈ (child parent info).segments, IsPlain s) : IsPlain info.name :=
    hs _ (List.mem_append_right _ (List.mem_singleton.mpr rfl))
  have hcrate {parent : Module} {info : ModuleInfo}
      (hs : ∀ s ∈ (child parent info).segments, IsPlain s) :
      (child parent info).fullPath ≠ "crate" := by
    intro heq
    have hsplit := splitLast?_fullPath parent (hlast hs)
    rw [heq] at hsplit
    cases hsplit
  induction m generalizing m' with
  | top info =>
    cases m' with
    | top info' => rfl
    | child parent' info' => exact absurd (h.symm.trans hm) (hcrate hs')
  | child parent info ih =>
    cases m' with
    | top info' => exact absurd (h.trans hm') (hcrate hs)
    | child parent' info' =>
      have hsplit := splitLast?_fullPath parent (hlast hs)
      rw [h, splitLast?_fullPath parent' (hlast hs')] at hsplit
      obtain ⟨hparent, hname⟩ := Prod.mk.inj (Option.some.inj hsplit)
      have hrest : parent.segments = parent'.segments :=
        ih hm hm' (fun s hmem => hs s (List.mem_append_left _ hmem))
          (fun s hmem => hs' s (List.mem_append_left _ hmem)) hparent.symm
      rw [Module.segments, Module.segments, hrest, hname]

theorem Placed.fullPath_eq_iff (hm : m.Placed) (hm' : m'.Placed) :
    m.fullPath = m'.fullPath ↔ m.segments = m'.segments := by
  constructor
  · exact segments_eq_of_fullPath hm.rooted hm'.rooted hm.plain.segments hm'.plain.segments
  · intro h
    rw [fullPath_eq hm.rooted, fullPath_eq hm'.rooted, h]

theorem fileNames_eq (m : Module) :
    (m.segments = [] ∧ m.fileNames = ["lib"]) ∨
      (m.segments ≠ [] ∧ m.fileNames = m.segments) := by
  cases m with
  | top info => exact .inl ⟨rfl, rfl⟩
  | child parent info =>
    exact .inr ⟨List.append_ne_nil_of_right_ne_nil _ (List.cons_ne_nil _ _), rfl⟩

theorem fileNames_eq_iff : m.fileNames = m'.fileNames ↔ m.segments = m'.segments ∨
    (m.segments = [] ∧ m'.segments = ["lib"]) ∨ (m.segments = ["lib"] ∧ m'.segments = []) := by
  rcases m.fileNames_eq with ⟨hm, hfile⟩ | ⟨hm, hfile⟩ <;>
    rcases m'.fileNames_eq with ⟨hm', hfile'⟩ | ⟨hm', hfile'⟩
  · simp [hfile, hfile', hm, hm']
  · simp [hfile, hfile', hm, hm', eq_comm]
  · simp [hfile, hfile', hm, hm']
  · simp [hfile, hfile', hm, hm']

theorem Placed.filePath_eq_iff (hm : m.Placed) (hm' : m'.Placed) (hin : m.isInline = false)
    (hin' : m'.isInline = false) : m.filePath = m'.filePath ↔ m.fileNames = m'.fileNames := by
  have hplain {m : Module} (hm : m.Placed) : ∀ s ∈ m.fileNames, '/' ∉ s.toList := by
    intro s hs
    rcases m.fileNames_eq with ⟨-, hfile⟩ | ⟨-, hfile⟩
    · rw [hfile] at hs
      rw [List.mem_singleton.mp hs]
      decide
    · rw [hfile] at hs
      exact (hm.plain.segments s hs).2
  rw [filePath_eq hin, filePath_eq hin', String.append_left_inj, String.append_right_inj]
  constructor
  · exact intercalate_injective (hplain hm) (hplain hm') m.fileNames_ne_nil m'.fileNames_ne_nil
  · intro h
    rw [h]

/-- The crate and a module `lib` right below it. -/
def LibClash (m m' : Module) : Prop :=
  m.fullPath = "crate" ∧ m'.fullPath = "crate::lib"

theorem Placed.libClash_iff (hm : m.Placed) (hm' : m'.Placed) :
    LibClash m m' ↔ m.segments = [] ∧ m'.segments = ["lib"] := by
  have hlib : (Module.named "lib" .exported).Placed := .named (by decide) _
  exact and_congr (hm.fullPath_eq_iff .root) (hm'.fullPath_eq_iff hlib)

/-- Two file modules share a file exactly if they have one full path, or one of them is the crate
and the other a module `lib` right below it; an inline module is in the file of its parent. -/
theorem files_apart (hm : m.Placed) (hm' : m'.Placed) :
    (m.isInline = false → m'.isInline = false →
      (m.filePath = m'.filePath ↔
        m.fullPath = m'.fullPath ∨ LibClash m m' ∨ LibClash m' m)) ∧
      ∀ parent, m.isInline = true → m.parent? = some parent → m.filePath = parent.filePath := by
  refine ⟨fun hin hin' => ?_, fun parent hin hparent => filePath_of_inline hin hparent⟩
  rw [hm.filePath_eq_iff hm' hin hin', fileNames_eq_iff, hm.fullPath_eq_iff hm',
    hm.libClash_iff hm', hm'.libClash_iff hm, and_comm (a := m'.segments = [])]

/-! A file module below an inline one, and one with the same path that was put together of file
modules only. -/

def outer : Module :=
  named "outer" .exported

def middle : Module :=
  ((named "middle" .exported).childOf outer).asInline

def inner : Module :=
  (named "inner" .hidden).childOf middle

def innerAgain : Module :=
  ((named "inner" .inCrate).childOf ((named "middle" .hidden).childOf outer)).documented "Again."

theorem outer_placed : outer.Placed :=
  .named (by decide) _

theorem middle_placed : middle.Placed :=
  .asInline (.childOf (.named (by decide) _) outer_placed)

theorem inner_placed : inner.Placed :=
  .childOf (.named (by decide) _) middle_placed

theorem innerAgain_placed : innerAgain.Placed :=
  .documented (.childOf (.named (by decide) _) (.childOf (.named (by decide) _) outer_placed)) _

theorem files_apart_nested :
    inner.Placed ∧ innerAgain.Placed ∧ inner.isInline = false ∧ innerAgain.isInline = false ∧
      inner ≠ innerAgain ∧ inner.filePath = innerAgain.filePath ∧
      inner.filePath ≠ outer.filePath ∧ middle.isInline = true ∧
      middle.filePath = outer.filePath := by
  have hfile : inner.isInline = false := rfl
  have hshared := (files_apart inner_placed innerAgain_placed).1 hfile rfl
  have hapart := (files_apart inner_placed outer_placed).1 hfile rfl
  have hinline := (files_apart middle_placed outer_placed).2 outer rfl rfl
  refine ⟨inner_placed, innerAgain_placed, hfile, rfl, by decide, hshared.mpr (.inl rfl), ?_, rfl,
    hinline⟩
  intro hpath
  rcases hapart.mp hpath with heq | ⟨hcrate, -⟩ | ⟨hcrate, -⟩
  · exact absurd heq (by decide)
  · exact absurd hcrate (by decide)
  · exact absurd hcrate (by decide)

def lib : Module :=
  named "lib" .exported

/-- The crate and the module have one file; what is written to both is mixed there, and the module
is not even declared. -/
theorem files_clash :
    root.Placed ∧ lib.Placed ∧ root.isInline = false ∧ lib.isInline = false ∧
      root.filePath = lib.filePath ∧ root.fullPath ≠ lib.fullPath ∧
      ∃ c c', Action.outcome (Crate.write 1 root (.line "pub struct Root;")) {} = (.ok (), c) ∧
        Action.outcome (Crate.write 1 lib (.line "pub struct Lib;")) c = (.ok (), c') ∧
        c'.renderAll = [("src/lib.rs", "pub struct Root;\npub struct Lib;\n")] :=
  ⟨.root, .named (by decide) _, rfl, rfl, by decide, by decide, _, _, rfl, rfl, by decide +kernel⟩

end Module

end CrateGen
