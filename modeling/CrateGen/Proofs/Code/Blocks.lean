import CrateGen.Proofs.Code.ModuleTree

namespace CrateGen

open CrateGen.Action

/-- An inline module with the writer that becomes its block. -/
structure Block where
  module : Module
  writer : Writer

namespace Block

/-- The block is inside the block of a module. -/
def isIn (b : Block) (m : Module) : Bool :=
  b.module.parent? == some m

/-- The block is in a file, and not inside another block. -/
def isOnTop (b : Block) (path : String) : Bool :=
  b.module.parent?.all (!·.isInline) && b.module.filePath == path

variable {b : Block} {m : Module} {path : String}

theorem isIn_iff : b.isIn m = true ↔ b.module.parent? = some m :=
  beq_iff_eq

theorem isOnTop_iff : b.isOnTop path = true ↔
    (∀ parent, b.module.parent? = some parent → parent.isInline = false) ∧
      b.module.filePath = path := by
  unfold isOnTop
  rw [Bool.and_eq_true, beq_iff_eq, Option.all_eq_true]
  simp only [Bool.not_eq_true']

theorem nodup_of_ordered {bs : List Block}
    (h : bs.Pairwise fun b b' => Path.Before b.module.fullPath b'.module.fullPath) :
    (bs.map (·.module)).Nodup := by
  rw [List.Nodup, List.pairwise_map]
  apply h.imp
  intro b b' hbefore heq
  rw [heq] at hbefore
  exact Path.Before.irrefl _ hbefore

end Block

def Writer.embedBlocks (w : Writer) (bs : List Block) : Writer :=
  bs.foldl (fun w b => w.embed b.module b.writer) w

theorem Writer.embedBlocks_append (w : Writer) (bs : List Block) (b : Block) (f : Block → Bool) :
    w.embedBlocks ((bs ++ [b]).filter f) =
      if f b then (w.embedBlocks (bs.filter f)).embed b.module b.writer
      else w.embedBlocks (bs.filter f) := by
  unfold embedBlocks
  rw [List.filter_append, List.foldl_append]
  cases h : f b with
  | true =>
    rw [List.filter_cons_of_pos h]
    rfl
  | false =>
    rw [List.filter_cons_of_neg (by rw [h]; exact Bool.false_ne_true)]
    rfl

namespace Crate

/-- The deeper one of two modules, which is the first if they are equally deep. -/
def deeper (best : Option (String × Module × Writer)) (entry : String × Module × Writer) :
    Option (String × Module × Writer) :=
  match best with
  | none => some entry
  | some b => if Path.depth b.1 < Path.depth entry.1 then some entry else best

theorem deepest?_eq (ms : List (String × Module × Writer)) : deepest? ms = ms.foldl deeper none :=
  rfl

theorem foldl_deeper_ne (ms : List (String × Module × Writer)) (b : String × Module × Writer) :
    ms.foldl deeper (some b) ≠ none := by
  induction ms generalizing b with
  | nil => exact Option.some_ne_none b
  | cons a ms ih =>
    rw [List.foldl_cons, deeper]
    split
    · exact ih a
    · exact ih b

theorem foldl_deeper_first {ms : List (String × Module × Writer)}
    {b entry : String × Module × Writer} (h : ms.foldl deeper (some b) = some entry)
    (hb : (b :: ms).Pairwise (·.1 < ·.1)) :
    ∀ e ∈ b :: ms, e = entry ∨ Path.Before entry.1 e.1 := by
  induction ms generalizing b with
  | nil =>
    cases h
    intro e he
    exact .inl (List.mem_singleton.mp he)
  | cons a ms ih =>
    obtain ⟨hbms, hams⟩ := List.pairwise_cons.mp hb
    rw [List.foldl_cons, deeper] at h
    have hfirst {x y : String × Module × Writer} (hx : x = entry ∨ Path.Before entry.1 x.1)
        (hxy : Path.Before x.1 y.1) : y = entry ∨ Path.Before entry.1 y.1 := by
      rcases hx with rfl | hx
      · exact .inr hxy
      · exact .inr (hx.trans hxy)
    intro e he
    split at h
    · next hdeep =>
      have hrest := ih h hams
      rcases List.mem_cons.mp he with rfl | he
      · exact hfirst (hrest a List.mem_cons_self) (.inl hdeep)
      · exact hrest e he
    · next hflat =>
      have hrest := ih h (List.pairwise_cons.mpr
        ⟨fun e he => hbms e (List.mem_cons_of_mem _ he), (List.pairwise_cons.mp hams).2⟩)
      rcases List.mem_cons.mp he with rfl | he
      · exact hrest e List.mem_cons_self
      · rcases List.mem_cons.mp he with rfl | he
        · apply hfirst (hrest b List.mem_cons_self)
          rcases Nat.eq_or_lt_of_le (Nat.le_of_not_lt hflat) with hd | hd
          · exact .inr ⟨hd, hbms e List.mem_cons_self⟩
          · exact .inl hd
        · exact hrest e (List.mem_cons_of_mem _ he)

namespace Inlines

variable {ms : Inlines}

theorem toList_ascending (ms : Inlines) : ms.toList.Pairwise (·.1 < ·.1) := by
  apply Std.ExtTreeMap.ordered_keys_toList.imp
  intro a b hab
  exact compareOfLessAndEq_eq_lt.mp hab

theorem deepest?_first {entry : String × Module × Writer} (h : deepest? ms.toList = some entry) :
    ∀ e ∈ ms.toList, e = entry ∨ Path.Before entry.1 e.1 := by
  have hms := ms.toList_ascending
  rw [deepest?_eq] at h
  cases hl : ms.toList with
  | nil => nofun
  | cons b entries =>
    rw [hl] at h hms
    exact foldl_deeper_first h hms

theorem of_deepest? {path : String} {m : Module} {w : Writer}
    (h : deepest? ms.toList = some (path, m, w)) :
    ms[path]? = some (m, w) ∧ ∀ path' ∈ ms.erase path, Path.Before path path' := by
  refine ⟨Std.ExtTreeMap.mem_toList_iff_getElem?_eq_some.mp (deepest?_mem h), ?_⟩
  intro path' hmem
  rw [Std.ExtTreeMap.mem_erase] at hmem
  obtain ⟨entry, hentry⟩ := SortedMap.mem_iff.mp hmem.2
  rcases deepest?_first h _ (Std.ExtTreeMap.mem_toList_iff_getElem?_eq_some.mpr hentry) with
    heq | hbefore
  · cases heq
    exact absurd Std.ReflCmp.compare_self hmem.1
  · exact hbefore

theorem eq_empty_of_deepest? (h : deepest? ms.toList = none) : ms = ∅ := by
  rw [deepest?_eq] at h
  cases hl : ms.toList with
  | nil => exact Std.ExtTreeMap.toList_eq_nil_iff.mp hl
  | cons b entries =>
    rw [hl] at h
    exact absurd h (foldl_deeper_ne entries b)

theorem of_mem_erase {path path' : String} {entry : Module × Writer}
    (h : (ms.erase path)[path']? = some entry) :
    ms[path']? = some entry ∧ path' ∈ ms.erase path := by
  exact ⟨SortedMap.of_getElem?_erase h, SortedMap.mem_iff.mpr ⟨_, h⟩⟩

end Inlines

section

open CrateGen.Module (closure Consistent Tree)

variable {c : Crate} {ms : List Module} {bs : List Block} {todo : Inlines}
  {files : Std.ExtTreeMap String Writer}

/-- The module is one of the inline modules of a family, and its file is there. -/
structure Hosts (c : Crate) (ms : List Module) (m : Module) : Prop where
  mem : m ∈ closure ms
  inline : m.isInline = true
  opened : m.filePath ∈ c.files

theorem Hosts.parent {m parent : Module} (h : c.Hosts ms m) (hp : m.parent? = some parent)
    (hin : parent.isInline = true) : c.Hosts ms parent where
  mem := Module.parent_mem_closure h.mem hp
  inline := hin
  opened := by
    rw [← Module.filePath_of_inline h.inline hp]
    exact h.opened

/-- How far the embedding of the inline modules has come: the blocks in the order in which they were
made, the modules that are left with their writers, and the files. -/
structure Nesting (c : Crate) (ms : List Module) (bs : List Block) (todo : Inlines)
    (files : Std.ExtTreeMap String Writer) : Prop where
  entry : ∀ {path : String} {m : Module} {w : Writer}, todo[path]? = some (m, w) →
    path = m.fullPath ∧ c.Hosts ms m ∧ w = (c.target m).embedBlocks (bs.filter (·.isIn m))
  file : ∀ path : String,
    files[path]? = c.files[path]?.map (·.embedBlocks (bs.filter (·.isOnTop path)))
  block : ∀ b ∈ bs, c.Hosts ms b.module ∧
    b.writer = (c.target b.module).embedBlocks (bs.filter (·.isIn b.module))
  ordered : bs.Pairwise fun b b' => Path.Before b.module.fullPath b'.module.fullPath
  first : ∀ b ∈ bs, ∀ path ∈ todo, Path.Before b.module.fullPath path
  covers : ∀ path ∈ c.inlineModules, (∃ b ∈ bs, b.module.fullPath = path) ∨ path ∈ todo
  parents : ∀ b ∈ bs, ∀ parent, b.module.parent? = some parent → parent.isInline = true →
    (∃ b' ∈ bs, b'.module.fullPath = parent.fullPath) ∨ parent.fullPath ∈ todo

namespace Nesting

variable {path : String} {b : Block}

theorem before (h : Nesting c ms bs todo files) {entry : Module × Writer}
    (he : todo[path]? = some entry) : ∀ b ∈ bs, Path.Before b.module.fullPath path :=
  fun b hb => h.first b hb path (SortedMap.mem_iff.mpr ⟨_, he⟩)

/-- A module that is left is not inside a block that is done, or inside its own. -/
theorem not_isIn (hms : Tree ms) (h : Nesting c ms bs todo files)
    (hb : todo[path]? = some (b.module, b.writer)) {m : Module}
    (hm : m = b.module ∨ ∃ b' ∈ bs, b'.module = m) : b.isIn m = false := by
  obtain ⟨rfl, hhost, -⟩ := h.entry hb
  rw [← Bool.not_eq_true, Block.isIn_iff]
  intro hp
  have hparent := hms.before_parent hhost.mem hp
  rcases hm with rfl | ⟨b', hb', rfl⟩
  · exact Path.Before.irrefl _ hparent
  · exact Path.Before.irrefl _ (hparent.trans (h.before hb b' hb'))

theorem next (hms : Tree ms) (h : Nesting c ms bs todo files)
    (hd : deepest? todo.toList = some (path, b.module, b.writer)) {todo' : Inlines}
    {files' : Std.ExtTreeMap String Writer}
    (hentry : ∀ {path' : String} {m : Module} {w : Writer}, todo'[path']? = some (m, w) →
      path' = m.fullPath ∧ c.Hosts ms m ∧ Path.Before path path' ∧
        w = (c.target m).embedBlocks ((bs ++ [b]).filter (·.isIn m)))
    (hfile : ∀ path : String, files'[path]? =
      c.files[path]?.map (·.embedBlocks ((bs ++ [b]).filter (·.isOnTop path))))
    (hkeep : ∀ path' ∈ todo.erase path, path' ∈ todo')
    (hparent : ∀ parent, b.module.parent? = some parent → parent.isInline = true →
      parent.fullPath ∈ todo') :
    Nesting c ms (bs ++ [b]) todo' files' := by
  obtain ⟨hb, hothers⟩ := Inlines.of_deepest? hd
  obtain ⟨rfl, hhost, hwriter⟩ := h.entry hb
  have hplaced {path : String} (hp : (∃ b ∈ bs, b.module.fullPath = path) ∨ path ∈ todo) :
      (∃ b' ∈ bs ++ [b], b'.module.fullPath = path) ∨ path ∈ todo' := by
    rcases hp with ⟨b', hb', hpath⟩ | hp
    · exact .inl ⟨b', List.mem_append_left _ hb', hpath⟩
    · by_cases heq : b.module.fullPath = path
      · exact .inl ⟨b, List.mem_append_right _ List.mem_cons_self, heq⟩
      · apply Or.inr
        apply hkeep
        rw [Std.ExtTreeMap.mem_erase]
        exact ⟨fun hcmp => heq (Std.compare_eq_iff_eq.mp hcmp), hp⟩
  constructor
  · intro path' m w hm
    obtain ⟨hpath, hhost', -, hw⟩ := hentry hm
    exact ⟨hpath, hhost', hw⟩
  · exact hfile
  · intro b' hb'
    rcases List.mem_append.mp hb' with hold | hnew
    · obtain ⟨hhost', hwriter'⟩ := h.block b' hold
      refine ⟨hhost', ?_⟩
      -- what is left is not inside a block that is done, since that one came first
      rw [Writer.embedBlocks_append, h.not_isIn hms hb (.inr ⟨b', hold, rfl⟩),
        if_neg Bool.false_ne_true, hwriter']
    · rw [List.mem_singleton.mp hnew]
      refine ⟨hhost, ?_⟩
      rw [Writer.embedBlocks_append, h.not_isIn hms hb (.inl rfl), if_neg Bool.false_ne_true]
      exact hwriter
  · apply List.pairwise_append.mpr
    refine ⟨h.ordered, List.pairwise_singleton _ _, ?_⟩
    intro b' hb' b'' hb''
    rw [List.mem_singleton.mp hb'']
    exact h.before hb b' hb'
  · intro b' hb' path' hpath'
    obtain ⟨⟨m, w⟩, hm⟩ := SortedMap.mem_iff.mp hpath'
    obtain ⟨-, -, hbefore, -⟩ := hentry hm
    rcases List.mem_append.mp hb' with hold | hnew
    · exact (h.before hb b' hold).trans hbefore
    · rw [List.mem_singleton.mp hnew]
      exact hbefore
  · exact fun path' hpath' => hplaced (h.covers path' hpath')
  · intro b' hb' parent hp hin
    rcases List.mem_append.mp hb' with hold | hnew
    · exact hplaced (h.parents b' hold parent hp hin)
    · rw [List.mem_singleton.mp hnew] at hp
      exact .inr (hparent parent hp hin)

theorem file_modify (h : Nesting c ms bs todo files)
    (hp : ∀ parent, b.module.parent? = some parent → parent.isInline = false) (path : String) :
    (files.modify b.module.filePath (·.embed b.module b.writer))[path]? =
      c.files[path]?.map (·.embedBlocks ((bs ++ [b]).filter (·.isOnTop path))) := by
  rw [Std.ExtTreeMap.getElem?_modify]
  by_cases hpath : b.module.filePath = path
  · have htop := Block.isOnTop_iff.mpr ⟨hp, hpath⟩
    subst hpath
    rw [if_pos Std.ReflCmp.compare_self, h.file]
    simp only [Writer.embedBlocks_append, htop, if_true, Option.map_map, Function.comp_def]
  · have htop : b.isOnTop path = false := by
      rw [← Bool.not_eq_true]
      exact fun htop => hpath (Block.isOnTop_iff.mp htop).2
    rw [if_neg fun hcmp => hpath (Std.compare_eq_iff_eq.mp hcmp), h.file]
    simp only [Writer.embedBlocks_append, htop, if_neg Bool.false_ne_true]

theorem step_file (hms : Tree ms) (h : Nesting c ms bs todo files)
    (hd : deepest? todo.toList = some (path, b.module, b.writer))
    (hp : ∀ parent, b.module.parent? = some parent → parent.isInline = false) :
    Nesting c ms (bs ++ [b]) (todo.erase path)
        (files.modify b.module.filePath (·.embed b.module b.writer)) ∧
      ∀ steps, outcome (embedModules (steps + 1) todo) { c with files, inlineModules := ∅ } =
        outcome (embedModules steps (todo.erase path)) { c with
          files := files.modify b.module.filePath (·.embed b.module b.writer)
          inlineModules := ∅ } := by
  obtain ⟨hb, hothers⟩ := Inlines.of_deepest? hd
  obtain ⟨rfl, hhost, -⟩ := h.entry hb
  constructor
  · apply h.next hms hd
    · intro path' m w hm
      obtain ⟨hold, hleft⟩ := Inlines.of_mem_erase hm
      obtain ⟨hpath, hhost', hw⟩ := h.entry hold
      have hin : b.isIn m = false := by
        rw [← Bool.not_eq_true, Block.isIn_iff]
        intro hparent
        have hinline := hp m hparent
        rw [hhost'.inline] at hinline
        cases hinline
      refine ⟨hpath, hhost', hothers path' hleft, ?_⟩
      rw [Writer.embedBlocks_append, hin, if_neg Bool.false_ne_true]
      exact hw
    · exact h.file_modify hp
    · exact fun path' hpath' => hpath'
    · intro parent hparent hin
      rw [hp parent hparent] at hin
      cases hin
  · intro steps
    have hopen : b.module.fileOwner.filePath ∈ files := by
      rw [Module.filePath_fileOwner, Std.ExtTreeMap.mem_iff_isSome_getElem?, h.file,
        Option.isSome_map]
      exact Std.ExtTreeMap.mem_iff_isSome_getElem?.mp hhost.opened
    obtain ⟨w, hw⟩ := SortedMap.mem_iff.mp hopen
    rw [embedModules_file hd hp, intoFile, openFile_of_mem hw, Module.filePath_fileOwner]
    rfl

theorem parent_left (hms : Tree ms) (h : Nesting c ms bs todo files)
    (hb : todo[path]? = some (b.module, b.writer)) {parent : Module}
    (hp : b.module.parent? = some parent)
    (hplaced : (∃ b' ∈ bs, b'.module.fullPath = parent.fullPath) ∨ parent.fullPath ∈ todo) :
    parent.fullPath ∈ todo.erase path := by
  obtain ⟨rfl, hhost, -⟩ := h.entry hb
  have hparent := hms.before_parent hhost.mem hp
  rcases hplaced with ⟨b', hb', hpath⟩ | hleft
  · have hbefore := h.before hb b' hb'
    rw [hpath] at hbefore
    exact absurd (hparent.trans hbefore) (Path.Before.irrefl _)
  · rw [Std.ExtTreeMap.mem_erase]
    refine ⟨fun hcmp => ?_, hleft⟩
    rw [Std.compare_eq_iff_eq.mp hcmp] at hparent
    exact Path.Before.irrefl _ hparent

theorem parent_entry (hms : Tree ms) (h : Nesting c ms bs todo files)
    (hb : todo[path]? = some (b.module, b.writer)) {parent : Module}
    (hp : b.module.parent? = some parent) (hin : parent.isInline = true) :
    Inlines.entry (todo.erase path) parent (c.newInline parent) =
      (parent, (c.target parent).embedBlocks (bs.filter (·.isIn parent))) := by
  obtain ⟨rfl, hhost, -⟩ := h.entry hb
  have hmem := (hhost.parent hp hin).mem
  unfold Inlines.entry
  cases hleft : (todo.erase b.module.fullPath)[parent.fullPath]? with
  | some entry =>
    obtain ⟨m, w⟩ := entry
    obtain ⟨hpath, hhost', hw⟩ := h.entry (Inlines.of_mem_erase hleft).1
    rw [hms.same _ hmem _ hhost'.mem hpath, hw]
    rfl
  | none =>
    have hnone : parent.fullPath ∉ todo.erase b.module.fullPath :=
      SortedMap.not_mem_of_none hleft
    have hblocks : bs.filter (·.isIn parent) = [] := by
      apply List.filter_eq_nil_iff.mpr
      intro b' hb' hisIn
      exact hnone (h.parent_left hms hb hp
        (h.parents b' hb' parent (Block.isIn_iff.mp hisIn) hin))
    have hnew : c.inlineModules[parent.fullPath]? = none := by
      apply Std.ExtTreeMap.getElem?_eq_none
      exact fun hold => hnone (h.parent_left hms hb hp (h.covers _ hold))
    rw [hblocks]
    unfold target
    rw [hin, if_pos rfl, hnew]
    rfl

theorem step_parent (hms : Tree ms) (h : Nesting c ms bs todo files)
    (hd : deepest? todo.toList = some (path, b.module, b.writer)) {parent : Module}
    (hp : b.module.parent? = some parent) (hin : parent.isInline = true) :
    ∃ todo' : Inlines, Nesting c ms (bs ++ [b]) todo' files ∧
      ∀ steps, outcome (embedModules (steps + 1) todo) { c with files, inlineModules := ∅ } =
        outcome (embedModules steps todo') { c with files, inlineModules := ∅ } := by
  obtain ⟨hb, hothers⟩ := Inlines.of_deepest? hd
  have hentry := h.parent_entry hms hb hp hin
  obtain ⟨rfl, hhost, -⟩ := h.entry hb
  have hhost' := hhost.parent hp hin
  refine ⟨(todo.erase b.module.fullPath).insert parent.fullPath
    (parent, ((c.target parent).embedBlocks (bs.filter (·.isIn parent))).embed b.module b.writer),
    ?_, ?_⟩
  · apply h.next hms hd
    · intro path' m w hm
      rcases SortedMap.getElem?_insert_eq_some.mp hm with ⟨rfl, hnew⟩ | ⟨hne, hrest⟩
      · cases hnew
        refine ⟨rfl, hhost', hms.before_parent hhost.mem hp, ?_⟩
        rw [Writer.embedBlocks_append, Block.isIn_iff.mpr hp, if_pos rfl]
      · obtain ⟨hold, hleft⟩ := Inlines.of_mem_erase hrest
        obtain ⟨rfl, hhostm, hw⟩ := h.entry hold
        refine ⟨rfl, hhostm, hothers _ hleft, ?_⟩
        rw [Writer.embedBlocks_append, if_neg]
        · exact hw
        · intro hisIn
          rw [Block.isIn_iff, hp] at hisIn
          cases hisIn
          exact hne rfl
    · intro path
      have htop : b.isOnTop path = false := by
        rw [← Bool.not_eq_true, Block.isOnTop_iff]
        rintro ⟨hall, -⟩
        rw [hall parent hp] at hin
        cases hin
      rw [h.file]
      simp only [Writer.embedBlocks_append, htop, if_neg Bool.false_ne_true]
    · intro path' hpath'
      exact Std.ExtTreeMap.mem_insert.mpr (.inr hpath')
    · intro parent' hp' _
      rw [hp] at hp'
      cases hp'
      exact Std.ExtTreeMap.mem_insert_self
  · intro steps
    rw [embedModules_parent hd hp hin (hms.rooted _ hhost'.mem)]
    change outcome (embedModules steps ((todo.erase b.module.fullPath).insert parent.fullPath
      ((Inlines.entry (todo.erase b.module.fullPath) parent (c.newInline parent)).1,
        (Inlines.entry (todo.erase b.module.fullPath) parent (c.newInline parent)).2.embed
          b.module b.writer))) _ = _
    rw [hentry]

theorem step (hms : Tree ms) (h : Nesting c ms bs todo files)
    (hd : deepest? todo.toList = some (path, b.module, b.writer)) :
    ∃ (todo' : Inlines) (files' : Std.ExtTreeMap String Writer),
      Nesting c ms (bs ++ [b]) todo' files' ∧
      ∀ steps, outcome (embedModules (steps + 1) todo) { c with files, inlineModules := ∅ } =
        outcome (embedModules steps todo') { c with files := files', inlineModules := ∅ } := by
  by_cases hp : ∃ parent, b.module.parent? = some parent ∧ parent.isInline = true
  · obtain ⟨parent, hp, hin⟩ := hp
    obtain ⟨todo', hstep⟩ := h.step_parent hms hd hp hin
    exact ⟨todo', files, hstep⟩
  · refine ⟨_, _, h.step_file hms hd ?_⟩
    intro parent hparent
    rw [← Bool.not_eq_true]
    exact fun hin => hp ⟨parent, hparent, hin⟩

theorem length_le (h : Nesting c ms bs todo files) : bs.length ≤ (closure ms).length := by
  have hnodup := Block.nodup_of_ordered h.ordered
  have hsubset : bs.map (·.module) ⊆ closure ms := by
    intro m hm
    obtain ⟨b, hb, rfl⟩ := List.mem_map.mp hm
    exact (h.block b hb).1.mem
  have hle := hnodup.length_le_of_subset hsubset
  rw [List.length_map] at hle
  exact hle

/-- The embedding ends: every step makes a block, and there are not more than modules of the
family. -/
theorem run (hms : Tree ms) (h : Nesting c ms bs todo files) :
    ∃ (bs' : List Block) (files' : Std.ExtTreeMap String Writer),
      Nesting c ms (bs ++ bs') ∅ files' ∧
      ∀ steps, outcome (embedModules (bs'.length + steps) todo)
          { c with files, inlineModules := ∅ } =
        outcome (embedModules steps ∅) { c with files := files', inlineModules := ∅ } := by
  induction hn : (closure ms).length - bs.length using Nat.strongRecOn
    generalizing bs todo files with
  | ind n ih =>
    cases hd : deepest? todo.toList with
    | none =>
      have hempty := Inlines.eq_empty_of_deepest? hd
      subst hempty
      refine ⟨[], files, ?_, fun steps => ?_⟩
      · rw [List.append_nil]
        exact h
      · rw [List.length_nil, Nat.zero_add]
    | some entry =>
      obtain ⟨path, m, w⟩ := entry
      obtain ⟨todo', files', hnext, hstep⟩ := h.step (b := ⟨m, w⟩) hms hd
      have hle := hnext.length_le
      rw [List.length_append, List.length_singleton] at hle
      obtain ⟨bs', files'', hlast, hrun⟩ := ih _ (by
        rw [List.length_append, List.length_singleton]
        omega) hnext rfl
      refine ⟨⟨m, w⟩ :: bs', files'', ?_, fun steps => ?_⟩
      · rw [List.append_cons]
        exact hlast
      · rw [List.length_cons, Nat.add_right_comm, hstep]
        exact hrun steps

end Nesting

/-- The inline modules of a crate are those of a family, and their files are there. -/
structure Gathers (c : Crate) (ms : List Module) : Prop where
  hosts : ∀ {path : String} {m : Module} {w : Writer}, c.inlineModules[path]? = some (m, w) →
    path = m.fullPath ∧ c.Hosts ms m
  gathered : ∀ m ∈ ms, m.isInline = true → m.fullPath ∈ c.inlineModules

/-- Every inline module of a family is one block, and so is every inline module that a block is in.
A block has what its writer holds and, behind that, the blocks inside it; the other blocks are
behind what the writers of their files hold. The blocks are in the order in which they are made. -/
structure Nested (c : Crate) (ms : List Module) (bs : List Block) (c' : Crate) : Prop where
  modules : ∀ b ∈ bs, b.module ∈ closure ms ∧ b.module.isInline = true
  gathered : ∀ m ∈ ms, m.isInline = true → ∃ b ∈ bs, b.module = m
  parents : ∀ b ∈ bs, ∀ parent, b.module.parent? = some parent → parent.isInline = true →
    ∃ b' ∈ bs, b'.module = parent
  ordered : bs.Pairwise fun b b' => Path.Before b.module.fullPath b'.module.fullPath
  opened : ∀ b ∈ bs, b.module.filePath ∈ c.files
  block : ∀ b ∈ bs, b.writer = (c.target b.module).embedBlocks (bs.filter (·.isIn b.module))
  file : ∀ path : String,
    c'.files[path]? = c.files[path]?.map (·.embedBlocks (bs.filter (·.isOnTop path)))
  rest : ∃ files, c' = { c with files, inlineModules := ∅ }

namespace Nested

variable {c' : Crate}

/-- Without a file below an inline module, every inline module on the way up is a block. -/
theorem exists_block (h : c.Nested ms bs c') (hms : Consistent ms) {m : Module}
    (hm : m ∈ closure ms) (hin : m.isInline = true) : ∃ b ∈ bs, b.module = m := by
  refine hms.inline_induction (P := fun m => ∃ b ∈ bs, b.module = m) h.gathered ?_ m hm hin
  rintro _ - ⟨b, hb, rfl⟩ parent hp hin
  exact h.parents b hb parent hp hin

end Nested

theorem Gathers.nesting (hc : c.Gathers ms) : Nesting c ms [] c.inlineModules c.files where
  entry {path m w} hw := by
    obtain ⟨rfl, hhost⟩ := hc.hosts hw
    refine ⟨rfl, hhost, ?_⟩
    unfold target
    rw [hhost.inline, if_pos rfl, hw]
    rfl
  file path := Option.map_id'.symm
  block := nofun
  ordered := .nil
  first := nofun
  covers _ hpath := .inr hpath
  parents := nofun

theorem Nesting.nested (hms : Tree ms) (hc : c.Gathers ms) (h : Nesting c ms bs ∅ files) :
    Nested c ms bs { c with files, inlineModules := ∅ } := by
  have hplaced {m : Module} (hm : m ∈ closure ms)
      (hp : (∃ b ∈ bs, b.module.fullPath = m.fullPath) ∨ m.fullPath ∈ (∅ : Inlines)) :
      ∃ b ∈ bs, b.module = m := by
    rcases hp with ⟨b, hb, hpath⟩ | hempty
    · exact ⟨b, hb, hms.same _ (h.block b hb).1.mem m hm hpath⟩
    · exact absurd hempty Std.ExtTreeMap.not_mem_empty
  constructor
  · exact fun b hb => ⟨(h.block b hb).1.mem, (h.block b hb).1.inline⟩
  · intro m hm hin
    exact hplaced (Module.mem_closure_self hm) (h.covers _ (hc.gathered m hm hin))
  · intro b hb parent hp hin
    exact hplaced (Module.parent_mem_closure (h.block b hb).1.mem hp) (h.parents b hb parent hp hin)
  · exact h.ordered
  · exact fun b hb => (h.block b hb).1.opened
  · exact fun b hb => (h.block b hb).2
  · exact h.file
  · exact ⟨files, rfl⟩

/-- The inline modules become blocks, one in each step, until none is left. -/
theorem embedAll_nested (hms : Tree ms) (hc : c.Gathers ms) :
    ∃ (bs : List Block) (c' : Crate), Nested c ms bs c' ∧ outcome embedAll c = (.ok (), c') ∧
      ∀ steps, outcome (embedModules (bs.length + steps) c.inlineModules)
        { c with inlineModules := ∅ } = outcome (embedModules steps ∅) c' := by
  obtain ⟨bs, files, hdone, hrun⟩ := hc.nesting.run hms
  refine ⟨bs, _, hdone.nested hms hc, ?_, hrun⟩
  have hrooted : Inlines.Rooted c.inlineModules :=
    fun path m w hw => hms.rooted m (hc.hosts hw).2.mem
  rw [embedAll_of_weight_le hrooted (Nat.le_add_left _ bs.length)]
  refine (hrun _).trans ?_
  rw [embedModules_none rfl]
  rfl

end

end Crate

end CrateGen
