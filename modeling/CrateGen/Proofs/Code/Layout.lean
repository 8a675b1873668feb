import CrateGen.Proofs.Code.Calls
import CrateGen.Proofs.Code.Success

namespace CrateGen

open CrateGen.Action
open CrateGen.Module (closure Consistent Tree)

variable {c c' : Crate} {calls : List (Module × Code)}

namespace Crate

def Step.call (s : Step) : Module × Code :=
  (s.item.module, s.item.code)

namespace Logged

theorem marked (h : c.Logged calls) (i : InlineItem Code) : (c.marked i).Logged calls :=
  ⟨h.file, h.noFile, h.inline, h.noInline⟩

theorem steps {steps : List Step} (h : c.Logged calls) (hs : Steps c steps c') :
    c'.Logged (calls ++ steps.map Step.call) := by
  induction hs generalizing calls with
  | nil =>
    rw [List.map_nil, List.append_nil]
    exact h
  | @cons c c₁ c' i steps hr _ ih =>
    obtain ⟨fuel, hwrite⟩ := hr
    rw [List.map_cons, List.append_cons]
    exact ih ((h.marked i).write hwrite)

theorem mem_inlineModules (h : c.Logged calls) {m : Module} (hm : m ∈ calls.map (·.1))
    (hin : m.isInline = true) : m.fullPath ∈ c.inlineModules := by
  obtain ⟨⟨m, code⟩, hcall, rfl⟩ := List.mem_map.mp hm
  by_contra hnone
  have hcodes : code ∈ inlineCodes calls m.fullPath := by
    refine List.mem_map.mpr ⟨(m, code), List.mem_filter.mpr ⟨hcall, ?_⟩, rfl⟩
    rw [Bool.and_eq_true]
    exact ⟨hin, beq_self_eq_true _⟩
  rw [h.noInline hnone] at hcodes
  exact List.not_mem_nil hcodes

theorem gathers (h : c.Logged calls) : c.Gathers (calls.map (·.1)) where
  hosts hw := by
    obtain ⟨⟨hpath, hin, hfile, hmem⟩, -⟩ := h.inline hw
    exact ⟨hpath, Module.mem_closure_self hmem, hin, hfile⟩
  gathered m hm hin := h.mem_inlineModules hm hin

theorem opened (h : c.Logged calls) {m : Module} (hm : m ∈ calls.map (·.1))
    (hin : m.isInline = false) : m.filePath ∈ c.files := by
  obtain ⟨⟨m, code⟩, hcall, rfl⟩ := List.mem_map.mp hm
  by_contra hnone
  have hcodes : code ∈ fileCodes calls m.filePath := by
    refine List.mem_map.mpr ⟨(m, code), List.mem_filter.mpr ⟨hcall, ?_⟩, rfl⟩
    rw [Bool.and_eq_true, hin]
    exact ⟨rfl, beq_self_eq_true _⟩
  rw [h.noFile hnone] at hcodes
  exact List.not_mem_nil hcodes

end Logged

end Crate

/-- A writer holds what was written into it since it was new, in order, and behind that blocks. -/
structure Writer.Assembled (new : Writer) (log : List Contribution) (own : Writer)
    (bs : List Block) (w : Writer) : Prop where
  runs : Runs new log own
  embedded : w = own.embedBlocks bs
  text : w.page.text =
    String.join (log.map (·.text)) ++ Block.texts own.level own.page.lineEnd bs
  preamble : w.preamble = log.flatMap (·.preamble)
  uses : ∀ u, u ∈ w.uses ↔ ∃ e ∈ log, u ∈ e.uses
  names : ∀ e ∈ log, ∀ name ∈ e.names, name ∈ w.modules

theorem Writer.Runs.assembled {new own : Writer} {log : List Contribution} (h : Runs new log own)
    (hnew : new.Blank) (bs : List Block) : Assembled new log own bs (own.embedBlocks bs) := by
  obtain ⟨page, dependencies, hembed, htext⟩ := own.embedBlocks_text bs
  have hholds := h.holds hnew
  rw [hholds.text] at htext
  refine ⟨h, rfl, ?_, ?_, ?_, ?_⟩ <;> rw [hembed]
  · exact htext
  · exact hholds.preamble
  · exact hholds.uses
  · exact hholds.names

namespace Crate

/-- How the inline modules of all calls end up as blocks in the files of the crate. -/
structure Layout (calls : List (Module × Code)) (bs : List Block) (c : Crate) : Prop where
  /-- Every inline module that was written to, or that is above such a module, is one block. -/
  once : (bs.map (·.module)).Nodup
  modules : ∀ m, m ∈ bs.map (·.module) ↔ m ∈ closure (calls.map (·.1)) ∧ m.isInline = true
  /-- A block is inside the block of its parent, or it stands in the file of its owner. -/
  placed : ∀ b ∈ bs, (∃ b' ∈ bs, b.isIn b'.module = true) ∨
    b.isOnTop b.module.filePath = true ∧ b.module.filePath ∈ c.files
  ascending : ∀ m, ((bs.filter (·.isIn m)).map (·.module.fullPath)).Pairwise (· < ·)
  block : ∀ b ∈ bs, ∃ (log : List Contribution) (own : Writer),
    log.map (·.code) = inlineCodes calls b.module.fullPath ∧
    Writer.Assembled (c.newInline b.module) log own (bs.filter (·.isIn b.module)) b.writer
  file : ∀ {path : String} {w : Writer}, c.files[path]? = some w →
    ∃ (m : Module) (log : List Contribution) (own : Writer), m.filePath = path ∧
      log.map (·.code) = fileCodes calls path ∧
      Writer.Assembled (c.newFile m) log own (bs.filter (·.isOnTop path)) w
  opened : ∀ m ∈ calls.map (·.1), m.isInline = false → m.filePath ∈ c.files
  inlineModules : c.inlineModules = ∅

theorem Logged.target (h : c.Logged calls) (hms : Tree (calls.map (·.1))) {m : Module}
    (hm : m ∈ closure (calls.map (·.1))) (hin : m.isInline = true) :
    ∃ log : List Contribution, log.map (·.code) = inlineCodes calls m.fullPath ∧
      Writer.Runs (c.newInline m) log (c.target m) := by
  unfold Crate.target
  rw [hin, if_pos rfl]
  cases hentry : c.inlineModules[m.fullPath]? with
  | some entry =>
    obtain ⟨m', w⟩ := entry
    obtain ⟨⟨hpath, -, -, hmem⟩, log, hruns, hlog⟩ := h.inline hentry
    have heq := hms.same m hm m' (Module.mem_closure_self hmem) hpath
    subst heq
    exact ⟨log, hlog, hruns⟩
  | none =>
    have hnone : m.fullPath ∉ c.inlineModules :=
      SortedMap.not_mem_of_none hentry
    exact ⟨[], (h.noInline hnone).symm, .new⟩

theorem Nested.layout {bs : List Block} (h : c.Nested (calls.map (·.1)) bs c')
    (hc : c.Logged calls) (hms : Consistent (calls.map (·.1))) : Layout calls bs c' := by
  obtain ⟨files, hrest⟩ := h.rest
  have hfiles {path : String} (hpath : path ∈ c.files) : path ∈ c'.files := by
    rw [Std.ExtTreeMap.mem_iff_isSome_getElem?, h.file, Option.isSome_map]
    exact Std.ExtTreeMap.mem_iff_isSome_getElem?.mp hpath
  constructor
  · exact Block.nodup_of_ordered h.ordered
  · intro m
    rw [List.mem_map]
    constructor
    · rintro ⟨b, hb, rfl⟩
      exact h.modules b hb
    · rintro ⟨hm, hin⟩
      exact h.exists_block hms hm hin
  · intro b hb
    obtain ⟨hmem, hinline⟩ := h.modules b hb
    obtain ⟨parent, hp⟩ := hms.exists_parent hmem hinline
    cases hin : parent.isInline with
    | true =>
      left
      obtain ⟨b', hb', rfl⟩ := h.parents b hb parent hp hin
      exact ⟨b', hb', Block.isIn_iff.mpr hp⟩
    | false =>
      right
      refine ⟨Block.isOnTop_iff.mpr ⟨fun parent' hp' => ?_, rfl⟩, hfiles (h.opened b hb)⟩
      rw [hp] at hp'
      cases hp'
      exact hin
  · intro m
    rw [List.pairwise_map]
    refine List.Pairwise.imp_of_mem ?_ (h.ordered.filter _)
    intro b b' hb hb' hbefore
    have hdepth {b : Block} (hb : b ∈ bs.filter (·.isIn m)) :
        Path.depth b.module.fullPath = Path.depth m.fullPath + 1 := by
      rw [List.mem_filter, Block.isIn_iff] at hb
      exact hms.depth_parent (h.modules b hb.1).1 hb.2
    rcases hbefore with hlt | ⟨-, hlt⟩
    · rw [hdepth hb, hdepth hb'] at hlt
      exact absurd hlt (Nat.lt_irrefl _)
    · exact hlt
  · intro b hb
    obtain ⟨hmem, hinline⟩ := h.modules b hb
    obtain ⟨log, hlog, hruns⟩ := hc.target hms.toTree hmem hinline
    refine ⟨log, c.target b.module, hlog, ?_⟩
    rw [h.block b hb, hrest]
    exact hruns.assembled (c.newInline_blank b.module) _
  · intro path w hw
    rw [h.file] at hw
    obtain ⟨own, hown, rfl⟩ := Option.map_eq_some_iff.mp hw
    obtain ⟨m, log, hpath, hruns, hlog⟩ := hc.file hown
    refine ⟨m, log, own, hpath, hlog, ?_⟩
    rw [hrest]
    exact hruns.assembled (c.newFile_blank m) _
  · intro m hm hin
    exact hfiles (hc.opened hm hin)
  · rw [hrest]

/-- Finalizing embeds what all calls wrote, those of the inline items included. -/
theorem Rounds.nested {showsBanner debugMode : Bool} {writes : List (Module × Code)}
    {c c₁ : Crate} {rounds : List (List Step)}
    (hwrites : Writings { showsBanner, debugMode } writes c) (hrounds : Rounds c rounds c₁)
    (hms : Tree ((writes ++ rounds.flatten.map Step.call).map (·.1))) :
    c₁.Logged (writes ++ rounds.flatten.map Step.call) ∧ ∃ (bs : List Block) (c' : Crate),
      c₁.Nested ((writes ++ rounds.flatten.map Step.call).map (·.1)) bs c' ∧
      (∀ steps, outcome (embedModules (bs.length + steps) c₁.inlineModules)
        { c₁ with inlineModules := ∅ } = outcome (embedModules steps ∅) c') ∧
      ∃ fuel₀, ∀ fuel ≥ fuel₀,
        outcome (finalize fuel) c = (.ok (), { c' with finalized := true }) := by
  have hlogged := ((Logged.new showsBanner debugMode).writings hwrites).steps hrounds.steps
  rw [List.nil_append] at hlogged
  obtain ⟨bs, c', hnested, hembed, hloop⟩ := embedAll_nested hms hlogged.gathers
  have hfinalized : c.finalized = false := by
    obtain ⟨files, inlineModules, hrest⟩ := hwrites.rest
    rw [hrest]
  obtain ⟨fuel₁, hrender⟩ := hrounds.outcome_renderPending
  refine ⟨hlogged, bs, c', hnested, hloop, max fuel₁ (rounds.length + 1), ?_⟩
  intro fuel hfuel
  have hpending := hrender fuel (Nat.le_trans (Nat.le_max_left _ _) hfuel) fuel
    (Nat.le_trans (Nat.le_max_right _ _) hfuel)
  exact outcome_finalize hfinalized hpending hembed

def innermost : Module :=
  ((Module.named "innermost" .hidden).childOf detail).asInline

/-- Code for an inline module in two parts, with code for another file in between. Nothing is
written into the inline module above it. -/
def nestedWrites : List (Module × Code) :=
  [(innermost, .line "struct First;"), (helpers, .line "use detail::innermost::First;"),
    (innermost, .line "struct Second;")]

theorem exists_nestedWrites : ∃ c, Writings {} nestedWrites c ∧ Rounds c [] c := by
  have hline : ∀ write ∈ nestedWrites, write.1.Rooted ∧ ∃ text, write.2 = .line text := by
    intro write hmem
    rcases hmem with _ | ⟨_, _ | ⟨_, _ | ⟨_, hmem⟩⟩⟩
    · exact ⟨rfl, _, rfl⟩
    · exact ⟨rfl, _, rfl⟩
    · exact ⟨rfl, _, rfl⟩
    · cases hmem
  obtain ⟨c, hwrites⟩ : ∃ c, Writings {} nestedWrites c := by
    apply exists_writings
    intro write hmem
    obtain ⟨hm, text, hcode⟩ := hline write hmem
    rw [hcode]
    exact ⟨hm, .line text⟩
  refine ⟨c, hwrites, hwrites.rounds fun write hmem => ?_⟩
  obtain ⟨-, text, hcode⟩ := hline write hmem
  rw [hcode]
  trivial

end Crate

end CrateGen
