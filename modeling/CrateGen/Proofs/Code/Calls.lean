import CrateGen.Proofs.Code.Page
import CrateGen.Proofs.Code.Provenance

namespace CrateGen

open CrateGen.Action

namespace Writer

variable {w w' w'' : Writer}

/-- What was written stays: text and preamble are added to, and no recorded path or child module is
lost. -/
structure Extends (w w' : Writer) : Prop where
  text : ∃ t, w'.page.text = w.page.text ++ t
  preamble : ∃ ps, w'.preamble = w.preamble ++ ps
  uses : ∀ u ∈ w.uses, u ∈ w'.uses
  modules : ∀ name ∈ w.modules, name ∈ w'.modules

namespace Extends

theorem of_page {page : Page} {t : String} (h : page.text = w.page.text ++ t) :
    Extends w { w with page } :=
  ⟨⟨t, h⟩, ⟨[], (List.append_nil _).symm⟩, fun _ hu => hu, fun _ hname => hname⟩

theorem of_kept (hpage : w'.page = w.page) (hpreamble : w'.preamble = w.preamble)
    (huses : ∀ u ∈ w.uses, u ∈ w'.uses) (hmodules : ∀ name ∈ w.modules, name ∈ w'.modules) :
    Extends w w' where
  text := ⟨"", by rw [hpage, String.append_empty]⟩
  preamble := ⟨[], by rw [hpreamble, List.append_nil]⟩
  uses := huses
  modules := hmodules

theorem of_same (hpage : w'.page = w.page) (hpreamble : w'.preamble = w.preamble)
    (huses : w'.uses = w.uses) (hmodules : w'.modules = w.modules) : Extends w w' :=
  of_kept hpage hpreamble (by rw [huses]; exact fun _ hu => hu)
    (by rw [hmodules]; exact fun _ hname => hname)

theorem refl (w : Writer) : Extends w w :=
  of_same rfl rfl rfl rfl

theorem declare (w : Writer) (m : Module) : Extends w (w.declare m) :=
  of_kept rfl rfl (fun _ hu => hu) fun _ hname => Std.ExtTreeMap.mem_insert.mpr (.inr hname)

theorem trans (h : Extends w w') (h' : Extends w' w'') : Extends w w'' where
  text := by
    obtain ⟨t, ht⟩ := h.text
    obtain ⟨t', ht'⟩ := h'.text
    exact ⟨t ++ t', by rw [ht', ht, String.append_assoc]⟩
  preamble := by
    obtain ⟨ps, hps⟩ := h.preamble
    obtain ⟨ps', hps'⟩ := h'.preamble
    exact ⟨ps ++ ps', by rw [hps', hps, List.append_assoc]⟩
  uses u hu := h'.uses u (h.uses u hu)
  modules name hname := h'.modules name (h.modules name hname)

theorem emit (w : Writer) (text : String) : Extends w (w.emit text) := by
  obtain ⟨first, rest, -, htext⟩ := w.page.text_emit w.level text
  exact of_page htext

theorem merge (w child : Writer) : Extends w (w.merge child) := by
  refine of_kept rfl rfl ?_ ?_
  · exact fun u hu => SortedSet.mem_foldl_insert.mpr (.inl hu)
  · exact fun name hname => SortedMap.mem_foldl_insertIfNew.mpr (.inl hname)

end Extends

theorem extends_progress : Progress {} Extends where
  refl := .refl
  trans h h' := h.trans h'
  emit := .emit
  newline w := .of_page w.page.text_newline
  level _ _ := .of_same rfl rfl rfl rfl
  scopes _ _ := .of_same rfl rfl rfl rfl
  issued _ _ := .of_same rfl rfl rfl rfl
  preamble _ text := ⟨⟨"", String.append_empty.symm⟩, ⟨[text], rfl⟩, fun _ hu => hu,
    fun _ hname => hname⟩
  addUse _ _ := .of_kept rfl rfl (fun _ hu => Std.ExtTreeSet.mem_insert.mpr (.inr hu))
    fun _ hname => hname
  declare w m _ := .declare w m
  depend _ _ _ := .of_same rfl rfl rfl rfl
  merge w _ child _ _ := .merge w child
  mergeDependencies _ _ _ _ _ := .of_same rfl rfl rfl rfl

end Writer

/-- What a run of code adds to a writer. -/
structure Contribution where
  code : Code
  text : String
  preamble : List String
  uses : List String
  /-- The child modules that are declared. -/
  names : List String

namespace Contribution

/-- The writer after a run holds what it held before and what the run adds. -/
structure Adds (e : Contribution) (w w' : Writer) : Prop where
  text : w'.page.text = w.page.text ++ e.text
  preamble : w'.preamble = w.preamble ++ e.preamble
  uses : ∀ u, u ∈ w'.uses ↔ u ∈ w.uses ∨ u ∈ e.uses
  names : ∀ name, name ∈ w'.modules ↔ name ∈ w.modules ∨ name ∈ e.names

theorem exists_adds {w w' : Writer} (code : Code) (h : w.Extends w') :
    ∃ e : Contribution, e.code = code ∧ e.Adds w w' := by
  obtain ⟨text, htext⟩ := h.text
  obtain ⟨preamble, hpreamble⟩ := h.preamble
  refine ⟨⟨code, text, preamble, w'.uses.toList, w'.modules.keys⟩, rfl, htext, hpreamble, ?_, ?_⟩
  · intro u
    rw [Std.ExtTreeSet.mem_toList]
    exact ⟨.inr, fun hu => hu.elim (h.uses u) id⟩
  · intro name
    rw [Std.ExtTreeMap.mem_keys]
    exact ⟨.inr, fun hname => hname.elim (h.modules name) id⟩

end Contribution

/-- Codes were run one after the other on a writer that was new, and in between child modules were
declared. -/
inductive Writer.Runs (new : Writer) : List Contribution → Writer → Prop
  | new : Runs new [] new
  | declare {log : List Contribution} {w : Writer} (m : Module) :
      Runs new log w → Runs new log (w.declare m)
  | run {log : List Contribution} {w w' : Writer} {e : Contribution} {fuel : Nat} :
      Runs new log w → outcome (e.code.run fuel) w = (.ok (), w') → e.Adds w w' →
        Runs new (log ++ [e]) w'

namespace Writer.Runs

variable {new w w' : Writer} {log : List Contribution}

theorem append (h : Runs new log w) {code : Code} {fuel : Nat}
    (hrun : outcome (code.run fuel) w = (.ok (), w')) :
    ∃ e : Contribution, e.code = code ∧ Runs new (log ++ [e]) w' := by
  have hextends := Code.run_progress extends_progress fuel code w
  rw [hrun] at hextends
  obtain ⟨e, rfl, hadds⟩ := Contribution.exists_adds code hextends
  exact ⟨e, rfl, .run h hrun hadds⟩

/-- A writer holds what the runs added, in their order, and nothing else. -/
structure Holds (w : Writer) (log : List Contribution) : Prop where
  text : w.page.text = String.join (log.map (·.text))
  preamble : w.preamble = log.flatMap (·.preamble)
  uses : ∀ u, u ∈ w.uses ↔ ∃ e ∈ log, u ∈ e.uses
  names : ∀ e ∈ log, ∀ name ∈ e.names, name ∈ w.modules

theorem holds (h : Runs new log w) (hnew : new.Blank) : Holds w log := by
  induction h with
  | new =>
    refine ⟨?_, hnew.preamble, ?_, nofun⟩
    · rw [hnew.page]
      rfl
    · intro u
      rw [hnew.uses]
      exact ⟨fun hu => absurd hu Std.ExtTreeSet.not_mem_empty, nofun⟩
  | declare m _ ih =>
    refine ⟨ih.text, ih.preamble, ih.uses, ?_⟩
    intro e he name hname
    exact Std.ExtTreeMap.mem_insert.mpr (.inr (ih.names e he name hname))
  | run _ _ hadds ih =>
    constructor
    · rw [hadds.text, ih.text, List.map_append, String.join_append, List.map_singleton,
        String.join_cons, String.join_nil, String.append_empty]
    · rw [hadds.preamble, ih.preamble, List.flatMap_append, List.flatMap_singleton]
    · intro u
      rw [hadds.uses, ih.uses]
      simp only [List.mem_append, List.mem_singleton, or_and_right, exists_or, exists_eq_left]
    · intro e he name hname
      rw [hadds.names]
      rcases List.mem_append.mp he with hold | hlast
      · exact .inl (ih.names e hold name hname)
      · rw [List.mem_singleton.mp hlast] at hname
        exact .inr hname

end Writer.Runs

namespace Crate

variable {c c' : Crate} {m : Module} {code : Code} {calls : List (Module × Code)} {fuel : Nat}

/-- What was written into the inline module with a path, in the order of the calls. -/
def inlineCodes (calls : List (Module × Code)) (path : String) : List Code :=
  (calls.filter fun call => call.1.isInline && call.1.fullPath == path).map (·.2)

/-- What was written into the file with a path, in the order of the calls. -/
def fileCodes (calls : List (Module × Code)) (path : String) : List Code :=
  (calls.filter fun call => !call.1.isInline && call.1.filePath == path).map (·.2)

theorem inlineCodes_append (calls : List (Module × Code)) (m : Module) (code : Code)
    (path : String) :
    inlineCodes (calls ++ [(m, code)]) path = inlineCodes calls path ++
      if m.isInline && m.fullPath == path then [code] else [] := by
  unfold inlineCodes
  rw [List.filter_append, List.map_append, List.filter_cons]
  congr 1
  dsimp only
  split <;> rfl

theorem fileCodes_append (calls : List (Module × Code)) (m : Module) (code : Code)
    (path : String) :
    fileCodes (calls ++ [(m, code)]) path = fileCodes calls path ++
      if !m.isInline && m.filePath == path then [code] else [] := by
  unfold fileCodes
  rw [List.filter_append, List.map_append, List.filter_cons]
  congr 1
  dsimp only
  split <;> rfl

/-- Every writer was run, since it was new, on what was written into its module. -/
structure Logged (c : Crate) (calls : List (Module × Code)) : Prop where
  file : ∀ {path : String} {w : Writer}, c.files[path]? = some w →
    ∃ (m : Module) (log : List Contribution), m.filePath = path ∧ Writer.Runs (c.newFile m) log w ∧
      log.map (·.code) = fileCodes calls path
  noFile : ∀ {path : String}, path ∉ c.files → fileCodes calls path = []
  inline : ∀ {path : String} {m : Module} {w : Writer}, c.inlineModules[path]? = some (m, w) →
    (path = m.fullPath ∧ m.isInline = true ∧ m.filePath ∈ c.files ∧ m ∈ calls.map (·.1)) ∧
      ∃ log : List Contribution, Writer.Runs (c.newInline m) log w ∧
        log.map (·.code) = inlineCodes calls path
  noInline : ∀ {path : String}, path ∉ c.inlineModules → inlineCodes calls path = []

namespace Logged

theorem openFile (h : c.Logged calls) (m : Module) : (c.openFile m).Logged calls := by
  have hopen := Opens.openFile c m
  obtain ⟨files, hrest⟩ := hopen.rest
  have hmono {path : String} (hpath : path ∈ c.files) : path ∈ (c.openFile m).files := by
    obtain ⟨w, hw⟩ := SortedMap.mem_iff.mp hpath
    obtain ⟨modules, hw'⟩ := hopen.kept hw
    exact SortedMap.mem_iff.mpr ⟨_, hw'⟩
  have hnewFile (m' : Module) : (c.openFile m).newFile m' = c.newFile m' := by
    rw [hrest]
    rfl
  have hinline : (c.openFile m).inlineModules = c.inlineModules := by
    rw [hrest]
  have hnewInline (m' : Module) : (c.openFile m).newInline m' = c.newInline m' := by
    rw [hrest]
    rfl
  constructor
  · intro path w hw
    simp only [hnewFile]
    refine openChain_files (P := fun path w => ∃ (m : Module) (log : List Contribution),
      m.filePath = path ∧ Writer.Runs (c.newFile m) log w ∧ log.map (·.code) =
        fileCodes calls path) h.file ?_ ?_ m.fileChain hw
    · intro m' hm'
      exact ⟨m', [], rfl, .new, (h.noFile hm').symm⟩
    · rintro path w m' ⟨m'', log, hpath, hruns, hlog⟩
      exact ⟨m'', log, hpath, hruns.declare m', hlog⟩
  · intro path hpath
    exact h.noFile fun hold => hpath (hmono hold)
  · intro path m' w hw
    rw [hinline] at hw
    obtain ⟨⟨hpath, hin, hfile, hmem⟩, hlog⟩ := h.inline hw
    rw [hnewInline]
    exact ⟨⟨hpath, hin, hmono hfile, hmem⟩, hlog⟩
  · intro path hpath
    rw [hinline] at hpath
    exact h.noInline hpath

theorem write_file (h : c.Logged calls) (hm : m.isInline = false)
    (hw : outcome (write fuel m code) c = (.ok (), c')) : c'.Logged (calls ++ [(m, code)]) := by
  obtain ⟨w, hrun, rfl⟩ := write_file_ok hm hw
  have hopen := h.openFile m
  constructor
  · intro path w' hw'
    rw [fileCodes_append, hm, Bool.not_false, Bool.true_and]
    rcases SortedMap.getElem?_insert_eq_some.mp hw' with ⟨rfl, rfl⟩ | ⟨hpath, hold⟩
    · obtain ⟨m', log, hpath, hruns, hlog⟩ := hopen.file (c.openFile_target hm)
      obtain ⟨e, rfl, hruns'⟩ := hruns.append hrun
      refine ⟨m', log ++ [e], hpath, hruns', ?_⟩
      rw [List.map_append, hlog, beq_self_eq_true, if_pos rfl, List.map_singleton]
    · rw [if_neg fun heq => hpath (eq_of_beq heq).symm, List.append_nil]
      exact hopen.file hold
  · intro path hpath
    rw [SortedMap.mem_insert, not_or] at hpath
    rw [fileCodes_append, hopen.noFile hpath.2, if_neg, List.append_nil]
    intro heq
    rw [Bool.and_eq_true, beq_iff_eq] at heq
    exact hpath.1 heq.2.symm
  · intro path m' w' hw'
    obtain ⟨⟨hpath, hin, hfile, hmem⟩, hlog⟩ := hopen.inline hw'
    rw [inlineCodes_append, hm, Bool.false_and, if_neg Bool.false_ne_true, List.append_nil]
    refine ⟨⟨hpath, hin, Std.ExtTreeMap.mem_insert.mpr (.inr hfile), ?_⟩, hlog⟩
    rw [List.map_append]
    exact List.mem_append_left _ hmem
  · intro path hpath
    rw [inlineCodes_append, hm, Bool.false_and, if_neg Bool.false_ne_true, List.append_nil]
    exact hopen.noInline hpath

theorem inlineEntry (h : c.Logged calls) (code : Code) (hm : m.isInline = true)
    (hfile : m.filePath ∈ c.files) :
    (m.fullPath = (c.inlineEntry m).1.fullPath ∧ (c.inlineEntry m).1.isInline = true ∧
      (c.inlineEntry m).1.filePath ∈ c.files ∧
      (c.inlineEntry m).1 ∈ (calls ++ [(m, code)]).map (·.1)) ∧
      ∃ log : List Contribution,
        Writer.Runs (c.newInline (c.inlineEntry m).1) log (c.inlineEntry m).2 ∧
          log.map (·.code) = inlineCodes calls m.fullPath := by
  rw [List.map_append]
  rcases c.inlineEntry_cases m with ⟨hnone, hnew⟩ | hknown
  · rw [hnew]
    exact ⟨⟨rfl, hm, hfile, List.mem_append_right _ List.mem_cons_self⟩, [], .new,
      (h.noInline (SortedMap.not_mem_of_none hnone)).symm⟩
  · obtain ⟨⟨hpath, hin, hfile', hmem⟩, hlog⟩ := h.inline hknown
    exact ⟨⟨hpath, hin, hfile', List.mem_append_left _ hmem⟩, hlog⟩

theorem write_inline (h : c.Logged calls) (hm : m.isInline = true)
    (hw : outcome (write fuel m code) c = (.ok (), c')) : c'.Logged (calls ++ [(m, code)]) := by
  obtain ⟨w, hrun, rfl⟩ := write_inline_ok hm hw
  have hopen := h.openFile m.fileOwner
  have hfile : m.filePath ∈ (c.openFile m.fileOwner).files := by
    obtain ⟨w, hw⟩ := c.exists_openFile m.fileOwner
    rw [Module.filePath_fileOwner] at hw
    exact SortedMap.mem_iff.mpr ⟨_, hw⟩
  obtain ⟨files, hrest⟩ := (Opens.openFile c m.fileOwner).rest
  rw [target_inline c hm] at hrun
  rw [hrest] at hopen hfile ⊢
  constructor
  · intro path w' hw'
    rw [fileCodes_append, hm, Bool.not_true, Bool.false_and, if_neg Bool.false_ne_true,
      List.append_nil]
    exact hopen.file hw'
  · intro path hpath
    rw [fileCodes_append, hm, Bool.not_true, Bool.false_and, if_neg Bool.false_ne_true,
      List.append_nil]
    exact hopen.noFile hpath
  · intro path m' w' hw'
    rw [inlineCodes_append, hm, Bool.true_and]
    rcases SortedMap.getElem?_insert_eq_some.mp hw' with ⟨rfl, hentry⟩ | ⟨hpath, hold⟩
    · cases hentry
      obtain ⟨hentry, log, hruns, hlog⟩ := hopen.inlineEntry code hm hfile
      obtain ⟨e, rfl, hruns'⟩ := hruns.append hrun
      refine ⟨hentry, log ++ [e], hruns', ?_⟩
      rw [List.map_append, hlog, beq_self_eq_true, if_pos rfl, List.map_singleton]
    · rw [if_neg fun heq => hpath (eq_of_beq heq).symm, List.append_nil]
      obtain ⟨⟨hpath, hin, hfile, hmem⟩, hlog⟩ := hopen.inline hold
      refine ⟨⟨hpath, hin, hfile, ?_⟩, hlog⟩
      rw [List.map_append]
      exact List.mem_append_left _ hmem
  · intro path hpath
    rw [SortedMap.mem_insert, not_or] at hpath
    rw [inlineCodes_append, hopen.noInline hpath.2, if_neg, List.append_nil]
    intro heq
    rw [Bool.and_eq_true, beq_iff_eq] at heq
    exact hpath.1 heq.2.symm

theorem write (h : c.Logged calls) (hw : outcome (write fuel m code) c = (.ok (), c')) :
    c'.Logged (calls ++ [(m, code)]) := by
  cases hm : m.isInline with
  | false => exact h.write_file hm hw
  | true => exact h.write_inline hm hw

theorem new (showsBanner debugMode : Bool) : Logged { showsBanner, debugMode } [] where
  file hw := by
    rw [Std.ExtTreeMap.getElem?_empty] at hw
    cases hw
  noFile _ := rfl
  inline hw := by
    rw [Std.ExtTreeMap.getElem?_empty] at hw
    cases hw
  noInline _ := rfl

theorem writings {writes : List (Module × Code)} (h : c.Logged calls)
    (hw : c.Writings writes c') : c'.Logged (calls ++ writes) := by
  induction hw generalizing calls with
  | nil =>
    rw [List.append_nil]
    exact h
  | cons hwrite _ ih =>
    rw [List.append_cons]
    exact ih (h.write hwrite)

end Logged

end Crate

end CrateGen
