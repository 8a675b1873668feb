import CrateGen.Proofs.Code.Standalone
import CrateGen.Proofs.Text.Dedent

/-!
The lines of a comment, and where they come to stand when one writer gets them: on its page, in the
header or the footer of a block, in a module that is embedded or in front of one that is declared.
-/

namespace CrateGen

open CrateGen.Action
open CrateGen.Text (Slot Solid)

/-! ## Comment lines -/

theorem Text.noBreak_of_mem_terminatedLines {s l : String} (h : l ∈ terminatedLines s) :
    '\n' ∉ l.toList := by
  have hpiece {piece : List Char} (hmem : piece ∈ splitAt '\n' s.toList) : '\n' ∉ piece := by
    rw [← String.toList_ofList (l := piece)]
    exact noBreak_of_mem_lines (List.mem_map_of_mem hmem)
  obtain ⟨piece, hmem, rfl⟩ := List.mem_map.mp h
  rw [String.toList_ofList]
  rcases List.mem_append.mp hmem with hended | hrest
  · obtain ⟨piece, hinit, rfl⟩ := List.mem_map.mp hended
    have hbreak := hpiece (List.dropLast_subset _ hinit)
    split
    · exact fun h => hbreak (List.dropLast_subset _ h)
    · exact hbreak
  · cases hlast : (splitAt '\n' s.toList).getLast? with
    | none =>
      rw [hlast] at hrest
      cases hrest
    | some last =>
      rw [hlast, Option.getD_some] at hrest
      split at hrest
      · cases hrest
      · rw [List.mem_singleton.mp hrest]
        exact hpiece (List.mem_of_getLast? hlast)

theorem Text.endsFlush_trimEnd {s : String} (h : trimEnd s ≠ "") :
    endsFlush (trimEnd s) = true := by
  have hlast := getLast?_dropTrailing isBlank s.toList
  unfold endsFlush trimEnd at *
  rw [String.toList_ofList]
  cases hc : (dropTrailing isBlank s.toList).getLast? with
  | none =>
    rw [List.getLast?_eq_none_iff.mp hc] at h
    exact absurd rfl h
  | some c =>
    rw [hc, Option.any_some] at hlast
    rw [Option.any_some, hlast]
    rfl

theorem Writer.comment.toList_untab (l : String) : (untab l).toList =
    l.toList.flatMap fun c => if c = '\t' then "  ".toList else [c] :=
  String.toList_ofList

@[simp] theorem Writer.comment.untab_append (l l' : String) :
    untab (l ++ l') = untab l ++ untab l' := by
  rw [← String.toList_inj, toList_untab, String.toList_append, List.flatMap_append,
    String.toList_append, toList_untab, toList_untab]

/-- Each tab becomes two spaces, and nothing else changes. -/
theorem Writer.comment.untab_tab (l l' : String) :
    untab (l ++ "\t" ++ l') = untab l ++ "  " ++ untab l' := by
  rw [untab_append, untab_append]
  rfl

theorem Writer.comment.untab_of_notMem {l : String} (h : '\t' ∉ l.toList) : untab l = l := by
  have hsame (c : Char) (hc : c ∈ l.toList) : (if c = '\t' then "  ".toList else [c]) = [c] :=
    if_neg fun he : c = '\t' => h (he ▸ hc)
  rw [← String.toList_inj, toList_untab, List.flatMap_congr hsame, List.flatMap_singleton']

theorem Writer.comment.mem_untab {c : Char} {l : String} (h : c ∈ (untab l).toList) :
    (c ∈ l.toList ∧ c ≠ '\t') ∨ c = ' ' := by
  rw [toList_untab, List.mem_flatMap] at h
  obtain ⟨c', hc', hmem⟩ := h
  split at hmem
  · exact .inr (List.eq_of_mem_replicate (n := 2) hmem)
  · next hne =>
    rw [List.mem_singleton.mp hmem]
    exact .inl ⟨hc', hne⟩

theorem Writer.comment.tab_notMem_untab (l : String) : '\t' ∉ (untab l).toList := by
  intro h
  rcases mem_untab h with ⟨-, hne⟩ | heq
  · exact hne rfl
  · exact absurd heq (by decide)

theorem Writer.comment.noBreak_untab {l : String} (h : '\n' ∉ l.toList) :
    '\n' ∉ (untab l).toList := by
  intro hmem
  rcases mem_untab hmem with ⟨hl, -⟩ | heq
  · exact h hl
  · exact absurd heq (by decide)

/-- The markers of line comments, of documentation and of documentation of what it stands in. -/
theorem CommentStyle.marker_eq_iff (style : CommentStyle) :
    (style.marker = "//" ↔ style = .plain) ∧ (style.marker = "///" ↔ style = .docs) ∧
      (style.marker = "//!" ↔ style = .containerDocs) := by
  cases style <;> simp [marker]

theorem CommentStyle.firm_marker (style : CommentStyle) : Text.Firm style.marker := by
  cases style <;> exact ⟨by decide, by decide⟩

/-- No text ends its comment: each line that is written for it is one line, in ink to its end. -/
theorem CommentStyle.firm_lines (style : CommentStyle) (text : String) :
    ∀ l ∈ style.lines text, Text.Firm l := by
  have hmarker := style.firm_marker
  intro l hl
  unfold CommentStyle.lines at hl
  obtain ⟨line, hline, rfl⟩ := List.mem_map.mp hl
  dsimp only
  split
  · exact hmarker
  · next hne =>
    have hbreak := Writer.comment.noBreak_untab (Text.noBreak_of_mem_lines hline)
    have htrim : '\n' ∉ (Text.trimEnd (Writer.comment.untab line)).toList := by
      unfold Text.trimEnd
      rw [String.toList_ofList]
      exact fun hmem => hbreak (Text.mem_of_mem_dropTrailing hmem)
    exact ⟨Text.noBreak_append (Text.noBreak_append hmarker.noBreak (by decide)) htrim,
      Text.endsFlush_append (Text.endsFlush_trimEnd fun he => hne (beq_iff_eq.mpr he))⟩

theorem CommentStyle.marker_of_mem_lines (style : CommentStyle) {text l : String}
    (hl : l ∈ style.lines text) : ∃ rest, l = style.marker ++ rest := by
  unfold CommentStyle.lines at hl
  obtain ⟨line, -, rfl⟩ := List.mem_map.mp hl
  dsimp only
  split
  · exact ⟨"", String.append_empty.symm⟩
  · exact ⟨_, String.append_assoc⟩

theorem CommentStyle.lines_solid (style : CommentStyle) (text : String) :
    Solid (style.lines text) := by
  refine .of_firm ?_ (style.firm_lines text) fun l hl => ?_
  · unfold CommentStyle.lines
    rw [ne_eq, List.map_eq_nil_iff]
    exact Text.lines_ne_nil _
  · obtain ⟨rest, rfl⟩ := style.marker_of_mem_lines hl
    apply Text.startsFlush_append
    cases style <;> decide

namespace Writer

theorem emitLine_firm {l : String} (h : Text.Firm l) {w : Writer} (hstart : w.page.line = "") :
    w.emitLine l = { w with
      page := {
        finished := w.page.finished.push (Page.indentation w.level ++ l)
        line := "" } } := by
  have hempty : ¬(l == "") = true := fun he => h.ne_empty (eq_of_beq he)
  have hput : w.page.emit w.level l =
      { w.page with line := Page.indentation w.level ++ l } := by
    unfold Page.emit
    rw [Text.lines_of_noBreak h.noBreak]
    dsimp only [List.foldl_nil]
    rw [Page.put, if_neg hempty, Page.atLineStart_iff.mpr hstart, if_pos rfl]
  unfold emitLine emit newline Page.newline
  rw [hput]

theorem emitLines_firm {ls : List String} (h : ∀ l ∈ ls, Text.Firm l) {w : Writer}
    (hstart : w.page.line = "") :
    ls.foldl emitLine w = { w with
      page := {
        finished := w.page.finished ++ (ls.map (Page.indentation w.level ++ ·)).toArray
        line := "" } } := by
  induction ls generalizing w with
  | nil =>
    rw [List.foldl_nil, List.map_nil, Array.append_empty, ← hstart]
  | cons l ls ih =>
    have hpush (xs : Array String) (x : String) (rest : List String) :
        xs.push x ++ rest.toArray = xs ++ (x :: rest).toArray := by
      simp
    rw [List.foldl_cons, emitLine_firm (h l List.mem_cons_self) hstart,
      ih (fun l' hl' => h l' (List.mem_cons_of_mem l hl')) rfl, List.map_cons, ← hpush]

/-- A comment ends the line that is being written, and adds a line for each line of its text. -/
theorem comment_eq (w : Writer) (style : CommentStyle) (text : String) :
    w.comment style text = { w with
      page := {
        finished := w.ensureNewline.page.finished ++
          ((style.lines text).map (Page.indentation w.level ++ ·)).toArray
        line := "" } } := by
  have hlines := emitLines_firm (style.firm_lines text)
    (Page.atLineStart_iff.mp w.page.text_ensureNewline.2 : w.ensureNewline.page.line = "")
  unfold CommentStyle.lines at hlines ⊢
  rw [List.foldl_map] at hlines
  exact hlines

/-! ## Lines of a writer's own -/

variable {ι : Type} {notes : ι → List String} {scopes : ι → List Scope}

theorem comment_bears (w : Writer) (style : CommentStyle) (text : ι → String)
    (scopes : ι → List Scope) : ∃ (u : Writer) (s : ι → Surroundings),
      Bears (fun i => style.lines (text i)) scopes .page s ∧
        ∀ i, { w with scopes := scopes i }.comment style (text i) = u.under (s i) := by
  let slot : Slot := ⟨w.ensureNewline.page.finished.toList, Page.indentation w.level, []⟩
  have hindent : Text.IsIndent slot.indent := Text.isIndent_indentation w.level
  refine ⟨{ w with page := {} }, _, .page hindent, fun i => ?_⟩
  rw [comment_eq]
  unfold under Page.under Slot.downTo
  dsimp only
  rw [Array.append_empty, ← List.append_toArray]
  rfl

theorem start_mark {w : Writer} (h : w.page.atLineStart = true) :
    w.mark.page.atLineStart = true := by
  unfold mark
  split
  · rfl
  · exact h

section

variable (hnotes : ∀ i, Solid (notes i)) {slot : Slot} {f : ι → String} (hf : slot.Fits notes f)
  (w : Writer)
include hnotes hf

theorem emitLine_bears (hstart : slot.above = [] → w.page.atLineStart = true)
    (scopes : ι → List Scope) : ∃ (u : Writer) (s : ι → Surroundings),
      Bears notes scopes .page s ∧
        ∀ i, { w with scopes := scopes i }.emitLine (f i) = u.under (s i) := by
  obtain ⟨slot', p, hindent, hpage⟩ := Page.newline_emit_fits hnotes hf w.level hstart
  refine ⟨{ w with page := p }, _, .page hindent, fun i => ?_⟩
  unfold emitLine emit newline under
  dsimp only
  rw [hpage, List.nil_append]

theorem markedLine_bears (hstart : slot.above = [] → w.page.atLineStart = true)
    (scopes : ι → List Scope) : ∃ (u : Writer) (s : ι → Surroundings),
      Bears notes scopes .page s ∧
        ∀ i, { w with scopes := scopes i }.mark.emitLine (f i) = u.under (s i) := by
  obtain ⟨u, s, hs, hline⟩ := w.mark.emitLine_bears hnotes hf
    (fun habove => start_mark (hstart habove)) scopes
  refine ⟨u, s, hs, fun i => ?_⟩
  rw [← hline, ← under_scopes w, Framed.mark, under_scopes]

theorem emit_bears (hbelow : slot.below ≠ [])
    (hstart : slot.above = [] → w.page.atLineStart = true) (scopes : ι → List Scope) :
    ∃ (u : Writer) (s : ι → Surroundings), Bears notes scopes .page s ∧
      ∀ i, { w with scopes := scopes i }.emit (f i) = u.under (s i) := by
  obtain ⟨slot', p, hindent, hpage⟩ := Page.emit_fits_below hnotes hf w.level hstart hbelow
  refine ⟨{ w with page := p }, _, .page hindent, fun i => ?_⟩
  unfold emit under
  dsimp only
  rw [hpage, List.nil_append]

theorem openBlock_bears (hstart : slot.above = [] → w.page.atLineStart = true)
    (scopes : ι → List Scope) : ∃ (u : Writer) (s : ι → Surroundings),
      Bears notes scopes .page s ∧
        ∀ i, { w with scopes := scopes i }.openBlock (f i) = u.under (s i) := by
  obtain ⟨u, s, hs, hline⟩ := w.emitLine_bears hnotes hf hstart scopes
  refine ⟨{ u with level := u.level + 1 }, s, hs, fun i => ?_⟩
  unfold openBlock
  rw [if_neg fun he => hf.ne_empty hnotes i (eq_of_beq he), hline]
  rfl

theorem closeBlock_bears (scopes : ι → List Scope) : ∃ (u : Writer) (s : ι → Surroundings),
      Bears notes scopes .page s ∧
        ∀ i, { w with scopes := scopes i }.closeBlock (f i) = u.under (s i) := by
  obtain ⟨u, s, hs, hline⟩ := { w.ensureNewline with level := w.level - 1 }.emitLine_bears hnotes hf
    (fun _ => w.page.text_ensureNewline.2) scopes
  refine ⟨u, s, hs, fun i => ?_⟩
  unfold closeBlock
  rw [if_neg fun he => hf.ne_empty hnotes i (eq_of_beq he), ← hline]
  rfl

end

theorem embed_bears (hnotes : ∀ i, Solid (notes i)) (w : Writer) (m : Module)
    {inner : ι → Writer} (hinner : Shown notes inner) (scopes : ι → List Scope) :
    ∃ (u : Writer) (s : ι → Surroundings), Bears notes scopes .page s ∧
      ∀ i, { w with scopes := scopes i }.embed m (inner i) = u.under (s i) := by
  obtain ⟨slot, hblock⟩ := hinner.block
  obtain ⟨ds, hds⟩ := hinner.dependencies
  have hopen : Framed fun w =>
      (w.headed m).emitLine (m.info.visibility.marker ++ "mod " ++ m.name ++ r" {") :=
    (Framed.emitLine _).comp (Framed.headed m)
  have hstart : ((w.headed m).emitLine
      (m.info.visibility.marker ++ "mod " ++ m.name ++ r" {")).page.atLineStart = true := rfl
  simp only [embed_eq, withBlock_eq, ← under_scopes, hopen w]
  generalize (w.headed m).emitLine
    (m.info.visibility.marker ++ "mod " ++ m.name ++ r" {") = v at hstart ⊢
  obtain ⟨slot', p, hindent, hpage⟩ :=
    Page.ensureNewline_emit_fits hnotes hblock (v.level + 1) fun _ => hstart
  have hbody (i : ι) : (v.under { scopes := scopes i }).inBlock (inner i).blockContents =
      { v with page := p }.under { above := slot'.downTo (notes i), scopes := scopes i } := by
    unfold inBlock under
    dsimp only
    rw [Page.under_nil, hpage]
  refine ⟨{ { v with page := p }.emitLine r"}" with
    dependencies := v.dependencies.merge ds }, _, .page hindent, fun i => ?_⟩
  rw [hbody, hds]
  exact congrArg (fun w : Writer => { w with dependencies := w.dependencies.merge ds })
    (Framed.emitLine r"}" _ _)

theorem embed_documented_bears (w : Writer) (m : Module) (text : ι → String) (inner : Writer)
    (scopes : ι → List Scope) : ∃ (u : Writer) (s : ι → Surroundings),
      Bears (fun i => CommentStyle.docs.lines (text i)) scopes .page s ∧
        ∀ i, { w with scopes := scopes i }.embed (m.documented (text i)) inner =
          u.under (s i) := by
  obtain ⟨g, hg, hembed⟩ : ∃ g, Framed g ∧ ∀ text v,
      embed v (m.documented text) inner = g (v.ensureNewline.comment .docs text) := by
    have hbody : Framed fun v =>
        if inner.blockContents == "" then v else v.emit inner.blockContents :=
      .ite (c := fun _ _ => inner.blockContents == "") .id (.emit _)
    refine ⟨_, (Framed.mergeDependencies inner.dependencies).comp <|
      (Framed.closeBlock r"}").comp <| hbody.comp <|
        .openBlock (m.info.visibility.marker ++ "mod " ++ m.name ++ r" {"), fun text v => ?_⟩
    cases m <;> rfl
  obtain ⟨u, s, hs, hcomment⟩ := comment_bears w.ensureNewline .docs text scopes
  refine ⟨g u, s, hs, fun i => ?_⟩
  rw [hembed, ← hg, ← hcomment]
  rfl

end Writer

/-! ## Declared modules -/

namespace Module

def docLines (text : String) : List String :=
  (Text.terminatedLines text).map ("/// " ++ ·)

theorem noBreak_docLines {text l : String} (hl : l ∈ docLines text) : '\n' ∉ l.toList := by
  obtain ⟨line, hline, rfl⟩ := List.mem_map.mp hl
  exact Text.noBreak_append (by decide) (Text.noBreak_of_mem_terminatedLines hline)

theorem endsFlush_declaration (m : Module) : Text.endsFlush m.declaration = true :=
  Text.endsFlush_append (by decide)

variable (m : Module) (text : String)

theorem documentedDeclaration_eq : (m.documented text).documentedDeclaration =
    Text.unlines (docLines text ++ [m.declaration]) := by
  cases m <;> rfl

theorem lines_documentedDeclaration : Text.lines (m.documented text).documentedDeclaration =
    docLines text ++ Text.lines m.declaration := by
  have hdocs : (docLines text).flatMap Text.lines = docLines text := by
    rw [List.flatMap_congr fun l hl => Text.lines_of_noBreak (noBreak_docLines hl),
      List.flatMap_singleton']
  rw [documentedDeclaration_eq, Text.lines_unlines_flatMap
    (List.append_ne_nil_of_right_ne_nil _ (List.cons_ne_nil _ _)), List.flatMap_append, hdocs,
    List.flatMap_singleton]

theorem inked_documentedDeclaration :
    Text.isBlankText (m.documented text).documentedDeclaration = false := by
  have hink : Text.isBlankText m.declaration = false :=
    Text.not_all_blank_of_endsFlush m.endsFlush_declaration
  rw [documentedDeclaration_eq, Text.isBlankText_unlines, List.all_append, List.all_cons, hink,
    Bool.false_and, Bool.and_false]

theorem declared_solid {m : Module} (hname : '\n' ∉ m.name.toList) (text : String) :
    Solid (docLines text ++ [m.declaration]) where
  noBreak l hl := by
    rcases List.mem_append.mp hl with hl | hl
    · exact noBreak_docLines hl
    · have hmarker : '\n' ∉ m.info.visibility.marker.toList := by
        cases m.info.visibility <;> decide
      rw [List.mem_singleton.mp hl]
      exact Text.noBreak_append
        (Text.noBreak_append (Text.noBreak_append hmarker (by decide)) hname) (by decide)
  starts l hl := by
    rcases List.mem_append.mp hl with hl | hl
    · obtain ⟨line, -, rfl⟩ := List.mem_map.mp hl
      exact Text.startsFlush_append (by decide)
    · rw [List.mem_singleton.mp hl]
      apply Text.startsFlush_append
      apply Text.startsFlush_append
      cases m.info.visibility <;> decide
  ends := ⟨_, _, rfl, m.endsFlush_declaration⟩

end Module

/-- What a declaration shows, the writer shows that declares the module. -/
theorem Writer.declare_shown {ι : Type} {notes : ι → List String} (w : Writer) {m : Module}
    {text : ι → String} {slot : Slot}
    (h : slot.Fits notes fun i => (m.documented (text i)).documentedDeclaration) :
    Shown notes fun i => w.declare (m.documented (text i)) := by
  obtain ⟨front, back, hvalues⟩ := SortedMap.values_insert w.modules m.name
  have hinked (i : ι) : Text.isBlankText (Text.unlines
      (front ++ (m.documented (text i)).documentedDeclaration :: back)) = false := by
    rw [Text.isBlankText_unlines, List.all_append, List.all_cons, m.inked_documentedDeclaration,
      Bool.false_and, Bool.and_false]
  have hne (i : ι) : Text.unlines
      (front ++ (m.documented (text i)).documentedDeclaration :: back) ≠ "" := by
    intro he
    have hink := hinked i
    rw [he] at hink
    cases hink
  have hcontents (i : ι) : (w.declare (m.documented (text i))).contents = Text.joinSections
      [Text.unlines (w.uses.toList.map fun u => "use " ++ u ++ ";"),
        Text.unlines (front ++ (m.documented (text i)).documentedDeclaration :: back),
        Text.trimEnd w.page.text] := by
    have hname : (m.documented (text i)).name = m.name := by
      cases m <;> rfl
    rw [← hvalues, ← hname]
    rfl
  obtain ⟨slot', hunlines⟩ := h.unlines front back
  obtain ⟨slot', hjoined⟩ := hunlines.joinSections hne
    [Text.unlines (w.uses.toList.map fun u => "use " ++ u ++ ";")] [Text.trimEnd w.page.text]
  have hfits : slot'.Fits notes fun i => (w.declare (m.documented (text i))).contents := by
    simp only [hcontents]
    exact hjoined
  refine .of_contents (w := w) hfits (fun i => ?_) (fun _ => rfl) (fun _ => rfl) fun _ => rfl
  rw [hcontents]
  exact Text.joinSections_ne_empty (List.mem_cons_of_mem _ List.mem_cons_self) (hinked i)

/-- The documentation of a declared module stands in front of its declaration. -/
theorem Writer.declare_docLines_shown {ι : Type} (w : Writer) (m : Module) (text : ι → String) :
    Shown (fun i => Module.docLines (text i)) fun i => w.declare (m.documented (text i)) := by
  have hfits : Slot.Fits ⟨[], "", Text.lines m.declaration⟩ (fun i => Module.docLines (text i))
      fun i => (m.documented (text i)).documentedDeclaration := by
    refine ⟨nofun, fun i => ?_⟩
    rw [m.lines_documentedDeclaration]
    simp only [Slot.fill, Slot.downTo, String.empty_append, List.map_id', List.nil_append]
  exact w.declare_shown hfits

theorem Writer.declare_declared_shown {ι : Type} (w : Writer) {m : Module}
    (hname : '\n' ∉ m.name.toList) (text : ι → String) :
    Shown (fun i => Module.docLines (text i) ++ [m.declaration])
      fun i => w.declare (m.documented (text i)) := by
  have hfits : Slot.Fits ⟨[], "", []⟩ (fun i => Module.docLines (text i) ++ [m.declaration])
      fun i => (m.documented (text i)).documentedDeclaration := by
    refine ⟨nofun, fun i => ?_⟩
    have hnotes := Module.declared_solid hname (text i)
    rw [m.documentedDeclaration_eq, Text.lines_unlines hnotes.nonempty hnotes.noBreak]
    simp only [Slot.fill, Slot.downTo, String.empty_append, List.map_id', List.nil_append,
      List.append_nil]
  exact w.declare_shown hfits

end CrateGen
