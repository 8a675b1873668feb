import CrateGen.Proofs.Code.Calls

namespace CrateGen

open CrateGen.Page (indentLine)

namespace Page

theorem indentLine_indentLine (level level' : Nat) (l : String) :
    indentLine level (indentLine level' l) = indentLine (level + level') l := by
  have hadd : indentation (level + level') = indentation level ++ indentation level' := by
    unfold indentation
    rw [← String.ofList_append, List.replicate_append_replicate, Nat.mul_add]
  by_cases hl : l = ""
  · subst hl
    rfl
  · have hinner : indentLine level' l ≠ "" := fun he => hl (indentLine_eq_empty.mp he)
    rw [indentLine, if_neg fun he => hinner (eq_of_beq he)]
    unfold indentLine
    rw [if_neg fun he => hl (eq_of_beq he), if_neg fun he => hl (eq_of_beq he), hadd,
      String.append_assoc]

theorem noBreak_indentation (level : Nat) : '\n' ∉ (indentation level).toList := by
  unfold indentation
  rw [String.toList_ofList]
  intro hmem
  exact absurd (List.eq_of_mem_replicate hmem) (by decide)

theorem lines_indented (level : Nat) (s : String) :
    Text.lines (indented level s) = (Text.lines s).map (indentLine level) := by
  unfold indented
  apply Text.lines_unlines
  · rw [ne_eq, List.map_eq_nil_iff]
    exact Text.lines_ne_nil s
  · intro l' hl'
    obtain ⟨l, hl, rfl⟩ := List.mem_map.mp hl'
    unfold indentLine
    split
    · exact List.not_mem_nil
    · exact Text.noBreak_append (noBreak_indentation level) (Text.noBreak_of_mem_lines hl)

theorem endsFlush_indentLine {l : String} (level : Nat) (h : Text.endsFlush l = true) :
    Text.endsFlush (indentLine level l) = true := by
  unfold indentLine
  split
  · next hl =>
    rw [eq_of_beq hl] at h
    exact h
  · exact Text.endsFlush_append h

end Page

namespace Text

variable {ls ms ns sections : List String} {s t : String}

theorem lines_infix_joinSections (hs : s ∈ sections) (hne : s ≠ "") :
    lines s <:+: lines (joinSections sections) := by
  have hgap (s t : String) : ∃ gap, lines (s ++ "\n\n" ++ t) = lines s ++ gap ++ lines t :=
    ⟨[""], by rw [lines_gap, List.append_assoc, List.singleton_append]⟩
  exact lines_infix_intercalate hgap (List.mem_filter.mpr ⟨hs, bne_iff_ne.mpr hne⟩)

/-- The lines stand one after the other among others, all of them indented alike. -/
def StandIn (ls ms : List String) : Prop :=
  ∃ level, ls.map (indentLine level) <:+: ms

/-- The last line ends in ink. -/
def Closed (ls : List String) : Prop :=
  ∃ before last, ls = before ++ [last] ∧ endsFlush last = true

namespace StandIn

theorem widen (h : StandIn ls ms) (hms : ms <:+: ns) : StandIn ls ns := by
  obtain ⟨level, hls⟩ := h
  exact ⟨level, hls.trans hms⟩

theorem indent (h : StandIn ls ms) (level : Nat) : StandIn ls (ms.map (indentLine level)) := by
  obtain ⟨level', hls⟩ := h
  refine ⟨level + level', ?_⟩
  have hmap := hls.map (indentLine level)
  rw [List.map_map] at hmap
  rw [← List.map_congr_left fun l _ => Page.indentLine_indentLine level level' l]
  exact hmap

theorem split (h : StandIn ls ms) (hls : Closed ls) : ∃ level before after init last,
    ls.map (indentLine level) = init ++ [last] ∧ endsFlush last = true ∧
      ms = before ++ init ++ last :: after := by
  obtain ⟨level, before, after, rfl⟩ := h
  obtain ⟨init, last, rfl, hlast⟩ := hls
  refine ⟨level, before, after, init.map (indentLine level), indentLine level last, ?_,
    Page.endsFlush_indentLine level hlast, ?_⟩
  · rw [List.map_append, List.map_singleton]
  · rw [List.map_append, List.map_singleton]
    simp only [List.append_assoc, List.singleton_append]

theorem trimEnd (h : StandIn ls (lines s)) (hls : Closed ls) :
    StandIn ls (lines (trimEnd s)) := by
  obtain ⟨level, before, after, init, last, hinit, hlast, hlines⟩ := h.split hls
  obtain ⟨after', htrim⟩ := lines_trimEnd after
  refine ⟨level, before, after', ?_⟩
  rw [hinit, htrim hlines hlast]
  simp only [List.append_assoc, List.singleton_append]

theorem not_empty (h : StandIn ls (lines s)) (hls : Closed ls) : s ≠ "" := by
  rintro rfl
  obtain ⟨level, before, after, init, last, -, hlast, hlines⟩ := h.split hls
  have hmem : last ∈ lines "" := by
    rw [hlines]
    exact List.mem_append_right _ List.mem_cons_self
  rw [List.mem_singleton.mp hmem] at hlast
  cases hlast

theorem joinSections (h : StandIn ls (lines s)) (hls : Closed ls) (hs : s ∈ sections) :
    StandIn ls (lines (joinSections sections)) :=
  h.widen (lines_infix_joinSections hs (h.not_empty hls))

end StandIn

/-- The lines of a text, without the last one if that is empty. -/
def bodyLines (s : String) : List String :=
  if (lines s).getLast?.getD "" = "" then (lines s).dropLast else lines s

theorem lines_start {before : List String} (h : lines s = before ++ [""]) (t : String) :
    lines (s ++ t) = before ++ lines t := by
  obtain ⟨first, rest, ht⟩ := List.exists_cons_of_ne_nil (lines_ne_nil t)
  rw [lines_append h ht, ht, String.empty_append]

theorem lines_eq_bodyLines (s : String) :
    lines s = bodyLines s ++ if (lines s).getLast?.getD "" = "" then [""] else [] := by
  obtain ⟨before, last, hs⟩ := exists_last_line s
  unfold bodyLines
  rw [hs, List.getLast?_concat, Option.getD_some, List.dropLast_concat]
  split
  · next hlast => rw [hlast]
  · rw [List.append_nil]

/-- Lines of which the last ends in ink are not cut off with an empty last line. -/
theorem StandIn.bodyLines (h : StandIn ls (lines s)) (hls : Closed ls) :
    StandIn ls (bodyLines s) := by
  obtain ⟨level, before, after, init, last, hinit, hlast, hlines⟩ := h.split hls
  unfold Text.bodyLines
  split
  · next hempty =>
    rw [hlines] at hempty ⊢
    cases after with
    -- The last line of the text is the one in ink, and is not empty.
    | nil =>
      rw [List.getLast?_concat, Option.getD_some] at hempty
      rw [hempty] at hlast
      cases hlast
    | cons a after =>
      refine ⟨level, before, (a :: after).dropLast, ?_⟩
      rw [hinit, List.dropLast_append_of_ne_nil (List.cons_ne_nil _ _),
        List.dropLast_cons_of_ne_nil (List.cons_ne_nil a after)]
      simp only [List.append_assoc, List.singleton_append]
  · exact h

end Text

def Module.block (m : Module) (contents : String) : List String :=
  m.header.flatMap Text.lines ++ (Text.bodyLines contents).map (indentLine 1) ++ [r"}"]

theorem Module.block_closed (m : Module) (contents : String) : Text.Closed (m.block contents) :=
  ⟨_, _, rfl, rfl⟩

namespace Page

variable {p : Page} {level : Nat} {s t : String} {before : List String}

theorem lines_paragraph (h : Text.lines s = before ++ [""]) (level : Nat) (ls : List String) :
    Text.lines (s ++ paragraph level ls) =
      before ++ (ls.flatMap Text.lines).map (indentLine level) ++ [""] := by
  induction ls generalizing s before with
  | nil =>
    rw [Text.lines_start h, List.flatMap_nil, List.map_nil, List.append_nil]
    rfl
  | cons l ls ih =>
    have hline : Text.lines (s ++ (indented level l ++ "\n")) =
        before ++ (Text.lines l).map (indentLine level) ++ [""] := by
      rw [Text.lines_start h, Text.lines_ended, lines_indented, List.append_assoc]
    have hrest := ih hline
    unfold paragraph at hrest ⊢
    rw [List.map_cons, String.join_cons, ← String.append_assoc, hrest, List.flatMap_cons,
      List.map_append, List.append_assoc before]

theorem lines_body (h : Text.lines s = before ++ [""]) (level : Nat) (t : String) :
    Text.lines (s ++ (indented level t ++ Text.lineEnd t)) =
      before ++ (Text.bodyLines t).map (indentLine level) ++ [""] := by
  have hbody := Text.lines_eq_bodyLines t
  unfold Text.lineEnd
  rw [Text.lines_start h, List.append_assoc]
  split at hbody
  · next hlast =>
    rw [if_pos hlast, String.append_empty, lines_indented, hbody, List.map_append]
    rfl
  · next hlast =>
    rw [List.append_nil] at hbody
    rw [if_neg hlast, Text.lines_ended, lines_indented, ← hbody]

theorem lines_blockText (h : Text.lines s = before ++ [""]) (m : Module) (level : Nat)
    (contents : String) :
    Text.lines (s ++ m.blockText level contents) =
      before ++ (m.block contents).map (indentLine level) ++ [""] := by
  have hhead := lines_paragraph h level m.header
  have hbody := lines_body hhead (level + 1) contents
  have hlast := lines_paragraph hbody level [r"}"]
  have hdeeper : (Text.bodyLines contents).map (indentLine (level + 1)) =
      ((Text.bodyLines contents).map (indentLine 1)).map (indentLine level) := by
    rw [List.map_map]
    exact List.map_congr_left fun l _ => (indentLine_indentLine level 1 l).symm
  unfold Module.blockText Module.block
  rw [← String.append_assoc, ← String.append_assoc, hlast, hdeeper]
  simp only [List.map_append, List.append_assoc, List.flatMap_singleton]
  rfl

theorem lines_of_start (h : p.atLineStart = true) :
    ∃ before, Text.lines p.text = before ++ [""] := by
  rw [text_eq, atLineStart_iff.mp h, String.append_empty]
  rcases List.eq_nil_or_concat p.finished.toList with hnil | ⟨ls, l, hls⟩
  · rw [hnil]
    exact ⟨[], rfl⟩
  · refine ⟨Text.lines (String.join (ls.map (· ++ "\n")) ++ l), ?_⟩
    rw [hls, List.concat_eq_append, List.map_append, String.join_append, List.map_singleton,
      String.join_cons, String.join_nil, String.append_empty, ← String.append_assoc,
      Text.lines_ended]

/-- The lines stand in what is written, all of them indented alike, with a line end behind them. -/
def Shows (p : Page) (ls : List String) : Prop :=
  ∃ level before after, after ≠ [] ∧
    Text.lines p.text = before ++ ls.map (indentLine level) ++ after

namespace Shows

variable {ls : List String} {p' : Page}

theorem standIn (h : p.Shows ls) : Text.StandIn ls (Text.lines p.text) := by
  obtain ⟨level, before, after, -, htext⟩ := h
  exact ⟨level, before, after, htext.symm⟩

theorem append (h : p.Shows ls) (ht : p'.text = p.text ++ t) : p'.Shows ls := by
  obtain ⟨level, before, after, hafter, htext⟩ := h
  obtain ⟨first, rest, hfirst⟩ := List.exists_cons_of_ne_nil (Text.lines_ne_nil t)
  rw [← List.dropLast_append_getLast hafter, ← List.append_assoc] at htext
  refine ⟨level, before, after.dropLast ++ (after.getLast hafter ++ first) :: rest,
    List.append_ne_nil_of_right_ne_nil _ (List.cons_ne_nil _ _), ?_⟩
  rw [ht, Text.lines_append htext hfirst, List.append_assoc]

end Shows

end Page

namespace Writer

variable {w w' inner : Writer} {ls : List String}

theorem Extends.shows (h : w.Extends w') (hw : w.page.Shows ls) : w'.page.Shows ls := by
  obtain ⟨t, ht⟩ := h.text
  exact hw.append ht

theorem embed_lines (w : Writer) (m : Module) (inner : Writer) :
    ∃ before, Text.lines (w.embed m inner).page.text =
      before ++ (m.block inner.blockContents).map (indentLine w.level) ++ [""] := by
  obtain ⟨page, dependencies, hembed, htext, -⟩ := w.embed_text ⟨m, inner⟩
  obtain ⟨hstart, hfresh⟩ := w.page.text_ensureNewline
  obtain ⟨before, hlines⟩ := Page.lines_of_start hfresh
  refine ⟨before, ?_⟩
  rw [hembed, htext, ← String.append_assoc, ← hstart]
  exact Page.lines_blockText hlines m w.level _

theorem shows_embed (w : Writer) (m : Module) (inner : Writer) :
    (w.embed m inner).page.Shows (m.block inner.blockContents) := by
  obtain ⟨before, hlines⟩ := w.embed_lines m inner
  exact ⟨w.level, before, [""], List.cons_ne_nil _ _, hlines⟩

theorem contents_standIn (h : w.page.Shows ls) (hls : Text.Closed ls) :
    Text.StandIn ls (Text.lines w.contents) := by
  unfold contents
  apply (h.standIn.trimEnd hls).joinSections hls
  simp only [List.mem_cons, true_or, or_true]

theorem blockContents_standIn (h : w.page.Shows ls) (hls : Text.Closed ls) :
    Text.StandIn ls (Text.lines w.blockContents) := by
  unfold blockContents
  apply (contents_standIn h hls).joinSections hls
  simp only [List.mem_cons, true_or, or_true]

theorem shows_embed_inner (w : Writer) (m : Module) (h : inner.page.Shows ls)
    (hls : Text.Closed ls) : (w.embed m inner).page.Shows ls := by
  obtain ⟨before, hlines⟩ := w.embed_lines m inner
  have hbody := ((blockContents_standIn h hls).bodyLines hls).indent 1
  have hblock : Text.StandIn ls (m.block inner.blockContents) :=
    hbody.widen ⟨m.header.flatMap Text.lines, [r"}"], rfl⟩
  obtain ⟨level, pre, post, heq⟩ := hblock.indent w.level
  refine ⟨level, before ++ pre, post ++ [""],
    List.append_ne_nil_of_right_ne_nil _ (List.cons_ne_nil _ _), ?_⟩
  rw [hlines, ← heq]
  simp only [List.append_assoc]

theorem render_standIn (h : w.page.Shows ls) (hls : Text.Closed ls) :
    Text.StandIn ls (Text.lines w.render) := by
  unfold render
  rw [Text.lines_ended]
  refine Text.StandIn.widen ?_ (List.prefix_append _ _).isInfix
  apply (contents_standIn h hls).joinSections hls
  simp only [List.mem_cons, true_or, or_true]

theorem Extends.embed (w : Writer) (m : Module) (inner : Writer) :
    w.Extends (w.embed m inner) := by
  obtain ⟨page, dependencies, hembed, htext, -⟩ := w.embed_text ⟨m, inner⟩
  rw [hembed]
  exact ⟨⟨_, htext⟩, ⟨[], (List.append_nil _).symm⟩, fun _ hu => hu, fun _ hname => hname⟩

/-- A writer shows the block of a module, in which is what `own` holds. -/
def ShowsBlock (m : Module) (own w : Writer) : Prop :=
  ∃ inner, own.Extends inner ∧ w.page.Shows (m.block inner.blockContents)

/-- The writer of a module `m'` is that of `m` and holds what `own` does, or it shows the block of
`m`. -/
def Carries (m : Module) (own : Writer) (m' : Module) (w : Writer) : Prop :=
  m' = m ∧ own.Extends w ∨ ShowsBlock m own w

variable {m m' : Module} {own : Writer}

theorem ShowsBlock.extends (h : ShowsBlock m own w) (hw : w.Extends w') :
    ShowsBlock m own w' := by
  obtain ⟨inner, hinner, hshows⟩ := h
  exact ⟨inner, hinner, hw.shows hshows⟩

theorem Carries.extends (h : Carries m own m' w) (hw : w.Extends w') : Carries m own m' w' :=
  h.imp (fun ⟨hm, hown⟩ => ⟨hm, hown.trans hw⟩) fun hshows => hshows.extends hw

theorem Carries.embed (h : Carries m own m' inner) (w : Writer) :
    ShowsBlock m own (w.embed m' inner) := by
  rcases h with ⟨rfl, hown⟩ | ⟨inner', hinner, hshows⟩
  · exact ⟨inner, hown, w.shows_embed m' inner⟩
  · exact ⟨inner', hinner, shows_embed_inner w m' hshows (m.block_closed _)⟩

end Writer

end CrateGen
