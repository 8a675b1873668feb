import CrateGen.Proofs.Code.Passage
import CrateGen.Proofs.Code.Surroundings
import CrateGen.Proofs.Text.Hanging

/-!
Texts that differ in a few lines only, which stand at one place and are indented alike. Whatever is
done with texts on their way into a file leaves such lines at one place: cutting off blanks or line
ends, joining sections, hanging a text behind another one, and writing it on a page.
-/

namespace CrateGen

open CrateGen.Page (indentLine)

namespace Text

/-- A place for lines in a text: the lines above it, what the lines are indented with, and the lines
below it. -/
structure Slot where
  above : List String
  indent : String
  below : List String

/-- Lines that start in ink. There is at least one, and the last ends in ink. -/
structure Solid (ls : List String) : Prop where
  noBreak : ∀ l ∈ ls, '\n' ∉ l.toList
  starts : ∀ l ∈ ls, startsFlush l = true
  ends : ∃ init last, ls = init ++ [last] ∧ endsFlush last = true

theorem Solid.nonempty {ls : List String} (h : Solid ls) : ls ≠ [] := by
  obtain ⟨init, last, rfl, -⟩ := h.ends
  exact List.append_ne_nil_of_right_ne_nil init (List.cons_ne_nil last [])

theorem Solid.hang_ne_empty {ls : List String} (h : Solid ls) {l : String} (hl : l ∈ ls)
    (indent : String) : indent ++ l ≠ "" := by
  intro he
  have hstarts := h.starts l hl
  rw [(String.append_eq_empty_iff.mp he).2] at hstarts
  cases hstarts

theorem Solid.of_firm {ls : List String} (hne : ls ≠ []) (h : ∀ l ∈ ls, Firm l)
    (hstarts : ∀ l ∈ ls, startsFlush l = true) : Solid ls where
  noBreak l hl := (h l hl).noBreak
  starts := hstarts
  ends := ⟨ls.dropLast, ls.getLast hne, (List.dropLast_append_getLast hne).symm,
    (h _ (List.getLast_mem hne)).ends⟩

def IsIndent (s : String) : Prop :=
  ∀ c ∈ s.toList, isBlank c = true ∧ c ≠ '\n'

theorem IsIndent.noBreak {s : String} (h : IsIndent s) : '\n' ∉ s.toList :=
  fun hmem => (h '\n' hmem).2 rfl

theorem IsIndent.append {s t : String} (hs : IsIndent s) (ht : IsIndent t) :
    IsIndent (s ++ t) := by
  intro c hc
  rw [String.toList_append, List.mem_append] at hc
  exact hc.elim (hs c) (ht c)

theorem isIndent_indentation (level : Nat) : IsIndent (Page.indentation level) := by
  intro c hc
  unfold Page.indentation at hc
  rw [String.toList_ofList] at hc
  rw [List.eq_of_mem_replicate hc]
  decide

theorem indentLine_eq (level : Nat) : indentLine level = hangLine (Page.indentation level) := by
  funext l
  unfold indentLine hangLine
  split
  · next h => exact (eq_of_beq h).symm
  · rfl

theorem Firm.ne_empty {l : String} (h : Firm l) : l ≠ "" := by
  rintro rfl
  cases h.ends

/-- A line end inside a line of a list starts a line of the text. -/
theorem lines_unlines_flatMap {ls : List String} (h : ls ≠ []) :
    lines (unlines ls) = ls.flatMap lines := by
  induction ls with
  | nil => exact absurd rfl h
  | cons l ls ih =>
    cases ls with
    | nil =>
      rw [List.flatMap_singleton]
      exact congrArg lines String.intercalate_singleton
    | cons l' ls =>
      have hcons : unlines (l :: l' :: ls) = l ++ "\n" ++ unlines (l' :: ls) :=
        String.intercalate_cons_cons
      rw [hcons, lines_newline, ih (List.cons_ne_nil l' ls)]
      exact List.flatMap_cons.symm

/-- What stands between two line ends stays as it is, whatever stands around. -/
theorem lines_joinSections (front back : List String) : ∃ above below, ∀ s ≠ "",
    lines (joinSections (front ++ s :: back)) = above ++ lines s ++ below := by
  have hbehind : ∃ below, ∀ s,
      lines ("\n\n".intercalate (s :: back.filter (· != ""))) = lines s ++ below := by
    cases hback : back.filter (· != "") with
    | nil => exact ⟨[], fun s => by rw [String.intercalate_singleton, List.append_nil]⟩
    | cons b rest =>
      exact ⟨_, fun s => by rw [String.intercalate_cons_cons, lines_gap]⟩
  obtain ⟨below, hbelow⟩ := hbehind
  have hfilter (s : String) (hs : s ≠ "") : (front ++ s :: back).filter (· != "") =
      front.filter (· != "") ++ s :: back.filter (· != "") := by
    rw [List.filter_append, List.filter_cons, if_pos (bne_iff_ne.mpr hs)]
  cases hfront : front.filter (· != "") with
  | nil =>
    refine ⟨[], below, fun s hs => ?_⟩
    rw [joinSections, hfilter s hs, hfront, List.nil_append, List.nil_append, hbelow]
  | cons a rest =>
    refine ⟨lines ("\n\n".intercalate (a :: rest)) ++ [""], below, fun s hs => ?_⟩
    rw [joinSections, hfilter s hs, hfront,
      String.intercalate_append_of_ne_nil (List.cons_ne_nil a rest) (List.cons_ne_nil _ _),
      lines_gap, hbelow]
    simp only [List.append_assoc, List.nil_append, List.cons_append]

/-- A section in ink is not left out, nor lost among the others. -/
theorem joinSections_ne_empty {sections : List String} {s : String} (hs : s ∈ sections)
    (hink : isBlankText s = false) : joinSections sections ≠ "" := by
  intro he
  have hne : s ≠ "" := by
    rintro rfl
    cases hink
  have hpart := lines_infix_joinSections hs hne
  rw [he] at hpart
  have hblank : (lines s).all isBlankText = true := by
    refine List.all_eq_true.mpr fun l hl => ?_
    rw [List.mem_singleton.mp (hpart.subset hl)]
    rfl
  rw [← isBlankText_unlines, unlines_lines, hink] at hblank
  cases hblank

theorem startsFlush_of_lines {s first : String} {rest : List String}
    (h : lines s = first :: rest) : startsFlush s = startsFlush first := by
  rw [← unlines_lines s, h, unlines_cons]
  unfold startsFlush
  rw [String.toList_append]
  cases first.toList with
  | nil =>
    cases rest with
    | nil => rfl
    | cons l rest =>
      rw [List.nil_append, List.map_cons, String.join_cons, String.toList_append,
        String.toList_append]
      rfl
  | cons c cs => rfl

namespace Slot

variable {ι : Type} {notes : ι → List String} {f g : ι → String} {slot : Slot}

/-- Everything down to the lines that are put in the slot. -/
def downTo (s : Slot) (ls : List String) : List String :=
  s.above ++ ls.map (s.indent ++ ·)

/-- The lines of a text with these lines in the slot. -/
def fill (s : Slot) (ls : List String) : List String :=
  s.downTo ls ++ s.below

/-- Each of the texts has its own lines in the slot. Nothing else about it is its own. -/
structure Fits (slot : Slot) (notes : ι → List String) (f : ι → String) : Prop where
  indent : IsIndent slot.indent
  lines : ∀ i, Text.lines (f i) = slot.fill (notes i)

/-- A slot with more lines above and below. -/
def widen (s : Slot) (above below : List String) : Slot :=
  { s with above := above ++ s.above, below := s.below ++ below }

theorem Fits.widen (h : slot.Fits notes f) {above below : List String}
    (hg : ∀ i, Text.lines (g i) = above ++ Text.lines (f i) ++ below) :
    (slot.widen above below).Fits notes g where
  indent := h.indent
  lines i := by
    rw [hg, h.lines]
    unfold Slot.widen fill downTo
    simp only [List.append_assoc]

theorem Fits.unlines (h : slot.Fits notes f) (front back : List String) :
    ∃ slot' : Slot, slot'.Fits notes fun i => Text.unlines (front ++ f i :: back) := by
  refine ⟨slot.widen (front.flatMap Text.lines) (back.flatMap Text.lines), h.widen fun i => ?_⟩
  have hne : front ++ f i :: back ≠ [] :=
    List.append_ne_nil_of_right_ne_nil front (List.cons_ne_nil (f i) back)
  rw [lines_unlines_flatMap hne, List.flatMap_append, List.flatMap_cons, List.append_assoc]

theorem Fits.joinSections (h : slot.Fits notes f) (hne : ∀ i, f i ≠ "") (front back : List String) :
    ∃ slot' : Slot, slot'.Fits notes fun i => Text.joinSections (front ++ f i :: back) := by
  obtain ⟨above, below, hlines⟩ := lines_joinSections front back
  exact ⟨slot.widen above below, h.widen fun i => hlines (f i) (hne i)⟩

section

variable (hnotes : ∀ i, Solid (notes i))
include hnotes

theorem Fits.split (h : slot.Fits notes f) (i : ι) : ∃ before l, Firm l ∧
    before ++ [l] = slot.downTo (notes i) ∧ Text.lines (f i) = before ++ l :: slot.below := by
  obtain ⟨init, last, hlast, hends⟩ := (hnotes i).ends
  have hfirm : Firm (slot.indent ++ last) := by
    have hbreak := (hnotes i).noBreak last (by
      rw [hlast]
      exact List.mem_append_right _ List.mem_cons_self)
    exact ⟨noBreak_append h.indent.noBreak hbreak, endsFlush_append hends⟩
  refine ⟨slot.above ++ init.map (slot.indent ++ ·), slot.indent ++ last, hfirm, ?_, ?_⟩
  · rw [downTo, hlast, List.map_append, List.append_assoc]
    rfl
  · rw [h.lines, fill, downTo, hlast, List.map_append]
    simp only [List.append_assoc, List.map_cons, List.map_nil, List.singleton_append]

theorem Fits.ne_empty (h : slot.Fits notes f) (i : ι) : f i ≠ "" := by
  intro he
  obtain ⟨before, l, hl, -, hlines⟩ := h.split hnotes i
  have hmem : l ∈ Text.lines "" := by
    rw [← he, hlines]
    exact List.mem_append_right _ List.mem_cons_self
  exact hl.ne_empty (List.mem_singleton.mp hmem)

/-- Of blanks at the end only those are cut off that stand below. -/
theorem Fits.dropTrailing (h : slot.Fits notes f) {p : Char → Bool}
    (hp : ∀ c, p c = true → isBlank c = true) :
    ∃ below,
      { slot with below }.Fits notes fun i => .ofList (Text.dropTrailing p (f i).toList) := by
  obtain ⟨below, hdrop⟩ := lines_dropTrailing p slot.below
  refine ⟨below, h.indent, fun i => ?_⟩
  obtain ⟨before, l, hl, hbefore, hlines⟩ := h.split hnotes i
  have hend : l.toList.getLast?.any p = false := by
    have hink := any_blank_of_endsFlush hl.ends
    cases hlast : l.toList.getLast? with
    | none => rfl
    | some c =>
      rw [hlast, Option.any_some] at hink
      rw [Option.any_some, ← Bool.not_eq_true]
      intro hc
      rw [hp c hc] at hink
      cases hink
  rw [hdrop hlines hl.ne_empty hend, fill]
  change _ = slot.downTo (notes i) ++ below
  rw [← hbefore, List.append_assoc, List.singleton_append]

theorem Fits.trimEnd (h : slot.Fits notes f) :
    ∃ below, { slot with below }.Fits notes fun i => Text.trimEnd (f i) :=
  h.dropTrailing hnotes fun _ hc => hc

/-- If one of the texts starts in ink, all do. -/
theorem Fits.startsFlush (h : slot.Fits notes f) {i₀ : ι} (hi₀ : startsFlush (f i₀) = true)
    (i : ι) : startsFlush (f i) = true := by
  cases habove : slot.above with
  | cons first above =>
    have hline (i : ι) : Text.startsFlush (f i) = Text.startsFlush first := by
      apply startsFlush_of_lines
      rw [h.lines, fill, downTo, habove]
      rfl
    rw [hline, ← hline i₀, hi₀]
  | nil =>
    have hline (i : ι) : ∃ note ∈ notes i,
        Text.startsFlush (f i) = Text.startsFlush (slot.indent ++ note) := by
      obtain ⟨note, rest, hcons⟩ := List.exists_cons_of_ne_nil (hnotes i).nonempty
      refine ⟨note, by rw [hcons]; exact List.mem_cons_self, ?_⟩
      apply startsFlush_of_lines
      rw [h.lines, fill, downTo, habove, hcons]
      rfl
    obtain ⟨note₀, -, hnote₀⟩ := hline i₀
    obtain ⟨note, hmem, hnote⟩ := hline i
    have hindent : slot.indent = "" := by
      rw [hnote₀] at hi₀
      cases hlist : slot.indent.toList with
      | nil => exact String.toList_eq_nil_iff.mp hlist
      | cons c cs =>
        have hblank := (h.indent c (by rw [hlist]; exact List.mem_cons_self)).1
        rw [Text.startsFlush, String.toList_append, hlist, List.cons_append, List.head?_cons,
          Option.any_some, hblank] at hi₀
        cases hi₀
    rw [hnote, hindent, String.empty_append, (hnotes i).starts note hmem]

theorem Fits.trim (h : slot.Fits notes f) {i₀ : ι} (hi₀ : Text.startsFlush (f i₀) = true) :
    ∃ below, { slot with below }.Fits notes fun i => Text.trim (f i) := by
  simp only [trim_of_startsFlush (h.startsFlush hnotes hi₀ _)]
  exact h.trimEnd hnotes

omit hnotes in
theorem Fits.append (h : slot.Fits notes f) (hbelow : slot.below ≠ []) (t : String) :
    ∃ below, { slot with below }.Fits notes fun i => f i ++ t := by
  obtain ⟨first, rest, hfirst⟩ := List.exists_cons_of_ne_nil (lines_ne_nil t)
  refine ⟨slot.below.dropLast ++ (slot.below.getLast hbelow ++ first) :: rest, h.indent,
    fun i => ?_⟩
  have hlines : Text.lines (f i) =
      slot.downTo (notes i) ++ slot.below.dropLast ++ [slot.below.getLast hbelow] := by
    rw [h.lines, fill, List.append_assoc, List.dropLast_append_getLast hbelow]
  rw [lines_append hlines hfirst, List.append_assoc]
  rfl

theorem Fits.move (h : slot.Fits notes f) (pre : List String) {blanks : String}
    (hblanks : IsIndent blanks) (start : String → String)
    (hstart : slot.above = [] → ∀ l ≠ "", start l = blanks ++ l) :
    ∃ slot' : Slot, IsIndent slot'.indent ∧ (slot'.below = [] ↔ slot.below = []) ∧
      (pre ≠ [] → slot'.above ≠ []) ∧ ∀ i first rest, Text.lines (f i) = first :: rest →
        pre ++ start first :: rest.map (hangLine blanks) = slot'.fill (notes i) := by
  have hmap (i : ι) : ((notes i).map (slot.indent ++ ·)).map (hangLine blanks) =
      (notes i).map ((blanks ++ slot.indent) ++ ·) := by
    rw [List.map_map]
    refine List.map_congr_left fun l hl => ?_
    rw [Function.comp, hangLine_of_ne ((hnotes i).hang_ne_empty hl slot.indent),
      String.append_assoc]
  have hindent : IsIndent (blanks ++ slot.indent) := hblanks.append h.indent
  cases habove : slot.above with
  | nil =>
    refine ⟨⟨pre, blanks ++ slot.indent, slot.below.map (hangLine blanks)⟩, hindent,
      List.map_eq_nil_iff, id, fun i first rest hlines => ?_⟩
    -- The first line is one of the slot's, and is hung like the others.
    have hfirst : start first = hangLine blanks first := by
      have hne : first ≠ "" := by
        obtain ⟨l, ls, hnote⟩ := List.exists_cons_of_ne_nil (hnotes i).nonempty
        have hl : l ∈ notes i := by
          rw [hnote]
          exact List.mem_cons_self
        rw [h.lines, fill, downTo, habove, hnote] at hlines
        obtain ⟨rfl, -⟩ := List.cons.inj hlines
        exact (hnotes i).hang_ne_empty hl slot.indent
      rw [hstart habove first hne, hangLine_of_ne hne]
    rw [hfirst, ← List.map_cons, ← hlines, h.lines, fill, downTo, habove, List.nil_append,
      List.map_append, hmap]
    exact (List.append_assoc _ _ _).symm
  | cons a above =>
    refine ⟨⟨pre ++ start a :: above.map (hangLine blanks), blanks ++ slot.indent,
      slot.below.map (hangLine blanks)⟩, hindent, List.map_eq_nil_iff,
      fun _ => List.append_ne_nil_of_right_ne_nil _ (List.cons_ne_nil _ _),
      fun i first rest hlines => ?_⟩
    rw [h.lines, fill, downTo, habove, List.cons_append, List.cons_append] at hlines
    obtain ⟨rfl, rfl⟩ := List.cons.inj hlines
    rw [List.map_append, List.map_append, hmap]
    simp only [fill, downTo, List.append_assoc, List.cons_append]

theorem Fits.hang (h : slot.Fits notes f) {out blanks : String} {pre : List String}
    (hout : Text.lines out = pre ++ [blanks]) (hblanks : IsIndent blanks) :
    ∃ slot' : Slot, (slot'.below = [] ↔ slot.below = []) ∧ (pre ≠ [] → slot'.above ≠ []) ∧
      slot'.Fits notes fun i => out ++ Text.hang blanks (f i) := by
  obtain ⟨slot', hindent, hbelow, habove, hlines⟩ :=
    h.move hnotes pre hblanks (blanks ++ ·) fun _ _ _ => rfl
  refine ⟨slot', hbelow, habove, hindent, fun i => ?_⟩
  obtain ⟨first, rest, hfirst⟩ := List.exists_cons_of_ne_nil (lines_ne_nil (f i))
  rw [← hlines i first rest hfirst, lines_append hout (lines_hang hblanks.noBreak hfirst)]

end

end Slot

end Text

namespace Page

open Text (Slot)

variable {ι : Type} {notes : ι → List String} {f : ι → String} {slot : Slot} {p : Page}

theorem toLines_newline (p : Page) : p.newline.toLines = p.toLines ++ [""] := by
  have hpush : p.newline.finished.toList = p.finished.toList ++ [p.line] := Array.toList_push
  unfold toLines
  rw [hpush]
  rfl

/-- The first line of a text goes on the line that is being written, the others below it. -/
theorem toLines_emit (p : Page) (level : Nat) {s first : String} {rest : List String}
    (h : Text.lines s = first :: rest) : (p.emit level s).toLines =
      p.finished.toList ++ (p.line ++ piece level p.atLineStart first) ::
        rest.map (indentLine level) := by
  have hput (p : Page) (l : String) :
      (p.newline.put level l).toLines = p.toLines ++ [indentLine level l] := by
    have hpush : p.newline.finished.toList = p.finished.toList ++ [p.line] := Array.toList_push
    have hline := (p.put_newline level l).2
    rw [put_eq] at hline ⊢
    unfold toLines
    rw [hline]
    exact congrArg (· ++ [indentLine level l]) hpush
  have hlines (ls : List String) (p : Page) :
      (ls.foldl (fun p l => p.newline.put level l) p).toLines =
        p.toLines ++ ls.map (indentLine level) := by
    induction ls generalizing p with
    | nil => exact (List.append_nil _).symm
    | cons l ls ih =>
      rw [List.foldl_cons, ih, hput, List.append_assoc]
      rfl
  unfold emit
  rw [h]
  dsimp only
  rw [hlines, put_eq]
  unfold toLines
  simp only [List.append_assoc, List.singleton_append]

theorem eq_under_of_toLines {above finished : List String} {line : String}
    (h : p.toLines = above ++ (finished ++ [line])) :
    p = ({ finished := finished.toArray, line } : Page).under above := by
  obtain ⟨written, line'⟩ := p
  rw [toLines, ← List.append_assoc] at h
  obtain ⟨hwritten, hline⟩ := List.append_inj' h rfl
  rw [← List.singleton_inj.mp hline, under]
  refine congrArg (Page.mk · line') (Array.toList_inj.mp ?_)
  rw [Array.toList_append]
  exact hwritten

section

variable (hnotes : ∀ i, Text.Solid (notes i)) (hf : slot.Fits notes f) (level : Nat)
  (hstart : slot.above = [] → p.atLineStart = true)
include hnotes hf hstart

theorem emit_fits : ∃ slot' : Slot, Text.IsIndent slot'.indent ∧
    (slot'.below = [] ↔ slot.below = []) ∧
      ∀ i, (p.emit level (f i)).toLines = slot'.fill (notes i) := by
  have hfirst (habove : slot.above = []) (l : String) (hl : l ≠ "") :
      p.line ++ piece level p.atLineStart l = indentation level ++ l := by
    rw [hstart habove, atLineStart_iff.mp (hstart habove), String.empty_append]
    exact (congrFun (Text.indentLine_eq level) l).trans (Text.hangLine_of_ne hl)
  obtain ⟨slot', hindent, hbelow, -, hlines⟩ := hf.move hnotes p.finished.toList
    (Text.isIndent_indentation level) (fun l => p.line ++ piece level p.atLineStart l) hfirst
  refine ⟨slot', hindent, hbelow, fun i => ?_⟩
  obtain ⟨first, rest, hfirst⟩ := List.exists_cons_of_ne_nil (Text.lines_ne_nil (f i))
  rw [← hlines i first rest hfirst, p.toLines_emit level hfirst, Text.indentLine_eq]

theorem newline_emit_fits : ∃ (slot' : Slot) (p' : Page), Text.IsIndent slot'.indent ∧
    ∀ i, (p.emit level (f i)).newline = p'.under (slot'.downTo (notes i)) := by
  obtain ⟨slot', hindent, -, hlines⟩ := emit_fits hnotes hf level hstart
  refine ⟨slot', { finished := slot'.below.toArray }, hindent, fun i => ?_⟩
  apply eq_under_of_toLines
  rw [toLines_newline, hlines, Slot.fill, List.append_assoc]

/-- Below the lines that differ, something else stands on the line being written. -/
theorem emit_fits_below (hbelow : slot.below ≠ []) : ∃ (slot' : Slot) (p' : Page),
    Text.IsIndent slot'.indent ∧
      ∀ i, p.emit level (f i) = p'.under (slot'.downTo (notes i)) := by
  obtain ⟨slot', hindent, hbelow', hlines⟩ := emit_fits hnotes hf level hstart
  have hne : slot'.below ≠ [] := fun he => hbelow (hbelow'.mp he)
  refine ⟨slot', { finished := slot'.below.dropLast.toArray, line := slot'.below.getLast hne },
    hindent, fun i => ?_⟩
  apply eq_under_of_toLines
  rw [hlines, Slot.fill, List.dropLast_append_getLast hne]

theorem ensureNewline_emit_fits : ∃ (slot' : Slot) (p' : Page),
    Text.IsIndent slot'.indent ∧
      ∀ i, (p.emit level (f i)).ensureNewline = p'.under (slot'.downTo (notes i)) := by
  by_cases hbelow : slot.below = []
  · -- The last line is one of those that differ, which are not empty.
    obtain ⟨slot', hindent, hbelow', hlines⟩ := emit_fits hnotes hf level hstart
    have hnone := hbelow'.mpr hbelow
    refine ⟨slot', {}, hindent, fun i => ?_⟩
    have hline : (p.emit level (f i)).atLineStart = false := by
      have hmem : (p.emit level (f i)).toLines.getLast? =
          some (p.emit level (f i)).line := by
        unfold toLines
        rw [List.getLast?_concat]
      rw [hlines, Slot.fill, hnone, List.append_nil, Slot.downTo,
        List.getLast?_append_of_ne_nil _ (by
          rw [ne_eq, List.map_eq_nil_iff]; exact (hnotes i).nonempty)] at hmem
      obtain ⟨l, hl, heq⟩ := List.mem_map.mp (List.mem_of_getLast? hmem)
      rw [← Bool.not_eq_true, atLineStart_iff, ← heq]
      exact (hnotes i).hang_ne_empty hl slot'.indent
    unfold ensureNewline
    rw [hline, if_neg Bool.false_ne_true]
    have hnewline : (p.emit level (f i)).newline.toLines =
        slot'.downTo (notes i) ++ ([] ++ [""]) := by
      rw [toLines_newline, hlines, Slot.fill, hnone, List.append_nil, List.nil_append]
    exact eq_under_of_toLines hnewline
  · obtain ⟨slot', p', hindent, hpage⟩ := emit_fits_below hnotes hf level hstart hbelow
    refine ⟨slot', p'.ensureNewline, hindent, fun i => ?_⟩
    rw [hpage, ensureNewline_under]

end

/-- The lines above a page stay at one place in its text. -/
theorem text_fits {notes : ι → List String} (hnotes : ∀ i, Text.Solid (notes i))
    (hindent : Text.IsIndent slot.indent) (p : Page) :
    ∃ slot' : Slot, slot'.Fits notes fun i => (p.under (slot.downTo (notes i))).text := by
  refine ⟨⟨slot.above.flatMap Text.lines, slot.indent, p.toLines.flatMap Text.lines⟩, hindent,
    fun i => ?_⟩
  have hline (l : String) (hl : l ∈ notes i) : Text.lines (slot.indent ++ l) = [slot.indent ++ l] :=
    Text.lines_of_noBreak (Text.noBreak_append hindent.noBreak ((hnotes i).noBreak l hl))
  have hne : (p.under (slot.downTo (notes i))).toLines ≠ [] :=
    List.append_ne_nil_of_right_ne_nil _ (List.cons_ne_nil _ _)
  rw [text, Text.lines_unlines_flatMap hne, toLines_under, Slot.downTo, List.flatMap_append,
    List.flatMap_append, List.flatMap_map]
  have hnote : (notes i).flatMap (fun l => Text.lines (slot.indent ++ l)) =
      (notes i).map (slot.indent ++ ·) := by
    rw [List.map_eq_flatMap]
    exact List.flatMap_congr hline
  rw [hnote]
  rfl

end Page

end CrateGen
