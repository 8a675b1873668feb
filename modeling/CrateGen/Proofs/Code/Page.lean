import CrateGen.Proofs.Code.Blocks
import CrateGen.Proofs.Code.Progress
import CrateGen.Proofs.Text.Lines

namespace CrateGen

namespace Text

def lineEnd (s : String) : String :=
  if (lines s).getLast?.getD "" = "" then "" else "\n"

end Text

namespace Page

variable {p : Page} {level : Nat} {l s : String}

def indentLine (level : Nat) (l : String) : String :=
  if l == "" then "" else indentation level ++ l

/-- A piece of a line as it is written at the start of a line, or behind another piece. -/
def piece (level : Nat) (start : Bool) (l : String) : String :=
  if start then indentLine level l else l

def indented (level : Nat) (s : String) : String :=
  Text.unlines ((Text.lines s).map (indentLine level))

def lineEnd (p : Page) : String :=
  if p.atLineStart then "" else "\n"

theorem atLineStart_iff : p.atLineStart = true ↔ p.line = "" :=
  beq_iff_eq

theorem indentLine_eq_empty : indentLine level l = "" ↔ l = "" := by
  unfold indentLine
  split
  · next h => exact iff_of_true rfl (eq_of_beq h)
  · rw [String.append_eq_empty_iff]
    exact ⟨And.right, fun hl => absurd (beq_iff_eq.mpr hl) ‹_›⟩

theorem text_eq (p : Page) :
    p.text = String.join (p.finished.toList.map (· ++ "\n")) ++ p.line :=
  Text.unlines_append _ _

theorem text_newline (p : Page) : p.newline.text = p.text ++ "\n" := by
  have hlines : p.newline.finished.toList = p.finished.toList ++ [p.line] := Array.toList_push
  rw [text_eq, text_eq, hlines, List.map_append, String.join_append, List.map_singleton]
  change _ ++ String.join [p.line ++ "\n"] ++ "" = _
  rw [String.append_empty, String.join_cons, String.join_nil, String.append_empty,
    String.append_assoc]

theorem put_eq (p : Page) (level : Nat) (l : String) :
    p.put level l = { p with line := p.line ++ piece level p.atLineStart l } := by
  unfold put piece indentLine
  cases hl : l == "" with
  | true =>
    rw [eq_of_beq hl]
    cases p.atLineStart <;> exact congrArg (Page.mk p.finished) String.append_empty.symm
  | false =>
    cases hp : p.atLineStart with
    | true =>
      rw [atLineStart_iff.mp hp, String.empty_append]
      rfl
    | false => rfl

theorem text_put (p : Page) (level : Nat) (l : String) :
    (p.put level l).text = p.text ++ piece level p.atLineStart l := by
  rw [put_eq, text_eq, text_eq, String.append_assoc]

theorem put_newline (p : Page) (level : Nat) (l : String) :
    (p.newline.put level l).text = p.text ++ ("\n" ++ indentLine level l) ∧
      (p.newline.put level l).line = indentLine level l := by
  constructor
  · rw [text_put, text_newline, String.append_assoc]
    rfl
  · rw [put_eq]
    exact String.empty_append

theorem text_foldl (p : Page) (level : Nat) (ls : List String) :
    (ls.foldl (fun p l => p.newline.put level l) p).text =
      p.text ++ String.join (ls.map fun l => "\n" ++ indentLine level l) := by
  induction ls generalizing p with
  | nil => rw [List.map_nil, String.join_nil, String.append_empty]; rfl
  | cons l ls ih =>
    rw [List.foldl_cons, ih, (p.put_newline level l).1, List.map_cons, String.join_cons,
      String.append_assoc]

theorem line_foldl (p : Page) (level : Nat) (ls : List String) :
    (ls.foldl (fun p l => p.newline.put level l) p).line =
      (ls.getLast?.map (indentLine level)).getD p.line := by
  induction ls generalizing p with
  | nil => rfl
  | cons l ls ih =>
    rw [List.foldl_cons, ih, (p.put_newline level l).2]
    cases ls with
    | nil => rfl
    | cons l' ls => rfl

theorem text_emit (p : Page) (level : Nat) (s : String) :
    ∃ first rest, Text.lines s = first :: rest ∧
      (p.emit level s).text = p.text ++
        Text.unlines (piece level p.atLineStart first :: rest.map (indentLine level)) := by
  cases hl : Text.lines s with
  | nil => exact absurd hl (Text.lines_ne_nil s)
  | cons first rest =>
    refine ⟨first, rest, rfl, ?_⟩
    unfold emit
    rw [hl]
    dsimp only
    rw [text_foldl, text_put, Text.unlines_cons, List.map_map, String.append_assoc]
    rfl

theorem text_emit_start (h : p.atLineStart = true) (level : Nat) (s : String) :
    (p.emit level s).text = p.text ++ indented level s := by
  obtain ⟨first, rest, hl, htext⟩ := p.text_emit level s
  rw [htext, h]
  unfold indented
  rw [hl]
  rfl

theorem lineEnd_emit (h : p.atLineStart = true) (level : Nat) (s : String) :
    (p.emit level s).lineEnd = Text.lineEnd s := by
  have hline : (p.emit level s).line = indentLine level ((Text.lines s).getLast?.getD "") := by
    cases hl : Text.lines s with
    | nil => exact absurd hl (Text.lines_ne_nil s)
    | cons first rest =>
      unfold emit
      rw [hl]
      dsimp only
      rw [line_foldl, put_eq, h, atLineStart_iff.mp h]
      cases rest with
      | nil => exact String.empty_append
      | cons l rest =>
        rw [List.getLast?_cons_cons]
        obtain ⟨last, hlast⟩ := Option.isSome_iff_exists.mp (List.getLast?_isSome.mpr
          (List.cons_ne_nil l rest))
        rw [hlast]
        rfl
  unfold lineEnd Text.lineEnd atLineStart
  simp only [hline, beq_iff_eq, indentLine_eq_empty]

theorem text_ensureNewline (p : Page) :
    p.ensureNewline.text = p.text ++ p.lineEnd ∧ p.ensureNewline.atLineStart = true := by
  unfold ensureNewline lineEnd
  split
  · next h => exact ⟨String.append_empty.symm, h⟩
  · exact ⟨p.text_newline, rfl⟩

end Page

def CommentStyle.lines (style : CommentStyle) (text : String) : List String :=
  (Text.lines (Text.dedent text)).map fun l =>
    let l := Text.trimEnd (Writer.comment.untab l)
    if l == "" then style.marker else style.marker ++ " " ++ l

/-- The lines at an indentation level, each with a line end. -/
def Page.paragraph (level : Nat) (ls : List String) : String :=
  String.join (ls.map fun l => indented level l ++ "\n")

theorem Page.paragraph_append (level : Nat) (ls ls' : List String) :
    paragraph level (ls ++ ls') = paragraph level ls ++ paragraph level ls' := by
  unfold paragraph
  rw [List.map_append, String.join_append]

def Module.header (m : Module) : List String :=
  let docs := match m.info.documentation with
    | some docs => CommentStyle.docs.lines docs
    | none => []
  docs ++ [m.info.visibility.marker ++ "mod " ++ m.name ++ r" {"]

/-- The text of a module's block. -/
def Module.blockText (m : Module) (level : Nat) (contents : String) : String :=
  Page.paragraph level m.header ++
    (Page.indented (level + 1) contents ++ Text.lineEnd contents ++ Page.paragraph level [r"}"])

namespace Writer

variable {w w' w'' : Writer} {t t' : String}

/-- A text is written, behind which a line starts. Nothing else changes. -/
structure AddsLines (w : Writer) (t : String) (w' : Writer) : Prop where
  rest : ∃ page, w' = { w with page }
  text : w'.page.text = w.page.text ++ t
  start : w'.page.atLineStart = true

/-- A text is written one level deeper, on lines of its own. -/
def inBlock (w : Writer) (contents : String) : Writer :=
  { w with page := (w.page.emit (w.level + 1) contents).ensureNewline }

theorem withBlock_eq (w : Writer) (m : Module) (contents : String) :
    w.withBlock m contents =
      (((w.headed m).emitLine (m.info.visibility.marker ++ "mod " ++ m.name ++ r" {")).inBlock
        contents).emitLine r"}" := by
  have hheader : (m.info.visibility.marker ++ "mod " ++ m.name ++ r" {" == "") = false := by
    rw [beq_eq_false_iff_ne, ne_eq, String.append_eq_empty_iff]
    exact fun h => absurd h.2 (by decide)
  have hfooter : (r"}" == "") = false := by
    decide
  have hbody (v : Writer) : (if contents == "" then v else v.emit contents) = v.emit contents := by
    split
    · next hc =>
      rw [eq_of_beq hc]
      rfl
    · rfl
  unfold withBlock openBlock closeBlock
  simp only [hheader, hfooter, hbody, Bool.false_eq_true, if_false]
  generalize (w.headed m).emitLine (m.info.visibility.marker ++ "mod " ++ m.name ++ r" {") = v
  exact congrArg (emitLine · r"}") rfl

namespace AddsLines

theorem trans (h : AddsLines w t w') (h' : AddsLines w' t' w'') : AddsLines w (t ++ t') w'' where
  rest := by
    obtain ⟨page, rfl⟩ := h.rest
    obtain ⟨page', rfl⟩ := h'.rest
    exact ⟨page', rfl⟩
  text := by
    rw [h'.text, h.text, String.append_assoc]
  start := h'.start

theorem ensureNewline (w : Writer) : AddsLines w w.page.lineEnd w.ensureNewline where
  rest := ⟨_, rfl⟩
  text := w.page.text_ensureNewline.1
  start := w.page.text_ensureNewline.2

theorem emitLine (h : w.page.atLineStart = true) (l : String) :
    AddsLines w (Page.indented w.level l ++ "\n") (w.emitLine l) where
  rest := ⟨_, rfl⟩
  text := by
    rw [← String.append_assoc, ← Page.text_emit_start h]
    exact Page.text_newline _
  start := rfl

theorem emitLines (h : w.page.atLineStart = true) (ls : List String) :
    AddsLines w (Page.paragraph w.level ls) (ls.foldl Writer.emitLine w) := by
  induction ls generalizing w with
  | nil => exact ⟨⟨w.page, rfl⟩, String.append_empty.symm, h⟩
  | cons l ls ih =>
    have hline := emitLine h l
    have hrest := ih hline.start
    unfold Page.paragraph at hrest ⊢
    rw [List.map_cons, String.join_cons]
    exact hline.trans hrest

theorem comment (w : Writer) (style : CommentStyle) (text : String) :
    AddsLines w (w.page.lineEnd ++ Page.paragraph w.level (style.lines text))
      (w.comment style text) := by
  have hlines := emitLines (ensureNewline w).start (style.lines text)
  unfold CommentStyle.lines at hlines ⊢
  rw [List.foldl_map] at hlines
  exact (ensureNewline w).trans hlines

theorem headed (w : Writer) (m : Module) :
    ∃ docs, m.header = docs ++ [m.info.visibility.marker ++ "mod " ++ m.name ++ r" {"] ∧
      AddsLines w (w.page.lineEnd ++ Page.paragraph w.level docs) (w.headed m) := by
  unfold Module.header Writer.headed
  cases m.info.documentation with
  | none =>
    refine ⟨[], rfl, ?_⟩
    change AddsLines w (w.page.lineEnd ++ "") w.ensureNewline
    rw [String.append_empty]
    exact ensureNewline w
  | some docs =>
    refine ⟨CommentStyle.docs.lines docs, rfl, ?_⟩
    have hdocs := comment w.ensureNewline .docs docs
    have hend : w.ensureNewline.page.lineEnd = "" := if_pos (ensureNewline w).start
    rw [hend, String.empty_append] at hdocs
    exact (ensureNewline w).trans hdocs

theorem inBlock (h : w.page.atLineStart = true) (contents : String) :
    AddsLines w (Page.indented (w.level + 1) contents ++ Text.lineEnd contents)
      (w.inBlock contents) where
  rest := ⟨_, rfl⟩
  text := by
    rw [← String.append_assoc, ← Page.text_emit_start h, ← Page.lineEnd_emit h (w.level + 1)]
    exact (Page.text_ensureNewline _).1
  start := (Page.text_ensureNewline _).2

theorem level (h : AddsLines w t w') : w'.level = w.level := by
  obtain ⟨page, rfl⟩ := h.rest
  rfl

theorem withBlock (w : Writer) (m : Module) (contents : String) :
    AddsLines w (w.page.lineEnd ++ m.blockText w.level contents) (w.withBlock m contents) := by
  obtain ⟨docs, hheader, hhead⟩ := headed w m
  have hopen := hhead.trans (emitLines hhead.start
    [m.info.visibility.marker ++ "mod " ++ m.name ++ r" {"])
  rw [String.append_assoc, hhead.level, ← Page.paragraph_append, ← hheader] at hopen
  have hbody := inBlock hopen.start contents
  have hclose := hopen.trans (hbody.trans (emitLines hbody.start [r"}"]))
  rw [hbody.level, hopen.level, String.append_assoc] at hclose
  rw [withBlock_eq]
  exact hclose

end AddsLines

end Writer

def Block.text (level : Nat) (b : Block) : String :=
  b.module.blockText level b.writer.blockContents

/-- The texts of blocks behind a text whose line end may be missing. -/
def Block.texts (level : Nat) (lineEnd : String) : List Block → String
  | [] => ""
  | b :: bs => lineEnd ++ String.join ((b :: bs).map (text level))

namespace Writer

theorem embed_text (w : Writer) (b : Block) :
    ∃ page dependencies, w.embed b.module b.writer = { w with page, dependencies } ∧
      page.text = w.page.text ++ (w.page.lineEnd ++ b.text w.level) ∧ page.atLineStart = true := by
  have hblock := AddsLines.withBlock w b.module b.writer.blockContents
  obtain ⟨page, hpage⟩ := hblock.rest
  rw [hpage] at hblock
  rw [embed_eq, hpage]
  exact ⟨page, _, rfl, hblock.text, hblock.start⟩

theorem embedBlocks_text (w : Writer) (bs : List Block) :
    ∃ page dependencies, w.embedBlocks bs = { w with page, dependencies } ∧
      page.text = w.page.text ++ Block.texts w.level w.page.lineEnd bs := by
  induction bs generalizing w with
  | nil => exact ⟨w.page, w.dependencies, rfl, String.append_empty.symm⟩
  | cons b bs ih =>
    obtain ⟨page, dependencies, hembed, htext, hstart⟩ := w.embed_text b
    obtain ⟨page', dependencies', hrest, htext'⟩ := ih { w with page, dependencies }
    refine ⟨page', dependencies', ?_, ?_⟩
    · unfold embedBlocks at hrest ⊢
      rw [List.foldl_cons, hembed, hrest]
    · have hend : page.lineEnd = "" := if_pos hstart
      have hbs : Block.texts w.level "" bs = String.join (bs.map (Block.text w.level)) := by
        cases bs with
        | nil => rfl
        | cons b' bs => exact String.empty_append
      rw [htext', htext, hend, hbs, Block.texts, List.map_cons, String.join_cons]
      simp only [String.append_assoc]

end Writer

end CrateGen
