import CrateGen.Proofs.Code.Template

namespace CrateGen

open CrateGen.Action

attribute [simp] Code.exec

/-- How a line begins: behind a mark in debug mode, just so, or on a line of its own. -/
inductive LineStart where
  | marked
  | plain
  | fresh

/-- Text that is written with a line end behind it, some levels below where the code stands. -/
structure Entry where
  start : LineStart
  depth : Nat
  text : String

def Entry.deeper (e : Entry) : Entry :=
  { e with depth := e.depth + 1 }

def Page.write (debug : Bool) (level : Nat) (p : Page) (e : Entry) : Page :=
  let level := level + e.depth
  let p := match e.start with
    | .marked => if debug && p.atLineStart then (p.emit level debugMarker).newline else p
    | .plain => p
    | .fresh => p.ensureNewline
  (p.emit level e.text).newline

def Page.writeAll (debug : Bool) (level : Nat) (p : Page) (es : List Entry) : Page :=
  es.foldl (Page.write debug level) p

def Entry.block (start : LineStart) (before after : String) (body : List Entry) : List Entry :=
  ⟨start, 0, before⟩ :: body.map Entry.deeper ++ [⟨.fresh, 0, after⟩]

variable {scopes : List Scope} {c c' body : Code} {es es' : List Entry} {text : String}

theorem Page.writeAll_append (debug : Bool) (level : Nat) (p : Page) (es es' : List Entry) :
    p.writeAll debug level (es ++ es') = (p.writeAll debug level es).writeAll debug level es' :=
  List.foldl_append

theorem Page.writeAll_deeper (debug : Bool) (level : Nat) (p : Page) (es : List Entry) :
    p.writeAll debug level (es.map Entry.deeper) = p.writeAll debug (level + 1) es := by
  induction es generalizing p with
  | nil => rfl
  | cons e es ih =>
    have hwrite : p.write debug level e.deeper = p.write debug (level + 1) e := by
      simp only [Page.write, Entry.deeper]
      rw [Nat.add_right_comm level 1, Nat.add_assoc]
    change (p.write debug level e.deeper).writeAll debug level (es.map Entry.deeper) = _
    rw [hwrite, ih]
    rfl

def Writer.wrote (w : Writer) (es : List Entry) (ds : Dependencies) : Writer :=
  { w with page := w.page.writeAll w.debugMode w.level es, dependencies := ds }

theorem Writer.wrote_level (w : Writer) (es : List Entry) (ds : Dependencies) :
    (w.wrote es ds).level = w.level :=
  rfl

theorem Writer.wrote_wrote (w : Writer) (es es' : List Entry) (ds ds' : Dependencies) :
    (w.wrote es ds).wrote es' ds' = w.wrote (es ++ es') ds' := by
  simp only [wrote, Page.writeAll_append]

theorem Writer.emitLine_mark (w : Writer) (text : String) :
    w.mark.emitLine text = w.wrote [⟨.marked, 0, text⟩] w.dependencies := by
  rw [mark]
  split
  · next hm =>
    simp only [emitLine, emit, newline, wrote, Page.writeAll, List.foldl_cons, List.foldl_nil,
      Page.write, Nat.add_zero, hm, ↓reduceIte]
  · next hm =>
    simp only [emitLine, emit, newline, wrote, Page.writeAll, List.foldl_cons, List.foldl_nil,
      Page.write, Nat.add_zero, hm, Bool.false_eq_true, ↓reduceIte]

theorem Writer.mark_eq (w : Writer) : ∃ page, w.mark = { w with page } := by
  rw [mark]
  split
  · exact ⟨_, rfl⟩
  · exact ⟨w.page, rfl⟩

theorem Writer.emitLine_eq (w : Writer) (text : String) :
    w.emitLine text = w.wrote [⟨.plain, 0, text⟩] w.dependencies :=
  rfl

theorem Writer.closeBlock_wrote (w : Writer) (es : List Entry) (ds : Dependencies) {after : String}
    (h : after ≠ "") :
    Writer.closeBlock (({ w with level := w.level + 1 } : Writer).wrote es ds) after =
      w.wrote (es.map Entry.deeper ++ [⟨.fresh, 0, after⟩]) ds := by
  simp only [closeBlock, ensureNewline, wrote, beq_iff_eq, h, ↓reduceIte, Nat.add_sub_cancel,
    emitLine, emit, newline, Page.writeAll_append, Page.writeAll_deeper]
  rfl

/-- In the scopes the code writes the entries, whichever writer it is run on, and changes nothing
else but what the writer depends on. -/
def Code.Writes (scopes : List Scope) (c : Code) (es : List Entry) : Prop :=
  ∀ (splice : Code → WriterM Unit) (w : Writer), w.scopes = scopes →
    ∃ ds, outcome (c.exec splice) w = (.ok (), w.wrote es ds)

namespace Code.Writes

theorem nothing : Writes scopes .nothing [] :=
  fun _ w _ => ⟨w.dependencies, rfl⟩

theorem seq (h : Writes scopes c es) (h' : Writes scopes c' es') :
    Writes scopes (c ++ c') (es ++ es') := by
  intro splice w hw
  obtain ⟨ds, hc⟩ := h splice w hw
  obtain ⟨ds', hc'⟩ := h' splice (w.wrote es ds) hw
  refine ⟨ds', ?_⟩
  change outcome (c.exec splice >>= fun _ => c'.exec splice) w = _
  rw [outcome_bind_ok hc, hc', Writer.wrote_wrote]

theorem join {cs : List Code} {ess : List (List Entry)}
    (h : List.Forall₂ (Writes scopes) cs ess) : Writes scopes (Code.join cs) ess.flatten := by
  induction h with
  | nil => exact nothing
  | @cons c es cs ess hc hrest ih =>
    cases hrest with
    | nil =>
      rw [List.flatten_singleton]
      exact hc
    | cons => exact hc.seq ih

theorem line (h : Text.dedent text = text) : Writes scopes (.line text) [⟨.marked, 0, text⟩] := by
  intro splice w hw
  refine ⟨w.dependencies, ?_⟩
  rw [Code.exec, outcome_modify, h, Writer.emitLine_mark]

theorem outcome_within {x : WriterM Unit} {w v : Writer} {before after : String}
    {ds : Dependencies} (hb : Text.trim before = before) (hb' : before ≠ "")
    (ha : Text.trim after = after) (ha' : after ≠ "") (hv : w.emitLine before = v)
    (hx : outcome x { v with level := v.level + 1 } =
      (.ok (), ({ v with level := v.level + 1 } : Writer).wrote es ds)) :
    outcome (WriterM.within before after x) w =
      (.ok (), v.wrote (es.map Entry.deeper ++ [⟨.fresh, 0, after⟩]) ds) := by
  have hopen : w.openBlock before = { v with level := v.level + 1 } := by
    simp only [Writer.openBlock, beq_iff_eq, hb', ↓reduceIte, hv]
  rw [WriterM.within, outcome_between, hb, ha, hopen, hx, Writer.closeBlock_wrote v es ds ha']

theorem within {before after : String} (hb : Text.trim before = before) (hb' : before ≠ "")
    (ha : Text.trim after = after) (ha' : after ≠ "") (h : Writes scopes body es) :
    Writes scopes (.within before after body) (Entry.block .plain before after es) := by
  intro splice w hw
  obtain ⟨ds, hc⟩ := h splice
    { w.wrote [⟨.plain, 0, before⟩] w.dependencies with level := w.level + 1 } hw
  refine ⟨ds, ?_⟩
  rw [Code.exec, outcome_within hb hb' ha ha' (w.emitLine_eq before) hc, Writer.wrote_wrote]
  rfl

theorem trim_brace : Text.trim r"}" = r"}" :=
  Text.trim_literal rfl (by decide) (by decide)

section

variable {header : String} (hs : Text.startsFlush header = true)
include hs

theorem blockHeader_eq : WriterM.blockHeader header = header ++ r" {" := by
  rw [WriterM.blockHeader, if_neg]
  rintro h
  rw [eq_of_beq h] at hs
  cases hs

theorem trim_header : Text.trim (header ++ r" {") = header ++ r" {" :=
  Text.trim_of_flush (Text.startsFlush_append hs) (Text.endsFlush_append (by decide))

theorem header_ne : header ++ r" {" ≠ "" := by
  intro h
  have hs' : Text.startsFlush (header ++ r" {") = true := Text.startsFlush_append hs
  rw [h] at hs'
  cases hs'

end

theorem block {header : String} (hs : Text.startsFlush header = true) (hh : Text.Firm header)
    (h : Writes scopes body es) :
    Writes scopes (.block header body) (Entry.block .marked (header ++ r" {") r"}" es) := by
  intro splice w hw
  obtain ⟨ds, hc⟩ := h splice
    { w.wrote [⟨.marked, 0, header ++ r" {"⟩] w.dependencies with level := w.level + 1 } hw
  refine ⟨ds, ?_⟩
  rw [Code.exec, outcome_bind_ok (outcome_modify _ w), Text.dedent_line hs hh,
    blockHeader_eq hs, outcome_within (trim_header hs) (header_ne hs) trim_brace (by decide)
      (w.emitLine_mark _) hc, Writer.wrote_wrote]
  rfl

theorem scope {args : List (String × Arg Code)} {s : Scope} (hs : Scope.ofArgs args = .ok s)
    (h : Writes (s :: scopes) body es) : Writes scopes (.scope args body) es := by
  intro splice w hw
  obtain ⟨ds, hc⟩ := h splice (w.pushScope s) (by rw [← hw]; rfl)
  refine ⟨ds, ?_⟩
  rw [Code.exec, WriterM.inScope, hs, outcome_bind_ok (outcome_ofExcept_ok s w), outcome_between,
    hc]
  rfl

section

variable {args : List (String × Arg Code)} {s : Scope}
  {lines : List (List Template.Part)}

/-- A template that is made of lines of parts, starts at the margin and finds its keys. -/
structure Spelled (scopes : List Scope) (template : String) (lines : List (List Template.Part)) :
    Prop where
  written : template = Text.unlines (lines.map Template.written)
  starts : match lines with
    | (part :: _) :: _ => part.startsFlush
    | _ => False
  isLine : lines.Forall (Template.IsLine scopes)

theorem Spelled.flush (ht : Spelled scopes text lines) : Text.dedent text = text := by
  obtain ⟨hwritten, hstarts, hlines⟩ := ht
  match lines with
  | [] => exact hstarts.elim
  | [] :: _ => exact hstarts.elim
  | (part :: parts) :: rest =>
    rw [hwritten]
    refine Text.dedent_paragraph (Template.startsFlush_written hstarts parts) ?_
    rw [← List.map_cons, List.forall_map_iff]
    exact hlines.imp fun _ => Template.IsLine.firm

theorem Spelled.render (ht : Spelled scopes text lines) (splice : Code → WriterM Unit)
    (w : Writer) (hw : w.scopes = scopes) :
    ∃ ds, outcome (Code.renderTemplate splice text) w =
      (.ok (Template.fill (Template.sheet lines)), { w with dependencies := ds }) := by
  have hfits {part : Template.Part} (hp : part ∈ Template.sheet lines) :
      part = .text "\n" ∨ part.Fits scopes := by
    refine (Template.mem_sheet hp).imp_right fun ⟨line, hl, hp⟩ => ?_
    have hline := List.forall_iff_forall_mem.mp ht.isLine line hl
    exact List.forall_iff_forall_mem.mp hline.fits part hp
  refine Template.renderTemplate_eq_ok splice w ?_ ht.flush (fun part hp => ?_)
    fun key name hkey => ?_
  · rw [Template.written_sheet]
    exact ht.written
  · rcases hfits hp with rfl | h
    · decide
    · exact h.isSound
  · rcases hfits hkey with he | h
    · cases he
    · rw [hw]
      exact h.2

theorem template (hs : Scope.ofArgs args = .ok s) (ht : Spelled (s :: scopes) text lines) :
    Writes scopes (.template text args) [⟨.marked, 0, Template.fill (Template.sheet lines)⟩] := by
  intro splice w hw
  obtain ⟨ds, hd⟩ := ht.render splice (w.pushScope s) (by rw [← hw]; rfl)
  refine ⟨ds, ?_⟩
  have hscope : outcome (WriterM.inScope args (Code.renderTemplate splice text)) w =
      (.ok (Template.fill (Template.sheet lines)), { w with dependencies := ds }) := by
    rw [WriterM.inScope, hs, outcome_bind_ok (outcome_ofExcept_ok s w), outcome_between, hd]
    rfl
  rw [Code.exec, outcome_bind_ok hscope, outcome_modify, Writer.emitLine_mark]
  rfl

theorem blockTemplate (hs : Scope.ofArgs args = .ok s) (ht : Spelled (s :: scopes) text lines)
    (hstart : Text.startsFlush (Template.fill (Template.sheet lines)) = true)
    (h : Writes (s :: scopes) body es) :
    Writes scopes (.blockTemplate text args body)
      (Entry.block .marked (Template.fill (Template.sheet lines) ++ r" {") r"}" es) := by
  intro splice w hw
  obtain ⟨page, hmark⟩ := w.mark_eq
  have hline := w.emitLine_mark (Template.fill (Template.sheet lines) ++ r" {")
  rw [hmark] at hline
  obtain ⟨ds, hd⟩ := ht.render splice (({ w with page } : Writer).pushScope s)
    (by rw [← hw]; rfl)
  have hopen : ({ ({ w with page } : Writer).pushScope s with dependencies := ds } :
        Writer).emitLine (Template.fill (Template.sheet lines) ++ r" {") =
      (w.wrote [⟨.marked, 0, Template.fill (Template.sheet lines) ++ r" {"⟩] ds).pushScope s :=
    congrArg (fun w : Writer => { w.pushScope s with dependencies := ds }) hline
  obtain ⟨ds', hc⟩ := h splice
    { (w.wrote [⟨.marked, 0, Template.fill (Template.sheet lines) ++ r" {"⟩] ds).pushScope s with
      level := w.level + 1 } (by rw [← hw]; rfl)
  refine ⟨ds', ?_⟩
  rw [Code.exec, outcome_bind_ok (outcome_modify _ w), hmark, WriterM.inScope, hs,
    outcome_bind_ok (outcome_ofExcept_ok s _), outcome_between, outcome_bind_ok hd,
    blockHeader_eq hstart, outcome_within (trim_header hstart) (header_ne hstart) trim_brace
      (by decide) hopen hc]
  refine Prod.ext rfl ?_
  exact (w.wrote_wrote _ _ ds ds')

end

theorem comment {style : CommentStyle} (ht : Text.dedent text = text) (hne : text ≠ "")
    (hl : Text.lines text = [text]) (hu : Text.trimEnd (Writer.comment.untab text) = text) :
    Writes scopes (.comment style text) [⟨.fresh, 0, style.marker ++ " " ++ text⟩] := by
  intro splice w hw
  refine ⟨w.dependencies, ?_⟩
  rw [Code.exec, outcome_modify, Writer.comment, ht, hl]
  simp only [List.foldl_cons, List.foldl_nil, Writer.comment.commentLine, hu, beq_iff_eq, hne,
    ↓reduceIte]
  rfl

end Code.Writes

end CrateGen
