import CrateGen.Proofs.Code.Coupling
import CrateGen.Proofs.Code.Passage
import CrateGen.Proofs.Code.Rendering

namespace CrateGen

open CrateGen.Action

namespace Page

variable {base p : Page} {n level : Nat} {l : String}

/-- A page that starts where another one is at the start of a line, its lines indented. -/
def inset (base : Page) (n : Nat) (p : Page) : Page where
  finished := base.finished ++ p.finished.map (indentLine n)
  line := indentLine n p.line

theorem inset_empty (h : base.atLineStart = true) (n : Nat) : base.inset n {} = base := by
  have hline := atLineStart_iff.mp h
  unfold inset
  rw [Array.map_empty, Array.append_empty]
  exact congrArg (Page.mk base.finished) hline.symm

theorem atLineStart_inset : (base.inset n p).atLineStart = p.atLineStart := by
  rw [Bool.eq_iff_iff, atLineStart_iff, atLineStart_iff]
  exact indentLine_eq_empty

theorem newline_inset : (base.inset n p).newline = base.inset n p.newline := by
  unfold inset newline
  rw [Array.map_push, Array.append_push]
  rfl

/-- Behind an indented line a piece stands as it is; a piece at the start of a line is indented
with it. -/
theorem put_inset : (base.inset n p).put (n + level) l = base.inset n (p.put level l) := by
  rw [put_eq, put_eq, atLineStart_inset]
  refine congrArg (Page.mk _) ?_
  change indentLine n p.line ++ piece (n + level) p.atLineStart l =
    indentLine n (p.line ++ piece level p.atLineStart l)
  cases hp : p.atLineStart with
  | true =>
    rw [atLineStart_iff.mp hp, String.empty_append]
    exact String.empty_append.trans (indentLine_indentLine n level l).symm
  | false =>
    have hline : ¬p.line = "" := fun h => absurd (atLineStart_iff.mpr h) (by rw [hp]; decide)
    have happend : ¬p.line ++ l = "" := fun h => hline (String.append_eq_empty_iff.mp h).1
    unfold piece indentLine
    simp only [beq_iff_eq, hline, happend, if_false, Bool.false_eq_true]
    exact String.append_assoc

theorem emit_inset (text : String) :
    (base.inset n p).emit (n + level) text = base.inset n (p.emit level text) := by
  have hlines (ls : List String) (p : Page) :
      ls.foldl (fun p l => p.newline.put (n + level) l) (base.inset n p) =
        base.inset n (ls.foldl (fun p l => p.newline.put level l) p) := by
    induction ls generalizing p with
    | nil => rfl
    | cons l ls ih =>
      rw [List.foldl_cons, List.foldl_cons, newline_inset, put_inset]
      exact ih _
  unfold emit
  cases Text.lines text with
  | nil => rfl
  | cons first rest =>
    dsimp only
    rw [put_inset, hlines]

theorem ensureNewline_inset : (base.inset n p).ensureNewline = base.inset n p.ensureNewline := by
  unfold ensureNewline
  rw [atLineStart_inset, newline_inset]
  cases p.atLineStart <;> rfl

/-- No line has a line end in it. -/
def Unbroken (p : Page) : Prop :=
  ∀ l ∈ p.toLines, '\n' ∉ l.toList

theorem Unbroken.newline (h : p.Unbroken) : p.newline.Unbroken := by
  intro l hl
  rcases List.mem_append.mp hl with hl | hl
  · have hpush : p.newline.finished.toList = p.finished.toList ++ [p.line] := Array.toList_push
    rw [hpush] at hl
    exact h l hl
  · rw [List.mem_singleton.mp hl]
    exact List.not_mem_nil

theorem Unbroken.put (h : p.Unbroken) (level : Nat) (hl : '\n' ∉ l.toList) :
    (p.put level l).Unbroken := by
  have hpiece : '\n' ∉ (piece level p.atLineStart l).toList := by
    unfold piece indentLine
    split
    · split
      · exact List.not_mem_nil
      · exact Text.noBreak_append (noBreak_indentation level) hl
    · exact hl
  rw [put_eq]
  intro l' hl'
  rcases List.mem_append.mp hl' with hl' | hl'
  · exact h l' (List.mem_append_left _ hl')
  · rw [List.mem_singleton.mp hl']
    exact Text.noBreak_append (h p.line (List.mem_append_right _ List.mem_cons_self)) hpiece

theorem Unbroken.emit (h : p.Unbroken) (level : Nat) (text : String) :
    (p.emit level text).Unbroken := by
  have hlines (ls : List String) (hls : ∀ l ∈ ls, '\n' ∉ l.toList) (p : Page) (h : p.Unbroken) :
      (ls.foldl (fun p l => p.newline.put level l) p).Unbroken := by
    induction ls generalizing p with
    | nil => exact h
    | cons l ls ih =>
      exact ih (fun l hl => hls l (List.mem_cons_of_mem _ hl)) _
        (h.newline.put level (hls l List.mem_cons_self))
  have htext (l : String) (hl : l ∈ Text.lines text) := Text.noBreak_of_mem_lines hl
  unfold Page.emit
  generalize Text.lines text = ls at htext ⊢
  cases ls with
  | nil => exact h
  | cons first rest =>
    exact hlines rest (fun l hl => htext l (List.mem_cons_of_mem _ hl)) _
      (h.put level (htext first List.mem_cons_self))

theorem Unbroken.lines_text (h : p.Unbroken) : Text.lines p.text = p.toLines :=
  Text.lines_unlines (List.append_ne_nil_of_right_ne_nil _ (List.cons_ne_nil _ _)) h

theorem Unbroken.text_inset (h : p.Unbroken) (hbase : base.atLineStart = true) (n : Nat) :
    (base.inset n p).text = base.text ++ indented n p.text := by
  have hlines : indented n p.text =
      Text.unlines (p.finished.toList.map (indentLine n) ++ [indentLine n p.line]) := by
    rw [indented, h.lines_text, toLines, List.map_append, List.map_singleton]
  have hfinished : (base.inset n p).finished.toList =
      base.finished.toList ++ p.finished.toList.map (indentLine n) := by
    rw [inset, Array.toList_append, Array.toList_map]
  rw [hlines, Text.unlines_append, text_eq, text_eq, hfinished, atLineStart_iff.mp hbase,
    String.append_empty, List.map_append, String.join_append, String.append_assoc]
  rfl

end Page

/-- However code runs, a page that has no line end inside a line still has none. -/
theorem Writer.unbroken_progress :
    Progress {} fun w w' => w.page.Unbroken → w'.page.Unbroken where
  refl _ h := h
  trans h h' hw := h' (h hw)
  emit w text h := h.emit w.level text
  newline _ h := h.newline
  level _ _ h := h
  issued _ _ h := h
  preamble _ _ h := h
  addUse _ _ h := h
  declare _ _ _ h := h
  depend _ _ _ h := h
  merge _ _ _ _ _ h := h
  mergeDependencies _ _ _ _ _ h := h
  scopes _ _ h := h

/-- The first writer writes behind `base` what the second one writes on its own, with a margin of
`n` levels. At least `k` blocks are open. -/
structure Writer.Margin (base : Page) (n k : Nat) (w v : Writer) : Prop where
  fragment : ∀ ns, w.fragment ns = v.fragment ns
  ns : w.ns = v.ns
  quiet : v.debugMode = false
  level : w.level = n + v.level
  deep : k ≤ v.level
  page : w.page = base.inset n v.page

namespace Writer.Margin

variable {base : Page} {n k k' : Nat} {w v : Writer}

theorem mono (h : Margin base n k w v) (hk : k' ≤ k) : Margin base n k' w v :=
  { h with deep := Nat.le_trans hk h.deep }

theorem issued (h : Margin base n k w v) : w.issued = v.issued := by
  have hfragment := congrArg Writer.issued (h.fragment "")
  exact hfragment

theorem scopes (h : Margin base n k w v) : w.scopes = v.scopes := by
  have hfragment := congrArg Writer.scopes (h.fragment "")
  exact hfragment

theorem debugMode (h : Margin base n k w v) : w.debugMode = false := by
  have hfragment := congrArg Writer.debugMode (h.fragment "")
  exact hfragment.trans h.quiet

theorem view (h : Margin base n k w v) : w.view = { v.view with isEmpty := w.isEmpty } := by
  have hfile := congrArg Writer.file (h.fragment "")
  change w.file = v.file at hfile
  unfold Writer.view
  rw [hfile, h.ns]

theorem record (h : Margin base n k w v) {d d' : Dependencies} {u u' : Std.ExtTreeSet String}
    {m m' : Std.ExtTreeMap String String} {p p' : List String} :
    Margin base n k { w with dependencies := d, uses := u, modules := m, preamble := p }
      { v with dependencies := d', uses := u', modules := m', preamble := p' } :=
  ⟨h.fragment, h.ns, h.quiet, h.level, h.deep, h.page⟩

theorem issue (h : Margin base n k w v) (issued : List String) :
    Margin base n k { w with issued } { v with issued } where
  fragment ns := congrArg (fun f : Writer => { f with issued }) (h.fragment ns)
  ns := h.ns
  quiet := h.quiet
  level := h.level
  deep := h.deep
  page := h.page

theorem rescope (h : Margin base n k w v) (g : List Scope → List Scope) :
    Margin base n k { w with scopes := g w.scopes } { v with scopes := g v.scopes } where
  fragment ns := congrArg (fun f : Writer => { f with scopes := g f.scopes }) (h.fragment ns)
  ns := h.ns
  quiet := h.quiet
  level := h.level
  deep := h.deep
  page := h.page

theorem repage (h : Margin base n k w v) {p q : Page} (hpage : p = base.inset n q) :
    Margin base n k { w with page := p } { v with page := q } :=
  ⟨h.fragment, h.ns, h.quiet, h.level, h.deep, hpage⟩

theorem emit (h : Margin base n k w v) (text : String) :
    Margin base n k (w.emit text) (v.emit text) :=
  h.repage (by rw [h.page, h.level, Page.emit_inset])

theorem newline (h : Margin base n k w v) : Margin base n k w.newline v.newline :=
  h.repage (by rw [h.page, Page.newline_inset])

theorem ensureNewline (h : Margin base n k w v) :
    Margin base n k w.ensureNewline v.ensureNewline :=
  h.repage (by rw [h.page, Page.ensureNewline_inset])

theorem emitLine (h : Margin base n k w v) (text : String) :
    Margin base n k (w.emitLine text) (v.emitLine text) :=
  (h.emit text).newline

theorem mark (h : Margin base n k w v) : Margin base n k w.mark v.mark := by
  rw [mark_quiet h.debugMode, mark_quiet h.quiet]
  exact h

theorem markedLine (h : Margin base n k w v) (text : String) :
    Margin base n k (w.mark.emitLine text) (v.mark.emitLine text) :=
  h.mark.emitLine text

theorem openBlock (h : Margin base n k w v) (header : String) :
    Margin base n (k + 1) (w.openBlock header) (v.openBlock header) := by
  have hopen {w v : Writer} (h : Margin base n k w v) :
      Margin base n (k + 1) { w with level := w.level + 1 } { v with level := v.level + 1 } :=
    ⟨h.fragment, h.ns, h.quiet, congrArg (· + 1) h.level, Nat.succ_le_succ h.deep, h.page⟩
  unfold Writer.openBlock
  dsimp only
  cases header == ""
  · exact hopen (h.emitLine header)
  · exact hopen h

theorem closeBlock (h : Margin base n (k + 1) w v) (footer : String) :
    Margin base n k (w.closeBlock footer) (v.closeBlock footer) := by
  have hend := h.ensureNewline
  have hlevel := hend.level
  have hdeep := hend.deep
  have hclose : Margin base n k { w.ensureNewline with level := w.ensureNewline.level - 1 }
      { v.ensureNewline with level := v.ensureNewline.level - 1 } :=
    ⟨hend.fragment, hend.ns, hend.quiet, by dsimp only; omega, by dsimp only; omega, hend.page⟩
  unfold Writer.closeBlock
  dsimp only
  cases footer == ""
  · exact hclose.emitLine footer
  · exact hclose

theorem comment (h : Margin base n k w v) (style : CommentStyle) (text : String) :
    Margin base n k (w.comment style text) (v.comment style text) := by
  have hlines (ls : List String) {w v : Writer} (h : Margin base n k w v) :
      Margin base n k (ls.foldl (Writer.comment.commentLine style) w)
        (ls.foldl (Writer.comment.commentLine style) v) := by
    induction ls generalizing w v with
    | nil => exact h
    | cons l ls ih =>
      rw [List.foldl_cons, List.foldl_cons]
      unfold Writer.comment.commentLine at ih ⊢
      exact ih (h.emitLine _)
  exact hlines (Text.lines (Text.dedent text)) h.ensureNewline

theorem headed (h : Margin base n k w v) (m : Module) :
    Margin base n k (w.headed m) (v.headed m) := by
  unfold Writer.headed
  cases m.info.documentation with
  | some docs => exact h.ensureNewline.comment .docs docs
  | none => exact h.ensureNewline

theorem embed (h : Margin base n k w v) (m : Module) (inner : Writer) :
    Margin base n k (w.embed m inner) (v.embed m inner) := by
  have hopen := (h.headed m).openBlock (m.info.visibility.marker ++ "mod " ++ m.name ++ r" {")
  rw [embed_eq, embed_eq]
  refine record (d := Dependencies.merge _ _) ?_
  unfold Writer.withBlock
  dsimp only
  cases inner.blockContents == ""
  · exact (hopen.emit inner.blockContents).closeBlock r"}"
  · exact hopen.closeBlock r"}"

end Writer.Margin

namespace WriterM

open Writer (Margin)

variable {α β : Type} {x : WriterM α} {f : α → WriterM β} {k k' m : Nat}

/-- With `k` blocks open the action ends alike on writers that differ by a margin, and with `k'`
open if it succeeds. It closes no block that was open before these. -/
def KeepsMargin (k : Nat) (x : WriterM α) (k' : Nat) : Prop :=
  ∀ base n j, Steady (Margin base n (j + k)) x (Margin base n (j + k')) (Margin base n j)

namespace KeepsMargin

theorem pure (a : α) : KeepsMargin k (Pure.pure a : WriterM α) k :=
  fun _ _ _ => Steady.pure a fun _ _ h => h

theorem fail (e : Error) : KeepsMargin k (Action.fail e : WriterM α) k' :=
  fun _ _ j => Steady.fail e fun _ _ h => h.mono (Nat.le_add_right j k)

theorem ofExcept (r : Except Error α) : KeepsMargin k (Action.ofExcept r) k := by
  cases r with
  | error e => exact .fail e
  | ok a => exact .pure a

theorem of_modify {g : Writer → Writer}
    (h : ∀ base n k w v, Margin base n k w v → Margin base n k (g w) (g v)) :
    KeepsMargin k (modify g : WriterM Unit) k :=
  fun base n j => Steady.modify (h base n (j + k))

theorem bind (hx : KeepsMargin k x m) (hf : ∀ a, KeepsMargin m (f a) k') :
    KeepsMargin k (x >>= f) k' :=
  fun base n j => (hx base n j).bind fun a => hf a base n j

/-- What leaves the blocks inside it closed can be done with any number of blocks open. -/
theorem nested (hx : KeepsMargin 0 x 0) (base : Page) (n k : Nat) :
    Steady (Margin base n k) x (Margin base n k) (Margin base n k) :=
  hx base n k

theorem attempt {x : WriterM Unit} (hx : KeepsMargin 0 x 0) :
    KeepsMargin k (Action.attempt x) k :=
  fun base n j => ((hx.nested base n (j + k)).attempt fun _ _ h => h).mono (fun _ _ h => h)
    (fun _ _ h => h) fun _ _ h => h.mono (Nat.le_add_right j k)

theorem within (before after : String) (hx : KeepsMargin 0 x 0) :
    KeepsMargin k (WriterM.within before after x) k :=
  fun base n j => (hx.nested base n (j + k + 1)).between (fun _ _ h => h.openBlock _)
    (fun _ _ h => h.closeBlock _) fun _ _ h => (h.closeBlock _).mono (Nat.le_add_right j k)

theorem inScope (args : List (String × Arg Code)) (hx : KeepsMargin k x k') :
    KeepsMargin k (WriterM.inScope args x) k' :=
  fun base n j => steady_inScope (hx base n j) (fun s _ _ _ h => h.rescope (s :: ·))
    (fun _ _ h => h.rescope List.tail) (fun _ _ h => h.rescope List.tail)
    fun _ _ h => h.mono (Nat.le_add_right j k)

theorem onFragment {ns : String → String} {x : WriterM Unit} {f : Writer → WriterM β}
    (hf : ∀ c, KeepsMargin k (f c) k') : KeepsMargin k (WriterM.onFragment ns x >>= f) k' := by
  intro base n j
  refine Coupled.bind (coupled_onFragment (Q := Margin base n (j + k)) (Steady.same x) ?_ ?_ ?_) ?_
  · intro w v h
    rw [h.ns, h.fragment]
  · rintro w v c _ h rfl
    exact h.issue c.issued
  · rintro w v c _ h rfl
    exact (h.issue c.issued).mono (Nat.le_add_right j k)
  · rintro c _ w v ⟨rfl, h⟩
    exact hf c base n j w v h

theorem read {f : Writer → WriterM β} (h : ∀ base n k w v, Margin base n k w v → f w = f v)
    (hf : ∀ w, KeepsMargin k (f w) k') : KeepsMargin k (get >>= f) k' :=
  fun base n j => Steady.read (h base n (j + k)) fun w _ _ => hf w base n j

end KeepsMargin

end WriterM

namespace Code

open WriterM (KeepsMargin)

/-- With `k` blocks open before the code, `k'` are open behind it; no block is closed that was open
before these. Whatever is run to its end or not at all leaves none open. The code does not ask
whether anything was written. -/
def Balances : Code → Nat → Nat → Prop
  | .nothing, k, k' | .fail _, k, k' | .line _, k, k' | .inlineText _, k, k'
  | .template _ _, k, k' | .inlineTemplate _ _, k, k' | .comment _ _, k, k' | .addUse _, k, k'
  | .declare _, k, k' | .depend _, k, k' | .mention _, k, k' | .preamble _, k, k'
  | .inlineModule _ _, k, k' => k' = k
  | .openBlock _, k, k' => k' = k + 1
  | .closeBlock _, k, k' => k = k' + 1
  | .seq first second, k, k' => ∃ m, first.Balances k m ∧ second.Balances m k'
  | .scope _ body, k, k' => body.Balances k k'
  | .attempt body, k, k' | .within _ _ body, k, k' | .block _ body, k, k'
  | .blockTemplate _ _ body, k, k' | .withinTemplate _ _ _ body, k, k' =>
    body.Balances 0 0 ∧ k' = k
  | .withName _ body, k, k' => ∀ name, (body name).Balances k k'
  | .look body, k, k' =>
    (∀ view, (body view).Balances k k') ∧ ∀ view isEmpty, body { view with isEmpty } = body view

variable (splice : Code → WriterM Unit) {k : Nat}

theorem renderFragment_keepsMargin (c : Code) : KeepsMargin k (renderFragment splice c) k :=
  .onFragment fun child => (KeepsMargin.of_modify (g := (·.merge child)) fun _ _ _ _ _ h =>
    h.record).bind fun _ => .pure _

theorem record_keepsMargin {α : Type} (ds : List (Dependency Code)) (a : α) :
    KeepsMargin k (do
      modify fun w : Writer => { w with dependencies := w.dependencies.insertAll ds }
      return a) k :=
  (KeepsMargin.of_modify (g := fun w => { w with dependencies := w.dependencies.insertAll ds })
    fun _ _ _ _ _ h => h.record).bind fun _ => .pure a

theorem renderArg_keepsMargin (key : String) (kind : Char) (arg : Arg Code) :
    KeepsMargin k (renderArg splice key kind arg) k :=
  renderArg_cases (P := (KeepsMargin k · k)) key kind (fun _ => .pure _) (fun _ => .fail _)
    (fun _ _ _ => record_keepsMargin _ _) (fun _ _ _ => record_keepsMargin _ _)
    fun c _ => renderFragment_keepsMargin splice c

theorem renderDirective_keepsMargin (key : String) (kind : Char) :
    KeepsMargin k (renderDirective splice key kind) k := by
  refine .read (fun _ _ _ w v h => ?_) fun w => ?_
  · rw [h.scopes]
  · cases Scope.lookup w.scopes key with
    | none => exact .fail _
    | some arg => exact renderArg_keepsMargin splice key kind arg

theorem expand_keepsMargin (out : String) (pieces : List Template.Piece) :
    KeepsMargin k (expand splice out pieces) k := by
  induction pieces generalizing out with
  | nil => exact .pure out
  | cons piece pieces ih =>
    cases piece with
    | char c => exact ih _
    | sharp => exact ih _
    | directive key kind =>
      exact (renderDirective_keepsMargin splice key _).bind fun _ => ih _

theorem renderTemplate_keepsMargin (template : String) :
    KeepsMargin k (renderTemplate splice template) k := by
  refine .read (fun _ _ _ w v h => ?_) fun w => ?_
  · rw [h.scopes]
  · exact (KeepsMargin.ofExcept _).bind fun _ => expand_keepsMargin splice "" _

theorem markedLine_keepsMargin (text : String) :
    KeepsMargin k (modify fun w => w.mark.emitLine text : WriterM Unit) k :=
  .of_modify fun _ _ _ _ _ h => h.markedLine text

theorem emit_keepsMargin (text : String) :
    KeepsMargin k (modify (·.emit text) : WriterM Unit) k :=
  .of_modify fun _ _ _ _ _ h => h.emit text

theorem mark_keepsMargin : KeepsMargin k (modify Writer.mark : WriterM Unit) k :=
  .of_modify fun _ _ _ _ _ h => h.mark

/-- Balanced code writes the same behind a margin. -/
theorem exec_keepsMargin :
    ∀ (c : Code) {k k' : Nat}, c.Balances k k' → KeepsMargin k (exec splice c) k'
  | .nothing, _, _, rfl => .pure ()
  | .seq first second, _, _, ⟨_, hfirst, hsecond⟩ =>
    (exec_keepsMargin first hfirst).bind fun _ => exec_keepsMargin second hsecond
  | .fail e, _, _, rfl => .fail e
  | .attempt body, _, _, ⟨hbody, rfl⟩ => (exec_keepsMargin body hbody).attempt
  | .line _, _, _, rfl => markedLine_keepsMargin _
  | .inlineText _, _, _, rfl => emit_keepsMargin _
  | .template text args, _, _, rfl =>
    ((renderTemplate_keepsMargin splice text).inScope args).bind markedLine_keepsMargin
  | .inlineTemplate text args, _, _, rfl =>
    ((renderTemplate_keepsMargin splice text).inScope args).bind emit_keepsMargin
  | .scope args body, _, _, hbody => (exec_keepsMargin body hbody).inScope args
  | .openBlock header, _, _, rfl => fun _ _ _ => Steady.modify fun _ _ h => h.openBlock header
  | .closeBlock footer, _, _, rfl => fun _ _ _ => Steady.modify fun _ _ h => h.closeBlock footer
  | .within before after body, _, _, ⟨hbody, rfl⟩ =>
    (exec_keepsMargin body hbody).within before after
  | .block _ body, _, _, ⟨hbody, rfl⟩ =>
    mark_keepsMargin.bind fun _ => (exec_keepsMargin body hbody).within _ _
  | .blockTemplate header args body, _, _, ⟨hbody, rfl⟩ =>
    mark_keepsMargin.bind fun _ => ((renderTemplate_keepsMargin splice header).bind fun _ =>
      (exec_keepsMargin body hbody).within _ _).inScope args
  | .withinTemplate before after args body, _, _, ⟨hbody, rfl⟩ =>
    ((renderTemplate_keepsMargin splice before).bind fun _ =>
      (renderTemplate_keepsMargin splice after).bind fun _ =>
        (exec_keepsMargin body hbody).within _ _).inScope args
  | .comment style text, _, _, rfl => .of_modify fun _ _ _ _ _ h => h.comment style text
  | .addUse _, _, _, rfl | .declare _, _, _, rfl | .depend _, _, _, rfl | .mention _, _, _, rfl =>
    .of_modify fun _ _ _ _ _ h => h.record
  | .withName base body, _, _, hbody => by
    refine .read (fun _ _ _ w v h => ?_) fun w => .bind (.of_modify fun _ _ _ _ _ h => ?_)
      fun _ => exec_keepsMargin (body (w.freshName base)) (hbody _)
    · have hname : w.freshName base = v.freshName base := by
        unfold Writer.freshName
        rw [h.issued]
      dsimp only
      rw [hname]
    · unfold Writer.issue
      rw [h.issued]
      exact h.issue _
  | .look body, _, _, ⟨hbody, hempty⟩ => by
    refine .read (fun _ _ _ w v h => ?_) fun w => exec_keepsMargin (body w.view) (hbody _)
    rw [h.view, hempty]
  | .preamble body, _, _, rfl => .onFragment fun _ => .of_modify fun _ _ _ _ _ h => h.record
  | .inlineModule m body, _, _, rfl =>
    .onFragment fun inner => .of_modify fun _ _ _ _ _ h => h.embed m inner

end Code

end CrateGen
