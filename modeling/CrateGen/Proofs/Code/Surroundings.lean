import CrateGen.Proofs.Code.Page

/-!
What stands around the code that a writer is given. Lines that are written already, code in front of
the file and scopes can be exchanged for others under a writer; a change that does not look at them
commutes with that.
-/

namespace CrateGen

def Page.under (p : Page) (above : List String) : Page :=
  { p with finished := above.toArray ++ p.finished }

namespace Page

variable (p : Page) (above : List String)

theorem under_nil : p.under [] = p := by
  unfold under
  rw [Array.empty_append]

theorem toLines_under : (p.under above).toLines = above ++ p.toLines := by
  unfold under toLines
  rw [Array.toList_append, List.append_assoc]

theorem newline_under : (p.under above).newline = p.newline.under above := by
  unfold under newline
  rw [Array.append_push]

theorem put_under (level : Nat) (l : String) :
    (p.under above).put level l = (p.put level l).under above := by
  rw [put_eq, put_eq]
  rfl

theorem emit_under (level : Nat) (text : String) :
    (p.under above).emit level text = (p.emit level text).under above := by
  have hlines (ls : List String) (p : Page) :
      ls.foldl (fun p l => p.newline.put level l) (p.under above) =
        (ls.foldl (fun p l => p.newline.put level l) p).under above := by
    induction ls generalizing p with
    | nil => rfl
    | cons l ls ih =>
      rw [List.foldl_cons, List.foldl_cons, newline_under, put_under]
      exact ih _
  unfold emit
  cases Text.lines text with
  | nil => rfl
  | cons first rest =>
    dsimp only
    rw [put_under, hlines]

theorem ensureNewline_under : (p.under above).ensureNewline = p.ensureNewline.under above := by
  have hstart : (p.under above).atLineStart = p.atLineStart := rfl
  unfold ensureNewline
  rw [hstart, newline_under]
  cases p.atLineStart <;> rfl

end Page

/-- What stands around code: lines above it, code in front of the file, and the scopes in force. -/
structure Surroundings where
  above : List String := []
  front : List String := []
  scopes : List Scope := []

namespace Writer

def under (w : Writer) (s : Surroundings) : Writer :=
  { w with
    page := w.page.under s.above
    preamble := s.front ++ w.preamble
    scopes := s.scopes }

theorem under_front (w : Writer) (front : List String) (scopes : List Scope) :
    w.under { front, scopes } = { w with scopes, preamble := front ++ w.preamble } := by
  unfold under
  rw [Page.under_nil]

theorem under_scopes (w : Writer) (scopes : List Scope) :
    w.under { scopes } = { w with scopes } :=
  w.under_front [] scopes

theorem contents_under (w : Writer) (front : List String) (scopes : List Scope) :
    (w.under { front, scopes }).contents = w.contents := by
  rw [under_front]
  rfl

theorem fragment_under (w : Writer) (s : Surroundings) (ns : String) :
    (w.under s).fragment ns = (w.fragment ns).under { scopes := s.scopes } :=
  (under_scopes (w.fragment ns) s.scopes).symm

/-- What is written there shows what is written elsewhere. -/
theorem under_congr {w v : Writer} {s : Surroundings} (h : w.under s = v.under s)
    (s' : Surroundings) : w.under s' = v.under s' := by
  obtain ⟨file, ns, banner, debug, ⟨finished, line⟩, level, deps, uses, modules, scopes, preamble,
    issued⟩ := w
  obtain ⟨file', ns', banner', debug', ⟨finished', line'⟩, level', deps', uses', modules', scopes',
    preamble', issued'⟩ := v
  simp only [under, Page.under, Writer.mk.injEq, Page.mk.injEq, Array.append_right_inj,
    List.append_right_inj] at h ⊢
  exact h

/-- A change that what stands around does not matter to, and that leaves it alone. -/
def Framed (g : Writer → Writer) : Prop :=
  ∀ w s, g (w.under s) = (g w).under s

namespace Framed

variable {g h : Writer → Writer}

theorem comp (hh : Framed h) (hg : Framed g) : Framed fun w => h (g w) := by
  intro w s
  dsimp only
  rw [hg, hh]

theorem id : Framed fun w => w :=
  fun _ _ => rfl

theorem ite {c : Bool → Bool → Bool} (hg : Framed g) (hh : Framed h) :
    Framed fun w => if c w.debugMode w.page.atLineStart then g w else h w := by
  intro w s
  change (if c w.debugMode w.page.atLineStart then g (w.under s) else h (w.under s)) = _
  rw [hg, hh]
  dsimp only
  split <;> rfl

theorem emit (text : String) : Framed (·.emit text) := by
  intro w s
  exact congrArg (fun page => { w.under s with page }) (w.page.emit_under s.above w.level text)

theorem newline : Framed Writer.newline := by
  intro w s
  exact congrArg (fun page => { w.under s with page }) (w.page.newline_under s.above)

theorem ensureNewline : Framed Writer.ensureNewline := by
  intro w s
  exact congrArg (fun page => { w.under s with page }) (w.page.ensureNewline_under s.above)

theorem emitLine (text : String) : Framed (·.emitLine text) :=
  newline.comp (emit text)

theorem level (k : Nat → Nat) : Framed fun w => { w with level := k w.level } :=
  fun _ _ => rfl

theorem mark : Framed Writer.mark :=
  ite (c := fun debug start => debug && start) (emitLine debugMarker) id

theorem markedLine (text : String) : Framed fun w => w.mark.emitLine text :=
  (emitLine text).comp mark

theorem lineUnlessEmpty (text : String) :
    Framed fun w => if text == "" then w else w.emitLine text :=
  ite (c := fun _ _ => text == "") id (emitLine text)

theorem openBlock (header : String) : Framed (·.openBlock header) :=
  (level (· + 1)).comp (lineUnlessEmpty header)

theorem closeBlock (footer : String) : Framed (·.closeBlock footer) :=
  (lineUnlessEmpty footer).comp ((level (· - 1)).comp ensureNewline)

theorem comment (style : CommentStyle) (text : String) : Framed (·.comment style text) := by
  have hlines (ls : List String) :
      Framed fun w => ls.foldl (Writer.comment.commentLine style) w := by
    induction ls with
    | nil => exact id
    | cons l ls ih =>
      have hline : Framed (Writer.comment.commentLine style · l) := by
        unfold Writer.comment.commentLine
        exact emitLine _
      simp only [List.foldl_cons]
      exact ih.comp hline
  unfold Writer.comment
  generalize Text.lines (Text.dedent text) = ls
  exact (hlines ls).comp ensureNewline

theorem headed (m : Module) : Framed (·.headed m) := by
  unfold Writer.headed
  cases m.info.documentation with
  | some docs => exact (comment .docs docs).comp ensureNewline
  | none => exact ensureNewline

theorem withBlock (m : Module) (contents : String) : Framed (·.withBlock m contents) := by
  have hbody : Framed fun w => if contents == "" then w else w.emit contents :=
    ite (c := fun _ _ => contents == "") id (emit contents)
  unfold Writer.withBlock
  exact (closeBlock _).comp (hbody.comp ((openBlock _).comp (headed m)))

theorem mergeDependencies (ds : Dependencies) :
    Framed fun w => { w with dependencies := w.dependencies.merge ds } :=
  fun _ _ => rfl

theorem embed (m : Module) (inner : Writer) : Framed (·.embed m inner) := by
  simp only [embed_eq]
  exact (mergeDependencies inner.dependencies).comp (withBlock m inner.blockContents)

end Framed

/-- The same writer with different things around what it writes. -/
def Recast (s s' : Surroundings) (w v : Writer) : Prop :=
  ∃ u : Writer, w = u.under s ∧ v = u.under s'

theorem Framed.recast {g : Writer → Writer} (hg : Framed g) {s s' : Surroundings} {w v : Writer}
    (h : Recast s s' w v) : Recast s s' (g w) (g v) := by
  obtain ⟨u, rfl, rfl⟩ := h
  exact ⟨g u, hg u s, hg u s'⟩

end Writer

end CrateGen
