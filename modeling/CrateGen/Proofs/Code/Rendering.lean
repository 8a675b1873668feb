import CrateGen.Proofs.Code.Progress

namespace CrateGen

open CrateGen.Action

/-- A change of the page and the level alone, which only these and the debug mode decide on. -/
def Writer.OnPage (g : Writer → Writer) : Prop :=
  ∃ f : Bool → Page → Nat → Page × Nat, ∀ w, g w =
    { w with
      page := (f w.debugMode w.page w.level).1
      level := (f w.debugMode w.page w.level).2 }

namespace Writer.OnPage

variable {g h : Writer → Writer}

theorem comp (hh : OnPage h) (hg : OnPage g) : OnPage fun w => h (g w) := by
  obtain ⟨f, hf⟩ := hg
  obtain ⟨f', hf'⟩ := hh
  refine ⟨fun d p l => f' d (f d p l).1 (f d p l).2, fun w => ?_⟩
  dsimp only
  rw [hf, hf']

theorem id : OnPage fun w => w :=
  ⟨fun _ p l => (p, l), fun _ => rfl⟩

theorem ite {c : Bool → Page → Bool} (hg : OnPage g) (hh : OnPage h) :
    OnPage fun w => if c w.debugMode w.page then g w else h w := by
  obtain ⟨f, hf⟩ := hg
  obtain ⟨f', hf'⟩ := hh
  refine ⟨fun d p l => if c d p then f d p l else f' d p l, fun w => ?_⟩
  dsimp only
  cases c w.debugMode w.page
  · exact hf' w
  · exact hf w

theorem emit (text : String) : OnPage (·.emit text) :=
  ⟨fun _ p l => (p.emit l text, l), fun _ => rfl⟩

theorem emitLine (text : String) : OnPage (·.emitLine text) :=
  ⟨fun _ p l => ((p.emit l text).newline, l), fun _ => rfl⟩

theorem ensureNewline : OnPage Writer.ensureNewline :=
  ⟨fun _ p l => (p.ensureNewline, l), fun _ => rfl⟩

theorem level (k : Nat → Nat) : OnPage fun w => { w with level := k w.level } :=
  ⟨fun _ p l => (p, k l), fun _ => rfl⟩

theorem mark : OnPage Writer.mark :=
  ite (c := fun d p => d && p.atLineStart) (emitLine debugMarker) id

theorem markedLine (text : String) : OnPage fun w => w.mark.emitLine text :=
  (emitLine text).comp mark

theorem lineUnlessEmpty (text : String) :
    OnPage fun w => if text == "" then w else w.emitLine text :=
  ite (c := fun _ _ => text == "") id (emitLine text)

theorem openBlock (header : String) : OnPage (·.openBlock header) :=
  (level (· + 1)).comp (lineUnlessEmpty header)

theorem closeBlock (footer : String) : OnPage (·.closeBlock footer) :=
  (lineUnlessEmpty footer).comp ((level (· - 1)).comp ensureNewline)

theorem comment (style : CommentStyle) (text : String) : OnPage (·.comment style text) := by
  have hlines (ls : List String) :
      OnPage fun w => ls.foldl (Writer.comment.commentLine style) w := by
    induction ls with
    | nil => exact id
    | cons l ls ih =>
      have hline : OnPage (Writer.comment.commentLine style · l) := by
        unfold Writer.comment.commentLine
        exact emitLine _
      simp only [List.foldl_cons]
      exact ih.comp hline
  unfold Writer.comment
  generalize Text.lines (Text.dedent text) = ls
  exact (hlines ls).comp ensureNewline

theorem headed (m : Module) : OnPage (·.headed m) := by
  unfold Writer.headed
  cases m.info.documentation with
  | some docs => exact (comment .docs docs).comp ensureNewline
  | none => exact ensureNewline

theorem withBlock (m : Module) (contents : String) : OnPage (·.withBlock m contents) := by
  have hbody : OnPage fun w => if contents == "" then w else w.emit contents :=
    ite (c := fun _ _ => contents == "") id (emit contents)
  unfold Writer.withBlock
  exact (closeBlock _).comp (hbody.comp ((openBlock _).comp (headed m)))

end Writer.OnPage

theorem Writer.mark_quiet {w : Writer} (h : w.debugMode = false) : w.mark = w := by
  unfold mark
  rw [h]
  rfl

/-- Whatever changed, changed off the page: in what is recorded, or in the names given out. -/
structure Writer.OffPage (w w' : Writer) : Prop where
  rest : w' = { w with
    dependencies := w'.dependencies, uses := w'.uses, modules := w'.modules, issued := w'.issued }

namespace Writer.OffPage

variable {w w' w'' : Writer}

theorem refl (w : Writer) : w.OffPage w :=
  ⟨rfl⟩

theorem trans (h : w.OffPage w') (h' : w'.OffPage w'') : w.OffPage w'' :=
  ⟨h'.rest.trans (congrArg (fun v : Writer => { v with
    dependencies := w''.dependencies, uses := w''.uses, modules := w''.modules,
    issued := w''.issued }) h.rest)⟩

theorem page (h : w.OffPage w') : w'.page = w.page := by
  rw [h.rest]

theorem level (h : w.OffPage w') : w'.level = w.level := by
  rw [h.rest]

theorem scopes (h : w.OffPage w') : w'.scopes = w.scopes := by
  rw [h.rest]

theorem debugMode (h : w.OffPage w') : w'.debugMode = w.debugMode := by
  rw [h.rest]

end Writer.OffPage

namespace WriterM

variable {α β : Type} {x : WriterM α} {f : α → WriterM β}

/-- However the action ends, it leaves the page alone, and with it the place on the page and the
scopes. -/
def OffPage (x : WriterM α) : Prop :=
  ∀ w : Writer, w.OffPage (outcome x w).2

namespace OffPage

theorem of_eq (h : ∀ w, (outcome x w).2 = w) : OffPage x := by
  intro w
  rw [h w]
  exact .refl w

theorem of_modify {g : Writer → Writer} (h : ∀ w : Writer, w.OffPage (g w)) :
    OffPage (modify g : WriterM Unit) :=
  h

theorem bind (hx : OffPage x) (hf : ∀ a, OffPage (f a)) : OffPage (x >>= f) := by
  intro w
  have hxw := hx w
  rw [outcome_bind]
  cases h : outcome x w with
  | mk r w' =>
    rw [h] at hxw
    cases r with
    | error e => exact hxw
    | ok a => exact hxw.trans (hf a w')

theorem onFragment (ns : String → String) (x : WriterM Unit) : OffPage (onFragment ns x) :=
  fun _ => ⟨rfl⟩

theorem inScope (args : List (String × Arg Code)) (hx : OffPage x) :
    OffPage (WriterM.inScope args x) := by
  intro w
  rw [outcome_inScope]
  cases Scope.ofArgs args with
  | error e => exact .refl w
  | ok s => exact ⟨congrArg Writer.popScope (hx (w.pushScope s)).rest⟩

end OffPage

end WriterM

namespace Code

open WriterM (OffPage)

variable (splice : Code → WriterM Unit)

theorem renderFragment_offPage (c : Code) : OffPage (renderFragment splice c) :=
  (OffPage.onFragment id (splice c)).bind fun _ =>
    (OffPage.of_modify fun _ => ⟨rfl⟩).bind fun _ => .of_eq fun _ => rfl

theorem record_offPage {α : Type} (ds : List (Dependency Code)) (a : α) :
    OffPage (do
      modify fun w : Writer => { w with dependencies := w.dependencies.insertAll ds }
      return a) :=
  (OffPage.of_modify fun _ => ⟨rfl⟩).bind fun _ => .of_eq fun _ => rfl

theorem renderArg_offPage (key : String) (kind : Char) (arg : Arg Code) :
    OffPage (renderArg splice key kind arg) :=
  renderArg_cases key kind (fun _ => .of_eq fun _ => rfl) (fun _ => .of_eq fun _ => rfl)
    (fun _ _ _ => record_offPage _ _) (fun _ _ _ => record_offPage _ _)
    fun c _ => renderFragment_offPage splice c

theorem renderDirective_offPage (key : String) (kind : Char) :
    OffPage (renderDirective splice key kind) := by
  refine OffPage.bind (.of_eq fun _ => rfl) fun w => ?_
  cases Scope.lookup w.scopes key with
  | none => exact .of_eq fun _ => rfl
  | some arg => exact renderArg_offPage splice key kind arg

theorem expand_offPage (out : String) (pieces : List Template.Piece) :
    OffPage (expand splice out pieces) := by
  induction pieces generalizing out with
  | nil => exact .of_eq fun _ => rfl
  | cons piece pieces ih =>
    cases piece with
    | char c => exact ih _
    | sharp => exact ih _
    | directive key kind => exact (renderDirective_offPage splice key _).bind fun _ => ih _

theorem renderTemplate_offPage (template : String) :
    OffPage (renderTemplate splice template) := by
  refine OffPage.bind (.of_eq fun _ => rfl) fun w => ?_
  refine OffPage.bind (.of_eq fun _ => ?_) fun _ => expand_offPage splice "" _
  cases Template.canonicalize _ _ <;> rfl

variable {splice} {c : Code} {w child : Writer}

/-- A fragment is rendered as its text without the line ends at its end. -/
theorem outcome_renderFragment (h : outcome (splice c) (w.fragment w.ns) = (.ok (), child)) :
    outcome (renderFragment splice c) w =
      (.ok (.ofList (Text.dropTrailing (· == '\n') child.page.text.toList)),
        { w with issued := child.issued }.merge child) :=
  outcome_bind_ok (outcome_onFragment_ok id h)

end Code

end CrateGen
