import CrateGen.Proofs.Code.Progress

namespace CrateGen

open CrateGen.Action

mutual

/-- Code that declares no child module and does not look at those that are declared. -/
def Code.Plain : Code → Prop
  | .nothing | .fail _ | .line _ | .inlineText _ | .openBlock _ | .closeBlock _ | .comment _ _
  | .addUse _ | .depend _ | .mention _ => True
  | .seq first second => first.Plain ∧ second.Plain
  | .attempt body | .within _ _ body | .block _ body | .preamble body | .inlineModule _ body =>
    body.Plain
  | .template _ args | .inlineTemplate _ args => Code.allPlain args
  | .scope args body | .blockTemplate _ args body | .withinTemplate _ _ args body =>
    Code.allPlain args ∧ body.Plain
  | .declare _ => False
  | .withName _ body => ∀ name, (body name).Plain
  | .look body =>
    (∀ view, (body view).Plain) ∧ ∀ view isEmpty, body { view with isEmpty } = body view

def Code.allPlain : List (String × Arg Code) → Prop
  | [] => True
  | entry :: rest => Code.entryPlain entry ∧ Code.allPlain rest

def Code.entryPlain : String × Arg Code → Prop
  | (_, arg) => Code.argPlain arg

def Code.argPlain : Arg Code → Prop
  | .symbol _ | .type _ | .literal _ => True
  | .code c => c.Plain

end

def Scope.Plain (s : Scope) : Prop :=
  ∀ entry ∈ s, Code.argPlain entry.2.2

theorem Code.argPlain_of_mem {args : List (String × Arg Code)} (h : Code.allPlain args) :
    ∀ entry ∈ args, Code.argPlain entry.2 := by
  induction args with
  | nil => nofun
  | cons entry args ih =>
    obtain ⟨key, arg⟩ := entry
    obtain ⟨harg, hrest⟩ := h
    exact List.forall_mem_cons.mpr ⟨harg, ih hrest⟩

namespace Writer

variable (w : Writer) (modules : Std.ExtTreeMap String String)

def withModules : Writer :=
  { w with modules }

theorem withModules_self : w.withModules w.modules = w :=
  rfl

theorem mark_withModules : (w.withModules modules).mark = w.mark.withModules modules := by
  unfold mark
  split
  · next h =>
    have h : (w.debugMode && w.page.atLineStart) = true := h
    rw [if_pos h]
    rfl
  · next h =>
    have h : ¬(w.debugMode && w.page.atLineStart) = true := h
    rw [if_neg h]

theorem markedLine_withModules (text : String) :
    (w.withModules modules).mark.emitLine text = (w.mark.emitLine text).withModules modules := by
  rw [mark_withModules]
  rfl

theorem openBlock_withModules (header : String) :
    (w.withModules modules).openBlock header = (w.openBlock header).withModules modules := by
  unfold openBlock
  split <;> rfl

theorem closeBlock_withModules (footer : String) :
    (w.withModules modules).closeBlock footer = (w.closeBlock footer).withModules modules := by
  unfold closeBlock
  dsimp only
  split <;> rfl

theorem comment_withModules (style : CommentStyle) (text : String) :
    (w.withModules modules).comment style text = (w.comment style text).withModules modules := by
  have hlines (ls : List String) (w : Writer) :
      ls.foldl (comment.commentLine style) (w.withModules modules) =
        (ls.foldl (comment.commentLine style) w).withModules modules := by
    induction ls generalizing w with
    | nil => rfl
    | cons l ls ih =>
      have hline : comment.commentLine style (w.withModules modules) l =
          (comment.commentLine style w l).withModules modules := by
        unfold comment.commentLine
        rfl
      rw [List.foldl_cons, List.foldl_cons, hline]
      exact ih _
  unfold comment
  exact hlines (Text.lines (Text.dedent text)) w.ensureNewline

theorem merge_withModules {child : Writer} (h : child.modules = ∅) :
    (w.withModules modules).merge child = (w.merge child).withModules modules := by
  unfold merge withModules
  rw [h]
  rfl

theorem mergePreamble_withModules {child : Writer} (h : child.modules = ∅) :
    { (w.withModules modules).merge child with
        preamble := ((w.withModules modules).merge child).preamble ++
          [Text.trimEnd child.page.text] } =
      Writer.withModules { w.merge child with
        preamble := (w.merge child).preamble ++ [Text.trimEnd child.page.text] } modules := by
  rw [merge_withModules w modules h]
  rfl

theorem headed_withModules (m : Module) :
    (w.withModules modules).headed m = (w.headed m).withModules modules := by
  unfold headed
  split
  · exact comment_withModules w.ensureNewline modules _ _
  · rfl

theorem withBlock_withModules (m : Module) (contents : String) :
    (w.withModules modules).withBlock m contents =
      (w.withBlock m contents).withModules modules := by
  unfold withBlock
  rw [headed_withModules, openBlock_withModules]
  dsimp only
  split
  · exact closeBlock_withModules _ _ _
  · exact closeBlock_withModules (Writer.emit _ _) _ _

theorem embed_withModules (m : Module) (inner : Writer) :
    (w.withModules modules).embed m inner = (w.embed m inner).withModules modules := by
  rw [embed_eq, embed_eq, withBlock_withModules]
  rfl

end Writer

namespace WriterM

variable {α β : Type}

/-- The action ends alike whichever child modules are declared, and leaves them and the scopes as
they are, wherever plain arguments are bound. -/
def IgnoresModules (x : WriterM α) : Prop :=
  ∀ w : Writer, (∀ s ∈ w.scopes, s.Plain) →
    (∀ modules, outcome x (w.withModules modules) =
      ((outcome x w).1, (outcome x w).2.withModules modules)) ∧
    (outcome x w).2.scopes = w.scopes

namespace IgnoresModules

variable {x : WriterM α} {f : α → WriterM β}

theorem modules_eq (hx : IgnoresModules x) {w : Writer} (hw : ∀ s ∈ w.scopes, s.Plain) :
    (outcome x w).2.modules = w.modules := by
  have h := (hx w hw).1 w.modules
  rw [w.withModules_self] at h
  rw [h]
  rfl

theorem of_modify {g : Writer → Writer}
    (h : ∀ w modules, g (w.withModules modules) = (g w).withModules modules)
    (hs : ∀ w, (g w).scopes = w.scopes) : IgnoresModules (modify g : WriterM Unit) := by
  intro w _
  refine ⟨fun modules => ?_, hs w⟩
  rw [outcome_modify, outcome_modify, h]

theorem of_eq {r : Except Halt α} (h : ∀ w, outcome x w = (r, w)) : IgnoresModules x := by
  intro w _
  rw [h w]
  exact ⟨fun modules => h _, rfl⟩

theorem attempt {x : WriterM Unit} (hx : IgnoresModules x) :
    IgnoresModules (Action.attempt x) := by
  intro w hw
  obtain ⟨hmodules, hscopes⟩ := hx w hw
  rw [outcome_attempt]
  cases h : outcome x w with
  | mk r w' =>
    rw [h] at hmodules hscopes
    constructor
    · intro modules
      rw [outcome_attempt, hmodules]
      rcases r with (e | _) | u <;> rfl
    · rcases r with (e | _) | u <;> exact hscopes

theorem bind (hx : IgnoresModules x) (hf : ∀ a, IgnoresModules (f a)) :
    IgnoresModules (x >>= f) := by
  intro w hw
  obtain ⟨hmodules, hscopes⟩ := hx w hw
  rw [outcome_bind]
  cases h : outcome x w with
  | mk r w' =>
    rw [h] at hmodules hscopes
    cases r with
    | error e =>
      refine ⟨fun modules => ?_, hscopes⟩
      rw [outcome_bind, hmodules]
    | ok a =>
      obtain ⟨hmodules', hscopes'⟩ := hf a w' (by rw [hscopes]; exact hw)
      refine ⟨fun modules => ?_, hscopes'.trans hscopes⟩
      rw [outcome_bind, hmodules]
      exact hmodules' modules

theorem within (before after : String) (hx : IgnoresModules x) :
    IgnoresModules (WriterM.within before after x) := by
  intro w hw
  have hopen := (Writer.scopes_changes {}).openBlock w (Text.trim before)
  obtain ⟨hmodules, hscopes⟩ := hx (w.openBlock (Text.trim before)) (by rw [hopen]; exact hw)
  unfold WriterM.within
  rw [outcome_between]
  constructor
  · intro modules
    rw [outcome_between, Writer.openBlock_withModules, hmodules, Writer.closeBlock_withModules]
  · exact ((Writer.scopes_changes {}).closeBlock _ _).trans (hscopes.trans hopen)

theorem inScope {args : List (String × Arg Code)} (hargs : Code.allPlain args)
    (hx : IgnoresModules x) : IgnoresModules (WriterM.inScope args x) := by
  unfold WriterM.inScope
  cases hs : Scope.ofArgs args with
  | error e => exact of_eq fun w => rfl
  | ok s =>
    intro w hw
    obtain ⟨hmodules, hscopes⟩ := hx (w.pushScope s) (by
      intro s' hs'
      rcases List.mem_cons.mp hs' with rfl | hs'
      · exact Scope.forall_of_ofArgs (Code.argPlain_of_mem hargs) hs
      · exact hw s' hs')
    rw [outcome_bind_ok (outcome_ofExcept_ok s w), outcome_between]
    constructor
    · intro modules
      rw [outcome_bind_ok (outcome_ofExcept_ok s _), outcome_between]
      change ((outcome x ((w.pushScope s).withModules modules)).1,
        (outcome x ((w.pushScope s).withModules modules)).2.popScope) = _
      rw [hmodules]
      rfl
    · change (outcome x (w.pushScope s)).2.scopes.tail = w.scopes
      rw [hscopes]
      rfl

theorem onFragment {ns : String → String} {x : WriterM Unit} {f : Writer → WriterM β}
    (hx : IgnoresModules x) (hf : ∀ child, child.modules = ∅ → IgnoresModules (f child)) :
    IgnoresModules (WriterM.onFragment ns x >>= f) := by
  intro w hw
  have hchild := hx.modules_eq (w := w.fragment (ns w.ns)) hw
  have hfragment (modules : Std.ExtTreeMap String String) :
      outcome (WriterM.onFragment ns x) (w.withModules modules) =
        ((outcome (WriterM.onFragment ns x) w).1,
          (outcome (WriterM.onFragment ns x) w).2.withModules modules) := rfl
  have hrun := outcome_onFragment ns x w
  cases h : (outcome x (w.fragment (ns w.ns))).1 with
  | error e =>
    rw [h] at hrun
    rw [outcome_bind, hrun]
    refine ⟨fun modules => ?_, rfl⟩
    rw [outcome_bind, hfragment, hrun]
    rfl
  | ok u =>
    rw [h] at hrun
    obtain ⟨hmodules, hscopes⟩ := hf _ hchild
      { w with issued := (outcome x (w.fragment (ns w.ns))).2.issued } hw
    rw [outcome_bind_ok hrun]
    refine ⟨fun modules => ?_, hscopes⟩
    have hrun' := hfragment modules
    rw [hrun] at hrun'
    rw [outcome_bind_ok hrun']
    exact hmodules modules

theorem read {f : Writer → WriterM β} (h : ∀ w modules, f (w.withModules modules) = f w)
    (hf : ∀ w, (∀ s ∈ w.scopes, s.Plain) → IgnoresModules (f w)) :
    IgnoresModules (get >>= f) := by
  intro w hw
  obtain ⟨hmodules, hscopes⟩ := hf w hw w hw
  rw [outcome_bind_ok (outcome_get w)]
  refine ⟨fun modules => ?_, hscopes⟩
  rw [outcome_bind_ok (outcome_get _), h]
  exact hmodules modules

end IgnoresModules

end WriterM

namespace Code

open WriterM (IgnoresModules)

variable {splice : Code → WriterM Unit}

section

variable (hsplice : ∀ c : Code, c.Plain → IgnoresModules (splice c))
include hsplice

theorem renderFragment_ignoresModules {c : Code} (hc : c.Plain) :
    IgnoresModules (renderFragment splice c) := by
  refine .onFragment (hsplice c hc) fun child hchild => .bind ?_ fun _ => .of_eq fun _ => rfl
  exact .of_modify (fun w modules => w.merge_withModules modules hchild) fun _ => rfl

omit hsplice in
theorem record_ignoresModules {α : Type} (ds : List (Dependency Code)) (a : α) :
    IgnoresModules (do
      modify fun w : Writer => { w with dependencies := w.dependencies.insertAll ds }
      return a) := by
  refine .bind ?_ fun _ => .of_eq fun _ => rfl
  exact .of_modify (fun _ _ => rfl) fun _ => rfl

theorem renderArg_ignoresModules (key : String) (kind : Char) {arg : Arg Code}
    (harg : argPlain arg) : IgnoresModules (renderArg splice key kind arg) := by
  refine renderArg_cases key kind (fun _ => .of_eq fun _ => rfl) (fun _ => .of_eq fun _ => rfl)
    (fun _ _ _ => record_ignoresModules _ _) (fun _ _ _ => record_ignoresModules _ _) ?_
  rintro c rfl
  exact renderFragment_ignoresModules hsplice harg

theorem renderDirective_ignoresModules (key : String) (kind : Char) :
    IgnoresModules (renderDirective splice key kind) := by
  refine .read (fun _ _ => rfl) fun w hw => ?_
  cases harg : Scope.lookup w.scopes key with
  | none => exact .of_eq fun _ => rfl
  | some arg =>
    exact renderArg_ignoresModules hsplice key kind (Scope.of_lookup hw harg)

theorem expand_ignoresModules (out : String) (pieces : List Template.Piece) :
    IgnoresModules (expand splice out pieces) := by
  induction pieces generalizing out with
  | nil => exact .of_eq fun _ => rfl
  | cons piece pieces ih =>
    cases piece with
    | char c => exact ih _
    | sharp => exact ih _
    | directive key kind =>
      exact (renderDirective_ignoresModules hsplice key _).bind fun _ => ih _

theorem renderTemplate_ignoresModules (template : String) :
    IgnoresModules (renderTemplate splice template) := by
  refine .read (fun _ _ => rfl) fun w _ => ?_
  refine .bind ?_ fun _ => expand_ignoresModules hsplice "" _
  cases Template.canonicalize w.scopes (Text.dedent template).toList with
  | error e => exact .of_eq fun _ => rfl
  | ok canonical => exact .of_eq fun _ => rfl

omit hsplice in
theorem emit_ignoresModules (text : String) :
    IgnoresModules (modify (·.emit text) : WriterM Unit) :=
  .of_modify (fun _ _ => rfl) fun _ => rfl

omit hsplice in
theorem markedLine_ignoresModules (text : String) :
    IgnoresModules (modify fun w => w.mark.emitLine text : WriterM Unit) :=
  .of_modify (fun w modules => w.markedLine_withModules modules text)
    fun w => (Writer.scopes_changes {}).markedLine w text

omit hsplice in
theorem withName_ignoresModules (base : String) {body : String → Code}
    (hbody : ∀ name, IgnoresModules (exec splice (body name))) :
    IgnoresModules (exec splice (.withName base body)) := by
  unfold exec
  refine .read (fun _ _ => rfl) fun w _ => .bind ?_ fun _ => hbody _
  exact .of_modify (fun _ _ => rfl) fun _ => rfl

omit hsplice in
theorem look_ignoresModules {body : WriterView → Code}
    (hempty : ∀ view isEmpty, body { view with isEmpty } = body view)
    (hbody : ∀ view, IgnoresModules (exec splice (body view))) :
    IgnoresModules (exec splice (.look body)) := by
  unfold exec
  refine .read (fun w modules => ?_) fun w _ => hbody w.view
  exact congrArg (exec splice) (hempty w.view (w.withModules modules).isEmpty)

/-- Plain code runs alike whichever child modules are declared. -/
theorem exec_ignoresModules : ∀ c : Code, c.Plain → IgnoresModules (exec splice c)
  | .nothing, _ => .of_eq fun _ => rfl
  | .seq first second, ⟨hfirst, hsecond⟩ =>
    (exec_ignoresModules first hfirst).bind fun _ => exec_ignoresModules second hsecond
  | .fail _, _ => .of_eq fun _ => rfl
  | .attempt body, hbody => (exec_ignoresModules body hbody).attempt
  | .line text, _ => markedLine_ignoresModules (Text.dedent text)
  | .inlineText text, _ => emit_ignoresModules (Text.dedent text)
  | .template text _, hargs =>
    ((renderTemplate_ignoresModules hsplice text).inScope hargs).bind markedLine_ignoresModules
  | .inlineTemplate text _, hargs =>
    ((renderTemplate_ignoresModules hsplice text).inScope hargs).bind emit_ignoresModules
  | .scope _ body, ⟨hargs, hbody⟩ => (exec_ignoresModules body hbody).inScope hargs
  | .openBlock header, _ => .of_modify
    (fun w modules => w.openBlock_withModules modules header)
    fun w => (Writer.scopes_changes {}).openBlock w header
  | .closeBlock footer, _ => .of_modify
    (fun w modules => w.closeBlock_withModules modules footer)
    fun w => (Writer.scopes_changes {}).closeBlock w footer
  | .within before after body, hbody => (exec_ignoresModules body hbody).within before after
  | .block _ body, hbody =>
    (IgnoresModules.of_modify Writer.mark_withModules (Writer.scopes_changes {}).mark).bind
      fun _ => (exec_ignoresModules body hbody).within _ _
  | .blockTemplate header _ body, ⟨hargs, hbody⟩ =>
    (IgnoresModules.of_modify Writer.mark_withModules (Writer.scopes_changes {}).mark).bind
      fun _ => ((renderTemplate_ignoresModules hsplice header).bind
        fun _ => (exec_ignoresModules body hbody).within _ _).inScope hargs
  | .withinTemplate before after _ body, ⟨hargs, hbody⟩ =>
    ((renderTemplate_ignoresModules hsplice before).bind fun _ =>
      (renderTemplate_ignoresModules hsplice after).bind
        fun _ => (exec_ignoresModules body hbody).within _ _).inScope hargs
  | .comment style text, _ => .of_modify
    (fun w modules => w.comment_withModules modules style text)
    fun w => (Writer.scopes_changes {}).comment w style text
  | .addUse _, _ => .of_modify (fun _ _ => rfl) fun _ => rfl
  | .depend _, _ => .of_modify (fun _ _ => rfl) fun _ => rfl
  | .mention _, _ => .of_modify (fun _ _ => rfl) fun _ => rfl
  | .withName base body, hbody =>
    withName_ignoresModules base fun name => exec_ignoresModules (body name) (hbody name)
  | .look body, ⟨hbody, hempty⟩ =>
    look_ignoresModules hempty fun view => exec_ignoresModules (body view) (hbody view)
  | .preamble body, hbody =>
    .onFragment (exec_ignoresModules body hbody) fun _ hchild => .of_modify
      (fun w modules => w.mergePreamble_withModules modules hchild) fun _ => rfl
  | .inlineModule m body, hbody =>
    .onFragment (exec_ignoresModules body hbody) fun inner _ => .of_modify
      (fun w modules => w.embed_withModules modules m inner)
      fun w => (Writer.scopes_changes {}).embed w m
        (show inner.scopes = (Writer.fragment inner inner.ns).scopes from rfl)

end

theorem run_ignoresModules (depth : Nat) {c : Code} (hc : c.Plain) :
    IgnoresModules (run depth c) := by
  induction depth generalizing c with
  | zero => exact .of_eq fun _ => rfl
  | succ depth ih => exact exec_ignoresModules (fun c hc => ih hc) c hc

end Code

end CrateGen
