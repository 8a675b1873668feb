import CrateGen.Proofs.Code.Page
import CrateGen.Proofs.Code.Rendering

namespace CrateGen

open CrateGen.Action

/-- Blocks are only opened by forms that close them, on whatever way through the code. Fragments and
inline modules are written by writers of their own, and may do as they like. -/
def Code.Paired : Code → Prop
  | .openBlock _ | .closeBlock _ => False
  | .nothing | .fail _ | .line _ | .inlineText _ | .template _ _ | .inlineTemplate _ _
  | .comment _ _ | .addUse _ | .declare _ | .depend _ | .mention _ | .preamble _
  | .inlineModule _ _ => True
  | .seq first second => first.Paired ∧ second.Paired
  | .attempt body | .scope _ body | .within _ _ body | .block _ body | .blockTemplate _ _ body
  | .withinTemplate _ _ _ body => body.Paired
  | .withName _ body => ∀ name, (body name).Paired
  | .look body => ∀ view, (body view).Paired

theorem Code.paired_withinIf {condition : Bool} {before after : String} {body : Code} :
    (withinIf condition before after body).Paired ↔ body.Paired := by
  cases condition <;> rfl

namespace Writer

/-- The same indentation level, with the same scopes in force. -/
structure SamePlace (w w' : Writer) : Prop where
  level : w'.level = w.level
  scopes : w'.scopes = w.scopes

namespace SamePlace

variable {w w' w'' : Writer}

theorem refl (w : Writer) : w.SamePlace w :=
  ⟨rfl, rfl⟩

theorem trans (h : w.SamePlace w') (h' : w'.SamePlace w'') : w.SamePlace w'' :=
  ⟨h'.level.trans h.level, h'.scopes.trans h.scopes⟩

theorem of_offPage (h : w.OffPage w') : w.SamePlace w' :=
  ⟨h.level, h.scopes⟩

theorem of_page (h : ∃ page, w' = { w with page }) : w.SamePlace w' := by
  obtain ⟨page, rfl⟩ := h
  exact ⟨rfl, rfl⟩

end SamePlace

variable (w : Writer)

theorem mark_rest : ∃ page, w.mark = { w with page } := by
  unfold mark
  split
  · exact ⟨_, rfl⟩
  · exact ⟨w.page, rfl⟩

theorem openBlock_rest (header : String) :
    ∃ page, w.openBlock header = { w with page, level := w.level + 1 } := by
  unfold openBlock
  cases header == ""
  · exact ⟨_, rfl⟩
  · exact ⟨w.page, rfl⟩

/-- The line that closes a block. Without a footer there is none. -/
def footerText (level : Nat) (footer : String) : String :=
  if footer == "" then "" else Page.indented level footer ++ "\n"

/-- A block is closed on a line of its own, one level higher. -/
theorem closeBlock_addsLines (footer : String) :
    AddsLines { w with level := w.level - 1 }
      (w.page.lineEnd ++ footerText (w.level - 1) footer) (w.closeBlock footer) := by
  have hend := AddsLines.ensureNewline { w with level := w.level - 1 }
  unfold closeBlock footerText
  cases footer == ""
  · exact hend.trans (AddsLines.emitLine hend.start footer)
  · refine hend.trans ⟨⟨_, rfl⟩, String.append_empty.symm, hend.start⟩

end Writer

namespace WriterM

variable {α β : Type} {x : WriterM α} {f : α → WriterM β}

/-- However the action ends, the writer is left at the place where it was. -/
def KeepsPlace (x : WriterM α) : Prop :=
  ∀ w : Writer, w.SamePlace (outcome x w).2

namespace KeepsPlace

theorem of_offPage (h : OffPage x) : KeepsPlace x :=
  fun w => .of_offPage (h w)

theorem of_eq (h : ∀ w, (outcome x w).2 = w) : KeepsPlace x :=
  of_offPage (.of_eq h)

theorem of_modify {g : Writer → Writer} (h : ∀ w : Writer, w.SamePlace (g w)) :
    KeepsPlace (modify g : WriterM Unit) :=
  h

theorem mark : KeepsPlace (modify Writer.mark : WriterM Unit) :=
  of_modify fun w => .of_page w.mark_rest

theorem markedLine (text : String) :
    KeepsPlace (modify fun w => w.mark.emitLine text : WriterM Unit) :=
  of_modify fun w => (Writer.SamePlace.of_page w.mark_rest).trans ⟨rfl, rfl⟩

theorem bind (hx : KeepsPlace x) (hf : ∀ a, KeepsPlace (f a)) : KeepsPlace (x >>= f) := by
  intro w
  have hxw := hx w
  rw [outcome_bind]
  cases h : outcome x w with
  | mk r w' =>
    rw [h] at hxw
    cases r with
    | error e => exact hxw
    | ok a => exact hxw.trans (hf a w')

theorem attempt {x : WriterM Unit} (hx : KeepsPlace x) : KeepsPlace (Action.attempt x) := by
  intro w
  have hxw := hx w
  rw [outcome_attempt]
  cases h : outcome x w with
  | mk r w' =>
    rw [h] at hxw
    cases r with
    | ok u => exact hxw
    | error e => cases e <;> exact hxw

theorem inScope (args : List (String × Arg Code)) (hx : KeepsPlace x) :
    KeepsPlace (inScope args x) := by
  intro w
  rw [outcome_inScope]
  cases Scope.ofArgs args with
  | error e => exact .refl w
  | ok s =>
    have hxw := hx (w.pushScope s)
    exact ⟨hxw.level, congrArg List.tail hxw.scopes⟩

theorem within (before after : String) (hx : KeepsPlace x) :
    KeepsPlace (within before after x) := by
  intro w
  obtain ⟨page, hopen⟩ := w.openBlock_rest (Text.trim before)
  have hxw := hx (w.openBlock (Text.trim before))
  unfold WriterM.within
  rw [outcome_between]
  generalize (outcome x (w.openBlock (Text.trim before))).2 = v at hxw ⊢
  obtain ⟨page', hclose⟩ := (v.closeBlock_addsLines (Text.trim after)).rest
  have hlevel : v.level = w.level + 1 := hxw.level.trans (by rw [hopen])
  have hscopes : v.scopes = w.scopes := hxw.scopes.trans (by rw [hopen])
  rw [hclose]
  exact ⟨by rw [hlevel]; rfl, hscopes⟩

end KeepsPlace

end WriterM

namespace Code

open WriterM (KeepsPlace)

variable (splice : Code → WriterM Unit)

theorem renderTemplate_keepsPlace (template : String) :
    KeepsPlace (renderTemplate splice template) :=
  .of_offPage (renderTemplate_offPage splice template)

theorem exec_keepsPlace : ∀ c : Code, c.Paired → KeepsPlace (exec splice c)
  | .nothing, _ | .fail _, _ => .of_eq fun _ => rfl
  | .seq first second, ⟨hfirst, hsecond⟩ =>
    (exec_keepsPlace first hfirst).bind fun _ => exec_keepsPlace second hsecond
  | .attempt body, hbody => (exec_keepsPlace body hbody).attempt
  | .line _, _ => .markedLine _
  | .inlineText _, _ => .of_modify fun _ => .of_page ⟨_, rfl⟩
  | .addUse _, _ | .declare _, _ | .depend _, _ | .mention _, _ =>
    .of_modify fun _ => ⟨rfl, rfl⟩
  | .template text args, _ =>
    ((renderTemplate_keepsPlace splice text).inScope args).bind fun _ => .markedLine _
  | .inlineTemplate text args, _ =>
    ((renderTemplate_keepsPlace splice text).inScope args).bind
      fun _ => .of_modify fun _ => ⟨rfl, rfl⟩
  | .scope args body, hbody => (exec_keepsPlace body hbody).inScope args
  | .within before after body, hbody => (exec_keepsPlace body hbody).within before after
  | .block _ body, hbody =>
    KeepsPlace.mark.bind fun _ => (exec_keepsPlace body hbody).within _ _
  | .blockTemplate header args body, hbody =>
    KeepsPlace.mark.bind fun _ =>
      ((renderTemplate_keepsPlace splice header).bind fun _ =>
        (exec_keepsPlace body hbody).within _ _).inScope args
  | .withinTemplate before after args body, hbody =>
    ((renderTemplate_keepsPlace splice before).bind fun _ =>
      (renderTemplate_keepsPlace splice after).bind fun _ =>
        (exec_keepsPlace body hbody).within _ _).inScope args
  | .comment style text, _ =>
    .of_modify fun w => .of_page (Writer.AddsLines.comment w style text).rest
  | .withName _ body, hbody =>
    KeepsPlace.bind (.of_eq fun _ => rfl) fun _ =>
      (KeepsPlace.of_modify (g := (·.issue _)) fun _ => ⟨rfl, rfl⟩).bind
        fun _ => exec_keepsPlace (body _) (hbody _)
  | .look body, hbody =>
    KeepsPlace.bind (.of_eq fun _ => rfl) fun _ => exec_keepsPlace (body _) (hbody _)
  | .preamble body, _ =>
    (KeepsPlace.of_offPage (.onFragment id (exec splice body))).bind
      fun _ => .of_modify fun _ => ⟨rfl, rfl⟩
  | .inlineModule m body, _ =>
    (KeepsPlace.of_offPage (.onFragment _ (exec splice body))).bind fun inner =>
      .of_modify fun w => by
        obtain ⟨page, dependencies, hembed, -⟩ := w.embed_text ⟨m, inner⟩
        rw [hembed]
        exact ⟨rfl, rfl⟩

/-- A block on a writer comes to its body: the body, the writer that it is run on, and the footer
that is due behind it. -/
inductive Enters : Code → Writer → Code → Writer → String → Prop where
  | within {before after : String} {body : Code} {w : Writer} :
    Enters (.within before after body) w body (w.openBlock (Text.trim before)) (Text.trim after)
  | block {header : String} {body : Code} {w : Writer} :
    Enters (.block header body) w body
      (w.mark.openBlock (Text.trim (WriterM.blockHeader (Text.dedent header)))) r"}"
  | blockTemplate {header text : String} {args : List (String × Arg Code)} {body : Code}
    {w w' : Writer} {s : Scope} (hs : Scope.ofArgs args = .ok s)
    (hheader : outcome (renderTemplate splice header) (w.mark.pushScope s) = (.ok text, w')) :
    Enters (.blockTemplate header args body) w body
      (w'.openBlock (Text.trim (WriterM.blockHeader text))) r"}"
  | withinTemplate {before after first last : String} {args : List (String × Arg Code)}
    {body : Code} {w w' w'' : Writer} {s : Scope} (hs : Scope.ofArgs args = .ok s)
    (hbefore : outcome (renderTemplate splice before) (w.pushScope s) = (.ok first, w'))
    (hafter : outcome (renderTemplate splice after) w' = (.ok last, w'')) :
    Enters (.withinTemplate before after args body) w body
      (w''.openBlock (Text.trim first)) (Text.trim last)

/-- A block runs its body one level deeper, ends the way the body ends, and writes its footer
however that is. -/
structure Brackets (c : Code) (w : Writer) (body : Code) (v : Writer) (footer : String) : Prop where
  level : v.level = w.level + 1
  result : (outcome (exec splice c) w).1 = (outcome (exec splice body) v).1
  rest : ∃ scopes, (outcome (exec splice c) w).2 =
    { (outcome (exec splice body) v).2.closeBlock footer with scopes }

/-- The footer of a block stands on a line of its own behind what the body wrote, indented as the
writer was at entry. -/
structure Closed (c : Code) (w : Writer) (body : Code) (v : Writer) (footer : String) : Prop where
  result : (outcome (exec splice c) w).1 = (outcome (exec splice body) v).1
  text : (outcome (exec splice c) w).2.page.text =
    (outcome (exec splice body) v).2.page.text ++
      ((outcome (exec splice body) v).2.page.lineEnd ++ Writer.footerText w.level footer)
  start : (outcome (exec splice c) w).2.page.atLineStart = true

variable {splice} {c body : Code} {w u v : Writer} {footer : String}

theorem Brackets.of_within (before after : String) {leave : Writer → Writer}
    (hleave : ∀ v, ∃ scopes, leave v = { v with scopes }) (hfooter : Text.trim after = footer)
    (hlevel : u.level = w.level)
    (hrun : outcome (exec splice c) w =
      ((outcome (WriterM.within before after (exec splice body)) u).1,
        leave (outcome (WriterM.within before after (exec splice body)) u).2)) :
    Brackets splice c w body (u.openBlock (Text.trim before)) footer := by
  subst hfooter
  obtain ⟨page, hopen⟩ := u.openBlock_rest (Text.trim before)
  obtain ⟨scopes, hrest⟩ :=
    hleave (outcome (WriterM.within before after (exec splice body)) u).2
  rw [WriterM.within, outcome_between] at hrest hrun
  refine ⟨by rw [hopen, ← hlevel], by rw [hrun], scopes, ?_⟩
  rw [hrun]
  exact hrest

theorem Enters.brackets (h : Enters splice c w body v footer) :
    Brackets splice c w body v footer := by
  have hbrace : Text.trim r"}" = r"}" := by
    decide
  have hkeep (v : Writer) : ∃ scopes, id v = { v with scopes } := ⟨v.scopes, rfl⟩
  have hpop (v : Writer) : ∃ scopes, v.popScope = { v with scopes } := ⟨v.scopes.tail, rfl⟩
  cases h with
  | @within before after => exact .of_within before after hkeep rfl rfl rfl
  | @block header =>
    refine .of_within _ r"}" hkeep hbrace (KeepsPlace.mark w).level ?_
    rw [exec, outcome_bind_ok (outcome_modify _ w)]
    rfl
  | @blockTemplate header text args _ _ u s hs hheader =>
    have hrender := renderTemplate_keepsPlace splice header (w.mark.pushScope s)
    rw [hheader] at hrender
    refine .of_within _ r"}" hpop hbrace (hrender.level.trans (KeepsPlace.mark w).level) ?_
    rw [exec, outcome_bind_ok (outcome_modify _ w), outcome_inScope, hs]
    dsimp only
    rw [outcome_bind_ok hheader]
  | @withinTemplate before after first last args _ _ u₁ u s hs hbefore hafter =>
    have hfirst := renderTemplate_keepsPlace splice before (w.pushScope s)
    have hlast := renderTemplate_keepsPlace splice after u₁
    rw [hbefore] at hfirst
    rw [hafter] at hlast
    refine .of_within first last hpop rfl (hlast.level.trans hfirst.level) ?_
    rw [exec, outcome_inScope, hs]
    dsimp only
    rw [outcome_bind_ok hbefore, outcome_bind_ok hafter]

theorem Enters.paired (h : Enters splice c w body v footer) (hc : c.Paired) : body.Paired := by
  cases h <;> exact hc

theorem Brackets.closed (h : Brackets splice c w body v footer) (hbody : body.Paired) :
    Closed splice c w body v footer := by
  obtain ⟨hlevel, hresult, scopes, hrest⟩ := h
  have hplace := exec_keepsPlace splice body hbody v
  have hclose := (outcome (exec splice body) v).2.closeBlock_addsLines footer
  have hend : (outcome (exec splice body) v).2.level - 1 = w.level := by
    rw [hplace.level, hlevel]
    rfl
  rw [hend] at hclose
  refine ⟨hresult, ?_, ?_⟩
  · rw [hrest]
    exact hclose.text
  · rw [hrest]
    exact hclose.start

/-- Where a template fails, nothing is written. -/
theorem template_untouched (text : String) (args : List (String × Arg Code))
    {g : String → Writer → Writer} {e : Halt}
    (h : (outcome (WriterM.inScope args (renderTemplate splice text) >>= fun t =>
      (modify (g t) : WriterM Unit)) w).1 = .error e) :
    (outcome (WriterM.inScope args (renderTemplate splice text) >>= fun t =>
      (modify (g t) : WriterM Unit)) w).2.page = w.page := by
  have hoff := (renderTemplate_offPage splice text).inScope args w
  rw [outcome_bind] at h ⊢
  cases hx : outcome (WriterM.inScope args (renderTemplate splice text)) w with
  | mk r w' =>
    rw [hx] at h hoff
    cases r with
    | ok t => cases h
    | error e' => exact hoff.page

variable (splice c w) in
/-- What holds of a writer when code returns, whether it succeeds or fails. -/
structure Restores : Prop where
  level : (outcome (exec splice c) w).2.level = w.level
  scopes : (outcome (exec splice c) w).2.scopes = w.scopes
  closed {body : Code} {v : Writer} {footer : String} :
    Enters splice c w body v footer → Closed splice c w body v footer
  /-- The page holds the text and whether a line starts behind it. -/
  untouched {text : String} {args : List (String × Arg Code)} {e : Halt} :
    c = .template text args ∨ c = .inlineTemplate text args →
    (outcome (exec splice c) w).1 = .error e → (outcome (exec splice c) w).2.page = w.page

/-- Code without blocks of its own making leaves the writer on its level and with its scopes,
wherever it fails; blocks are closed, and a template that fails writes nothing. -/
theorem exec_restores (splice : Code → WriterM Unit) {c : Code} (hc : c.Paired) (w : Writer) :
    Restores splice c w where
  level := (exec_keepsPlace splice c hc w).level
  scopes := (exec_keepsPlace splice c hc w).scopes
  closed henter := henter.brackets.closed (henter.paired hc)
  untouched hform h := by
    rcases hform with rfl | rfl
    · exact template_untouched _ _ h
    · exact template_untouched _ _ h

/-- A template for an unknown key, two blocks and a scope deep. -/
def failingBlocks : Code :=
  .scope [("name", .literal "run")] (.blockTemplate "fn #{name}()" []
    (.line "first();" ++
      .withinIf true r"if ready {" r"} else { }" (.inlineText "second" ++
        .template "#{missing}" [] ++ .line "third();") ++
      .line "fourth();"))

theorem exec_restores_failingBlocks :
    failingBlocks.Paired ∧ Restores (run 0) failingBlocks { Writer.root with level := 1 } ∧
      (outcome (exec (run 0) failingBlocks) { Writer.root with level := 1 }).2.page.text =
        r"    fn run() {
        first();
        if ready {
            second
        } else { }
    }
" := by
  have hpaired : failingBlocks.Paired :=
    ⟨⟨trivial, paired_withinIf.mpr ⟨⟨trivial, trivial⟩, trivial⟩⟩, trivial⟩
  exact ⟨hpaired, exec_restores (run 0) hpaired _, by decide +kernel⟩

end Code

end CrateGen
