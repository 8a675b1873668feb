import CrateGen.Proofs.Code.Margin
import CrateGen.Proofs.Code.Mentions
import CrateGen.Proofs.Text.Hanging

namespace CrateGen

open CrateGen.Action

namespace Text

theorem dropTrailing_ended {s : String} (h : s.toList.getLast? ≠ some '\n') :
    String.ofList (dropTrailing (· == '\n') (s ++ "\n").toList) = s := by
  have hend : dropTrailing (· == '\n') "\n".toList = [] := by
    decide
  rw [String.toList_append]
  cases hs : s.toList with
  | nil =>
    rw [List.nil_append, hend, ← hs, String.ofList_toList]
  | cons a as =>
    have hlast : (a :: as).getLast?.any (· == '\n') = false := by
      rw [← hs, Option.any_eq_false_iff_get]
      intro hsome
      rw [beq_eq_false_iff_ne]
      exact fun he => h (by rw [← he, Option.some_get])
    rw [dropTrailing_append (List.cons_ne_nil a as) hlast, hend, List.append_nil, ← hs,
      String.ofList_toList]

end Text

theorem Page.indented_ended (level : Nat) (s : String) :
    indented level (s ++ "\n") = indented level s ++ "\n" := by
  obtain ⟨before, last, hs⟩ := Text.exists_last_line s
  have hempty : indentLine level "" = "" := rfl
  unfold indented
  rw [Text.lines_ended, hs, List.map_append, List.map_append, List.map_singleton,
    List.map_singleton, Text.unlines_append, Text.unlines_append, List.map_append,
    String.join_append, List.map_singleton, String.join_cons, String.join_nil,
    String.append_empty, hempty, String.append_empty, String.append_assoc]

namespace Code

variable {key : String} {c : Code}

def spliced (key : String) (c : Code) : Code :=
  .template (r"#{" ++ key ++ r":W}") [(key, .code c)]

theorem pieces_spliced (h : Template.Form.authored.IsKey key.toList) :
    Template.Form.authored.pieces 0 (Text.dedent (r"#{" ++ key ++ r":W}")).toList =
      [.directive key (some 'W')] := by
  have hbreak : '\n' ∉ key.toList := fun hmem =>
    absurd (List.all_eq_true.mp h.2 '\n' hmem) (by decide)
  have hfirm : Text.Firm (r"#{" ++ key ++ r":W}") :=
    ⟨Text.noBreak_append (Text.noBreak_append (by decide) hbreak) (by decide),
      Text.endsFlush_append (Text.endsFlush_literal rfl (by decide))⟩
  have hflush : Text.startsFlush (r"#{" ++ key ++ r":W}") = true :=
    Text.startsFlush_append (Text.startsFlush_append (Text.startsFlush_literal rfl (by decide)))
  have hstart := Template.Form.Starts.kinded [] h (by decide : isWordChar 'W' = true)
  rw [String.ofList_toList] at hstart
  have hlist : (r"#{" ++ key ++ r":W}").toList =
      '#' :: '{' :: (key.toList ++ [':', 'W', '}']) := by
    rw [String.toList_append, String.toList_append]
    rfl
  rw [Text.dedent_line hflush hfirm, hlist, hstart.pieces Template.Form.authored_delimited]
  rfl

theorem outcome_spliced (hkey : Template.Form.authored.IsKey key.toList) {depth : Nat}
    {w child : Writer} {body : String} (hquiet : w.debugMode = false)
    (hchild : outcome (run depth c)
      ((w.pushScope [(lowercase key, key, .code c)]).fragment w.ns) = (.ok (), child))
    (htext : child.page.text = body ++ "\n") (hbody : body.toList.getLast? ≠ some '\n') :
    ∃ w', w.OffPage w' ∧
      outcome (run (depth + 1) (spliced key c)) w = (.ok (), w'.emitLine body) := by
  have hs : Scope.ofArgs [(key, .code c)] = .ok [(lowercase key, key, .code c)] := rfl
  have hbound : Scope.lookup (w.pushScope [(lowercase key, key, .code c)]).scopes (lowercase key) =
      some (.code c) := by
    have hget := (Scope.get?_eq_some_iff hs).mpr ⟨key, List.mem_cons_self, rfl⟩
    exact (Scope.lookup_cons _ _ _).trans (congrArg (Option.or · _) hget)
  obtain ⟨v, hrender⟩ : ∃ v, outcome (renderFragment (run depth) c)
      (w.pushScope [(lowercase key, key, .code c)]) = (.ok body, v) := by
    have hrender := outcome_renderFragment hchild
    rw [htext, Text.dropTrailing_ended hbody] at hrender
    exact ⟨_, hrender⟩
  have hdirective : outcome (renderDirective (run depth) (lowercase key) 'W')
      (w.pushScope [(lowercase key, key, .code c)]) = (.ok body, v) := by
    unfold renderDirective
    rw [outcome_bind_ok (outcome_get _), hbound]
    exact hrender
  have htemplate : outcome (renderTemplate (run depth) (r"#{" ++ key ++ r":W}"))
      (w.pushScope [(lowercase key, key, .code c)]) = (.ok body, v) := by
    have hhang : "" ++ Text.hang (Text.lastIndent "") body = body := by
      rw [String.empty_append]
      exact Text.hang_nothing body
    rw [Template.outcome_renderTemplate, pieces_spliced hkey, Template.missing?_cons_directive,
      hbound]
    change outcome (renderDirective (run depth) (lowercase key) 'W' >>= fun text =>
      expand (run depth) ("" ++ Text.hang (Text.lastIndent "") text) []) _ = _
    rw [outcome_bind_ok hdirective, hhang]
    rfl
  have hscope : outcome (WriterM.inScope [(key, .code c)]
      (renderTemplate (run depth) (r"#{" ++ key ++ r":W}"))) w = (.ok body, v.popScope) := by
    rw [outcome_inScope, hs]
    dsimp only
    rw [htemplate]
  have hoff := (renderTemplate_offPage (run depth) (r"#{" ++ key ++ r":W}")).inScope
    [(key, .code c)] w
  rw [hscope] at hoff
  have hmark : v.popScope.mark = v.popScope := Writer.mark_quiet (hoff.debugMode.trans hquiet)
  refine ⟨v.popScope, hoff, ?_⟩
  rw [run, spliced, exec, outcome_bind_ok hscope, outcome_modify, hmark]

theorem run_keepsMargin {k k' : Nat} (depth : Nat) (hc : c.Balances k k') :
    WriterM.KeepsMargin k (run depth c) k' := by
  cases depth with
  | zero => exact fun _ _ j _ _ h => .exhausted (h.mono (Nat.le_add_right j k))
  | succ depth => exact exec_keepsMargin (run depth) c hc

variable {w child : Writer} {keys : String → Prop}

theorem run_inPlace {depth : Nat} (hbalanced : c.Balances 0 0)
    (hstart : w.page.atLineStart = true) (hquiet : w.debugMode = false)
    (hchild : outcome (run depth c) (w.fragment w.ns) = (.ok (), child)) :
    ∃ w', outcome (run depth c) w = (.ok (), w') ∧
      w'.page.text = w.page.text ++ Page.indented w.level child.page.text := by
  have hmargin : Writer.Margin w.page w.level 0 w (w.fragment w.ns) :=
    ⟨fun _ => rfl, rfl, hquiet, rfl, Nat.le_refl 0, (Page.inset_empty hstart w.level).symm⟩
  have hunbroken : child.page.Unbroken := by
    have hrun := run_progress Writer.unbroken_progress depth c (w.fragment w.ns)
    rw [hchild] at hrun
    refine hrun fun l hl => ?_
    rw [List.mem_singleton.mp hl]
    exact List.not_mem_nil
  have hmeets := (run_keepsMargin depth hbalanced).nested w.page w.level 0 _ _ hmargin
  rw [hchild] at hmeets
  generalize hrun : outcome (run depth c) w = p at hmeets
  cases hmeets with
  | ok h =>
    obtain ⟨-, hmargin'⟩ := h
    refine ⟨_, rfl, ?_⟩
    rw [hmargin'.page, hunbroken.text_inset hstart]

/-- Scopes that bind the mentioned keys alike make no difference to a fragment. -/
theorem run_rescoped {depth : Nat} {s : Scope} (hmentions : c.MentionsOnly keys)
    (hagree : Scope.Agree keys w.scopes (s :: w.scopes))
    (hchild : outcome (run depth c) (w.fragment w.ns) = (.ok (), child)) :
    ∃ child', outcome (run depth c) ((w.pushScope s).fragment w.ns) = (.ok (), child') ∧
      child'.page = child.page := by
  have hmeets := run_seesOnly depth hmentions { scopes := w.scopes } { scopes := s :: w.scopes }
    ⟨hagree, rfl⟩ (w.fragment w.ns) ((w.pushScope s).fragment w.ns)
    ⟨w.fragment w.ns, (Writer.under_scopes (w.fragment w.ns) w.scopes).symm,
      (Writer.under_scopes (w.fragment w.ns) (s :: w.scopes)).symm⟩
  rw [hchild] at hmeets
  generalize hrun : outcome (run depth c) ((w.pushScope s).fragment w.ns) = p at hmeets
  cases hmeets with
  | ok h =>
    obtain ⟨-, u, rfl, rfl⟩ := h
    exact ⟨_, rfl, rfl⟩

theorem agree_push {scopes : List Scope} (hclosed : Scope.Closed keys scopes)
    (hfree : ¬keys (lowercase key)) (arg : Arg Code) :
    Scope.Agree keys scopes ([(lowercase key, key, arg)] :: scopes) where
  closed := hclosed
  lookup k hk := by
    have hs : Scope.ofArgs [(key, arg)] = .ok [(lowercase key, key, arg)] := rfl
    have hnone : Scope.get? [(lowercase key, key, arg)] k = none := by
      refine (Scope.get?_eq_none_iff hs).mpr fun a ha he => hfree ?_
      rw [List.mem_singleton.mp ha] at he
      exact he ▸ hk
    rw [Scope.lookup_cons, hnone, Option.none_or]

/-- A fragment that ends with its only line end there writes the same spliced as in its place: what
it writes on its own, indented to the level of the writer. The key that it is spliced by is
mentioned neither by the fragment nor by anything that its keys stand for. -/
theorem splice_inPlace {depth : Nat} {body : String}
    (hkey : Template.Form.authored.IsKey key.toList) (hfree : ¬keys (lowercase key))
    (hmentions : c.MentionsOnly keys) (hclosed : Scope.Closed keys w.scopes)
    (hbalanced : c.Balances 0 0) (hstart : w.page.atLineStart = true)
    (hquiet : w.debugMode = false)
    (hchild : outcome (run depth c) (w.fragment w.ns) = (.ok (), child))
    (htext : child.page.text = body ++ "\n") (hbody : body.toList.getLast? ≠ some '\n') :
    ∃ w₁ w₂, outcome (run depth c) w = (.ok (), w₁) ∧
      outcome (run (depth + 1) (spliced key c)) w = (.ok (), w₂) ∧
      w₁.page.text = w.page.text ++ Page.indented w.level child.page.text ∧
      w₂.page.text = w.page.text ++ Page.indented w.level child.page.text := by
  obtain ⟨w₁, hdirect, htext₁⟩ := run_inPlace hbalanced hstart hquiet hchild
  obtain ⟨child', hchild', hpage⟩ :=
    run_rescoped hmentions (agree_push hclosed hfree (.code c)) hchild
  obtain ⟨w', hoff, hspliced⟩ :=
    outcome_spliced hkey hquiet hchild' ((congrArg Page.text hpage).trans htext) hbody
  have hline := Writer.AddsLines.emitLine ((congrArg Page.atLineStart hoff.page).trans hstart) body
  have htext₂ : (w'.emitLine body).page.text =
      w.page.text ++ Page.indented w.level child.page.text := by
    rw [hline.text, hoff.page, hoff.level, htext, Page.indented_ended]
  exact ⟨w₁, w'.emitLine body, hdirect, hspliced, htext₁, htext₂⟩

/-- A writer in a block, where `b` stands for another fragment. -/
def sampleBlock : Writer :=
  { Writer.root with
    level := 1
    scopes := [[("name", "Name", .literal "run"), ("b", "b", .code (.line "hidden"))]] }

def sampleFragment : Code :=
  .blockTemplate "fn #{name}()" []
    (.openBlock r"if ready {" ++ .line "first();\n\nlast();" ++ .closeBlock r"}")

theorem splice_inPlace_sample :
    let child := (outcome (run 1 sampleFragment) (sampleBlock.fragment sampleBlock.ns)).2
    let body := r"fn run() {
    if ready {
        first();

        last();
    }
}"
    sampleFragment.Balances 0 0 ∧ child.page.text = body ++ "\n" ∧
      ∃ w₁ w₂, outcome (run 1 sampleFragment) sampleBlock = (.ok (), w₁) ∧
        outcome (run (1 + 1) (spliced "b" sampleFragment)) sampleBlock = (.ok (), w₂) ∧
        w₁.page.text =
          sampleBlock.page.text ++ Page.indented sampleBlock.level child.page.text ∧
        w₂.page.text =
          sampleBlock.page.text ++ Page.indented sampleBlock.level child.page.text := by
  intro child body
  have hbalanced : sampleFragment.Balances 0 0 :=
    ⟨⟨1, ⟨1, rfl, rfl⟩, rfl⟩, rfl⟩
  have hmentions : sampleFragment.MentionsOnly (· = "name") :=
    ⟨by decide +kernel, trivial, ⟨trivial, trivial⟩, trivial⟩
  have hclosed : Scope.Closed (· = "name") sampleBlock.scopes := by
    rintro _ arg rfl h
    obtain rfl : .literal "run" = arg := Option.some.inj h
    trivial
  have htext : child.page.text = body ++ "\n" := by
    decide +kernel
  exact ⟨hbalanced, htext, splice_inPlace ⟨by decide, by decide⟩ (by decide) hmentions hclosed
    hbalanced rfl rfl (outcome_of_isOk (by decide +kernel)) htext (by decide +kernel)⟩

/-- A fragment that `x` stands for, and which mentions the type that `b` stands for. -/
def captiveWriter : Writer :=
  { Writer.root with
    scopes := [[("b", "b", .symbol (.builtin "u8")),
      ("x", "x", .code (.template "/// #{b:D}" []))]] }

/-- Bound to `b` itself, a fragment that does not mention `b` may still come to stand for it. -/
theorem splice_captured :
    let c := Code.template "#{x:W}" []
    let fragment := captiveWriter.fragment captiveWriter.ns
    c.MentionsOnly (· = "x") ∧ c.Balances 0 0 ∧
      captiveWriter.page.atLineStart = true ∧ captiveWriter.debugMode = false ∧
      (outcome (run 2 c) fragment).1.isOk = true ∧
      (outcome (run 2 c) fragment).2.page.text = "/// [`u8`](u8)" ++ "\n" ∧
      (outcome (run 2 c) captiveWriter).2.page.text = "/// [`u8`](u8)\n" ∧
      (outcome (run 3 (spliced "b" c)) captiveWriter).1.isOk = false ∧
      (outcome (run 3 (spliced "b" c)) captiveWriter).2.page.text = "" := by
  refine ⟨⟨?_, trivial⟩, rfl, ?_⟩ <;> decide +kernel

end Code

end CrateGen
