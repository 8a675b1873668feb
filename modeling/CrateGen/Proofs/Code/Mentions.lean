import CrateGen.Proofs.Code.Coupling
import CrateGen.Proofs.Code.OnePass
import CrateGen.Proofs.Code.Surroundings

namespace CrateGen

open CrateGen.Action

/-- The keys of a template's directives, in lower case. -/
def Template.mentioned (template : String) : List String :=
  (Form.authored.pieces 0 (Text.dedent template).toList).filterMap fun
    | .directive key _ => some (lowercase key)
    | _ => none

/-- A template has directives for these keys only. -/
def Template.MentionsOnly (keys : String → Prop) (template : String) : Prop :=
  ∀ key ∈ mentioned template, keys key

instance (keys : String → Prop) [DecidablePred keys] (template : String) :
    Decidable (Template.MentionsOnly keys template) :=
  inferInstanceAs (Decidable (∀ key ∈ Template.mentioned template, keys key))

theorem Template.MentionsOnly.directive {keys : String → Prop} {template : String}
    (h : MentionsOnly keys template) (key : String) (kind : Option Char)
    (hmem : .directive key kind ∈ Form.authored.pieces 0 (Text.dedent template).toList) :
    keys (lowercase key) :=
  h _ (List.mem_filterMap.mpr ⟨_, hmem, rfl⟩)

mutual

/-- No template of the code, or of the fragments that its arguments are, has another key. -/
def Code.MentionsOnly (keys : String → Prop) : Code → Prop
  | .nothing | .fail _ | .line _ | .inlineText _ | .openBlock _ | .closeBlock _ | .comment _ _
  | .addUse _ | .declare _ | .depend _ | .mention _ => True
  | .seq first second => first.MentionsOnly keys ∧ second.MentionsOnly keys
  | .attempt body | .within _ _ body | .block _ body | .preamble body | .inlineModule _ body =>
    body.MentionsOnly keys
  | .template text args | .inlineTemplate text args =>
    Template.MentionsOnly keys text ∧ Code.allMentionOnly keys args
  | .scope args body => Code.allMentionOnly keys args ∧ body.MentionsOnly keys
  | .blockTemplate header args body =>
    Template.MentionsOnly keys header ∧ Code.allMentionOnly keys args ∧ body.MentionsOnly keys
  | .withinTemplate before after args body =>
    (Template.MentionsOnly keys before ∧ Template.MentionsOnly keys after) ∧
      Code.allMentionOnly keys args ∧ body.MentionsOnly keys
  | .withName _ body => ∀ name, (body name).MentionsOnly keys
  | .look body => ∀ view, (body view).MentionsOnly keys

def Code.allMentionOnly (keys : String → Prop) : List (String × Arg Code) → Prop
  | [] => True
  | entry :: rest => Code.entryMentionsOnly keys entry ∧ Code.allMentionOnly keys rest

def Code.entryMentionsOnly (keys : String → Prop) : String × Arg Code → Prop
  | (_, arg) => Code.argMentionsOnly keys arg

def Code.argMentionsOnly (keys : String → Prop) : Arg Code → Prop
  | .symbol _ | .type _ | .literal _ => True
  | .code c => c.MentionsOnly keys

end

theorem Template.mentionsOnly_any (template : String) : MentionsOnly (fun _ => True) template :=
  fun _ _ => trivial

mutual

theorem Code.mentionsOnly_any : ∀ c : Code, c.MentionsOnly fun _ => True
  | .nothing | .fail _ | .line _ | .inlineText _ | .openBlock _ | .closeBlock _ | .comment _ _
  | .addUse _ | .declare _ | .depend _ | .mention _ => trivial
  | .seq first second => ⟨mentionsOnly_any first, mentionsOnly_any second⟩
  | .attempt body | .within _ _ body | .block _ body | .preamble body | .inlineModule _ body =>
    mentionsOnly_any body
  | .template text args | .inlineTemplate text args =>
    ⟨Template.mentionsOnly_any text, allMentionOnly_any args⟩
  | .scope args body => ⟨allMentionOnly_any args, mentionsOnly_any body⟩
  | .blockTemplate header args body =>
    ⟨Template.mentionsOnly_any header, allMentionOnly_any args, mentionsOnly_any body⟩
  | .withinTemplate before after args body =>
    ⟨⟨Template.mentionsOnly_any before, Template.mentionsOnly_any after⟩, allMentionOnly_any args,
      mentionsOnly_any body⟩
  | .withName _ body => fun name => mentionsOnly_any (body name)
  | .look body => fun view => mentionsOnly_any (body view)

theorem Code.allMentionOnly_any :
    ∀ args : List (String × Arg Code), Code.allMentionOnly (fun _ => True) args
  | [] => trivial
  | entry :: rest => ⟨entryMentionsOnly_any entry, allMentionOnly_any rest⟩

theorem Code.entryMentionsOnly_any :
    ∀ entry : String × Arg Code, Code.entryMentionsOnly (fun _ => True) entry
  | (_, arg) => argMentionsOnly_any arg

theorem Code.argMentionsOnly_any : ∀ arg : Arg Code, Code.argMentionsOnly (fun _ => True) arg
  | .symbol _ | .type _ | .literal _ => trivial
  | .code c => mentionsOnly_any c

end

variable {keys : String → Prop}

theorem Code.argMentionsOnly_of_mem {args : List (String × Arg Code)}
    (h : Code.allMentionOnly keys args) : ∀ entry ∈ args, Code.argMentionsOnly keys entry.2 := by
  induction args with
  | nil => nofun
  | cons entry args ih =>
    obtain ⟨key, arg⟩ := entry
    obtain ⟨harg, hrest⟩ := h
    exact List.forall_mem_cons.mpr ⟨harg, ih hrest⟩

namespace Scope

theorem lookup_cons (s : Scope) (scopes : List Scope) (key : String) :
    lookup (s :: scopes) key = (s.get? key).or (lookup scopes key) := by
  rw [lookup, List.findSome?_cons]
  cases s.get? key <;> rfl

/-- What is bound to the keys, directly or through each other, mentions no other key. -/
def Closed (keys : String → Prop) (scopes : List Scope) : Prop :=
  ∀ key arg, keys key → lookup scopes key = some arg → Code.argMentionsOnly keys arg

/-- The keys are bound alike. -/
structure Agree (keys : String → Prop) (scopes scopes' : List Scope) : Prop where
  lookup : ∀ key, keys key → lookup scopes' key = lookup scopes key
  closed : Closed keys scopes

theorem Agree.push {scopes scopes' : List Scope} (h : Agree keys scopes scopes')
    {args : List (String × Arg Code)} {s : Scope} (hargs : Code.allMentionOnly keys args)
    (hs : ofArgs args = .ok s) : Agree keys (s :: scopes) (s :: scopes') where
  lookup key hkey := by
    rw [lookup_cons, lookup_cons, h.lookup key hkey]
  closed key arg hkey hlookup := by
    rw [lookup_cons, Option.or_eq_some_iff] at hlookup
    rcases hlookup with hget | ⟨-, hlookup⟩
    · obtain ⟨name, hmem, -⟩ := (get?_eq_some_iff hs).mp hget
      exact Code.argMentionsOnly_of_mem hargs _ hmem
    · exact h.closed key arg hkey hlookup

end Scope

/-- Around either writer the keys are bound alike, and something is written or nothing is. -/
structure Surroundings.Agree (keys : String → Prop) (s s' : Surroundings) : Prop where
  scopes : Scope.Agree keys s.scopes s'.scopes
  blank : s'.above.all Text.isBlankText = s.above.all Text.isBlankText

theorem Surroundings.Agree.view {s s' : Surroundings} (h : Agree keys s s') (w : Writer) :
    (w.under s').view = (w.under s).view := by
  have hempty (s : Surroundings) : (w.under s).isEmpty =
      ((s.above.all Text.isBlankText && w.page.toLines.all Text.isBlankText) &&
        w.modules.isEmpty) := by
    rw [← List.all_append, ← Page.toLines_under, ← Text.isBlankText_unlines]
    rfl
  have hview (s : Surroundings) : (w.under s).view =
      { file := w.file, ns := w.ns, isEmpty := (w.under s).isEmpty } := rfl
  rw [hview s', hview s, hempty s', hempty s, h.blank]

theorem Writer.embed_rescoped (w : Writer) (m : Module) (inner : Writer) (scopes : List Scope) :
    w.embed m { inner with scopes } = w.embed m inner := by
  rw [embed_eq, embed_eq]
  rfl

namespace WriterM

variable {α β : Type} {x : WriterM α} {f : α → WriterM β} {g : Writer → Writer}

/-- The action ends alike wherever these keys are bound alike, whatever else stands around. -/
def SeesOnly (keys : String → Prop) (x : WriterM α) : Prop :=
  ∀ s s', Surroundings.Agree keys s s' →
    Steady (Writer.Recast s s') x (Writer.Recast s s') (Writer.Recast s s')

namespace SeesOnly

theorem pure (a : α) : SeesOnly keys (Pure.pure a : WriterM α) :=
  fun _ _ _ => Steady.pure a fun _ _ h => h

theorem fail (e : Error) : SeesOnly keys (Action.fail e : WriterM α) :=
  fun _ _ _ => Steady.fail e fun _ _ h => h

theorem exhausted : SeesOnly keys (throw .exhausted : WriterM α) :=
  fun _ _ _ _ _ h => .exhausted h

theorem bind (hx : SeesOnly keys x) (hf : ∀ a, SeesOnly keys (f a)) : SeesOnly keys (x >>= f) :=
  fun s s' h => (hx s s' h).bind fun a => hf a s s' h

theorem framed (hg : Writer.Framed g) : SeesOnly keys (modify g : WriterM Unit) :=
  fun _ _ _ => Steady.modify fun _ _ h => hg.recast h

theorem attempt {x : WriterM Unit} (hx : SeesOnly keys x) : SeesOnly keys (Action.attempt x) :=
  fun s s' h => (hx s s' h).attempt fun _ _ h => h

theorem within (before after : String) (hx : SeesOnly keys x) :
    SeesOnly keys (WriterM.within before after x) :=
  fun s s' h => (hx s s' h).between
    (fun _ _ h => (Writer.Framed.openBlock _).recast h)
    (fun _ _ h => (Writer.Framed.closeBlock _).recast h)
    fun _ _ h => (Writer.Framed.closeBlock _).recast h

theorem inScope {args : List (String × Arg Code)} (hargs : Code.allMentionOnly keys args)
    (hx : SeesOnly keys x) : SeesOnly keys (WriterM.inScope args x) := by
  intro s s' h
  cases hs : Scope.ofArgs args with
  | error e =>
    intro w v hwv
    rw [outcome_inScope, outcome_inScope, hs]
    exact .failed hwv
  | ok bound =>
    have hpush : Surroundings.Agree keys { s with scopes := bound :: s.scopes }
        { s' with scopes := bound :: s'.scopes } :=
      ⟨h.scopes.push hargs hs, h.blank⟩
    have hpop (w v : Writer) (hwv : Writer.Recast { s with scopes := bound :: s.scopes }
        { s' with scopes := bound :: s'.scopes } w v) :
        Writer.Recast s s' w.popScope v.popScope := by
      obtain ⟨u, rfl, rfl⟩ := hwv
      exact ⟨u, rfl, rfl⟩
    refine steady_inScope (hx _ _ hpush) ?_ hpop hpop fun _ _ hwv => hwv
    rintro bound' w v hs' ⟨u, rfl, rfl⟩
    obtain rfl : bound' = bound := Except.ok.inj (hs'.symm.trans hs)
    exact ⟨u, rfl, rfl⟩

theorem onFragment {ns : String → String} {x : WriterM Unit} {f : Writer → WriterM β}
    (hx : SeesOnly keys x) (hf : ∀ (c : Writer) (scopes : List Scope), f { c with scopes } = f c)
    (hfx : ∀ c, SeesOnly keys (f c)) : SeesOnly keys (WriterM.onFragment ns x >>= f) := by
  intro s s' h
  refine Coupled.bind (coupled_onFragment (Q := Writer.Recast s s')
    (hx { scopes := s.scopes } { scopes := s'.scopes } ⟨h.scopes, rfl⟩) ?_ ?_ ?_) ?_
  · rintro w v ⟨u, rfl, rfl⟩
    exact ⟨u.fragment (ns u.ns), u.fragment_under s _, u.fragment_under s' _⟩
  · rintro w v c d ⟨u, rfl, rfl⟩ ⟨u', rfl, rfl⟩
    exact ⟨{ u with issued := u'.issued }, rfl, rfl⟩
  · rintro w v c d ⟨u, rfl, rfl⟩ ⟨u', rfl, rfl⟩
    exact ⟨{ u with issued := u'.issued }, rfl, rfl⟩
  · rintro c d w v ⟨⟨u, rfl, rfl⟩, hwv⟩
    rw [Writer.under_scopes, Writer.under_scopes, hf u s.scopes, hf u s'.scopes]
    exact hfx u s s' h w v hwv

theorem read {f : Writer → WriterM β} (h : ∀ (w : Writer) (s s' : Surroundings),
      Surroundings.Agree keys s s' → f (w.under s') = f (w.under s))
    (hf : ∀ w, SeesOnly keys (f w)) : SeesOnly keys (get >>= f) := by
  intro s s' hagree
  refine Steady.read ?_ fun w _ _ => hf w s s' hagree
  rintro w v ⟨u, rfl, rfl⟩
  exact (h u s s' hagree).symm

end SeesOnly

end WriterM

namespace Code

open WriterM (SeesOnly)

variable {splice : Code → WriterM Unit}

section

variable (hsplice : ∀ c : Code, c.MentionsOnly keys → SeesOnly keys (splice c))
include hsplice

theorem renderFragment_seesOnly {c : Code} (hc : c.MentionsOnly keys) :
    SeesOnly keys (renderFragment splice c) :=
  .onFragment (hsplice c hc) (fun _ _ => rfl) fun child =>
    (SeesOnly.framed (g := (·.merge child)) fun _ _ => rfl).bind fun _ => .pure _

omit hsplice in
theorem record_seesOnly {α : Type} (ds : List (Dependency Code)) (a : α) :
    SeesOnly keys (do
      modify fun w : Writer => { w with dependencies := w.dependencies.insertAll ds }
      return a) :=
  (SeesOnly.framed (g := fun w => { w with dependencies := w.dependencies.insertAll ds })
    fun _ _ => rfl).bind fun _ => .pure a

theorem renderArg_seesOnly (key : String) (kind : Char) {arg : Arg Code}
    (harg : argMentionsOnly keys arg) : SeesOnly keys (renderArg splice key kind arg) := by
  refine renderArg_cases key kind (fun _ => .pure _) (fun _ => .fail _)
    (fun _ _ _ => record_seesOnly _ _) (fun _ _ _ => record_seesOnly _ _) ?_
  rintro c rfl
  exact renderFragment_seesOnly hsplice harg

theorem renderDirective_seesOnly {key : String} (hkey : keys key) (kind : Char) :
    SeesOnly keys (renderDirective splice key kind) := by
  intro s s' h
  have hscopes (u : Writer) (s : Surroundings) : (u.under s).scopes = s.scopes := rfl
  unfold renderDirective
  refine Steady.read ?_ ?_
  · rintro w v ⟨u, rfl, rfl⟩
    rw [hscopes, hscopes, h.scopes.lookup key hkey]
  · rintro w v ⟨u, rfl, -⟩
    rw [hscopes]
    cases harg : Scope.lookup s.scopes key with
    | none => exact Steady.fail _ fun _ _ h => h
    | some arg =>
      exact renderArg_seesOnly hsplice key kind (h.scopes.closed key arg hkey harg) _ _ h

theorem expand_seesOnly {pieces : List Template.Piece}
    (hkeys : ∀ key kind, .directive key kind ∈ pieces → keys key) (out : String) :
    SeesOnly keys (expand splice out pieces) := by
  induction pieces generalizing out with
  | nil => exact .pure out
  | cons piece pieces ih =>
    have ih := ih fun key kind hmem => hkeys key kind (List.mem_cons_of_mem piece hmem)
    cases piece with
    | char c => exact ih _
    | sharp => exact ih _
    | directive key kind =>
      exact (renderDirective_seesOnly hsplice (hkeys key kind List.mem_cons_self) _).bind
        fun _ => ih _

omit hsplice in
theorem missing?_agree {scopes scopes' : List Scope} (h : Scope.Agree keys scopes scopes')
    {pieces : List Template.Piece}
    (hkeys : ∀ key kind, .directive key kind ∈ pieces → keys (lowercase key)) :
    Template.missing? scopes' pieces = Template.missing? scopes pieces := by
  induction pieces with
  | nil => rfl
  | cons piece pieces ih =>
    have ih := ih fun key kind hmem => hkeys key kind (List.mem_cons_of_mem piece hmem)
    cases piece with
    | char c => exact ih
    | sharp => exact ih
    | directive key kind =>
      rw [Template.missing?_cons_directive, Template.missing?_cons_directive,
        h.lookup _ (hkeys key kind List.mem_cons_self), ih]

theorem renderTemplate_seesOnly {template : String} (ht : Template.MentionsOnly keys template) :
    SeesOnly keys (renderTemplate splice template) := by
  intro s s' h w v hwv
  have hmissing := missing?_agree h.scopes ht.directive
  have hscopes : w.scopes = s.scopes ∧ v.scopes = s'.scopes := by
    obtain ⟨u, rfl, rfl⟩ := hwv
    exact ⟨rfl, rfl⟩
  rw [Template.outcome_renderTemplate, Template.outcome_renderTemplate, hscopes.1, hscopes.2,
    hmissing]
  cases Template.missing? s.scopes _ with
  | some key => exact .failed hwv
  | none =>
    refine expand_seesOnly hsplice (fun key kind hmem => ?_) "" s s' h w v hwv
    obtain ⟨piece, hpiece, heq⟩ := List.mem_map.mp hmem
    cases piece with
    | char c => cases heq
    | sharp => cases heq
    | directive key kind =>
      cases heq
      exact ht.directive key kind hpiece

omit hsplice in
theorem markedLine_seesOnly (text : String) :
    SeesOnly keys (modify fun w => w.mark.emitLine text : WriterM Unit) :=
  .framed (.markedLine text)

omit hsplice in
theorem emit_seesOnly (text : String) : SeesOnly keys (modify (·.emit text) : WriterM Unit) :=
  .framed (.emit text)

/-- Code that mentions only these keys runs alike wherever they are bound alike. -/
theorem exec_seesOnly : ∀ c : Code, c.MentionsOnly keys → SeesOnly keys (exec splice c)
  | .nothing, _ => .pure ()
  | .seq first second, ⟨hfirst, hsecond⟩ =>
    (exec_seesOnly first hfirst).bind fun _ => exec_seesOnly second hsecond
  | .fail e, _ => .fail e
  | .attempt body, hbody => (exec_seesOnly body hbody).attempt
  | .line _, _ => markedLine_seesOnly _
  | .inlineText _, _ => emit_seesOnly _
  | .template _ _, ⟨htext, hargs⟩ =>
    ((renderTemplate_seesOnly hsplice htext).inScope hargs).bind markedLine_seesOnly
  | .inlineTemplate _ _, ⟨htext, hargs⟩ =>
    ((renderTemplate_seesOnly hsplice htext).inScope hargs).bind emit_seesOnly
  | .scope _ body, ⟨hargs, hbody⟩ => (exec_seesOnly body hbody).inScope hargs
  | .openBlock header, _ => .framed (.openBlock header)
  | .closeBlock footer, _ => .framed (.closeBlock footer)
  | .within before after body, hbody => (exec_seesOnly body hbody).within before after
  | .block _ body, hbody =>
    (SeesOnly.framed .mark).bind fun _ => (exec_seesOnly body hbody).within _ _
  | .blockTemplate _ _ body, ⟨hheader, hargs, hbody⟩ =>
    (SeesOnly.framed .mark).bind fun _ =>
      ((renderTemplate_seesOnly hsplice hheader).bind fun _ =>
        (exec_seesOnly body hbody).within _ _).inScope hargs
  | .withinTemplate _ _ _ body, ⟨⟨hbefore, hafter⟩, hargs, hbody⟩ =>
    ((renderTemplate_seesOnly hsplice hbefore).bind fun _ =>
      (renderTemplate_seesOnly hsplice hafter).bind fun _ =>
        (exec_seesOnly body hbody).within _ _).inScope hargs
  | .comment style text, _ => .framed (.comment style text)
  | .addUse path, _ => .framed (g := (·.addUse path)) fun _ _ => rfl
  | .declare m, _ => .framed (g := (·.declare m)) fun _ _ => rfl
  | .depend d, _ => .framed (g := (·.depend d)) fun _ _ => rfl
  | .mention s, _ => .framed (g := (·.mention s)) fun _ _ => rfl
  | .withName base body, hbody => .read (fun _ _ _ _ => rfl) fun w =>
    (SeesOnly.framed (g := (·.issue (w.freshName base))) fun _ _ => rfl).bind
      fun _ => exec_seesOnly (body _) (hbody _)
  | .look body, hbody =>
    .read (fun w _ _ h => congrArg (fun view => exec splice (body view)) (h.view w))
      fun _ => exec_seesOnly (body _) (hbody _)
  | .preamble body, hbody =>
    .onFragment (exec_seesOnly body hbody) (fun _ _ => rfl) fun _ =>
      .framed fun w s => by
        unfold Writer.under Writer.merge
        simp only [List.append_assoc]
  | .inlineModule m body, hbody =>
    .onFragment (exec_seesOnly body hbody)
      (fun inner scopes => congrArg modify (funext fun w => w.embed_rescoped m inner scopes))
      fun inner => .framed (.embed m inner)

end

theorem run_seesOnly (depth : Nat) {c : Code} (hc : c.MentionsOnly keys) :
    SeesOnly keys (run depth c) := by
  induction depth generalizing c with
  | zero => exact .exhausted
  | succ depth ih => exact exec_seesOnly (fun c hc => ih hc) c hc

end Code

end CrateGen
