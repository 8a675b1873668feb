import CrateGen.Code.Crate
import CrateGen.Proofs.Code.Action

namespace CrateGen

open CrateGen.Action

/-- A symbol depends on what it has of its own and on what the symbols it refers to depend on. -/
theorem Symbol.mem_allDependencies {s : Symbol Code} {d : Dependency Code} :
    d ∈ s.allDependencies ↔ d ∈ s.dependencies ∨ ∃ r ∈ s.references, d ∈ r.allDependencies := by
  have hdeps (rs : List (Symbol Code)) :
      d ∈ allDependencies.deps rs ↔ ∃ r ∈ rs, d ∈ r.allDependencies := by
    induction rs with
    | nil => exact iff_of_false List.not_mem_nil fun ⟨_, hr, _⟩ => List.not_mem_nil hr
    | cons r rs ih =>
      rw [allDependencies.deps, List.mem_append, ih]
      simp only [List.mem_cons, exists_eq_or_imp]
  cases s
  rw [allDependencies, List.mem_append, hdeps]

/-- The inline items that code may refer to, and the child modules that it may declare. -/
structure Permit where
  item : InlineItem Code → Prop := fun _ => True
  child : Module → Prop := fun _ => True

def Dependency.Permitted (p : Permit) : Dependency Code → Prop
  | .cargo _ => True
  | .inline i => p.item i

def Symbol.Permitted (p : Permit) (s : Symbol Code) : Prop :=
  ∀ d ∈ s.allDependencies, d.Permitted p

def RuntimeType.Permitted (p : Permit) (t : RuntimeType Code) : Prop :=
  ∀ d ∈ t.dependency, d.Permitted p

mutual

/-- No part of the code, and of the fragments that its templates refer to, goes beyond what is
permitted. -/
def Code.Permitted (p : Permit) : Code → Prop
  | .nothing | .fail _ | .line _ | .inlineText _ | .openBlock _ | .closeBlock _ | .comment _ _
  | .addUse _ => True
  | .seq first second => first.Permitted p ∧ second.Permitted p
  | .attempt body | .within _ _ body | .block _ body | .preamble body | .inlineModule _ body =>
    body.Permitted p
  | .template _ args | .inlineTemplate _ args => Code.allPermitted p args
  | .scope args body | .blockTemplate _ args body | .withinTemplate _ _ args body =>
    Code.allPermitted p args ∧ body.Permitted p
  | .declare m => p.child m
  | .depend d => d.Permitted p
  | .mention s => s.Permitted p
  | .withName _ body => ∀ name, (body name).Permitted p
  | .look body => ∀ view, (body view).Permitted p

def Code.allPermitted (p : Permit) : List (String × Arg Code) → Prop
  | [] => True
  | entry :: rest => Code.entryPermitted p entry ∧ Code.allPermitted p rest

def Code.entryPermitted (p : Permit) : String × Arg Code → Prop
  | (_, arg) => Code.argPermitted p arg

def Code.argPermitted (p : Permit) : Arg Code → Prop
  | .symbol s => s.Permitted p
  | .type t => t.Permitted p
  | .literal _ => True
  | .code c => c.Permitted p

end

theorem Dependency.permitted_any (d : Dependency Code) : d.Permitted {} := by
  cases d <;> trivial

mutual

theorem Code.permitted_any : ∀ c : Code, c.Permitted {}
  | .nothing | .fail _ | .line _ | .inlineText _ | .openBlock _ | .closeBlock _ | .comment _ _
  | .addUse _ | .declare _ => trivial
  | .seq first second => ⟨permitted_any first, permitted_any second⟩
  | .attempt body | .within _ _ body | .block _ body | .preamble body | .inlineModule _ body =>
    permitted_any body
  | .template _ args | .inlineTemplate _ args => allPermitted_any args
  | .scope args body | .blockTemplate _ args body | .withinTemplate _ _ args body =>
    ⟨allPermitted_any args, permitted_any body⟩
  | .depend d => d.permitted_any
  | .mention _ => fun d _ => d.permitted_any
  | .withName _ body => fun name => permitted_any (body name)
  | .look body => fun view => permitted_any (body view)

theorem Code.allPermitted_any : ∀ args : List (String × Arg Code), Code.allPermitted {} args
  | [] => trivial
  | entry :: rest => ⟨entryPermitted_any entry, allPermitted_any rest⟩

theorem Code.entryPermitted_any : ∀ entry : String × Arg Code, Code.entryPermitted {} entry
  | (_, arg) => argPermitted_any arg

theorem Code.argPermitted_any : ∀ arg : Arg Code, Code.argPermitted {} arg
  | .symbol _ | .type _ => fun d _ => d.permitted_any
  | .literal _ => trivial
  | .code c => permitted_any c

end

/-- One permit allows all that another one allows. -/
structure Permit.Within (p q : Permit) : Prop where
  item : ∀ {i}, p.item i → q.item i
  child : ∀ {m}, p.child m → q.child m

theorem Dependency.Permitted.mono {p q : Permit} (h : p.Within q) {d : Dependency Code}
    (hd : d.Permitted p) : d.Permitted q := by
  cases d with
  | cargo _ => trivial
  | inline i => exact h.item hd

mutual

theorem Code.permitted_mono {p q : Permit} (h : p.Within q) :
    ∀ c : Code, c.Permitted p → c.Permitted q
  | .nothing, _ | .fail _, _ | .line _, _ | .inlineText _, _ | .openBlock _, _
  | .closeBlock _, _ | .comment _ _, _ | .addUse _, _ => trivial
  | .declare _, hm => h.child hm
  | .seq first second, ⟨hfirst, hsecond⟩ =>
    ⟨permitted_mono h first hfirst, permitted_mono h second hsecond⟩
  | .attempt body, hbody | .within _ _ body, hbody | .block _ body, hbody
  | .preamble body, hbody | .inlineModule _ body, hbody => permitted_mono h body hbody
  | .template _ args, hargs | .inlineTemplate _ args, hargs => allPermitted_mono h args hargs
  | .scope args body, ⟨hargs, hbody⟩ | .blockTemplate _ args body, ⟨hargs, hbody⟩
  | .withinTemplate _ _ args body, ⟨hargs, hbody⟩ =>
    ⟨allPermitted_mono h args hargs, permitted_mono h body hbody⟩
  | .depend _, hd => hd.mono h
  | .mention _, hs => fun d hd => (hs d hd).mono h
  | .withName _ body, hbody => fun name => permitted_mono h (body name) (hbody name)
  | .look body, hbody => fun view => permitted_mono h (body view) (hbody view)

theorem Code.allPermitted_mono {p q : Permit} (h : p.Within q) :
    ∀ args : List (String × Arg Code), Code.allPermitted p args → Code.allPermitted q args
  | [], _ => trivial
  | entry :: rest, ⟨hentry, hrest⟩ =>
    ⟨entryPermitted_mono h entry hentry, allPermitted_mono h rest hrest⟩

theorem Code.entryPermitted_mono {p q : Permit} (h : p.Within q) :
    ∀ entry : String × Arg Code, Code.entryPermitted p entry → Code.entryPermitted q entry
  | (_, arg), harg => argPermitted_mono h arg harg

theorem Code.argPermitted_mono {p q : Permit} (h : p.Within q) :
    ∀ arg : Arg Code, Code.argPermitted p arg → Code.argPermitted q arg
  | .symbol _, hs | .type _, hs => fun d hd => (hs d hd).mono h
  | .literal _, _ => trivial
  | .code c, hc => permitted_mono h c hc

end

theorem Code.permitted_join {p : Permit} {cs : List Code} (h : ∀ c ∈ cs, c.Permitted p) :
    (Code.join cs).Permitted p := by
  induction cs with
  | nil => trivial
  | cons c cs ih =>
    have hc := h c List.mem_cons_self
    have hcs := ih fun c' hc' => h c' (List.mem_cons_of_mem c hc')
    cases cs with
    | nil => exact hc
    | cons c' cs => exact ⟨hc, hcs⟩

namespace Scope

variable {P : Arg Code → Prop}

theorem forall_of_go {args : List (String × Arg Code)} {bound s : Scope}
    (hargs : ∀ entry ∈ args, P entry.2) (hb : ∀ entry ∈ bound, P entry.2.2)
    (h : ofArgs.go bound args = .ok s) : ∀ entry ∈ s, P entry.2.2 := by
  induction args generalizing bound with
  | nil =>
    cases h
    exact hb
  | cons entry args ih =>
    obtain ⟨key, arg⟩ := entry
    rw [ofArgs.go] at h
    split at h
    · cases h
    · refine ih (fun entry hentry => hargs entry (List.mem_cons_of_mem _ hentry)) ?_ h
      intro entry hentry
      rcases List.mem_append.mp hentry with hold | hnew
      · exact hb entry hold
      · rw [List.mem_singleton.mp hnew]
        exact hargs (key, arg) List.mem_cons_self

theorem forall_of_ofArgs {args : List (String × Arg Code)} {s : Scope}
    (hargs : ∀ entry ∈ args, P entry.2) (h : ofArgs args = .ok s) : ∀ entry ∈ s, P entry.2.2 :=
  forall_of_go hargs (fun _ hentry => (List.not_mem_nil hentry).elim) h

theorem of_lookup {scopes : List Scope} {key : String} {arg : Arg Code}
    (hs : ∀ s ∈ scopes, ∀ entry ∈ s, P entry.2.2) (h : lookup scopes key = some arg) : P arg := by
  obtain ⟨s, hmem, hget⟩ := List.exists_of_findSome?_eq_some h
  obtain ⟨entry, hfind, rfl⟩ := Option.map_eq_some_iff.mp hget
  exact hs s hmem entry (List.mem_of_find?_eq_some hfind)

/-- The arguments bound by a scope are permitted. -/
def Permitted (p : Permit) (s : Scope) : Prop :=
  ∀ entry ∈ s, Code.argPermitted p entry.2.2

end Scope

theorem Code.argPermitted_of_mem {p : Permit} {args : List (String × Arg Code)}
    (h : Code.allPermitted p args) : ∀ entry ∈ args, Code.argPermitted p entry.2 := by
  induction args with
  | nil => nofun
  | cons entry args ih =>
    obtain ⟨key, arg⟩ := entry
    obtain ⟨harg, hrest⟩ := h
    exact List.forall_mem_cons.mpr ⟨harg, ih hrest⟩

theorem Scope.permitted_of_ofArgs {p : Permit} {args : List (String × Arg Code)} {s : Scope}
    (hargs : Code.allPermitted p args) (h : Scope.ofArgs args = .ok s) : s.Permitted p :=
  forall_of_ofArgs (Code.argPermitted_of_mem hargs) h

namespace Writer

/-- A writer at the place of a module's block, behind the module's documentation. -/
def headed (w : Writer) (m : Module) : Writer :=
  match m.info.documentation with
  | some docs => w.ensureNewline.comment .docs docs
  | none => w.ensureNewline

def withBlock (w : Writer) (m : Module) (contents : String) : Writer :=
  let w := (w.headed m).openBlock (m.info.visibility.marker ++ "mod " ++ m.name ++ r" {")
  let w := if contents == "" then w else w.emit contents
  w.closeBlock r"}"

def blockContents (inner : Writer) : String :=
  Text.joinSections [inner.preambleText, inner.contents]

theorem embed_eq (w : Writer) (m : Module) (inner : Writer) :
    w.embed m inner =
      { w.withBlock m inner.blockContents with
        dependencies :=
          (w.withBlock m inner.blockContents).dependencies.merge inner.dependencies } := by
  unfold embed withBlock headed
  rfl

end Writer

/-- A relation between a writer before and after code ran that every single change of permitted
code keeps to, apart from the changes of scopes. -/
structure Writer.Changes (p : Permit) (R : Writer → Writer → Prop) : Prop where
  refl : ∀ w, R w w
  trans : ∀ {w w' w''}, R w w' → R w' w'' → R w w''
  emit : ∀ w text, R w (w.emit text)
  newline : ∀ w, R w w.newline
  level : ∀ w level, R w { w with level }
  issued : ∀ w issued, R w { w with issued }
  preamble : ∀ w text, R w { w with preamble := w.preamble ++ [text] }
  addUse : ∀ w path, R w (w.addUse path)
  declare : ∀ w m, p.child m → R w (w.declare m)
  depend : ∀ w d, d.Permitted p → R w (w.depend d)
  /-- A writer takes over what a fragment recorded. -/
  merge : ∀ w {v child ns}, R (Writer.fragment v ns) child → R w (w.merge child)
  mergeDependencies : ∀ w {v child ns}, R (Writer.fragment v ns) child →
    R w { w with dependencies := w.dependencies.merge child.dependencies }

namespace Writer.Changes

variable {p : Permit} {R : Writer → Writer → Prop} (hR : Changes p R) (w : Writer)
include hR

theorem emitLine (text : String) : R w (w.emitLine text) :=
  hR.trans (hR.emit w text) (hR.newline _)

theorem ensureNewline : R w w.ensureNewline := by
  have hpage : w.ensureNewline = w ∨ w.ensureNewline = w.newline := by
    unfold Writer.ensureNewline Page.ensureNewline
    split
    · exact .inl rfl
    · exact .inr rfl
  rcases hpage with h | h <;> rw [h]
  · exact hR.refl w
  · exact hR.newline w

theorem mark : R w w.mark := by
  unfold Writer.mark
  split
  · exact hR.emitLine w debugMarker
  · exact hR.refl w

theorem markedLine (text : String) : R w (w.mark.emitLine text) :=
  hR.trans (hR.mark w) (hR.emitLine _ text)

theorem openBlock (header : String) : R w (w.openBlock header) := by
  have hopen (v : Writer) (hv : R w v) : R w { v with level := v.level + 1 } :=
    hR.trans hv (hR.level v _)
  unfold Writer.openBlock
  refine hopen _ ?_
  split
  · exact hR.refl w
  · exact hR.emitLine w header

theorem closeBlock (footer : String) : R w (w.closeBlock footer) := by
  have hclose := hR.trans (hR.ensureNewline w)
    (hR.level w.ensureNewline (w.ensureNewline.level - 1))
  unfold Writer.closeBlock
  dsimp only
  split
  · exact hclose
  · exact hR.trans hclose (hR.emitLine _ footer)

theorem comment (style : CommentStyle) (text : String) : R w (w.comment style text) := by
  have hlines (ls : List String) (w : Writer) :
      R w (ls.foldl (Writer.comment.commentLine style) w) := by
    induction ls generalizing w with
    | nil => exact hR.refl w
    | cons l ls ih =>
      have hline : R w (Writer.comment.commentLine style w l) := by
        unfold Writer.comment.commentLine
        exact hR.emitLine w _
      rw [List.foldl_cons]
      exact hR.trans hline (ih _)
  rw [Writer.comment]
  exact hR.trans (hR.ensureNewline w) (hlines (Text.lines (Text.dedent text)) w.ensureNewline)

theorem insertAll {ds : List (Dependency Code)} (hds : ∀ d ∈ ds, d.Permitted p) :
    R w { w with dependencies := w.dependencies.insertAll ds } := by
  induction ds generalizing w with
  | nil => exact hR.refl w
  | cons d ds ih =>
    exact hR.trans (hR.depend w d (hds d List.mem_cons_self))
      (ih (w.depend d) fun d' hd' => hds d' (List.mem_cons_of_mem d hd'))

theorem mention {s : Symbol Code} (hs : s.Permitted p) : R w (w.mention s) :=
  hR.insertAll w hs

theorem mentionType {t : RuntimeType Code} (ht : t.Permitted p) : R w (w.mentionType t) :=
  hR.insertAll w fun d hd => ht d (Option.mem_toList.mp hd)

theorem headed (m : Module) : R w (w.headed m) := by
  unfold Writer.headed
  split
  · exact hR.trans (hR.ensureNewline w) (hR.comment _ _ _)
  · exact hR.ensureNewline w

theorem withBlock (m : Module) (contents : String) : R w (w.withBlock m contents) := by
  have hopen := hR.trans (hR.headed w m)
    (hR.openBlock (w.headed m) (m.info.visibility.marker ++ "mod " ++ m.name ++ r" {"))
  unfold Writer.withBlock
  refine hR.trans ?_ (hR.closeBlock _ _)
  split
  · exact hopen
  · exact hR.trans hopen (hR.emit _ contents)

theorem embed (m : Module) {v inner : Writer} {ns : String} (h : R (Writer.fragment v ns) inner) :
    R w (w.embed m inner) := by
  rw [Writer.embed_eq]
  exact hR.trans (hR.withBlock w m _) (hR.mergeDependencies _ h)

end Writer.Changes

/-- A relation that code as a whole keeps to. -/
structure Writer.Progress (p : Permit) (R : Writer → Writer → Prop) : Prop
    extends Changes p R where
  scopes : ∀ w scopes, R w { w with scopes }

theorem Writer.scopes_changes (p : Permit) : Changes p fun w w' => w'.scopes = w.scopes where
  refl _ := rfl
  trans h h' := h'.trans h
  emit _ _ := rfl
  newline _ := rfl
  level _ _ := rfl
  issued _ _ := rfl
  preamble _ _ := rfl
  addUse _ _ := rfl
  declare _ _ _ := rfl
  depend _ _ _ := rfl
  merge _ _ _ _ _ := rfl
  mergeDependencies _ _ _ _ _ := rfl

namespace WriterM

variable {α β : Type} {p : Permit} {R : Writer → Writer → Prop}

/-- However the action ends, it keeps to the relation wherever permitted arguments are bound, and
leaves the scopes as they are. -/
def Follows (p : Permit) (R : Writer → Writer → Prop) (x : WriterM α) : Prop :=
  ∀ w : Writer, (∀ s ∈ w.scopes, s.Permitted p) →
    R w (outcome x w).2 ∧ (outcome x w).2.scopes = w.scopes

namespace Follows

variable {x : WriterM α} {f : α → WriterM β}

theorem attempt {x : WriterM Unit} (hx : Follows p R x) : Follows p R (Action.attempt x) := by
  intro w hw
  have hxw := hx w hw
  rw [outcome_attempt]
  cases h : outcome x w with
  | mk r w' =>
    rw [h] at hxw
    cases r with
    | ok u => exact hxw
    | error e => cases e <;> exact hxw

theorem of_modify {g : Writer → Writer} (h : ∀ w, R w (g w)) (hs : ∀ w, (g w).scopes = w.scopes) :
    Follows p R (modify g : WriterM Unit) :=
  fun w _ => ⟨h w, hs w⟩

variable (hR : Writer.Progress p R)
include hR

theorem change {g : Writer → Writer} (h : ∀ {R}, Writer.Changes p R → ∀ w, R w (g w)) :
    Follows p R (modify g : WriterM Unit) :=
  of_modify (h hR.toChanges) (h (Writer.scopes_changes p))

theorem of_eq (h : ∀ w, (outcome x w).2 = w) : Follows p R x := by
  intro w _
  rw [h w]
  exact ⟨hR.refl w, rfl⟩

theorem bind (hx : Follows p R x) (hf : ∀ a, Follows p R (f a)) : Follows p R (x >>= f) := by
  intro w hw
  have hxw := hx w hw
  rw [outcome_bind]
  cases h : outcome x w with
  | mk r w' =>
    rw [h] at hxw
    cases r with
    | error e => exact hxw
    | ok a =>
      obtain ⟨hstep, hscopes⟩ := hxw
      obtain ⟨hrest, hscopes'⟩ := hf a w' (by rw [hscopes]; exact hw)
      exact ⟨hR.trans hstep hrest, hscopes'.trans hscopes⟩

theorem within (before after : String) (hx : Follows p R x) :
    Follows p R (within before after x) := by
  intro w hw
  have hopen := hR.openBlock w (Text.trim before)
  have hscopes := (Writer.scopes_changes p).openBlock w (Text.trim before)
  obtain ⟨hstep, hscopes'⟩ := hx (w.openBlock (Text.trim before)) (by rw [hscopes]; exact hw)
  unfold WriterM.within
  rw [outcome_between]
  exact ⟨hR.trans hopen (hR.trans hstep (hR.closeBlock _ _)),
    ((Writer.scopes_changes p).closeBlock _ _).trans (hscopes'.trans hscopes)⟩

theorem inScope {args : List (String × Arg Code)} (hargs : Code.allPermitted p args)
    (hx : Follows p R x) : Follows p R (inScope args x) := by
  intro w hw
  unfold WriterM.inScope
  cases hs : Scope.ofArgs args with
  | error e => exact ⟨hR.refl w, rfl⟩
  | ok s =>
    obtain ⟨hstep, hscopes⟩ := hx (w.pushScope s) (by
      intro s' hs'
      rcases List.mem_cons.mp hs' with rfl | hs'
      · exact Scope.permitted_of_ofArgs hargs hs
      · exact hw s' hs')
    rw [outcome_bind_ok (outcome_ofExcept_ok s w), outcome_between]
    refine ⟨hR.trans (hR.scopes w _) (hR.trans hstep (hR.scopes _ _)), ?_⟩
    change (outcome x (w.pushScope s)).2.scopes.tail = w.scopes
    rw [hscopes]
    rfl

theorem onFragment {ns : String → String} {x : WriterM Unit} {f : Writer → WriterM β}
    (hx : Follows p R x)
    (hf : ∀ {v child ns}, R (Writer.fragment v ns) child → Follows p R (f child)) :
    Follows p R (onFragment ns x >>= f) := by
  intro w hw
  obtain ⟨hstep, hscopes⟩ := hx (w.fragment (ns w.ns)) hw
  rw [outcome_bind, outcome_onFragment]
  cases h : (outcome x (w.fragment (ns w.ns))).1 with
  | error e => exact ⟨hR.issued w _, rfl⟩
  | ok u =>
    obtain ⟨hrest, hscopes'⟩ := hf hstep
      { w with issued := (outcome x (w.fragment (ns w.ns))).2.issued } hw
    exact ⟨hR.trans (hR.issued w _) hrest, hscopes'⟩

end Follows

end WriterM

namespace Code

open WriterM (Follows)

variable {p : Permit} {R : Writer → Writer → Prop} {splice : Code → WriterM Unit}

section

variable (hR : Writer.Progress p R) (hsplice : ∀ c : Code, c.Permitted p → Follows p R (splice c))
include hR hsplice

theorem renderFragment_follows {c : Code} (hc : c.Permitted p) :
    Follows p R (renderFragment splice c) := by
  refine Follows.onFragment hR (hsplice c hc) fun {v child ns} hchild => ?_
  exact (Follows.of_modify (fun w => hR.merge w hchild) fun _ => rfl).bind hR
    fun _ => .of_eq hR fun _ => rfl

omit hsplice in
theorem mention_follows {α : Type} {s : Symbol Code} (hs : s.Permitted p) (a : α) :
    Follows p R (do modify (·.mention s); return a) :=
  (Follows.change hR fun hR w => hR.mention w hs).bind hR fun _ => .of_eq hR fun _ => rfl

omit hsplice in
theorem mentionType_follows {α : Type} {t : RuntimeType Code} (ht : t.Permitted p) (a : α) :
    Follows p R (do modify (·.mentionType t); return a) :=
  (Follows.change hR fun hR w => hR.mentionType w ht).bind hR fun _ => .of_eq hR fun _ => rfl

theorem renderArg_follows (key : String) (kind : Char) {arg : Arg Code}
    (harg : argPermitted p arg) : Follows p R (renderArg splice key kind arg) := by
  refine renderArg_cases key kind (fun _ => .of_eq hR fun _ => rfl)
    (fun _ => .of_eq hR fun _ => rfl) ?_ ?_ ?_
  · rintro s text rfl
    exact mention_follows hR harg text
  · rintro t text rfl
    exact mentionType_follows hR harg text
  · rintro c rfl
    exact renderFragment_follows hR hsplice harg

theorem renderDirective_follows (key : String) (kind : Char) :
    Follows p R (renderDirective splice key kind) := by
  intro w hw
  unfold renderDirective
  rw [outcome_bind_ok (outcome_get w)]
  cases harg : Scope.lookup w.scopes key with
  | none => exact ⟨hR.refl w, rfl⟩
  | some arg =>
    exact renderArg_follows hR hsplice key kind (Scope.of_lookup (P := argPermitted p) hw harg) w hw

theorem expand_follows (out : String) (pieces : List Template.Piece) :
    Follows p R (expand splice out pieces) := by
  induction pieces generalizing out with
  | nil => exact .of_eq hR fun _ => rfl
  | cons piece pieces ih =>
    cases piece with
    | char c => exact ih _
    | sharp => exact ih _
    | directive key kind =>
      exact (renderDirective_follows hR hsplice key _).bind hR fun _ => ih _

theorem renderTemplate_follows (template : String) :
    Follows p R (renderTemplate splice template) := by
  refine Follows.bind hR (.of_eq hR fun _ => rfl) fun w => ?_
  refine Follows.bind hR (.of_eq hR fun _ => ?_) fun _ => expand_follows hR hsplice "" _
  cases Template.canonicalize _ _ <;> rfl

/-- Whatever every single change keeps to, permitted code keeps to, even where it fails. -/
theorem exec_follows : ∀ c : Code, c.Permitted p → Follows p R (exec splice c)
  | .nothing, _ => .of_eq hR fun _ => rfl
  | .seq first second, ⟨hfirst, hsecond⟩ =>
    (exec_follows first hfirst).bind hR fun _ => exec_follows second hsecond
  | .fail _, _ => .of_eq hR fun _ => rfl
  | .attempt body, hbody => (exec_follows body hbody).attempt
  | .line _, _ => .change hR fun hR w => hR.markedLine w _
  | .inlineText _, _ => .change hR fun hR w => hR.emit w _
  | .template text _, hargs =>
    ((renderTemplate_follows hR hsplice text).inScope hR hargs).bind hR
      fun _ => .change hR fun hR w => hR.markedLine w _
  | .inlineTemplate text _, hargs =>
    ((renderTemplate_follows hR hsplice text).inScope hR hargs).bind hR
      fun _ => .change hR fun hR w => hR.emit w _
  | .scope _ body, ⟨hargs, hbody⟩ => (exec_follows body hbody).inScope hR hargs
  | .openBlock header, _ => .change hR fun hR w => hR.openBlock w header
  | .closeBlock footer, _ => .change hR fun hR w => hR.closeBlock w footer
  | .within before after body, hbody => (exec_follows body hbody).within hR before after
  | .block _ body, hbody =>
    (Follows.change hR fun hR w => hR.mark w).bind hR
      fun _ => (exec_follows body hbody).within hR _ _
  | .blockTemplate header _ body, ⟨hargs, hbody⟩ =>
    (Follows.change hR fun hR w => hR.mark w).bind hR fun _ =>
      ((renderTemplate_follows hR hsplice header).bind hR
        fun _ => (exec_follows body hbody).within hR _ _).inScope hR hargs
  | .withinTemplate before after _ body, ⟨hargs, hbody⟩ =>
    ((renderTemplate_follows hR hsplice before).bind hR fun _ =>
      (renderTemplate_follows hR hsplice after).bind hR
        fun _ => (exec_follows body hbody).within hR _ _).inScope hR hargs
  | .comment style text, _ => .change hR fun hR w => hR.comment w style text
  | .addUse path, _ => .change hR fun hR w => hR.addUse w path
  | .declare m, hm => .change hR fun hR w => hR.declare w m hm
  | .depend d, hd => .change hR fun hR w => hR.depend w d hd
  | .mention _, hs => .change hR fun hR w => hR.mention w hs
  | .withName _ body, hbody =>
    Follows.bind hR (.of_eq hR fun _ => rfl) fun _ =>
      (Follows.change hR fun hR w => hR.issued w _).bind hR
        fun _ => exec_follows (body _) (hbody _)
  | .look body, hbody =>
    Follows.bind hR (.of_eq hR fun _ => rfl) fun _ => exec_follows (body _) (hbody _)
  | .preamble body, hbody =>
    Follows.onFragment hR (exec_follows body hbody) fun {_ child _} hchild =>
      .of_modify (fun w => hR.trans (hR.merge w hchild) (hR.preamble (w.merge child) _))
        fun _ => rfl
  | .inlineModule m body, hbody =>
    Follows.onFragment hR (exec_follows body hbody) fun {_ inner ns} hinner =>
      .of_modify (fun w => hR.embed w m hinner) fun w =>
        (Writer.scopes_changes p).embed w m
          (show inner.scopes = (Writer.fragment inner ns).scopes from rfl)

end

theorem run_follows (hR : Writer.Progress p R) (depth : Nat) {c : Code} (hc : c.Permitted p) :
    Follows p R (run depth c) := by
  induction depth generalizing c with
  | zero => exact .of_eq hR fun _ => rfl
  | succ depth ih => exact exec_follows hR (fun c hc => ih hc) c hc

/-- Without restrictions, code keeps to the relation on every writer. -/
theorem run_progress (hR : Writer.Progress {} R) (depth : Nat) (c : Code) (w : Writer) :
    R w (outcome (run depth c) w).2 :=
  (run_follows hR depth c.permitted_any w fun _ _ _ _ => argPermitted_any _).1

end Code

end CrateGen
