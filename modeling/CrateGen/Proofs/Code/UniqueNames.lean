import CrateGen.Proofs.Code.Rendering
import CrateGen.Proofs.Model.IdText

/-!
Names that are to be unique end in a number that counts the names given out so far. The count runs
on through everything that is written by way of one writer: it is handed down to fragments, code in
front of the file and inline modules, and comes back from them with what they added to it, also
where they fail halfway.
-/

namespace CrateGen

open CrateGen.Action

/-! ## Numbered names -/

/-- The number is what stands behind the last underscore, whatever underscores the bases have. -/
theorem Text.numbered_inj {base base' : String} {i j : Nat}
    (h : base ++ "_" ++ toString i = base' ++ "_" ++ toString j) : i = j := by
  have hsplit (base : String) (i : Nat) :
      splitFirst? '_' (base ++ "_" ++ toString i).toList.reverse =
        some ((Nat.toDigits 10 i).reverse, base.toList.reverse) := by
    refine splitFirst?_eq_some.mpr ⟨?_, ?_⟩
    · rw [List.mem_reverse]
      exact Nat.underscore_not_in_toDigits
    · simp only [String.toList_append, Nat.toString_eq_ofList_toDigits, String.toList_ofList,
        List.reverse_append]
      rfl
  have hpair := hsplit base i
  rw [h, hsplit base' j] at hpair
  have hdigits := List.reverse_inj.mp (Prod.mk.inj (Option.some.inj hpair)).1
  calc
    i = Nat.ofDigitChars 10 (Nat.toDigits 10 i) 0 := Nat.ofDigitChars_ten_toDigits.symm
    _ = Nat.ofDigitChars 10 (Nat.toDigits 10 j) 0 := by rw [hdigits]
    _ = j := Nat.ofDigitChars_ten_toDigits

/-- Names that end in the numbers behind `n`, one after the other. -/
inductive Numbered : Nat → List String → Prop where
  | nil {n : Nat} : Numbered n []
  | cons {n : Nat} (base : String) {names : List String} (h : Numbered (n + 1) names) :
    Numbered n ((base ++ "_" ++ toString (n + 1)) :: names)

namespace Numbered

variable {n : Nat} {names names' : List String}

theorem append (h : Numbered n names) (h' : Numbered (n + names.length) names') :
    Numbered n (names ++ names') := by
  induction h with
  | nil => exact h'
  | @cons n base names _ ih =>
    refine .cons base (ih ?_)
    rwa [List.length_cons, Nat.add_comm names.length 1, ← Nat.add_assoc] at h'

theorem exists_number (h : Numbered n names) {name : String} (hname : name ∈ names) :
    ∃ base k, n < k ∧ name = base ++ "_" ++ toString k := by
  induction h with
  | nil => cases hname
  | @cons n base names _ ih =>
    rcases List.mem_cons.mp hname with rfl | hname
    · exact ⟨base, n + 1, Nat.lt_succ_self n, rfl⟩
    · obtain ⟨base, k, hk, heq⟩ := ih hname
      exact ⟨base, k, Nat.lt_of_succ_lt hk, heq⟩

theorem nodup (h : Numbered n names) : names.Nodup := by
  induction h with
  | nil => exact List.nodup_nil
  | @cons n base names h ih =>
    refine List.nodup_cons.mpr ⟨fun hmem => ?_, ih⟩
    obtain ⟨base', k, hk, heq⟩ := h.exists_number hmem
    exact Nat.ne_of_lt hk (Text.numbered_inj heq)

end Numbered

/-! ## The names that code gets -/

/-- The names that an action on a writer gets, in order, as far as it goes. -/
abbrev Roll :=
  Writer → List String

namespace Roll

variable {α : Type}

def empty : Roll :=
  fun _ => []

def andThen (x : WriterM α) (first : Roll) (next : α → Roll) : Roll :=
  fun w =>
    first w ++
      match outcome x w with
      | (.ok a, w') => next a w'
      | (.error _, _) => []

def inScope (args : List (String × Arg Code)) (roll : Roll) : Roll :=
  fun w =>
    match Scope.ofArgs args with
    | .ok scope => roll (w.pushScope scope)
    | .error _ => []

def within (before : String) (roll : Roll) : Roll :=
  fun w => roll (w.openBlock (Text.trim before))

def onFragment (ns : String → String) (roll : Roll) : Roll :=
  fun w => roll (w.fragment (ns w.ns))

end Roll

namespace Code

section

variable (splice : Code → WriterM Unit) (spliced : Code → Roll)

def argRoll (kind : Char) (arg : Arg Code) : Roll :=
  match kind, arg with
  | 'T', .code c => .onFragment id (spliced c)
  | 'W', .code c => .onFragment id (spliced c)
  | _, _ => .empty

def directiveRoll (key : String) (kind : Char) : Roll :=
  fun w =>
    match Scope.lookup w.scopes key with
    | none => []
    | some arg => argRoll spliced kind arg w

def piecesRoll : List Template.Piece → Roll
  | [] => .empty
  | .char _ :: rest => piecesRoll rest
  | .sharp :: rest => piecesRoll rest
  | .directive key kind :: rest =>
    .andThen (renderDirective splice key (kind.getD 'T'))
      (directiveRoll spliced key (kind.getD 'T')) fun _ => piecesRoll rest

def templateRoll (template : String) : Roll :=
  fun w =>
    match Template.canonicalize w.scopes (Text.dedent template).toList with
    | .ok canonical => piecesRoll splice spliced (Template.Form.canonical.pieces 0 canonical) w
    | .error _ => []

/-- The names that code gets on its writer and on the writers of all that is nested in it. Those of
the fragments that templates refer to are given by `spliced`. -/
def roll : Code → Roll
  | .nothing | .fail _ | .line _ | .inlineText _ | .openBlock _ | .closeBlock _ | .comment _ _
  | .addUse _ | .declare _ | .depend _ | .mention _ => .empty
  | .seq first second => .andThen (exec splice first) (roll first) fun _ => roll second
  | .attempt body => roll body
  | .template text args => .inScope args (templateRoll splice spliced text)
  | .inlineTemplate text args => .inScope args (templateRoll splice spliced text)
  | .scope args body => .inScope args (roll body)
  | .within before _ body => .within before (roll body)
  | .block header body => fun w =>
    Roll.within (WriterM.blockHeader (Text.dedent header)) (roll body) w.mark
  | .blockTemplate header args body => fun w =>
    Roll.inScope args (.andThen (renderTemplate splice header)
      (templateRoll splice spliced header)
      fun header => .within (WriterM.blockHeader header) (roll body)) w.mark
  | .withinTemplate before after args body =>
    .inScope args (.andThen (renderTemplate splice before) (templateRoll splice spliced before)
      fun before => .andThen (renderTemplate splice after) (templateRoll splice spliced after)
        fun _ => .within before (roll body))
  | .withName base body => fun w =>
    w.freshName base :: roll (body (w.freshName base)) (w.issue (w.freshName base))
  | .look body => fun w => roll (body w.view) w
  | .preamble body => .onFragment id (roll body)
  | .inlineModule m body => .onFragment (· ++ "::" ++ m.name) (roll body)

end

def runRoll : Nat → Code → Roll
  | 0 => fun _ => .empty
  | depth + 1 => roll (run depth) (runRoll depth)

/-- The names that pieces of code get that are run on one writer one after the other, whether those
before them succeeded or not. -/
def rollAll (depth : Nat) : List Code → Roll
  | [] => .empty
  | c :: cs => fun w => runRoll depth c w ++ rollAll depth cs (outcome (run depth c) w).2

/-- The writer that the pieces of code leave behind. -/
def writerAfter (depth : Nat) (cs : List Code) (w : Writer) : Writer :=
  cs.foldl (fun w c => (outcome (run depth c) w).2) w

end Code

/-! ## What the writer counts -/

theorem Writer.OnPage.issued {g : Writer → Writer} (hg : OnPage g) (w : Writer) :
    (g w).issued = w.issued := by
  obtain ⟨f, hf⟩ := hg
  rw [hf]

theorem Writer.embed_issued (w : Writer) (m : Module) (inner : Writer) :
    (w.embed m inner).issued = w.issued := by
  rw [embed_eq]
  exact OnPage.issued (.withBlock m inner.blockContents) w

namespace WriterM

variable {α β : Type} {x : WriterM α} {f : α → WriterM β} {roll : Roll}

/-- However the action ends, the names that the writer has given out by then are those from before
and, behind them, those of the roll, which end in the next numbers. -/
structure GivesFrom (x : WriterM α) (names : List String) (w : Writer) : Prop where
  issued : (outcome x w).2.issued = names.reverse ++ w.issued
  numbered : Numbered w.issued.length names

def Gives (x : WriterM α) (roll : Roll) : Prop :=
  ∀ w, GivesFrom x (roll w) w

theorem GivesFrom.length {names : List String} {w : Writer} (h : GivesFrom x names w) :
    (outcome x w).2.issued.length = w.issued.length + names.length := by
  rw [h.issued, List.length_append, List.length_reverse, Nat.add_comm]

namespace Gives

theorem of_same (h : ∀ w, (outcome x w).2.issued = w.issued) : Gives x .empty :=
  fun w => ⟨h w, .nil⟩

theorem of_eq (h : ∀ w, (outcome x w).2 = w) : Gives x .empty :=
  of_same fun w => by rw [h]

theorem onPage {g : Writer → Writer} (hg : Writer.OnPage g) :
    Gives (modify g : WriterM Unit) .empty :=
  of_same fun w => hg.issued w

theorem bind {next : α → Roll} (hx : Gives x roll) (hf : ∀ a, Gives (f a) (next a)) :
    Gives (x >>= f) (.andThen x roll next) := by
  intro w
  have hxw := hx w
  have hcount := hxw.length
  obtain ⟨hissued, hnumbered⟩ := hxw
  unfold Roll.andThen
  cases h : outcome x w with
  | mk result w' =>
    rw [h] at hissued hcount
    cases result with
    | error e =>
      dsimp only
      rw [List.append_nil]
      refine ⟨?_, hnumbered⟩
      rw [outcome_bind, h]
      exact hissued
    | ok a =>
      obtain ⟨hissued', hnumbered'⟩ := hf a w'
      dsimp only at hcount
      rw [hcount] at hnumbered'
      refine ⟨?_, hnumbered.append hnumbered'⟩
      rw [outcome_bind_ok h, hissued', hissued, List.reverse_append, List.append_assoc]

theorem followedBy (hx : Gives x roll) (hf : ∀ a, Gives (f a) .empty) : Gives (x >>= f) roll := by
  intro w
  have hbind := hx.bind hf w
  have hroll : Roll.andThen x roll (fun _ => .empty) w = roll w := by
    unfold Roll.andThen
    cases outcome x w with
    | mk result w' => cases result <;> exact List.append_nil _
  rwa [hroll] at hbind

theorem attempt {x : WriterM Unit} (hx : Gives x roll) : Gives (Action.attempt x) roll := by
  intro w
  obtain ⟨hissued, hnumbered⟩ := hx w
  refine ⟨?_, hnumbered⟩
  rw [outcome_attempt]
  cases h : outcome x w with
  | mk result w' =>
    rw [h] at hissued
    cases result with
    | ok u => exact hissued
    | error e => cases e <;> exact hissued

theorem within (hx : Gives x roll) (before after : String) :
    Gives (within before after x) (.within before roll) := by
  intro w
  have hopen := Writer.OnPage.issued (.openBlock (Text.trim before)) w
  obtain ⟨hissued, hnumbered⟩ := hx (w.openBlock (Text.trim before))
  rw [hopen] at hissued hnumbered
  refine ⟨?_, hnumbered⟩
  unfold WriterM.within
  rw [outcome_between]
  exact (Writer.OnPage.issued (.closeBlock (Text.trim after)) _).trans hissued

theorem inScope (hx : Gives x roll) (args : List (String × Arg Code)) :
    Gives (inScope args x) (.inScope args roll) := by
  intro w
  unfold Roll.inScope
  have hrun := outcome_inScope args x w
  cases h : Scope.ofArgs args with
  | error e =>
    rw [h] at hrun
    exact ⟨congrArg (fun r => r.2.issued) hrun, .nil⟩
  | ok s =>
    rw [h] at hrun
    obtain ⟨hissued, hnumbered⟩ := hx (w.pushScope s)
    exact ⟨(congrArg (fun r => r.2.issued) hrun).trans hissued, hnumbered⟩

theorem marked (hx : Gives x roll) :
    Gives (do modify Writer.mark; x) fun w => roll w.mark := by
  intro w
  have hmark := Writer.OnPage.issued .mark w
  obtain ⟨hissued, hnumbered⟩ := hx w.mark
  rw [hmark] at hissued hnumbered
  refine ⟨?_, hnumbered⟩
  rw [outcome_bind_ok (outcome_modify _ w)]
  exact hissued

theorem onFragment {x : WriterM Unit} (hx : Gives x roll) (ns : String → String) :
    Gives (WriterM.onFragment ns x) (.onFragment ns roll) :=
  fun w => ⟨(hx (w.fragment (ns w.ns))).issued, (hx (w.fragment (ns w.ns))).numbered⟩

end Gives

end WriterM

namespace Code

open WriterM (Gives)

variable {splice : Code → WriterM Unit} {spliced : Code → Roll}

theorem recorded_gives {α : Type} (ds : List (Dependency Code)) (a : α) :
    Gives
      (do
        modify fun w : Writer => { w with dependencies := w.dependencies.insertAll ds }
        return a)
      .empty :=
  .of_same fun _ => rfl

section

variable (h : ∀ c, Gives (splice c) (spliced c))
include h

theorem renderFragment_gives (c : Code) :
    Gives (renderFragment splice c) (.onFragment id (spliced c)) :=
  ((h c).onFragment id).followedBy fun _ => .of_same fun _ => rfl

theorem renderArg_gives (key : String) (kind : Char) (arg : Arg Code) :
    Gives (renderArg splice key kind arg) (argRoll spliced kind arg) := by
  unfold renderArg argRoll
  dsimp only
  split
  · exact recorded_gives _ _
  · exact recorded_gives _ _
  · exact .of_eq fun _ => rfl
  · exact renderFragment_gives h _
  · exact renderFragment_gives h _
  · split <;> first | exact .of_eq fun _ => rfl | simp_all
  · exact recorded_gives _ _
  · exact recorded_gives _ _
  · split <;> first | exact .of_eq fun _ => rfl | simp_all
  · split <;> first | exact .of_eq fun _ => rfl | simp_all

theorem renderDirective_gives (key : String) (kind : Char) :
    Gives (renderDirective splice key kind) (directiveRoll spliced key kind) := by
  intro w
  unfold directiveRoll
  cases harg : Scope.lookup w.scopes key with
  | none =>
    refine ⟨?_, .nil⟩
    rw [renderDirective, outcome_bind_ok (outcome_get w), harg]
    rfl
  | some arg =>
    obtain ⟨hissued, hnumbered⟩ := renderArg_gives h key kind arg w
    refine ⟨?_, hnumbered⟩
    rw [renderDirective, outcome_bind_ok (outcome_get w), harg]
    exact hissued

theorem expand_gives (out : String) (pieces : List Template.Piece) :
    Gives (expand splice out pieces) (piecesRoll splice spliced pieces) := by
  induction pieces generalizing out with
  | nil => exact .of_eq fun _ => rfl
  | cons piece pieces ih =>
    cases piece with
    | char c => exact ih _
    | sharp => exact ih _
    | directive key kind => exact (renderDirective_gives h key _).bind fun _ => ih _

theorem renderTemplate_gives (template : String) :
    Gives (renderTemplate splice template) (templateRoll splice spliced template) := by
  intro w
  unfold templateRoll
  cases hc : Template.canonicalize w.scopes (Text.dedent template).toList with
  | error e =>
    refine ⟨?_, .nil⟩
    unfold renderTemplate
    rw [outcome_bind_ok (outcome_get w)]
    dsimp only
    rw [hc]
    rfl
  | ok canonical =>
    obtain ⟨hissued, hnumbered⟩ :=
      expand_gives h "" (Template.Form.canonical.pieces 0 canonical) w
    refine ⟨?_, hnumbered⟩
    unfold renderTemplate
    rw [outcome_bind_ok (outcome_get w)]
    dsimp only
    rw [hc]
    exact hissued

omit h in
theorem withName_gives (base : String) {body : String → Code}
    (hbody : ∀ name, Gives (exec splice (body name)) (roll splice spliced (body name))) :
    Gives (exec splice (.withName base body)) (roll splice spliced (.withName base body)) := by
  intro w
  obtain ⟨hissued, hnumbered⟩ := hbody (w.freshName base) (w.issue (w.freshName base))
  refine ⟨?_, .cons base hnumbered⟩
  rw [roll, List.reverse_cons, List.append_assoc]
  exact hissued

theorem exec_gives : ∀ c : Code, Gives (exec splice c) (roll splice spliced c)
  | .nothing | .fail _ => .of_eq fun _ => rfl
  | .seq first second => (exec_gives first).bind fun _ => exec_gives second
  | .attempt body => (exec_gives body).attempt
  | .line _ => .onPage (.markedLine _)
  | .inlineText _ => .onPage (.emit _)
  | .template text args =>
    ((renderTemplate_gives h text).inScope args).followedBy fun _ => .onPage (.markedLine _)
  | .inlineTemplate text args =>
    ((renderTemplate_gives h text).inScope args).followedBy fun _ => .onPage (.emit _)
  | .scope args body => (exec_gives body).inScope args
  | .openBlock header => .onPage (.openBlock header)
  | .closeBlock footer => .onPage (.closeBlock footer)
  | .within before after body => (exec_gives body).within before after
  | .block _ body => ((exec_gives body).within _ _).marked
  | .blockTemplate header args body =>
    (((renderTemplate_gives h header).bind fun _ =>
      (exec_gives body).within _ _).inScope args).marked
  | .withinTemplate before after args body =>
    ((renderTemplate_gives h before).bind fun _ =>
      (renderTemplate_gives h after).bind fun _ => (exec_gives body).within _ _).inScope args
  | .comment style text => .onPage (.comment style text)
  | .addUse _ | .declare _ | .depend _ | .mention _ => .of_same fun _ => rfl
  | .withName base body => withName_gives base fun name => exec_gives (body name)
  | .look body => fun w =>
    ⟨(exec_gives (body w.view) w).issued, (exec_gives (body w.view) w).numbered⟩
  | .preamble body => ((exec_gives body).onFragment id).followedBy fun _ => .of_same fun _ => rfl
  | .inlineModule m body => ((exec_gives body).onFragment _).followedBy fun inner =>
    .of_same fun w => w.embed_issued m inner

end

theorem run_gives (depth : Nat) (c : Code) : Gives (run depth c) (runRoll depth c) := by
  induction depth generalizing c with
  | zero => exact .of_eq fun _ => rfl
  | succ depth ih => exact exec_gives ih c

theorem rollAll_gives (depth : Nat) (cs : List Code) (w : Writer) :
    (writerAfter depth cs w).issued = (rollAll depth cs w).reverse ++ w.issued ∧
      Numbered w.issued.length (rollAll depth cs w) := by
  induction cs generalizing w with
  | nil => exact ⟨rfl, .nil⟩
  | cons c cs ih =>
    have hfirst := run_gives depth c w
    obtain ⟨hissued, hnumbered⟩ := ih (outcome (run depth c) w).2
    rw [hfirst.length] at hnumbered
    refine ⟨?_, hfirst.numbered.append hnumbered⟩
    rw [rollAll, List.reverse_append, List.append_assoc, ← hfirst.issued]
    exact hissued

/-- The names that pieces of code get by way of one writer, at whatever depth and wherever they
fail, are those that the writer has given out; they end in the next numbers and are all
different. -/
theorem names_distinct (depth : Nat) (cs : List Code) (w : Writer) :
    (writerAfter depth cs w).issued = (rollAll depth cs w).reverse ++ w.issued ∧
      Numbered w.issued.length (rollAll depth cs w) ∧ (rollAll depth cs w).Nodup := by
  obtain ⟨hissued, hnumbered⟩ := rollAll_gives depth cs w
  exact ⟨hissued, hnumbered, hnumbered.nodup⟩

-- a fragment that fails keeps its name, though the code that it stands in ends there
example :
    rollAll 2
      [.withName "var" fun _ => .template "#{w:W}"
        [("w", .code (.withName "var_1" fun _ => .fail (.custom "stop")))],
        .preamble (.withName "var" fun _ => .nothing)]
      Writer.root = ["var_1", "var_1_2", "var_3"] := by
  decide +kernel

end Code

end CrateGen
