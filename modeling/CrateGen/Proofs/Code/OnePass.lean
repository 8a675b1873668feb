import CrateGen.Proofs.Code.Rendering
import CrateGen.Proofs.Code.TemplateReading
import CrateGen.Proofs.Outcome
import CrateGen.Proofs.Text.Hanging
import Mathlib.Data.List.Nodup

namespace CrateGen

open CrateGen.Action

namespace Template

/-! ## Finding the arguments -/

/-- What is bound in each scope, the nearest scope first. -/
abbrev Bindings := List (List (String × Arg Code))

/-- The nearest scope that binds the key, in whichever case, binds it to the argument. -/
inductive Nearest (key : String) (arg : Arg Code) : Bindings → Prop
  | here {args : List (String × Arg Code)} {outer : Bindings} {name : String} :
      (name, arg) ∈ args → lowercase name = lowercase key → Nearest key arg (args :: outer)
  | further {args : List (String × Arg Code)} {outer : Bindings} :
      (∀ a ∈ args, lowercase a.1 ≠ lowercase key) → Nearest key arg outer →
      Nearest key arg (args :: outer)

/-- A piece of a template with the argument that its key stands for. -/
inductive Item where
  | char (c : Char)
  | sharp
  | insert (key : String) (kind : Char) (arg : Arg Code)

/-- What the pieces of a template mean where arguments are bound. A directive without a letter
stands for a type's path. -/
inductive Stands (stack : Bindings) : Piece → Item → Prop
  | char (c : Char) : Stands stack (.char c) (.char c)
  | sharp : Stands stack .sharp .sharp
  | directive {key : String} {arg : Arg Code} (kind : Option Char) : Nearest key arg stack →
      Stands stack (.directive key kind) (.insert (lowercase key) (kind.getD 'T') arg)

/-- No scope binds the key, and every piece before it means something. -/
def FirstUnbound (stack : Bindings) (pieces : List Piece) (key : String) : Prop :=
  ∃ before kind after, pieces = before ++ .directive key kind :: after ∧
    (∀ arg, ¬Nearest key arg stack) ∧ ∀ p ∈ before, ∃ item, Stands stack p item

end Template

namespace Scope

variable {args : List (String × Arg Code)} {bound s : Scope} {low : String} {arg : Arg Code}

theorem go_eq_ok_iff (hb : (bound.map (·.1)).Nodup) :
    ofArgs.go bound args = .ok s ↔
      (bound.map (·.1) ++ args.map fun a => lowercase a.1).Nodup ∧
        s = bound ++ args.map fun a => (lowercase a.1, a.1, a.2) := by
  constructor
  · intro h
    induction args generalizing bound with
    | nil =>
      cases h
      simpa using hb
    | cons a args ih =>
      obtain ⟨key, arg⟩ := a
      rw [ofArgs.go] at h
      split at h
      · cases h
      · next hfresh =>
        have hfresh : lowercase key ∉ bound.map (·.1) := by
          rw [Bool.not_eq_true, List.any_eq_false] at hfresh
          intro hmem
          obtain ⟨entry, hentry, heq⟩ := List.mem_map.mp hmem
          exact hfresh entry hentry (beq_iff_eq.mpr heq)
        have hb' : ((bound ++ [(lowercase key, key, arg)]).map (·.1)).Nodup := by
          rw [List.map_append, List.map_singleton, ← List.concat_eq_append, List.nodup_concat]
          exact ⟨hfresh, hb⟩
        simpa using ih hb' h
  · rintro ⟨h, rfl⟩
    exact go_eq_ok h

theorem ofArgs_eq_ok_iff : ofArgs args = .ok s ↔
    (args.map fun a => lowercase a.1).Nodup ∧
      s = args.map fun a => (lowercase a.1, a.1, a.2) :=
  go_eq_ok_iff List.nodup_nil

theorem get?_eq_some_iff (h : ofArgs args = .ok s) :
    s.get? low = some arg ↔ ∃ name, (name, arg) ∈ args ∧ lowercase name = low := by
  obtain ⟨hnodup, rfl⟩ := ofArgs_eq_ok_iff.mp h
  constructor
  · intro hget
    obtain ⟨entry, hfind, rfl⟩ := Option.map_eq_some_iff.mp hget
    obtain ⟨⟨name, arg⟩, hmem, rfl⟩ := List.mem_map.mp (List.mem_of_find?_eq_some hfind)
    have heq := List.find?_some hfind
    exact ⟨name, hmem, eq_of_beq heq⟩
  · rintro ⟨name, hmem, rfl⟩
    exact get?_ofArgs hnodup hmem

theorem get?_eq_none_iff (h : ofArgs args = .ok s) :
    s.get? low = none ↔ ∀ a ∈ args, lowercase a.1 ≠ low := by
  rw [Option.eq_none_iff_forall_ne_some]
  simp only [ne_eq, get?_eq_some_iff h, not_exists, not_and]
  exact ⟨fun hnone a ha => hnone a.2 a.1 ha, fun hnone arg name ha => hnone (name, arg) ha⟩

end Scope

namespace Template

variable {stack : Bindings} {scopes : List Scope} {pieces : List Piece} {items : List Item}

theorem lookup_eq_some_iff (h : stack.mapM Scope.ofArgs = .ok scopes) {key : String}
    {arg : Arg Code} :
    Scope.lookup scopes (lowercase key) = some arg ↔ Nearest key arg stack := by
  replace h := Outcome.mapM_eq_ok.mp h
  induction h with
  | nil => exact ⟨nofun, nofun⟩
  | @cons args s stack scopes hs _ ih =>
    have hlookup : Scope.lookup (s :: scopes) (lowercase key) =
        (s.get? (lowercase key)).or (Scope.lookup scopes (lowercase key)) := by
      rw [Scope.lookup, List.findSome?_cons]
      cases s.get? (lowercase key) <;> rfl
    rw [hlookup, Option.or_eq_some_iff, Scope.get?_eq_some_iff hs, Scope.get?_eq_none_iff hs]
    constructor
    · rintro (⟨name, hmem, heq⟩ | ⟨hnone, hfurther⟩)
      · exact .here hmem heq
      · exact .further hnone (ih.mp hfurther)
    · intro hnear
      cases hnear with
      | here hmem heq => exact .inl ⟨_, hmem, heq⟩
      | further hnone hfurther => exact .inr ⟨hnone, ih.mpr hfurther⟩

/-- The keys that are bound, as written. -/
theorem keys_eq (h : stack.mapM Scope.ofArgs = .ok scopes) :
    Scope.keys scopes = stack.flatMap fun args => args.map (·.1) := by
  replace h := Outcome.mapM_eq_ok.mp h
  induction h with
  | nil => rfl
  | cons hs _ ih =>
    obtain ⟨-, rfl⟩ := Scope.ofArgs_eq_ok_iff.mp hs
    unfold Scope.keys at ih ⊢
    rw [List.flatMap_cons, List.flatMap_cons, ih, List.map_map]
    rfl

theorem lookup_eq_none_iff (h : stack.mapM Scope.ofArgs = .ok scopes) {key : String} :
    (Scope.lookup scopes (lowercase key)).isNone = true ↔ ∀ arg, ¬Nearest key arg stack := by
  rw [Option.isNone_iff_eq_none, Option.eq_none_iff_forall_ne_some]
  simp only [ne_eq, lookup_eq_some_iff h]

theorem missing?_cons_directive (scopes : List Scope) (key : String) (kind : Option Char)
    (pieces : List Piece) :
    missing? scopes (.directive key kind :: pieces) =
      if (Scope.lookup scopes (lowercase key)).isNone then some key
      else missing? scopes pieces := by
  unfold missing?
  rw [List.findSome?_cons]
  dsimp only
  cases (Scope.lookup scopes (lowercase key)).isNone <;> rfl

/-- The pieces mean something one by one, or there is a first key that nothing is bound to. -/
theorem missing?_cases (h : stack.mapM Scope.ofArgs = .ok scopes) (pieces : List Piece) :
    (∃ key, missing? scopes pieces = some key ∧ FirstUnbound stack pieces key) ∨
      missing? scopes pieces = none ∧ ∃ items, List.Forall₂ (Stands stack) pieces items := by
  induction pieces with
  | nil => exact .inr ⟨rfl, [], .nil⟩
  | cons p pieces ih =>
    -- A piece that means something goes before the first key of the others.
    have hcons {item : Item} (hitem : Stands stack p item)
        (hmissing : missing? scopes (p :: pieces) = missing? scopes pieces) :
        (∃ key, missing? scopes (p :: pieces) = some key ∧
          FirstUnbound stack (p :: pieces) key) ∨
        missing? scopes (p :: pieces) = none ∧
          ∃ items, List.Forall₂ (Stands stack) (p :: pieces) items := by
      rw [hmissing]
      rcases ih with ⟨key, hkey, before, kind, after, rfl, hnone, hbefore⟩ | ⟨hnone, items, hall⟩
      · exact .inl ⟨key, hkey, p :: before, kind, after, rfl, hnone,
          List.forall_mem_cons.mpr ⟨⟨item, hitem⟩, hbefore⟩⟩
      · exact .inr ⟨hnone, item :: items, .cons hitem hall⟩
    cases p with
    | char c => exact hcons (.char c) rfl
    | sharp => exact hcons .sharp rfl
    | directive key kind =>
      rw [missing?_cons_directive] at hcons ⊢
      by_cases hnone : (Scope.lookup scopes (lowercase key)).isNone = true
      · rw [if_pos hnone]
        exact .inl ⟨key, rfl, [], kind, pieces, rfl, (lookup_eq_none_iff h).mp hnone, nofun⟩
      · rw [if_neg hnone] at hcons ⊢
        obtain ⟨arg, harg⟩ := Option.ne_none_iff_exists'.mp
          (fun hn => hnone (Option.isNone_iff_eq_none.mpr hn))
        exact hcons (.directive kind ((lookup_eq_some_iff h).mp harg)) rfl

/-! ## Filling it in -/

/-- The items of a template behind the text `out`, from left to right. An argument is rendered where
it stands, its later lines indented like the line that it stands on (`Text.lines_append_hang`), and
not looked at again. -/
def assemble (splice : Code → WriterM Unit) (out : String) : List Item → WriterM String
  | [] => return out
  | .char c :: rest => assemble splice (out.push c) rest
  | .sharp :: rest => assemble splice (out.push '#') rest
  | .insert key kind arg :: rest => do
    let text ← Code.renderArg splice key kind arg
    assemble splice (out ++ Text.hang (Text.lastIndent out) text) rest

variable (splice : Code → WriterM Unit)

theorem expand_settled {pieces : List Piece} {items : List Item} {w : Writer}
    (hstack : stack.mapM Scope.ofArgs = .ok w.scopes)
    (h : List.Forall₂ (Stands stack) pieces items) (out : String) :
    outcome (Code.expand splice out (pieces.map Piece.settled)) w =
      outcome (assemble splice out items) w := by
  induction h generalizing out w with
  | nil => rfl
  | cons hitem _ ih =>
    cases hitem with
    | char c => exact ih hstack _
    | sharp => exact ih hstack _
    | @directive key arg kind hnear =>
      have hdirective : outcome (Code.renderDirective splice (lowercase key) (kind.getD 'T')) w =
          outcome (Code.renderArg splice (lowercase key) (kind.getD 'T') arg) w := by
        unfold Code.renderDirective
        rw [outcome_bind_ok (outcome_get w), (lookup_eq_some_iff hstack).mpr hnear]
      have hscopes := (Code.renderArg_offPage splice (lowercase key) (kind.getD 'T') arg w).scopes
      rw [List.map_cons, Piece.settled, Code.expand, assemble, Option.getD_some, outcome_bind,
        outcome_bind, hdirective]
      cases hrun : outcome (Code.renderArg splice (lowercase key) (kind.getD 'T') arg) w with
      | mk r w' =>
        rw [hrun] at hscopes
        cases r with
        | error e => rfl
        | ok text => exact ih (by rw [hscopes]; exact hstack) _

/-- Rendering a template where arguments are bound is reading it once, as `pieces`, and filling
these in. -/
structure OnePass (stack : Bindings) (template : String) (w : Writer) (pieces : List Piece) :
    Prop where
  /-- The pieces are what the dedented template is read as, and nothing else. -/
  reads : ∀ ps, Form.authored.Reads (Text.dedent template).toList ps ↔ ps = pieces
  /-- The canonical text has the same pieces: no directive, escape or text comes or goes. -/
  reread : ∀ ps, Form.canonical.Reads (pieces.flatMap Piece.canonical) ps ↔
    ps = pieces.map Piece.settled
  /-- The first key that nothing is bound to fails the template before anything is rendered. -/
  unbound : ∀ key, FirstUnbound stack pieces key →
    outcome (Code.renderTemplate splice template) w =
      (.error (.failed (.unbound key (stack.flatMap fun args => args.map (·.1)))), w)
  bound : ∀ items, List.Forall₂ (Stands stack) pieces items →
    outcome (Code.renderTemplate splice template) w = outcome (assemble splice "" items) w
  either : (∃ key, FirstUnbound stack pieces key) ∨
    ∃ items, List.Forall₂ (Stands stack) pieces items
  /-- No key is missing in the second pass, ... -/
  found : (∃ items, List.Forall₂ (Stands stack) pieces items) → ∀ key kind,
    .directive key kind ∈ pieces.map Piece.settled → ∃ arg, Scope.lookup w.scopes key = some arg
  /-- ... in which no argument that is rendered changes what is bound. -/
  steady : ∀ (key : String) (kind : Char) (arg : Arg Code) (v : Writer),
    (outcome (Code.renderArg splice key kind arg) v).2.scopes = v.scopes

theorem not_forall₂_of_firstUnbound {pieces : List Piece} {items : List Item} {key : String}
    (h : FirstUnbound stack pieces key) : ¬List.Forall₂ (Stands stack) pieces items := by
  obtain ⟨before, kind, after, rfl, hnone, -⟩ := h
  intro hall
  obtain ⟨item, -, hitem⟩ := Outcome.exists_of_forall₂_left hall
    (List.mem_append_right before List.mem_cons_self)
  cases hitem with
  | directive _ hnear => exact hnone _ hnear

theorem FirstUnbound.unique {pieces : List Piece} {key key' : String}
    (h : FirstUnbound stack pieces key) (h' : FirstUnbound stack pieces key') : key = key' := by
  obtain ⟨before, kind, after, rfl, hnone, hbefore⟩ := h
  obtain ⟨before', kind', after', heq, hnone', hbefore'⟩ := h'
  have hpast {key : String} {kind : Option Char} {ps : List Piece}
      (hnone : ∀ arg, ¬Nearest key arg stack) (hps : ∀ p ∈ ps, ∃ item, Stands stack p item) :
      .directive key kind ∉ ps := by
    intro hmem
    obtain ⟨item, hitem⟩ := hps _ hmem
    cases hitem with
    | directive _ hnear => exact hnone _ hnear
  -- Of two such keys in one text, neither is before the other.
  rcases List.append_eq_append_iff.mp heq with ⟨ps, rfl, hps⟩ | ⟨ps, rfl, hps⟩
  · cases ps with
    | nil =>
      cases hps
      rfl
    | cons p ps =>
      cases hps
      exact absurd (List.mem_append_right before List.mem_cons_self) (hpast hnone hbefore')
  · cases ps with
    | nil =>
      cases hps
      rfl
    | cons p ps =>
      cases hps
      exact absurd (List.mem_append_right before' List.mem_cons_self) (hpast hnone' hbefore)

/-- A template fails with its first key that is not bound, before anything is rendered; else its
pieces are expanded. -/
theorem outcome_renderTemplate (template : String) (w : Writer) :
    outcome (Code.renderTemplate splice template) w =
      match missing? w.scopes (Form.authored.pieces 0 (Text.dedent template).toList) with
      | some key => (.error (.failed (.unbound key (Scope.keys w.scopes))), w)
      | none => outcome (Code.expand splice ""
          ((Form.authored.pieces 0 (Text.dedent template).toList).map Piece.settled)) w := by
  have hreads : Form.authored.Reads (Text.dedent template).toList
      (Form.authored.pieces 0 (Text.dedent template).toList) :=
    (Form.reads_iff Form.authored_delimited).mpr rfl
  unfold Code.renderTemplate
  rw [outcome_bind_ok (outcome_get w)]
  dsimp only
  rw [canonicalize]
  generalize Form.authored.pieces 0 (Text.dedent template).toList = pieces at hreads ⊢
  have hreread := (Form.reads_iff Form.canonical_delimited).mp hreads.settled
  cases missing? w.scopes pieces with
  | some key => rfl
  | none =>
    dsimp only
    rw [outcome_bind_ok (outcome_ofExcept_ok _ w), hreread]

/-- A template is rendered as if it were scanned once, whatever it is and whatever is bound. -/
theorem renderTemplate_onePass (template : String) {stack : Bindings} {w : Writer}
    (hstack : stack.mapM Scope.ofArgs = .ok w.scopes) :
    ∃ pieces, OnePass splice stack template w pieces := by
  have hreads : Form.authored.Reads (Text.dedent template).toList
      (Form.authored.pieces 0 (Text.dedent template).toList) :=
    (Form.reads_iff Form.authored_delimited).mpr rfl
  generalize hpieces : Form.authored.pieces 0 (Text.dedent template).toList = pieces at hreads
  have hreread := (Form.reads_iff Form.canonical_delimited).mp hreads.settled
  have hcases := missing?_cases hstack pieces
  have hsteady (key : String) (kind : Char) (arg : Arg Code) (v : Writer) :=
    (Code.renderArg_offPage splice key kind arg v).scopes
  have hrender := outcome_renderTemplate splice template w
  rw [hpieces, keys_eq hstack] at hrender
  refine ⟨pieces, ⟨?_, ?_, ?_, ?_, ?_, ?_, hsteady⟩⟩
  · intro ps
    rw [Form.reads_iff Form.authored_delimited, hpieces, eq_comm]
  · intro ps
    rw [Form.reads_iff Form.canonical_delimited, hreread, eq_comm]
  · intro key hkey
    rcases hcases with ⟨key', hmissing, hkey'⟩ | ⟨-, items, hall⟩
    · rw [hrender, hmissing, hkey.unique hkey']
    · exact absurd hall (not_forall₂_of_firstUnbound hkey)
  · intro items hall
    rcases hcases with ⟨key, -, hkey⟩ | ⟨hmissing, -⟩
    · exact absurd hall (not_forall₂_of_firstUnbound hkey)
    · rw [hrender, hmissing]
      exact expand_settled splice hstack hall ""
  · exact hcases.imp (fun ⟨key, _, hkey⟩ => ⟨key, hkey⟩) And.right
  · rintro ⟨items, hall⟩ key kind hmem
    obtain ⟨p, hp, heq⟩ := List.mem_map.mp hmem
    obtain ⟨item, -, hitem⟩ := Outcome.exists_of_forall₂_left hall hp
    cases hitem with
    | char c => cases heq
    | sharp => cases heq
    | directive _ hnear =>
      cases heq
      exact ⟨_, (lookup_eq_some_iff hstack).mpr hnear⟩

/-- A fragment under a key that a scope further out binds as well. -/
def sampleStack : Bindings :=
  [[("Body", .code (.seq (.line "let a = 1;") (.line "let b = 2;")))],
    [("name", .literal r"##{"), ("body", .literal "hidden")]]

def sampleScopes : List Scope :=
  sampleStack.map fun args => args.map fun a => (lowercase a.1, a.1, a.2)

def sampleWriter : Writer :=
  { Writer.root with scopes := sampleScopes }

/-- Runs of number signs, a directive that is none, and two that are. -/
def sampleTemplate : String :=
  "### #{NAME} ##{name}\n  #{body:W} #{bo-dy}"

example : (outcome (Code.renderTemplate (Code.run 1) sampleTemplate) sampleWriter).1.toOption =
    some r"## ##{ #{name}
  let a = 1;
  let b = 2; #{bo-dy}" := by
  decide +kernel

theorem renderTemplate_onePass_sample :
    sampleStack.mapM Scope.ofArgs = .ok sampleWriter.scopes ∧
      ∃ pieces, OnePass (Code.run 1) sampleStack sampleTemplate sampleWriter pieces :=
  have hstack : sampleStack.mapM Scope.ofArgs = .ok sampleWriter.scopes := rfl
  ⟨hstack, renderTemplate_onePass (Code.run 1) sampleTemplate hstack⟩

end Template

end CrateGen
