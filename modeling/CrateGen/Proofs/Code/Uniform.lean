import CrateGen.Proofs.Code.Mentions
import CrateGen.Proofs.Code.Provenance
import CrateGen.Proofs.Code.Restore
import CrateGen.Proofs.Code.Slots

/-!
Families of runs that differ in what stands around their writers. The runs of a family end in one
way, and leave writers that are the same but for what stands around.
-/

namespace CrateGen

open CrateGen.Action
open CrateGen.Text (Slot Solid)

def Halt.isExhausted : Halt → Bool
  | .failed _ => false
  | .exhausted => true

namespace Action

variable {ι σ α β : Type} {x : ι → Action σ α} {S S' S'' : ι → σ} {r : Except Bool α}

/-- How a run ends: with its result, failed, or for want of depth. -/
def ending (r : Except Halt α) : Except Bool α :=
  r.mapError Halt.isExhausted

theorem ending_eq_ok {r : Except Halt α} {a : α} : ending r = .ok a ↔ r = .ok a := by
  cases r with
  | ok b => exact ⟨fun h => congrArg Except.ok (Except.ok.inj h), fun h => by rw [h]; rfl⟩
  | error e => exact iff_of_false nofun nofun

/-- The actions end alike on states of theirs. -/
def Uniform (x : ι → Action σ α) (S : ι → σ) (r : Except Bool α) (S' : ι → σ) : Prop :=
  ∀ i, ending (outcome (x i) (S i)).1 = r ∧ (outcome (x i) (S i)).2 = S' i

namespace Uniform

theorem outcome_ok {a : α} (h : Uniform x S (.ok a) S') (i : ι) :
    outcome (x i) (S i) = (.ok a, S' i) :=
  Prod.ext (ending_eq_ok.mp (h i).1) (h i).2

theorem of_ok {a : α} (h : ∀ i, outcome (x i) (S i) = (.ok a, S' i)) :
    Uniform x S (.ok a) S' := by
  intro i
  rw [h]
  exact ⟨rfl, rfl⟩

theorem bind {f : ι → α → Action σ β} {a : ι → α} {r : Except Bool β}
    (h : ∀ i, outcome (x i) (S i) = (.ok (a i), S' i))
    (hf : Uniform (fun i => f i (a i)) S' r S'') : Uniform (fun i => x i >>= f i) S r S'' := by
  intro i
  rw [outcome_bind_ok (h i)]
  exact hf i

theorem bind_error {f : ι → α → Action σ β} {e : Bool} (h : Uniform x S (.error e) S') :
    Uniform (fun i => x i >>= f i) S (.error e) S' := by
  intro i
  obtain ⟨hr, hs⟩ := h i
  rw [outcome_bind]
  generalize outcome (x i) (S i) = p at hr hs ⊢
  obtain ⟨e' | a, t⟩ := p
  · obtain rfl : e'.isExhausted = e := Except.error.inj hr
    exact ⟨rfl, hs⟩
  · cases hr

theorem not_isOk {e : Bool} (h : Uniform x S (.error e) S') (i : ι) :
    ¬(outcome (x i) (S i)).1.isOk = true := by
  have hr := (h i).1
  cases hx : (outcome (x i) (S i)).1 with
  | error e => exact Bool.false_ne_true
  | ok a =>
    rw [hx] at hr
    cases hr

theorem modify {g : ι → σ → σ} (h : ∀ i, g i (S i) = S' i) :
    Uniform (fun i => (modify (g i) : Action σ Unit)) S (.ok ()) S' :=
  of_ok fun i => congrArg (Prod.mk _) (h i)

theorem attempt {x : ι → Action σ Unit} {r : Except Bool Unit} (h : Uniform x S r S') :
    ∃ r', Uniform (fun i => Action.attempt (x i)) S r' S' := by
  cases r with
  | ok u =>
    refine ⟨.ok u, of_ok fun i => ?_⟩
    rw [outcome_attempt, h.outcome_ok i]
  | error exhausted =>
    cases exhausted with
    | false =>
      refine ⟨.ok (), of_ok fun i => ?_⟩
      obtain ⟨hr, hs⟩ := h i
      rw [outcome_attempt]
      generalize outcome (x i) (S i) = p at hr hs ⊢
      obtain ⟨(e | _) | u, t⟩ := p
      · exact congrArg (Prod.mk _) hs
      · cases hr
      · cases hr
    | true =>
      refine ⟨.error true, fun i => ?_⟩
      obtain ⟨hr, hs⟩ := h i
      rw [outcome_attempt]
      generalize outcome (x i) (S i) = p at hr hs ⊢
      obtain ⟨(e | _) | u, t⟩ := p
      · cases hr
      · exact ⟨rfl, hs⟩
      · cases hr

theorem between {enter leave : ι → σ → σ} (h : Uniform x (fun i => enter i (S i)) r S') :
    Uniform (fun i => Action.between (enter i) (leave i) (x i)) S r fun i => leave i (S' i) := by
  intro i
  rw [outcome_between]
  exact ⟨(h i).1, congrArg (leave i) (h i).2⟩

theorem inScope {x : ι → WriterM α} {W W' : ι → Writer} {args : ι → List (String × Arg Code)}
    {s : ι → Scope} (hs : ∀ i, Scope.ofArgs (args i) = .ok (s i))
    (h : Uniform x (fun i => (W i).pushScope (s i)) r W') :
    Uniform (fun i => WriterM.inScope (args i) (x i)) W r fun i => (W' i).popScope := by
  intro i
  rw [outcome_inScope, hs]
  exact ⟨(h i).1, congrArg Writer.popScope (h i).2⟩

end Uniform

theorem Meets.ending {R : σ → σ → Prop} {p q : Except Halt α × σ}
    (h : Meets (fun a b s t => a = b ∧ R s t) R p q) :
    ending q.1 = ending p.1 ∧ R p.2 q.2 := by
  cases h with
  | ok h => exact ⟨congrArg Except.ok h.1.symm, h.2⟩
  | failed h => exact ⟨rfl, h⟩
  | exhausted h => exact ⟨rfl, h⟩

end Action

/-- What sees only some keys runs alike wherever these are bound alike. -/
theorem WriterM.SeesOnly.uniform {ι α : Type} [Nonempty ι] {keys : String → Prop} {x : WriterM α}
    (hx : SeesOnly keys x) {s : ι → Surroundings}
    (hs : ∀ i j, Surroundings.Agree keys (s i) (s j)) (w : Writer) :
    ∃ r, ∃ w' : Writer,
      Uniform (fun _ => x) (fun i => w.under (s i)) r fun i => w'.under (s i) := by
  have hmeets (i j : ι) := (hx (s i) (s j) (hs i j) _ _ ⟨w, rfl, rfl⟩).ending
  obtain ⟨i⟩ := ‹Nonempty ι›
  obtain ⟨-, w', hw', -⟩ := hmeets i i
  refine ⟨ending (outcome x (w.under (s i))).1, w', fun j => ?_⟩
  obtain ⟨hr, u, hu, hv⟩ := hmeets i j
  refine ⟨hr, ?_⟩
  rw [hv]
  exact Writer.under_congr (hu.symm.trans hw') (s j)

/-- Code leaves the scopes as they are. -/
theorem Code.exec_scopes (depth : Nat) (c : Code) (w : Writer) :
    (outcome (c.exec (run depth)) w).2.scopes = w.scopes :=
  (exec_follows Writer.grows_progress (splice_follows depth) c c.permitted_any w (any_scopes w)).2

/-! ## Lines around a writer -/

/-- The keys are bound alike in all of these scopes. -/
def Scope.Aligned {ι : Type} (keys : String → Prop) (scopes : ι → List Scope) : Prop :=
  ∀ i j, Agree keys (scopes i) (scopes j)

/-- Where lines stand that a writer has around it. -/
inductive Place where
  | page
  | front

/-- Lines of their own stand at one place in the files of the writers, and at one place in the
blocks that they can be written as. -/
structure Shown {ι : Type} (notes : ι → List String) (v : ι → Writer) : Prop where
  file : ∃ slot : Slot, slot.Fits notes fun i => (v i).render
  block : ∃ slot : Slot, slot.Fits notes fun i => (v i).blockContents
  dependencies : ∃ ds, ∀ i, (v i).dependencies = ds

theorem Shown.of_contents {ι : Type} {notes : ι → List String} {slot : Slot} {v : ι → Writer}
    {w : Writer} (h : slot.Fits notes fun i => (v i).contents) (hne : ∀ i, (v i).contents ≠ "")
    (hpreamble : ∀ i, (v i).preamble = w.preamble)
    (hbanner : ∀ i, (v i).showsBanner = w.showsBanner)
    (hdependencies : ∀ i, (v i).dependencies = w.dependencies) : Shown notes v where
  file := by
    obtain ⟨slot', hjoined⟩ := h.joinSections hne
      [w.preambleText, if w.showsBanner then banner else ""] []
    refine ⟨slot'.widen [] [""], hjoined.widen fun i => ?_⟩
    rw [Writer.render, Writer.preambleText, hpreamble, hbanner]
    exact Text.lines_ended _
  block := by
    obtain ⟨slot', hjoined⟩ := h.joinSections hne [w.preambleText] []
    refine ⟨slot', hjoined.indent, fun i => ?_⟩
    rw [← hjoined.lines i, Writer.blockContents, Writer.preambleText, hpreamble]
    rfl
  dependencies := ⟨w.dependencies, hdependencies⟩

/-- Around a writer stand lines: on the page above it, or in a text in front of the file. Nothing
else about it is one's own, other than the scopes. -/
inductive Bears {ι : Type} (notes : ι → List String) (scopes : ι → List Scope) :
    Place → (ι → Surroundings) → Prop where
  | page {slot : Slot} : Text.IsIndent slot.indent →
    Bears notes scopes .page fun i => { above := slot.downTo (notes i), scopes := scopes i }
  | front {slot : Slot} {f : ι → String} (before : List String) : slot.Fits notes f →
    Bears notes scopes .front fun i => { front := before ++ [f i], scopes := scopes i }

namespace Bears

variable {ι : Type} {notes : ι → List String} {scopes : ι → List Scope} {place : Place}
  {s : ι → Surroundings}

theorem scopes_eq (h : Bears notes scopes place s) (i : ι) : (s i).scopes = scopes i := by
  cases h <;> rfl

theorem rescope (h : Bears notes scopes place s) (scopes' : ι → List Scope) :
    Bears notes scopes' place fun i => { s i with scopes := scopes' i } := by
  cases h with
  | page hindent => exact .page hindent
  | front before hfits => exact .front before hfits

theorem popScope {bound : ι → Scope} (h : Bears notes (fun i => bound i :: scopes i) place s)
    (u : Writer) (i : ι) :
    (u.under (s i)).popScope = u.under { s i with scopes := scopes i } := by
  change { u.under (s i) with scopes := (s i).scopes.tail } = _
  rw [h.scopes_eq]
  rfl

section

variable (hnotes : ∀ i, Solid (notes i))
include hnotes

theorem agree {keys : String → Prop} (h : Bears notes scopes place s)
    (hscopes : Scope.Aligned keys scopes) (i j : ι) : Surroundings.Agree keys (s i) (s j) := by
  cases h with
  | @page slot hindent =>
    have hink (i : ι) : (slot.downTo (notes i)).all Text.isBlankText = false := by
      obtain ⟨l, ls, hcons⟩ := List.exists_cons_of_ne_nil (hnotes i).nonempty
      have hink : Text.isBlankText l = false := Text.not_all_blank_of_startsFlush
        ((hnotes i).starts l (by rw [hcons]; exact List.mem_cons_self))
      have hline : Text.isBlankText (slot.indent ++ l) = false := by
        rw [Text.isBlankText_append, hink, Bool.and_false]
      rw [Slot.downTo, hcons, List.all_append, List.map_cons, List.all_cons, hline,
        Bool.false_and, Bool.and_false]
    exact ⟨hscopes i j, (hink j).trans (hink i).symm⟩
  | front before hfits => exact ⟨hscopes i j, rfl⟩

theorem contents_fits {slot : Slot} (hindent : Text.IsIndent slot.indent) (u : Writer)
    (scopes : ι → List Scope) : ∃ slot' : Slot, slot'.Fits notes fun i =>
      (u.under { above := slot.downTo (notes i), scopes := scopes i }).contents := by
  obtain ⟨slot, htext⟩ := Page.text_fits hnotes hindent u.page
  obtain ⟨below, htrim⟩ := htext.trimEnd hnotes
  exact htrim.joinSections (htrim.ne_empty hnotes)
    [Text.unlines (u.uses.toList.map fun u => "use " ++ u ++ ";"), Text.unlines u.modules.values] []

theorem shown (h : Bears notes scopes place s) (u : Writer) :
    Shown notes fun i => u.under (s i) := by
  cases h with
  | page hindent =>
    obtain ⟨slot, hcontents⟩ := contents_fits hnotes hindent u scopes
    exact .of_contents (w := u) hcontents (hcontents.ne_empty hnotes) (fun _ => rfl)
      (fun _ => rfl) fun _ => rfl
  | @front _ f before hfits =>
    obtain ⟨slot, htext⟩ := hfits.unlines before u.preamble
    have hpreamble (i : ι) :
        (u.under { front := before ++ [f i], scopes := scopes i }).preambleText =
          Text.unlines (before ++ f i :: u.preamble) :=
      congrArg Text.unlines (List.append_assoc _ _ _)
    constructor
    · obtain ⟨slot', hjoined⟩ := htext.joinSections (htext.ne_empty hnotes) []
        [if u.showsBanner then banner else "", u.contents]
      refine ⟨slot'.widen [] [""], hjoined.widen fun i => ?_⟩
      rw [Writer.render, hpreamble, Writer.contents_under]
      exact Text.lines_ended _
    · obtain ⟨slot', hjoined⟩ := htext.joinSections (htext.ne_empty hnotes) [] [u.contents]
      refine ⟨slot', hjoined.indent, fun i => ?_⟩
      rw [← hjoined.lines i, Writer.blockContents, hpreamble, Writer.contents_under]
      rfl
    · exact ⟨u.dependencies, fun _ => rfl⟩

end

end Bears

end CrateGen
