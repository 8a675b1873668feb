import CrateGen.Proofs.Code.Uniform

/-!
Fragments that are spliced by directives which stand alone on their lines. The lines of such a
fragment become lines of the template, and stay at one place in it.
-/

namespace CrateGen

open CrateGen.Action
open CrateGen.Text (Slot Solid)
open CrateGen.Template (Piece)

namespace Code

variable (splice : Code → WriterM Unit)

theorem expand_append (out : String) (front back : List Piece) :
    expand splice out (front ++ back) =
      expand splice out front >>= fun out => expand splice out back := by
  induction front generalizing out with
  | nil => rw [List.nil_append, expand, pure_bind]
  | cons piece front ih =>
    cases piece with
    | char c => exact ih _
    | sharp => exact ih _
    | directive key kind =>
      rw [List.cons_append, expand, expand, bind_assoc]
      exact congrArg (renderDirective splice key _ >>= ·) (funext fun _ => ih _)

theorem expand_behind (above out : String) (pieces : List Piece) :
    expand splice (above ++ "\n" ++ out) pieces =
      expand splice out pieces >>= fun text => pure (above ++ "\n" ++ text) := by
  have hpush (out : String) (c : Char) :
      (above ++ "\n" ++ out).push c = above ++ "\n" ++ out.push c := by
    apply String.toList_inj.mp
    simp
  induction pieces generalizing out with
  | nil => rw [expand, expand, pure_bind]
  | cons piece pieces ih =>
    cases piece with
    | char c =>
      rw [expand, expand, hpush]
      exact ih _
    | sharp =>
      rw [expand, expand, hpush]
      exact ih _
    | directive key kind =>
      rw [expand, expand, bind_assoc, Text.lastIndent_behind]
      refine congrArg (renderDirective splice key _ >>= ·) (funext fun text => ?_)
      rw [@String.append_assoc (above ++ "\n")]
      exact ih _

variable {ι : Type} (keys : String → Prop) (depth : Nat) (w : Writer) (scopes : ι → List Scope)
  (template out : String) (v : Writer) (fragment : ι → Code)

/-- A template has a directive for a fragment that stands alone on its line. In front of it `out` is
rendered, which leaves the writer `v`. -/
structure Splice where
  front : List Piece
  key : String
  kind : Option Char
  back : List Piece
  pieces : Template.Form.authored.pieces 0 (Text.dedent template).toList =
    front ++ .directive key kind :: back
  rendersCode : kind.getD 'T' = 'T' ∨ kind.getD 'T' = 'W'
  bound : ∀ i, Scope.lookup (scopes i) (lowercase key) = some (.code (fragment i))
  found : ∀ i, Template.missing? (scopes i) (front ++ .directive key kind :: back) = none
  rendered : ∀ i, outcome (expand (run depth) "" (front.map Piece.settled))
    { w with scopes := scopes i } = (.ok out, { v with scopes := scopes i })
  alone : Text.isBlankText ((Text.lines out).getLast?.getD "") = true
  ended : back = [] ∨ ∃ rest, back = .char '\n' :: rest
  others : ∀ key kind, .directive key kind ∈ back → keys (lowercase key)
  aligned : Scope.Aligned keys scopes
  succeeds : ∃ i, (outcome (renderTemplate (run depth) template)
    { w with scopes := scopes i }).1.isOk = true

/-- With one of the fragments, the template is rendered as a text that starts in ink. -/
def RendersFlush : Prop :=
  ∃ i text v', outcome (renderTemplate (run depth) template) { w with scopes := scopes i } =
    (.ok text, v') ∧ Text.startsFlush text = true

variable {keys depth w scopes template out v fragment} {notes : ι → List String}
  {s : ι → Surroundings} {u : Writer}

theorem RendersFlush.startsFlush (h : RendersFlush depth w scopes template) {f : ι → String}
    {V : ι → Writer} (hrender : ∀ i, outcome (renderTemplate (run depth) template)
      { w with scopes := scopes i } = (.ok (f i), V i)) : ∃ i, Text.startsFlush (f i) = true := by
  obtain ⟨i, text, v', hrun, hflush⟩ := h
  rw [hrender i] at hrun
  obtain ⟨htext, -⟩ := Prod.mk.inj hrun
  exact ⟨i, Except.ok.inj htext ▸ hflush⟩

theorem Splice.outcome_renderTemplate
    (h : Splice keys depth w scopes template out v fragment) (i : ι) :
    outcome (renderTemplate (run depth) template) { w with scopes := scopes i } =
      outcome (renderFragment (run depth) (fragment i) >>= fun text =>
        expand (run depth) (out ++ Text.hang (Text.lastIndent out) text)
          (h.back.map Piece.settled)) { v with scopes := scopes i } := by
  have hdirective (f : String → WriterM String) :
      outcome (renderDirective (run depth) (lowercase h.key) (h.kind.getD 'T') >>= f)
        { v with scopes := scopes i } =
      outcome (renderFragment (run depth) (fragment i) >>= f) { v with scopes := scopes i } := by
    rw [renderDirective, bind_assoc, outcome_bind_ok (outcome_get _)]
    dsimp only
    rw [h.bound i]
    rcases h.rendersCode with hkind | hkind <;> rw [hkind] <;> rfl
  rw [Template.outcome_renderTemplate, h.pieces, h.found i, List.map_append, List.map_cons]
  dsimp only
  rw [expand_append, outcome_bind_ok (h.rendered i), Piece.settled, expand, Option.getD_some,
    hdirective]

theorem Splice.fragment_ok (h : Splice keys depth w scopes template out v fragment)
    {r : Except Bool Unit} {V : ι → Writer}
    (hfragment : Uniform (fun i => run depth (fragment i))
      (fun i => { v.fragment v.ns with scopes := scopes i }) r V) : r = .ok () := by
  obtain ⟨i, hok⟩ := h.succeeds
  rw [h.outcome_renderTemplate, renderFragment, bind_assoc] at hok
  cases r with
  | error e => exact absurd (isOk_of_onFragment (isOk_of_bind hok)) (hfragment.not_isOk i)
  | ok a => rfl

section

variable (h : Splice keys depth w scopes template out v fragment) (hnotes : ∀ i, Solid (notes i))
  (hs : Bears notes scopes .page s)
  (hfragment : Uniform (fun i => run depth (fragment i))
    (fun i => { v.fragment v.ns with scopes := scopes i }) (.ok ()) fun i => u.under (s i))
include hnotes hs hfragment

theorem renderFragment_fits : ∃ (slot : Slot) (f : ι → String) (v' : Writer), slot.Fits notes f ∧
    ∀ i, outcome (renderFragment (run depth) (fragment i)) { v with scopes := scopes i } =
      (.ok (f i), { v' with scopes := scopes i }) := by
  cases hs with
  | page hindent =>
    obtain ⟨slot, htext⟩ := Page.text_fits hnotes hindent u.page
    obtain ⟨below, hdrop⟩ := htext.dropTrailing hnotes (p := (· == '\n')) fun c hc => by
      rw [eq_of_beq hc]
      decide
    refine ⟨_, _, { v with issued := u.issued }.merge u, hdrop, fun i => ?_⟩
    have hchild : outcome (run depth (fragment i))
        ({ v with scopes := scopes i }.fragment { v with scopes := scopes i }.ns) =
          (.ok (), u.under { above := _, scopes := scopes i }) := hfragment.outcome_ok i
    rw [outcome_renderFragment hchild]
    rfl

include h

/-- Behind blanks at the end of what stands in front of it, the fragment stays in one place. -/
theorem Splice.renders_front : ∃ (slot : Slot) (f : ι → String) (v' : Writer),
    slot.Fits notes f ∧ ((Text.lines out).length ≠ 1 → slot.above ≠ []) ∧
      ∀ i, outcome (renderTemplate (run depth) template) { w with scopes := scopes i } =
        outcome (expand (run depth) (f i) (h.back.map Piece.settled))
          { v' with scopes := scopes i } := by
  obtain ⟨slot, f, v', hfits, hrender⟩ := renderFragment_fits hnotes hs hfragment
  obtain ⟨above, blanks, hout⟩ := Text.exists_last_line out
  have hblanks : Text.isBlankText blanks = true := by
    have hlast := h.alone
    rwa [hout, List.getLast?_concat] at hlast
  have hindent : Text.IsIndent blanks := by
    intro c hc
    refine ⟨List.all_eq_true.mp hblanks c hc, fun he => ?_⟩
    apply Text.noBreak_of_mem_lines (s := out) (l := blanks)
    · rw [hout]
      exact List.mem_append_right _ List.mem_cons_self
    · exact he ▸ hc
  obtain ⟨slot', -, habove, hhung⟩ := hfits.hang hnotes hout hindent
  refine ⟨slot', _, v', hhung, fun hlength => ?_, fun i => ?_⟩
  · apply habove
    rintro rfl
    rw [hout] at hlength
    exact hlength rfl
  · rw [h.outcome_renderTemplate, outcome_bind_ok (hrender i),
      Text.lastIndent_of_blank hout hblanks]

/-- The lines of the fragment are lines of the template. -/
theorem Splice.renders : ∃ (slot : Slot) (f : ι → String) (v' : Writer), slot.Fits notes f ∧
    (h.back ≠ [] → slot.below ≠ []) ∧
    (((Text.lines out).length = 1 → w.page.atLineStart = true) →
      slot.above = [] → v'.page.atLineStart = true) ∧
    ∀ i, outcome (renderTemplate (run depth) template) { w with scopes := scopes i } =
      (.ok (f i), { v' with scopes := scopes i }) := by
  obtain ⟨i₀, hok⟩ := h.succeeds
  have : Nonempty ι := ⟨i₀⟩
  obtain ⟨slot, f, v₁, hfits, habove, hfront⟩ := h.renders_front hnotes hs hfragment
  have hstart {text : String} {v' : Writer}
      (hrender : outcome (renderTemplate (run depth) template) { w with scopes := scopes i₀ } =
        (.ok text, { v' with scopes := scopes i₀ }))
      (hstart : (Text.lines out).length = 1 → w.page.atLineStart = true)
      (hnone : slot.above = []) : v'.page.atLineStart = true := by
    have hoff := renderTemplate_offPage (run depth) template { w with scopes := scopes i₀ }
    rw [hrender] at hoff
    rw [hoff.page]
    exact hstart (not_not.mp fun hne => habove hne hnone)
  rcases h.ended with hback | ⟨rest, hback⟩
  · have hrender (i : ι) : outcome (renderTemplate (run depth) template)
        { w with scopes := scopes i } = (.ok (f i), { v₁ with scopes := scopes i }) := by
      rw [hfront, hback]
      rfl
    exact ⟨slot, f, v₁, hfits, fun hne => absurd hback hne, hstart (hrender i₀), hrender⟩
  · have hbehind (i : ι) : outcome (renderTemplate (run depth) template)
        { w with scopes := scopes i } =
          outcome (expand (run depth) "" (rest.map Piece.settled) >>= fun text =>
            pure (f i ++ "\n" ++ text)) { v₁ with scopes := scopes i } := by
      have hpush (s : String) : s.push '\n' = s ++ "\n" ++ "" := by
        apply String.toList_inj.mp
        simp
      rw [hfront, hback, List.map_cons, Piece.settled, expand, hpush, expand_behind]
    have hkeys (key : String) (kind : Option Char)
        (hmem : .directive key kind ∈ rest.map Piece.settled) : keys key := by
      obtain ⟨piece, hpiece, heq⟩ := List.mem_map.mp hmem
      cases piece with
      | char c => cases heq
      | sharp => cases heq
      | directive key' kind' =>
        cases heq
        exact h.others key' kind' (hback ▸ List.mem_cons_of_mem _ hpiece)
    have hrest := expand_seesOnly (fun c hc => run_seesOnly depth hc) hkeys ""
    obtain ⟨r, v₂, huniform⟩ := hrest.uniform (s := fun i => { scopes := scopes i })
      (fun i j => ⟨h.aligned i j, rfl⟩) v₁
    simp only [Writer.under_scopes] at huniform
    cases r with
    | error e =>
      have hfailed := huniform.bind_error (f := fun i text =>
        (pure (f i ++ "\n" ++ text) : WriterM String))
      exact absurd (hbehind i₀ ▸ hok) (hfailed.not_isOk i₀)
    | ok text =>
      have hrender (i : ι) : outcome (renderTemplate (run depth) template)
          { w with scopes := scopes i } =
            (.ok (f i ++ "\n" ++ text), { v₂ with scopes := scopes i }) := by
        rw [hbehind, outcome_bind_ok (huniform.outcome_ok i)]
        rfl
      exact ⟨slot.widen [] (Text.lines text), _, v₂, hfits.widen fun i => Text.lines_newline _ _,
        fun _ => List.append_ne_nil_of_right_ne_nil _ (Text.lines_ne_nil text),
        hstart (hrender i₀), hrender⟩

end

end Code

end CrateGen
