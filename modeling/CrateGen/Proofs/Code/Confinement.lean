import CrateGen.Proofs.Code.Comments

/-!
The way of a comment into a file. Each kind of code on that way hands on lines of their own that the
code within it writes, at one place, and writes the same around them whatever they are.
-/

namespace CrateGen

open CrateGen.Action
open CrateGen.Code (run renderTemplate Enters Splice RendersFlush)
open CrateGen.Text (Slot Solid)

/-! ## Code that is run in other code -/

namespace Bears

variable {ι : Type} {notes : ι → List String} {scopes inner : ι → List Scope} {place : Place}
  {s : ι → Surroundings} {depth : Nat} {w v u : Writer} {r : Except Bool Unit}

theorem block {block body : ι → Code} {footer : String}
    (henter : ∀ i, Enters (run depth) (block i) { w with scopes := scopes i } (body i)
      { v with scopes := inner i } footer)
    (hbody : Uniform (fun i => (body i).exec (run depth)) (fun i => { v with scopes := inner i }) r
      fun i => u.under (s i)) :
    Uniform (fun i => (block i).exec (run depth)) (fun i => { w with scopes := scopes i }) r
      fun i => (u.closeBlock footer).under { s i with scopes := scopes i } := by
  intro i
  obtain ⟨hr, hs⟩ := hbody i
  obtain ⟨-, hresult, scopes', hrest⟩ := (henter i).brackets
  have hleft := Code.exec_scopes depth (block i) { w with scopes := scopes i }
  rw [hrest] at hleft
  obtain rfl : scopes' = scopes i := hleft
  refine ⟨by rw [hresult, hr], ?_⟩
  rw [hrest, hs]
  exact congrArg (fun w : Writer => { w with scopes := scopes i })
    (Writer.Framed.closeBlock footer u (s i))

/-- Code under bound arguments leaves the scope that it ran in. -/
theorem inScope {args : ι → List (String × Arg Code)} {bound : ι → Scope} {x : ι → WriterM Unit}
    (hs : Bears notes (fun i => bound i :: scopes i) place s)
    (hbound : ∀ i, Scope.ofArgs (args i) = .ok (bound i))
    (hrun : Uniform x (fun i => { w with scopes := bound i :: scopes i }) r
      fun i => u.under (s i)) :
    Uniform (fun i => WriterM.inScope (args i) (x i)) (fun i => { w with scopes := scopes i }) r
      fun i => u.under { s i with scopes := scopes i } := by
  have hscope := Uniform.inScope (W := fun i => { w with scopes := scopes i }) hbound hrun
  simp only [hs.popScope] at hscope
  exact hscope

theorem documented [Nonempty ι] {keys : String → Prop} (hscopes : Scope.Aligned keys scopes)
    {m : Module} {body : Code} (hbody : body.MentionsOnly keys) {i₀ : ι}
    (hok : (outcome (body.exec (run depth))
      { w.fragment (w.ns ++ "::" ++ m.name) with scopes := scopes i₀ }).1.isOk = true)
    (text : ι → String) : ∃ (u : Writer) (s : ι → Surroundings),
      Bears (fun i => CommentStyle.docs.lines (text i)) scopes .page s ∧
        Uniform (fun i => (Code.inlineModule (m.documented (text i)) body).exec (run depth))
          (fun i => { w with scopes := scopes i }) (.ok ()) fun i => u.under (s i) := by
  have hsees := Code.exec_seesOnly (fun c hc => Code.run_seesOnly depth hc) body hbody
  obtain ⟨r, v, hrun⟩ := hsees.uniform (s := fun i => { scopes := scopes i })
    (fun i j => ⟨hscopes i j, rfl⟩) (w.fragment (w.ns ++ "::" ++ m.name))
  simp only [Writer.under_scopes] at hrun
  cases r with
  | error e => exact absurd hok (hrun.not_isOk i₀)
  | ok a =>
    obtain ⟨u, s, hs, hembed⟩ :=
      { w with issued := v.issued }.embed_documented_bears m text v scopes
    have hfragment (i : ι) : outcome
        (WriterM.onFragment (· ++ "::" ++ (m.documented (text i)).name) (body.exec (run depth)))
          { w with scopes := scopes i } =
            (.ok { v with scopes := scopes i },
              { w with scopes := scopes i, issued := v.issued }) := by
      have hname : (m.documented (text i)).name = m.name := by
        cases m <;> rfl
      rw [hname]
      exact outcome_onFragment_ok _ (hrun.outcome_ok i)
    refine ⟨u, s, hs, .of_ok fun i => (outcome_bind_ok (hfragment i)).trans ?_⟩
    rw [outcome_modify, Writer.embed_rescoped, ← hembed]

section

variable (hnotes : ∀ i, Solid (notes i))
include hnotes

theorem inlineModule (hs : Bears notes scopes place s) {m : Module} {body : ι → Code}
    (hbody : Uniform (fun i => (body i).exec (run depth))
      (fun i => { w.fragment (w.ns ++ "::" ++ m.name) with scopes := scopes i }) (.ok ())
      fun i => u.under (s i)) : ∃ (u : Writer) (s : ι → Surroundings),
      Bears notes scopes .page s ∧
        Uniform (fun i => (Code.inlineModule m (body i)).exec (run depth))
          (fun i => { w with scopes := scopes i }) (.ok ()) fun i => u.under (s i) := by
  obtain ⟨u', s', hs', hembed⟩ :=
    { w with issued := u.issued }.embed_bears hnotes m (hs.shown hnotes u) scopes
  have hfragment (i : ι) : outcome
      (WriterM.onFragment (· ++ "::" ++ m.name) ((body i).exec (run depth)))
        { w with scopes := scopes i } =
          (.ok (u.under (s i)), { w with scopes := scopes i, issued := u.issued }) :=
    outcome_onFragment_ok _ (hbody.outcome_ok i)
  refine ⟨u', s', hs', .of_ok fun i => (outcome_bind_ok (hfragment i)).trans ?_⟩
  exact congrArg (Prod.mk _) (hembed i)

theorem preamble (hs : Bears notes scopes .page s) {body : ι → Code}
    (hbody : Uniform (fun i => (body i).exec (run depth))
      (fun i => { w.fragment w.ns with scopes := scopes i }) (.ok ())
      fun i => u.under (s i)) : ∃ (u : Writer) (s : ι → Surroundings),
      Bears notes scopes .front s ∧
        Uniform (fun i => (Code.preamble (body i)).exec (run depth))
          (fun i => { w with scopes := scopes i }) (.ok ()) fun i => u.under (s i) := by
  cases hs with
  | page hindent =>
    obtain ⟨slot, htext⟩ := Page.text_fits hnotes hindent u.page
    obtain ⟨below, htrim⟩ := htext.trimEnd hnotes
    have hfragment (i : ι) : outcome (WriterM.onFragment id ((body i).exec (run depth)))
        { w with scopes := scopes i } =
          (.ok (u.under { above := _, scopes := scopes i }),
            { w with scopes := scopes i, issued := u.issued }) :=
      outcome_onFragment_ok id (hbody.outcome_ok i)
    refine ⟨{ { w with issued := u.issued }.merge u with preamble := [] }, _,
      .front w.preamble htrim, .of_ok fun i => (outcome_bind_ok (hfragment i)).trans ?_⟩
    rw [Writer.under_front]
    dsimp only
    rw [List.append_nil]
    rfl

end

theorem within (hnotes : ∀ i, Solid (notes i)) [Nonempty ι] {keys : String → Prop}
    (hs : Bears notes scopes place s) (hscopes : Scope.Aligned keys scopes) {body : Code}
    (hbody : body.MentionsOnly keys) {before : ι → String}
    (hopen : ∀ i, { v with scopes := scopes i }.openBlock (Text.trim (before i)) = u.under (s i))
    (after : String) : ∃ (r : Except Bool Unit) (u' : Writer),
      Uniform (fun i => WriterM.within (before i) after (body.exec (run depth)))
        (fun i => { v with scopes := scopes i }) r fun i => u'.under (s i) := by
  have hsees := Code.exec_seesOnly (fun c hc => Code.run_seesOnly depth hc) body hbody
  obtain ⟨r, u', hrun⟩ := hsees.uniform (hs.agree hnotes hscopes) u
  have hclose : (fun i => (u'.closeBlock (Text.trim after)).under (s i)) =
      fun i => (u'.under (s i)).closeBlock (Text.trim after) :=
    funext fun i => (Writer.Framed.closeBlock (Text.trim after) u' (s i)).symm
  refine ⟨r, u'.closeBlock (Text.trim after), ?_⟩
  rw [hclose]
  apply Uniform.between
  simp only [hopen]
  exact hrun

end Bears

/-! ## Code in templates -/

namespace Code.Splice

variable {ι : Type} {notes : ι → List String} {keys : String → Prop} {depth : Nat} {w v u : Writer}
  {scopes : ι → List Scope} {template out : String} {fragment : ι → Code}
  {s : ι → Surroundings} {r : Except Bool Unit} {args : ι → List (String × Arg Code)}
  {bound : ι → Scope} (hbound : ∀ i, Scope.ofArgs (args i) = .ok (bound i))
  (hnotes : ∀ i, Solid (notes i))

section

variable (h : Splice keys depth w (fun i => bound i :: scopes i) template out v fragment)
  (hs : Bears notes (fun i => bound i :: scopes i) .page s)
  (hfragment : Uniform (fun i => run depth (fragment i))
    (fun i => { v.fragment v.ns with scopes := bound i :: scopes i }) r fun i => u.under (s i))
  (hstart : (Text.lines out).length = 1 → w.page.atLineStart = true)
include hbound hnotes h hs hfragment hstart

theorem template_bears : ∃ (u : Writer) (s : ι → Surroundings), Bears notes scopes .page s ∧
    Uniform (fun i => (Code.template template (args i)).exec (run depth))
      (fun i => { w with scopes := scopes i }) (.ok ()) fun i => u.under (s i) := by
  obtain rfl := h.fragment_ok hfragment
  obtain ⟨slot, f, v', hfits, -, hv', hrender⟩ := h.renders hnotes hs hfragment
  obtain ⟨u, s, hs, hline⟩ := v'.markedLine_bears hnotes hfits (hv' hstart) scopes
  refine ⟨u, s, hs, .bind (fun i => outcome_inScope_ok (hbound i) (hrender i)) ?_⟩
  exact .modify hline

theorem inlineTemplate_bears (hback : h.back ≠ []) :
    ∃ (u : Writer) (s : ι → Surroundings), Bears notes scopes .page s ∧
      Uniform (fun i => (Code.inlineTemplate template (args i)).exec (run depth))
        (fun i => { w with scopes := scopes i }) (.ok ()) fun i => u.under (s i) := by
  obtain rfl := h.fragment_ok hfragment
  obtain ⟨slot, f, v', hfits, hbelow, hv', hrender⟩ := h.renders hnotes hs hfragment
  obtain ⟨u, s, hs, hemit⟩ := v'.emit_bears hnotes hfits (hbelow hback) (hv' hstart) scopes
  refine ⟨u, s, hs, .bind (fun i => outcome_inScope_ok (hbound i) (hrender i)) ?_⟩
  exact .modify hemit

end

variable {body : Code} (hbody : body.MentionsOnly keys)
include hbound hnotes hbody

theorem blockTemplate_bears
    (h : Splice keys depth w.mark (fun i => bound i :: scopes i) template out v fragment)
    (hs : Bears notes (fun i => bound i :: scopes i) .page s)
    (hfragment : Uniform (fun i => run depth (fragment i))
      (fun i => { v.fragment v.ns with scopes := bound i :: scopes i }) r fun i => u.under (s i))
    (hstart : (Text.lines out).length = 1 → w.page.atLineStart = true) (hback : h.back ≠ [])
    (hflush : RendersFlush depth w.mark (fun i => bound i :: scopes i) template) :
    ∃ (r : Except Bool Unit) (u : Writer) (s : ι → Surroundings), Bears notes scopes .page s ∧
      Uniform (fun i => (Code.blockTemplate template (args i) body).exec (run depth))
        (fun i => { w with scopes := scopes i }) r fun i => u.under (s i) := by
  obtain rfl := h.fragment_ok hfragment
  obtain ⟨slot, f, v', hfits, hbelow, hv', hrender⟩ := h.renders hnotes hs hfragment
  obtain ⟨i₀, hi₀⟩ := hflush.startsFlush hrender
  have : Nonempty ι := ⟨i₀⟩
  have hheader (i : ι) : WriterM.blockHeader (f i) = f i ++ r" {" :=
    if_neg fun he => hfits.ne_empty hnotes i (eq_of_beq he)
  obtain ⟨below, hbrace⟩ := hfits.append (hbelow hback) r" {"
  obtain ⟨below, htrim⟩ := hbrace.trim hnotes (Text.startsFlush_append hi₀)
  obtain ⟨u, s, hs, hopen⟩ := v'.openBlock_bears hnotes htrim
    (hv' fun hone => Writer.start_mark (hstart hone)) fun i => bound i :: scopes i
  obtain ⟨r, u', hwithin⟩ := hs.within hnotes h.aligned hbody hopen r"}"
  simp only [← hheader] at hwithin
  have hheaded : Uniform
      (fun i => renderTemplate (run depth) template >>= fun header =>
        WriterM.within (WriterM.blockHeader header) r"}" (body.exec (run depth)))
      (fun i => { w.mark with scopes := bound i :: scopes i }) r fun i => u'.under (s i) :=
    .bind hrender hwithin
  have hmark (i : ι) : outcome (modify Writer.mark : WriterM Unit) { w with scopes := scopes i } =
      (.ok (), { w.mark with scopes := scopes i }) := by
    rw [outcome_modify, ← Writer.under_scopes, Writer.Framed.mark, Writer.under_scopes]
  exact ⟨r, u', _, hs.rescope scopes, .bind hmark (hs.inScope hbound hheaded)⟩

theorem before_bears {after : String}
    (h : Splice keys depth w (fun i => bound i :: scopes i) template out v fragment)
    (hs : Bears notes (fun i => bound i :: scopes i) .page s)
    (hfragment : Uniform (fun i => run depth (fragment i))
      (fun i => { v.fragment v.ns with scopes := bound i :: scopes i }) r fun i => u.under (s i))
    (hstart : (Text.lines out).length = 1 → w.page.atLineStart = true)
    (hflush : RendersFlush depth w (fun i => bound i :: scopes i) template)
    (hafter : Template.MentionsOnly keys after)
    (hok : ∃ i, (outcome (renderTemplate (run depth) template >>= fun _ =>
      renderTemplate (run depth) after) { w with scopes := bound i :: scopes i }).1.isOk = true) :
    ∃ (r : Except Bool Unit) (u : Writer) (s : ι → Surroundings), Bears notes scopes .page s ∧
      Uniform (fun i => (Code.withinTemplate template after (args i) body).exec (run depth))
        (fun i => { w with scopes := scopes i }) r fun i => u.under (s i) := by
  obtain rfl := h.fragment_ok hfragment
  obtain ⟨slot, f, v', hfits, -, hv', hrender⟩ := h.renders hnotes hs hfragment
  obtain ⟨i₀, hi₀⟩ := hflush.startsFlush hrender
  have : Nonempty ι := ⟨i₀⟩
  have hsees := renderTemplate_seesOnly (fun c hc => run_seesOnly depth hc) hafter
  obtain ⟨r, v'', hlast⟩ := hsees.uniform (s := fun i => { scopes := bound i :: scopes i })
    (fun i j => ⟨h.aligned i j, rfl⟩) v'
  simp only [Writer.under_scopes] at hlast
  cases r with
  | error e =>
    obtain ⟨i, hok⟩ := hok
    rw [outcome_bind_ok (hrender i)] at hok
    exact absurd hok (hlast.not_isOk i)
  | ok last =>
    have hpage : v''.page = v'.page := by
      have hoff := renderTemplate_offPage (run depth) after
        { v' with scopes := bound i₀ :: scopes i₀ }
      rw [hlast.outcome_ok i₀] at hoff
      exact hoff.page
    obtain ⟨below, htrim⟩ := hfits.trim hnotes hi₀
    obtain ⟨u, s, hs, hopen⟩ := v''.openBlock_bears hnotes htrim
      (fun hnone => by rw [hpage]; exact hv' hstart hnone) fun i => bound i :: scopes i
    obtain ⟨r, u', hwithin⟩ := hs.within hnotes h.aligned hbody hopen last
    exact ⟨r, u', _, hs.rescope scopes,
      hs.inScope hbound (.bind hrender (.bind hlast.outcome_ok hwithin))⟩

theorem after_bears {w' : Writer} {before first : String}
    (hfirst : ∀ i,
      outcome (renderTemplate (run depth) before) { w with scopes := bound i :: scopes i } =
        (.ok first, { w' with scopes := bound i :: scopes i }))
    (h : Splice keys depth w' (fun i => bound i :: scopes i) template out v fragment)
    (hs : Bears notes (fun i => bound i :: scopes i) .page s)
    (hfragment : Uniform (fun i => run depth (fragment i))
      (fun i => { v.fragment v.ns with scopes := bound i :: scopes i }) r fun i => u.under (s i))
    (hflush : RendersFlush depth w' (fun i => bound i :: scopes i) template) :
    ∃ (r : Except Bool Unit) (u : Writer) (s : ι → Surroundings), Bears notes scopes .page s ∧
      Uniform (fun i => (Code.withinTemplate before template (args i) body).exec (run depth))
        (fun i => { w with scopes := scopes i }) r fun i => u.under (s i) := by
  obtain rfl := h.fragment_ok hfragment
  obtain ⟨slot, f, v', hfits, -, -, hrender⟩ := h.renders hnotes hs hfragment
  obtain ⟨i₀, hi₀⟩ := hflush.startsFlush hrender
  have : Nonempty ι := ⟨i₀⟩
  obtain ⟨below, htrim⟩ := hfits.trim hnotes hi₀
  have hsees := exec_seesOnly (fun c hc => run_seesOnly depth hc) body hbody
  obtain ⟨r, u', hrun⟩ := hsees.uniform (s := fun i => { scopes := bound i :: scopes i })
    (fun i j => ⟨h.aligned i j, rfl⟩) (v'.openBlock (Text.trim first))
  simp only [← Writer.Framed.openBlock (Text.trim first) v', Writer.under_scopes] at hrun
  obtain ⟨u, s, hs, hclose⟩ := u'.closeBlock_bears hnotes htrim fun i => bound i :: scopes i
  have hwithin : Uniform (fun i => WriterM.within first (f i) (body.exec (run depth)))
      (fun i => { v' with scopes := bound i :: scopes i }) r fun i => u.under (s i) := by
    simp only [← hclose]
    exact .between hrun
  exact ⟨r, u, _, hs.rescope scopes, hs.inScope hbound (.bind hfirst (.bind hrender hwithin))⟩

end Code.Splice

/-- Codes that come to a comment each, the text of which is its own. `keys` are the keys that other
code may mention, `place` is where the writer `w` gets the lines, and `depth` bounds how deeply the
comment may be spliced. -/
inductive Code.Around {ι : Type} (style : CommentStyle) (text : ι → String) :
    (String → Prop) → Nat → Place → Writer → (ι → List Scope) → (ι → Code) → Prop where
  | comment {keys : String → Prop} {depth : Nat} {w : Writer} {scopes : ι → List Scope} :
    Around style text keys depth .page w scopes fun i => .comment style (text i)
  | documented {keys : String → Prop} {depth : Nat} {w : Writer} {scopes : ι → List Scope}
    {m : Module} {body : Code} {i : ι} : style = .docs → body.MentionsOnly keys →
    (outcome (body.exec (run depth))
      { w.fragment (w.ns ++ "::" ++ m.name) with scopes := scopes i }).1.isOk = true →
    Around style text keys depth .page w scopes fun i => .inlineModule (m.documented (text i)) body
  | first {keys : String → Prop} {depth : Nat} {place : Place} {w : Writer}
    {scopes : ι → List Scope} {first : ι → Code} {second : Code} :
    Around style text keys depth place w scopes first → second.MentionsOnly keys →
    Around style text keys depth place w scopes fun i => first i ++ second
  | second {keys : String → Prop} {depth : Nat} {place : Place} {w v : Writer}
    {scopes : ι → List Scope} {first : Code} {second : ι → Code} :
    (∀ i, outcome (first.exec (run depth)) { w with scopes := scopes i } =
      (.ok (), { v with scopes := scopes i })) →
    Around style text keys depth place v scopes second →
    Around style text keys depth place w scopes fun i => first ++ second i
  | attempt {keys : String → Prop} {depth : Nat} {place : Place} {w : Writer}
    {scopes : ι → List Scope} {body : ι → Code} :
    Around style text keys depth place w scopes body →
    Around style text keys depth place w scopes fun i => .attempt (body i)
  | scope {keys keys' : String → Prop} {depth : Nat} {place : Place} {w : Writer}
    {scopes : ι → List Scope} {args : ι → List (String × Arg Code)} {bound : ι → Scope}
    {body : ι → Code} : (∀ i, Scope.ofArgs (args i) = .ok (bound i)) →
    Scope.Aligned keys' (fun i => bound i :: scopes i) →
    Around style text keys' depth place w (fun i => bound i :: scopes i) body →
    Around style text keys depth place w scopes fun i => .scope (args i) (body i)
  | block {keys keys' : String → Prop} {depth : Nat} {place : Place} {w v : Writer}
    {scopes inner : ι → List Scope} {block body : ι → Code} {footer : String} :
    (∀ i, Enters (run depth) (block i) { w with scopes := scopes i } (body i)
      { v with scopes := inner i } footer) →
    Scope.Aligned keys' inner → Around style text keys' depth place v inner body →
    Around style text keys depth place w scopes block
  | withName {keys : String → Prop} {depth : Nat} {place : Place} {w : Writer}
    {scopes : ι → List Scope} {base : String} {body : ι → String → Code} :
    Around style text keys depth place (w.issue (w.freshName base)) scopes
      (fun i => body i (w.freshName base)) →
    Around style text keys depth place w scopes fun i => .withName base (body i)
  | look {keys : String → Prop} {depth : Nat} {place : Place} {w : Writer}
    {scopes : ι → List Scope} {body : ι → WriterView → Code} :
    Around style text keys depth place w scopes (fun i => body i w.view) →
    Around style text keys depth place w scopes fun i => .look (body i)
  | preamble {keys : String → Prop} {depth : Nat} {w : Writer} {scopes : ι → List Scope}
    {body : ι → Code} {i : ι} : Around style text keys depth .page (w.fragment w.ns) scopes body →
    (outcome ((body i).exec (run depth))
      { w.fragment w.ns with scopes := scopes i }).1.isOk = true →
    Around style text keys depth .front w scopes fun i => .preamble (body i)
  | inlineModule {keys : String → Prop} {depth : Nat} {place : Place} {w : Writer}
    {scopes : ι → List Scope} {m : Module} {body : ι → Code} {i : ι} :
    Around style text keys depth place (w.fragment (w.ns ++ "::" ++ m.name)) scopes body →
    (outcome ((body i).exec (run depth))
      { w.fragment (w.ns ++ "::" ++ m.name) with scopes := scopes i }).1.isOk = true →
    Around style text keys depth .page w scopes fun i => .inlineModule m (body i)
  | template {keys keys' : String → Prop} {depth : Nat} {w v : Writer} {scopes : ι → List Scope}
    {args : ι → List (String × Arg Code)} {bound : ι → Scope} {template out : String}
    {fragment : ι → Code} : (∀ i, Scope.ofArgs (args i) = .ok (bound i)) →
    Splice keys' (depth + 1) w (fun i => bound i :: scopes i) template out v fragment →
    ((Text.lines out).length = 1 → w.page.atLineStart = true) →
    Around style text keys' depth .page (v.fragment v.ns) (fun i => bound i :: scopes i) fragment →
    Around style text keys (depth + 1) .page w scopes fun i => .template template (args i)
  | inlineTemplate {keys keys' : String → Prop} {depth : Nat} {w v : Writer}
    {scopes : ι → List Scope} {args : ι → List (String × Arg Code)} {bound : ι → Scope}
    {template out : String} {fragment : ι → Code} : (∀ i, Scope.ofArgs (args i) = .ok (bound i)) →
    (h : Splice keys' (depth + 1) w (fun i => bound i :: scopes i) template out v fragment) →
    ((Text.lines out).length = 1 → w.page.atLineStart = true) → h.back ≠ [] →
    Around style text keys' depth .page (v.fragment v.ns) (fun i => bound i :: scopes i) fragment →
    Around style text keys (depth + 1) .page w scopes fun i => .inlineTemplate template (args i)
  | blockTemplate {keys keys' : String → Prop} {depth : Nat} {w v : Writer}
    {scopes : ι → List Scope} {args : ι → List (String × Arg Code)} {bound : ι → Scope}
    {header out : String} {fragment : ι → Code} {body : Code} :
    (∀ i, Scope.ofArgs (args i) = .ok (bound i)) → body.MentionsOnly keys' →
    (h : Splice keys' (depth + 1) w.mark (fun i => bound i :: scopes i) header out v fragment) →
    ((Text.lines out).length = 1 → w.page.atLineStart = true) → h.back ≠ [] →
    RendersFlush (depth + 1) w.mark (fun i => bound i :: scopes i) header →
    Around style text keys' depth .page (v.fragment v.ns) (fun i => bound i :: scopes i) fragment →
    Around style text keys (depth + 1) .page w scopes fun i => .blockTemplate header (args i) body
  | before {keys keys' : String → Prop} {depth : Nat} {w v : Writer} {scopes : ι → List Scope}
    {args : ι → List (String × Arg Code)} {bound : ι → Scope} {before after out : String}
    {fragment : ι → Code} {body : Code} : (∀ i, Scope.ofArgs (args i) = .ok (bound i)) →
    body.MentionsOnly keys' →
    Splice keys' (depth + 1) w (fun i => bound i :: scopes i) before out v fragment →
    ((Text.lines out).length = 1 → w.page.atLineStart = true) →
    RendersFlush (depth + 1) w (fun i => bound i :: scopes i) before →
    Template.MentionsOnly keys' after →
    (∃ i, (outcome (renderTemplate (run (depth + 1)) before >>= fun _ =>
      renderTemplate (run (depth + 1)) after) { w with scopes := bound i :: scopes i }).1.isOk =
        true) →
    Around style text keys' depth .page (v.fragment v.ns) (fun i => bound i :: scopes i) fragment →
    Around style text keys (depth + 1) .page w scopes fun i =>
      .withinTemplate before after (args i) body
  | after {keys keys' : String → Prop} {depth : Nat} {w w' v : Writer} {scopes : ι → List Scope}
    {args : ι → List (String × Arg Code)} {bound : ι → Scope} {before first after out : String}
    {fragment : ι → Code} {body : Code} : (∀ i, Scope.ofArgs (args i) = .ok (bound i)) →
    body.MentionsOnly keys' →
    (∀ i, outcome (renderTemplate (run (depth + 1)) before)
      { w with scopes := bound i :: scopes i } =
        (.ok first, { w' with scopes := bound i :: scopes i })) →
    Splice keys' (depth + 1) w' (fun i => bound i :: scopes i) after out v fragment →
    RendersFlush (depth + 1) w' (fun i => bound i :: scopes i) after →
    Around style text keys' depth .page (v.fragment v.ns) (fun i => bound i :: scopes i) fragment →
    Around style text keys (depth + 1) .page w scopes fun i =>
      .withinTemplate before after (args i) body

namespace Code.Around

variable {ι : Type} {style : CommentStyle} {text : ι → String} {keys : String → Prop} {depth : Nat}
  {place : Place} {w : Writer} {scopes : ι → List Scope} {c : ι → Code}

theorem bears [Nonempty ι] (h : Around style text keys depth place w scopes c)
    (hscopes : Scope.Aligned keys scopes) :
    ∃ (r : Except Bool Unit) (u : Writer) (s : ι → Surroundings),
      Bears (fun i => style.lines (text i)) scopes place s ∧
        Uniform (fun i => (c i).exec (run depth)) (fun i => { w with scopes := scopes i }) r
          fun i => u.under (s i) := by
  have hnotes (i : ι) := style.lines_solid (text i)
  -- Code behind the comment must not see it: it runs alike as far as the scopes are bound alike, and
  -- these may differ by the comment itself, which a directive of the template finds there.
  induction h with
  | @comment keys depth w scopes =>
    obtain ⟨u, s, hs, hcomment⟩ := w.comment_bears style text scopes
    exact ⟨.ok (), u, s, hs, .modify hcomment⟩
  | @documented keys depth w scopes m body i hstyle hbody hok =>
    subst hstyle
    obtain ⟨u, s, hs, hrun⟩ := Bears.documented hscopes hbody hok text
    exact ⟨_, u, s, hs, hrun⟩
  | @first keys depth place w scopes first second hfirst hsecond ih =>
    obtain ⟨r, u, s, hs, hrun⟩ := ih hscopes
    cases r with
    | error e => exact ⟨_, u, s, hs, hrun.bind_error⟩
    | ok a =>
      have hsees := exec_seesOnly (fun c hc => run_seesOnly depth hc) second hsecond
      obtain ⟨r, u', hrest⟩ := hsees.uniform (hs.agree hnotes hscopes) u
      exact ⟨r, u', s, hs, .bind hrun.outcome_ok hrest⟩
  | @second keys depth place w v scopes first second hfirst hsecond ih =>
    obtain ⟨r, u, s, hs, hrun⟩ := ih hscopes
    exact ⟨r, u, s, hs, .bind hfirst hrun⟩
  | @attempt keys depth place w scopes body hbody ih =>
    obtain ⟨r, u, s, hs, hrun⟩ := ih hscopes
    obtain ⟨r', hattempt⟩ := hrun.attempt
    exact ⟨r', u, s, hs, hattempt⟩
  | @scope keys keys' depth place w scopes args bound body hbound hinner hbody ih =>
    obtain ⟨r, u, s, hs, hrun⟩ := ih hinner
    exact ⟨r, u, _, hs.rescope scopes, hs.inScope hbound hrun⟩
  | @block keys keys' depth place w v scopes inner block body footer henter hinner hbody ih =>
    obtain ⟨r, u, s, hs, hrun⟩ := ih hinner
    exact ⟨r, u.closeBlock footer, _, hs.rescope scopes, Bears.block henter hrun⟩
  | @withName keys depth place w scopes base body hbody ih =>
    obtain ⟨r, u, s, hs, hrun⟩ := ih hscopes
    exact ⟨r, u, s, hs, hrun⟩
  | @look keys depth place w scopes body hbody ih =>
    obtain ⟨r, u, s, hs, hrun⟩ := ih hscopes
    exact ⟨r, u, s, hs, hrun⟩
  | @preamble keys depth w scopes body i hbody hok ih =>
    obtain ⟨r, u, s, hs, hrun⟩ := ih hscopes
    cases r with
    | error e => exact absurd hok (hrun.not_isOk i)
    | ok a =>
      obtain ⟨u, s, hs, hrun⟩ := hs.preamble hnotes hrun
      exact ⟨_, u, s, hs, hrun⟩
  | @inlineModule keys depth place w scopes m body i hbody hok ih =>
    obtain ⟨r, u, s, hs, hrun⟩ := ih hscopes
    cases r with
    | error e => exact absurd hok (hrun.not_isOk i)
    | ok a =>
      obtain ⟨u, s, hs, hrun⟩ := hs.inlineModule hnotes hrun
      exact ⟨_, u, s, hs, hrun⟩
  | template hbound hsplice hstart _ ih =>
    obtain ⟨r, u, s, hs, hrun⟩ := ih hsplice.aligned
    exact ⟨_, hsplice.template_bears hbound hnotes hs hrun hstart⟩
  | inlineTemplate hbound hsplice hstart hback _ ih =>
    obtain ⟨r, u, s, hs, hrun⟩ := ih hsplice.aligned
    exact ⟨_, hsplice.inlineTemplate_bears hbound hnotes hs hrun hstart hback⟩
  | blockTemplate hbound hbody hsplice hstart hback hflush _ ih =>
    obtain ⟨r, u, s, hs, hrun⟩ := ih hsplice.aligned
    exact hsplice.blockTemplate_bears hbound hnotes hbody hs hrun hstart hback hflush
  | before hbound hbody hsplice hstart hflush hafter hok _ ih =>
    obtain ⟨r, u, s, hs, hrun⟩ := ih hsplice.aligned
    exact hsplice.before_bears hbound hnotes hbody hs hrun hstart hflush hafter hok
  | after hbound hbody hfirst hsplice hflush _ ih =>
    obtain ⟨r, u, s, hs, hrun⟩ := ih hsplice.aligned
    exact hsplice.after_bears hbound hnotes hbody hfirst hs hrun hflush

end Code.Around

/-! ## Files -/

/-- The writers of a file or an inline module that got lines of their own, and may have got more
since: those for code on the way to a comment, or for the documentation of a module. -/
inductive Writer.Commented {ι : Type} : (ι → List String) → (ι → Writer) → Prop where
  | written {style : CommentStyle} {text : ι → String} {depth : Nat} {place : Place} {w : Writer}
    {c : ι → Code} : Code.Around style text (fun _ => True) depth place w (fun _ => w.scopes) c →
    Commented (fun i => style.lines (text i)) fun i => (outcome (run (depth + 1) (c i)) w).2
  | documented {text : ι → String} {w inner : Writer} {m : Module} :
    Commented (fun i => CommentStyle.docs.lines (text i))
      fun i => w.embed (m.documented (text i)) inner
  | declared {text : ι → String} {w inner : Writer} {m parent : Module} : '\n' ∉ m.name.toList →
    Commented (fun i => Module.docLines (text i) ++ [m.declaration])
      fun i => w.embed parent (inner.declare (m.documented (text i)))
  | run {notes : ι → List String} {v : ι → Writer} (depth : Nat) (c : Code) : Commented notes v →
    Commented notes fun i => (outcome (run depth c) (v i)).2
  | declare {notes : ι → List String} {v : ι → Writer} (m : Module) : Commented notes v →
    Commented notes fun i => (v i).declare m
  | embed {notes : ι → List String} {v : ι → Writer} (m : Module) (inner : Writer) :
    Commented notes v → Commented notes fun i => (v i).embed m inner
  | embedded {notes : ι → List String} {inner : ι → Writer} (w : Writer) (m : Module) :
    Commented notes inner → Commented notes fun i => w.embed m (inner i)

namespace Writer.Commented

variable {ι : Type} {notes : ι → List String} {v : ι → Writer}

theorem solid (h : Commented notes v) (i : ι) : Solid (notes i) := by
  induction h with
  | written => exact CommentStyle.lines_solid _ _
  | documented => exact CommentStyle.lines_solid _ _
  | declared hname => exact Module.declared_solid hname _
  | run depth c _ ih => exact ih
  | declare m _ ih => exact ih
  | embed m inner _ ih => exact ih
  | embedded w m _ ih => exact ih

theorem bears [Nonempty ι] (h : Commented notes v) :
    ∃ (place : Place) (scopes : List Scope) (u : Writer) (s : ι → Surroundings),
      Bears notes (fun _ => scopes) place s ∧ v = fun i => u.under (s i) := by
  have haligned (scopes : List Scope) : Scope.Aligned (fun _ => True) fun _ : ι => scopes :=
    fun _ _ => ⟨fun _ _ => rfl, fun _ _ _ _ => Code.argMentionsOnly_any _⟩
  induction h with
  | @written style text depth place w c h =>
    obtain ⟨r, u, s, hs, hrun⟩ := h.bears (haligned w.scopes)
    exact ⟨place, w.scopes, u, s, hs, funext fun i => (hrun i).2⟩
  | @documented text w inner m =>
    obtain ⟨u, s, hs, hembed⟩ := w.embed_documented_bears m text inner fun _ => w.scopes
    exact ⟨.page, w.scopes, u, s, hs, funext hembed⟩
  | @declared text w inner m parent hname =>
    obtain ⟨u, s, hs, hembed⟩ := w.embed_bears (fun i => Module.declared_solid hname (text i))
      parent (inner.declare_declared_shown hname text) fun _ => w.scopes
    exact ⟨.page, w.scopes, u, s, hs, funext hembed⟩
  | @run notes v depth c h ih =>
    obtain ⟨place, scopes, u, s, hs, rfl⟩ := ih
    have hsees := Code.run_seesOnly depth c.mentionsOnly_any
    obtain ⟨r, u', hrun⟩ := hsees.uniform (hs.agree h.solid (haligned scopes)) u
    exact ⟨place, scopes, u', s, hs, funext fun i => (hrun i).2⟩
  | declare m h ih =>
    obtain ⟨place, scopes, u, s, hs, rfl⟩ := ih
    exact ⟨place, scopes, u.declare m, s, hs, rfl⟩
  | embed m inner h ih =>
    obtain ⟨place, scopes, u, s, hs, rfl⟩ := ih
    exact ⟨place, scopes, u.embed m inner, s, hs, funext fun i => Framed.embed m inner u (s i)⟩
  | embedded w m h ih =>
    obtain ⟨place, scopes, u, s, hs, rfl⟩ := ih
    obtain ⟨u', s', hs', hembed⟩ := w.embed_bears h.solid m (hs.shown h.solid u) fun _ => w.scopes
    exact ⟨.page, w.scopes, u', s', hs', funext hembed⟩

/-- The lines are shown, whatever else is written. -/
theorem shown (h : Commented notes v) : Shown notes v := by
  by_cases hne : Nonempty ι
  · obtain ⟨place, scopes, u, s, hs, rfl⟩ := h.bears
    exact hs.shown h.solid u
  · have hnone {P : ι → Prop} (i : ι) : P i := absurd ⟨i⟩ hne
    exact ⟨⟨⟨[], "", []⟩, nofun, hnone⟩, ⟨⟨[], "", []⟩, nofun, hnone⟩, {}, hnone⟩

end Writer.Commented

end CrateGen
