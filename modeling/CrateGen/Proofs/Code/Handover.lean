import CrateGen.Proofs.Code.Passage
import CrateGen.Proofs.Code.Recordings

namespace CrateGen

open CrateGen.Action

namespace Writer

variable {w : Writer} {r : Recording} {text : String}

/-- The text that stands for a recording in the file. Dependencies have none: packages are listed in
the manifest, and items are rendered into modules of their own. -/
def textOf? (w : Writer) : Recording → Option String
  | .package _ | .item _ => none
  | .path path => some ("use " ++ path ++ ";")
  | .child name => w.modules[name]?
  | .preamble text => some text

/-- A section that a line stands in is written. -/
theorem lines_infix_section {t : String} {ls sections : List String} (ht : t ∈ ls) (hne : t ≠ "")
    (hs : Text.unlines ls ∈ sections) :
    Text.lines t <:+: Text.lines (Text.joinSections sections) := by
  have hsection := Text.lines_infix_unlines ht
  exact hsection.trans
    (Text.lines_infix_joinSections hs (Text.ne_empty_of_lines_infix hsection hne))

theorem lines_infix_render_of_contents (h : Text.lines text <:+: Text.lines w.contents)
    (hne : text ≠ "") : Text.lines text <:+: Text.lines w.render := by
  unfold render
  rw [Text.lines_ended]
  refine h.trans (List.IsInfix.trans ?_ (List.prefix_append _ _).isInfix)
  apply Text.lines_infix_joinSections _ (Text.ne_empty_of_lines_infix h hne)
  simp only [List.mem_cons, true_or, or_true]

theorem lines_infix_render (h : w.Holds r) (htext : w.textOf? r = some text) (hne : text ≠ "") :
    Text.lines text <:+: Text.lines w.render := by
  cases r with
  | package d => cases htext
  | item key => cases htext
  | path path =>
    cases htext
    refine lines_infix_render_of_contents (lines_infix_section ?_ hne List.mem_cons_self) hne
    exact List.mem_map_of_mem (Std.ExtTreeSet.mem_toList.mpr h)
  | child name =>
    have hvalue : text ∈ w.modules.values := SortedMap.mem_values.mpr ⟨name, htext⟩
    refine lines_infix_render_of_contents (lines_infix_section hvalue hne ?_) hne
    exact List.mem_cons_of_mem _ List.mem_cons_self
  | preamble text' =>
    cases htext
    unfold render
    rw [Text.lines_ended]
    exact (lines_infix_section h hne List.mem_cons_self).trans (List.prefix_append _ _).isInfix

/-- A writer comes to another one: code is run on it, the rest of a template is rendered, it is
written on, or scopes are pushed and popped. -/
inductive Reaches (w : Writer) : Writer → Prop where
  | refl : Reaches w w
  | run {w' : Writer} (fuel : Nat) (code : Code) :
    Reaches w w' → Reaches w (outcome (code.run fuel) w').2
  | rest {w' : Writer} (fuel : Nat) (out : String) (pieces : List Template.Piece) :
    Reaches w w' → Reaches w (outcome (Code.expand (Code.run fuel) out pieces) w').2
  | page {w' : Writer} {g : Writer → Writer} (hg : OnPage g) : Reaches w w' → Reaches w (g w')
  | scopes {w' : Writer} (scopes : List Scope) : Reaches w w' → Reaches w { w' with scopes }

theorem Reaches.holds {w' : Writer} (h : w.Reaches w') (hr : w.Holds r) : w'.Holds r := by
  induction h with
  | refl => exact hr
  | run fuel code _ ih => exact (Code.run_logged fuel code _).mpr (.inl ih)
  | rest fuel out pieces _ ih =>
    exact (Code.expand_logged (Code.run_logged fuel) out pieces _).mpr (.inl ih)
  | page hg _ ih => exact (OnPage.holds _ hg).mpr ih
  | scopes scopes _ ih => exact (holds_scopes _ scopes).mpr ih

end Writer

namespace Code

/-- What a writer has of a fragment that was written for it: everything that the fragment recorded,
but in front of the file only what is `own` to the writer. -/
structure TakenOver (depth : Nat) (c : Code) (w child w' : Writer) (own : List String) :
    Prop where
  cargo : ∀ d, d ∈ w'.dependencies.cargo ↔
    d ∈ w.dependencies.cargo ∨ d ∈ child.dependencies.cargo
  inline : ∀ key : String, w'.dependencies.inline[key]? =
    w.dependencies.inline[key]?.or child.dependencies.inline[key]?
  uses : ∀ path : String, path ∈ w'.uses ↔ path ∈ w.uses ∨ path ∈ child.uses
  modules : ∀ name : String, w'.modules[name]? = w.modules[name]?.or child.modules[name]?
  preamble : w'.preamble = w.preamble ++ own
  /-- Of the fragments in the fragment, too. -/
  recorded : ∀ r, r.Merged → Records r True depth c (w.fragment w.ns) → w'.Holds r
  later : ∀ w'' r text, w'.Reaches w'' → w'.Holds r → w''.Holds r ∧
    (w''.textOf? r = some text → text ≠ "" → Text.lines text <:+: Text.lines w''.render)

variable {depth : Nat} {c : Code} {w child : Writer}

theorem TakenOver.of_merge {own : List String}
    (hrun : outcome (run depth c) (w.fragment w.ns) = (.ok (), child)) :
    TakenOver depth c w child
      { { w with issued := child.issued }.merge child with preamble := w.preamble ++ own } own where
  cargo _ := Dependencies.mem_merge
  inline key := SortedMap.getElem?_foldl_insertIfNew _ _ key
  uses _ := SortedSet.mem_foldl_insert
  modules name := SortedMap.getElem?_foldl_insertIfNew _ _ name
  preamble := rfl
  recorded r hr hrecords := by
    have hlog := run_logged (r := r) depth c (w.fragment w.ns)
    rw [hrun, eq_true hr] at hlog
    have hchild : child.Holds r := hlog.mpr (.inr hrecords)
    have hmerge := ({ w with issued := child.issued }).holds_merge (r := r) child
    have hheld := hmerge.mpr (.inr ⟨hr, hchild⟩)
    cases r with
    | preamble text => exact hr.elim
    | package _ | item _ | path _ | child _ => exact hheld
  later w'' r text hreach hr :=
    have hheld := hreach.holds hr
    ⟨hheld, fun htext hne => Writer.lines_infix_render hheld htext hne⟩

/-- A fragment that succeeds is rendered, or set in front of the file, and nothing that it recorded
is lost but what was to stand in front of it. -/
theorem fragment_takenOver (hrun : outcome (run depth c) (w.fragment w.ns) = (.ok (), child)) :
    (∀ key kind, Scope.lookup w.scopes key = some (.code c) → kind = 'T' ∨ kind = 'W' →
      ∃ text w', outcome (renderDirective (run depth) key kind) w = (.ok text, w') ∧
        TakenOver depth c w child w' []) ∧
    ∃ w', outcome (run depth (.preamble c)) w = (.ok (), w') ∧
      TakenOver depth c w child w' [Text.trimEnd child.page.text] := by
  constructor
  · intro key kind hkey hkind
    have hdirective : outcome (renderDirective (run depth) key kind) w =
        outcome (renderFragment (run depth) c) w := by
      rw [renderDirective, outcome_bind_ok (outcome_get w), hkey]
      rcases hkind with rfl | rfl <;> rfl
    have htaken : TakenOver depth c w child _ [] := .of_merge hrun
    rw [List.append_nil] at htaken
    exact ⟨_, _, hdirective.trans (outcome_renderFragment hrun), htaken⟩
  · cases depth with
    | zero => cases hrun
    | succ depth => exact ⟨_, outcome_bind_ok (outcome_onFragment_ok id hrun), .of_merge hrun⟩

/-- A fragment with another one in it, and code in front of it. -/
def recordingFragment : Code :=
  .preamble (.line "#![allow(clippy::all)]") ++
    .depend (.cargo { name := "tracing", version := "0.1" }) ++
    .template "#{inner}" [("inner", .code (.addUse "std::fmt::Debug" ++ .line "fn f();"))]

def recordingWriter : Writer :=
  { Writer.root with scopes := [[("w", "w", .code recordingFragment)]] }

theorem fragment_takenOver_nested :
    let fragment := recordingWriter.fragment recordingWriter.ns
    let child := (outcome (run 2 recordingFragment) fragment).2
    Records (.path "std::fmt::Debug") True 2 recordingFragment fragment ∧
      (∃ text w', outcome (renderDirective (run 2) "w" 'W') recordingWriter = (.ok text, w') ∧
        TakenOver 2 recordingFragment recordingWriter child w' []) ∧
      ∃ w', outcome (run 2 (.preamble recordingFragment)) recordingWriter = (.ok (), w') ∧
        TakenOver 2 recordingFragment recordingWriter child w' [Text.trimEnd child.page.text] := by
  intro fragment child
  have hrun : outcome (run 2 recordingFragment) fragment = (.ok (), child) :=
    outcome_of_isOk (by decide +kernel)
  obtain ⟨hdirective, hfirst⟩ := fragment_takenOver hrun
  have hheld : child.Holds (.path "std::fmt::Debug") :=
    show "std::fmt::Debug" ∈ child.uses by decide +kernel
  have hrecords := ((run_logged 2 recordingFragment fragment).mp hheld).resolve_left
    (recordingWriter.fragment_holds recordingWriter.ns)
  exact ⟨hrecords, hdirective "w" 'W' rfl (.inr rfl), hfirst⟩

/-- What stands in front of a fragment is lost where the fragment is rendered. -/
theorem fragment_losesPreamble :
    let c := Code.preamble (.line "#![allow(clippy::all)]") ++ .line "pub struct A;"
    let w' := (outcome (run 2 (.template "#{w:W}" [("w", .code c)])) Writer.root).2
    (outcome (run 1 c) (Writer.root.fragment "crate")).1.isOk = true ∧
      Records (.preamble "#![allow(clippy::all)]") True 1 c (Writer.root.fragment "crate") ∧
        ¬w'.Holds (.preamble "#![allow(clippy::all)]") ∧
          w'.render = banner ++ "\n\npub struct A;\n" := by
  intro c w'
  refine ⟨by decide +kernel, ?_, ?_, by decide +kernel⟩
  · exact .inl ⟨_, outcome_of_isOk (by decide +kernel),
      .inr (congrArg Recording.preamble (by decide +kernel))⟩
  · exact show "#![allow(clippy::all)]" ∉ w'.preamble by decide +kernel

end Code

end CrateGen
