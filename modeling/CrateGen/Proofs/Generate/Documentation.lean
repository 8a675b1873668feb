import CrateGen.Proofs.Code.Confinement
import CrateGen.Proofs.Generate.Success

/-!
Texts of models and settings in generated files. They are comments there, and stay comments wherever
the code with the comments ends up.
-/

namespace CrateGen

open CrateGen.Action
open CrateGen.Code (Around run)
open CrateGen.Text (Slot)

namespace Code.Around

variable {ι : Type} {text : ι → String} {keys : String → Prop} {depth : Nat} {w : Writer}
  {scopes : ι → List Scope}

theorem documentShape {m : Model} {shapes : ι → Shape} (note : Option String)
    (hdocs : ∀ i, documentation? m (shapes i) = some (text i))
    (hink : ∀ i, Text.isBlankText (text i) = false) :
    Around .docs text keys depth .page w scopes fun i =>
      Code.documentShape m (shapes i) note := by
  have hshape (i : ι) : Code.documentShape m (shapes i) note =
      Code.docs (text i) ++ Code.optional note fun n => Code.docs "" ++ Code.docs n := by
    rw [Code.documentShape, hdocs, docsOrFallback, Option.filter_some, hink]
    rfl
  simp only [hshape]
  refine .first .comment ?_
  cases note with
  | none => trivial
  | some n => exact ⟨trivial, trivial⟩

theorem writeRoot {ctx : ι → Context} (operations : List (Symbol Code)) (i : ι) :
    Around .containerDocs (fun i => Generator.description (ctx i)) keys depth .front w scopes
      fun i => Generator.writeRoot (ctx i) operations := by
  have hok : (outcome ((Generator.writeRoot (ctx i) operations).exec (run depth))
      { w with scopes := scopes i }).1.isOk = true := by
    obtain ⟨w', hrun⟩ := Generator.writeRoot_succeeds (ctx i) operations (run depth)
      { w with scopes := scopes i }
    rw [hrun]
    rfl
  unfold Generator.writeRoot at hok ⊢
  refine .preamble (.first (.first .comment ?_) trivial) (isOk_of_onFragment (isOk_of_bind hok))
  split
  · trivial
  · exact ⟨⟨⟨trivial, trivial⟩, trivial⟩, trivial⟩

end Code.Around

theorem Code.documentShape_of_blank {m : Model} {s : Shape} {text : String} (note : Option String)
    (hdocs : documentation? m s = some text) (hblank : Text.isBlankText text = true) :
    documentShape m s note = docsOrFallback none true note := by
  rw [documentShape, hdocs, docsOrFallback, Option.filter_some, hblank]
  rfl

namespace Code

/-- No text gets out of its comment. -/
structure CommentsConfined : Prop where
  /-- A comment ends the line that is being written, and adds a line for each line of its dedented
  text. Nothing else changes. -/
  appended (w : Writer) (style : CommentStyle) (text : String) : w.comment style text =
    { w with
      page := {
        finished := w.ensureNewline.page.finished ++
          ((Text.lines (Text.dedent text)).map fun l =>
            let l := Text.trimEnd (Writer.comment.untab l)
            Page.indentation w.level ++
              (if l == "" then style.marker else style.marker ++ " " ++ l)).toArray
        line := "" } }
  /-- Each of them is one line, behind the marker. -/
  lines (style : CommentStyle) (text : String) :
    ∀ l ∈ style.lines text, '\n' ∉ l.toList ∧ ∃ rest, l = style.marker ++ rest
  /-- However the comment gets into a file, the lines stand at one place there, indented alike. The
  rest of the file is the same whatever the text is. -/
  rendered {ι : Type} {notes : ι → List String} {v : ι → Writer} : Writer.Commented notes v →
    ∃ slot : Slot, slot.Fits notes fun i => (v i).render
  declared {ι : Type} (w : Writer) (m : Module) (text : ι → String) :
    ∃ slot : Slot, slot.Fits (fun i => Module.docLines (text i)) fun i =>
      (w.declare (m.documented (text i))).render
  /-- Documentation of a shape gets into code as a comment only. -/
  shape {ι : Type} {m : Model} {shapes : ι → Shape} {text : ι → String} (note : Option String) :
    (∀ i, documentation? m (shapes i) = some (text i)) →
    (∀ i, Text.isBlankText (text i) = false) →
    ∀ (keys : String → Prop) (depth : Nat) (w : Writer) (scopes : ι → List Scope),
      Around .docs text keys depth .page w scopes fun i => documentShape m (shapes i) note
  blankShape {m : Model} {s : Shape} {text : String} (note : Option String) :
    documentation? m s = some text → Text.isBlankText text = true →
    documentShape m s note = docsOrFallback none true note
  /-- So does the description of the crate, in front of its root file. -/
  description {ι : Type} (ctx : ι → Context) (operations : List (Symbol Code)) (i : ι) :
    ∀ (keys : String → Prop) (depth : Nat) (w : Writer) (scopes : ι → List Scope),
      Around .containerDocs (fun i => Generator.description (ctx i)) keys depth .front w scopes
        fun i => Generator.writeRoot (ctx i) operations

theorem comments_confined : CommentsConfined where
  appended w style text := by
    rw [w.comment_eq, CommentStyle.lines, List.map_map]
    rfl
  lines style text l hl := ⟨(style.firm_lines text l hl).noBreak, style.marker_of_mem_lines hl⟩
  rendered h := h.shown.file
  declared w m text := (w.declare_docLines_shown m text).file
  shape note hdocs hink _ _ _ _ := .documentShape note hdocs hink
  blankShape note hdocs hblank := documentShape_of_blank note hdocs hblank
  description _ operations i _ _ _ _ := .writeRoot operations i

/-- A text as the documentation of a method, in the block of a module that is embedded. -/
def nestedDocs (text : String) : Code :=
  .inlineModule (Module.named "gauges" .exported).asInline <|
    .block "impl Gauge" <|
      .template "#{docs:W}\npub fn read() {}" [("docs", .code (docs text))]

theorem nestedDocs_around :
    Around .docs id (fun _ => True) 1 .page Writer.root (fun _ => []) nestedDocs := by
  let inner : Writer := Writer.root.fragment "crate::gauges"
  let body : Writer := inner.mark.openBlock (Text.trim (WriterM.blockHeader "impl Gauge"))
  have hsplice : Code.Splice (fun _ => False) 1 body
      (fun text => [[("docs", "docs", .code (docs text))]])
      "#{docs:W}\npub fn read() {}" "" body docs :=
    { front := []
      key := "docs"
      kind := some 'W'
      back := "\npub fn read() {}".toList.map .char
      pieces := rfl
      rendersCode := .inr rfl
      bound := fun _ => rfl
      found := fun _ => rfl
      rendered := fun _ => rfl
      alone := rfl
      ended := .inr ⟨_, rfl⟩
      others := fun _ _ hmem => by
        obtain ⟨c, -, hc⟩ := List.mem_map.mp hmem
        cases hc
      aligned := fun _ _ => ⟨nofun, nofun⟩
      succeeds := ⟨"", by decide +kernel⟩ }
  have hbody : Around .docs id (fun _ => False) 1 .page body (fun _ => []) fun text =>
      .template "#{docs:W}\npub fn read() {}" [("docs", .code (docs text))] :=
    .template (fun _ => rfl) hsplice (fun _ => rfl) .comment
  exact .inlineModule (i := "") (.block (fun _ => .block) (fun _ _ => ⟨nofun, nofun⟩) hbody)
    (by decide +kernel)

/-- Whatever its text is, the documentation is a comment in the file of another module. -/
theorem comments_confined_nested : ∃ slot : Slot,
    slot.Fits (fun text => CommentStyle.docs.lines text) fun text =>
      (Writer.root.embed (Module.named "meters" .exported).asInline
        (outcome (run 2 (nestedDocs text)) Writer.root).2).render :=
  comments_confined.rendered (.embedded _ _ (.written nestedDocs_around))

end Code

end CrateGen
