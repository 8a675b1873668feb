import CrateGen.Proofs.Code.Finalize
import CrateGen.Proofs.Code.Writes

namespace CrateGen

open CrateGen.Action

/-- Code that does not fail, whichever writer it is run on. -/
def Code.Succeeds (c : Code) : Prop :=
  ∀ (splice : Code → WriterM Unit) (w : Writer), ∃ w', outcome (c.exec splice) w = (.ok (), w')

namespace Code.Succeeds

variable {first second body : Code}

theorem nothing : Code.nothing.Succeeds :=
  fun _ w => ⟨w, rfl⟩

theorem line (text : String) : (Code.line text).Succeeds :=
  fun _ _ => ⟨_, rfl⟩

theorem comment (style : CommentStyle) (text : String) : (Code.comment style text).Succeeds :=
  fun _ _ => ⟨_, rfl⟩

theorem optional {text : Option String} {f : String → Code} (h : ∀ t, (f t).Succeeds) :
    (Code.optional text f).Succeeds := by
  cases text with
  | none => exact nothing
  | some t => exact h t

theorem seq (h : first.Succeeds) (h' : second.Succeeds) : (first ++ second).Succeeds := by
  intro splice w
  obtain ⟨w₁, hfirst⟩ := h splice w
  obtain ⟨w₂, hsecond⟩ := h' splice w₁
  exact ⟨w₂, (outcome_bind_ok hfirst).trans hsecond⟩

theorem block (header : String) (h : body.Succeeds) : (Code.block header body).Succeeds := by
  intro splice w
  rw [Code.exec, outcome_bind_ok (outcome_modify _ w), WriterM.within, outcome_between]
  obtain ⟨w₁, hbody⟩ := h splice
    (w.mark.openBlock (Text.trim (WriterM.blockHeader (Text.dedent header))))
  rw [hbody]
  exact ⟨_, rfl⟩

theorem preamble (h : body.Succeeds) : (Code.preamble body).Succeeds := by
  intro splice w
  obtain ⟨child, hbody⟩ := h splice (w.fragment w.ns)
  have hfragment := outcome_onFragment id (body.exec splice) w
  rw [id, hbody] at hfragment
  rw [Code.exec, outcome_bind_ok hfragment]
  exact ⟨_, rfl⟩

theorem of_writes {c : Code} (h : ∀ scopes, ∃ es, Code.Writes scopes c es) : c.Succeeds := by
  intro splice w
  obtain ⟨es, hwrites⟩ := h w.scopes
  obtain ⟨ds, hrun⟩ := hwrites splice w rfl
  exact ⟨_, hrun⟩

end Code.Succeeds

theorem Crate.exists_write_of_succeeds {code : Code} (h : code.Succeeds) {m : Module}
    (hm : m.Rooted) (c : Crate) :
    ∃ c', ∀ depth, outcome (Crate.write (depth + 1) m code) c = (.ok (), c') := by
  obtain ⟨w, hrun⟩ := h (Code.run 0) (c.target m)
  have hrun : outcome (code.run 1) (c.target m) = (.ok (), w) := hrun
  obtain ⟨c', hwrite⟩ := exists_write hm hrun
  exact ⟨c', fun depth => (write_below m code (Nat.le_add_left 1 depth)).outcome_ok hwrite⟩

namespace Crate

variable {c : Crate} {P : InlineItem Code → Prop}

/-- Inline items of finitely many keys that do not fail and refer to each other only are
resolvable. -/
theorem resolvable_of_refersTo (hc : c.All (Writer.RefersTo P))
    (hroot : ∀ i, P i → i.module.Rooted) (hsucceeds : ∀ i, P i → i.code.Succeeds)
    (hcode : ∀ i, P i → i.code.Permitted { item := P }) {keys : List String}
    (hkeys : ∀ i, P i → i.key ∈ keys) : Resolvable c where
  rooted s hs i hi := hroot i ((hs.refersTo hc hcode).items hi)
  succeeds c' i todo hs := by
    have hi := (hs.refersTo hc hcode).items (hs.todo_mem List.mem_cons_self)
    obtain ⟨w, hrun⟩ := hsucceeds i hi (Code.run 0) ((c'.marked i).target i.module)
    exact ⟨1, w, hrun⟩
  finite := ⟨keys, fun s hs i hi => hkeys i ((hs.refersTo hc hcode).items hi)⟩

theorem Writings.written {writes : List (Module × Code)} {c' : Crate} (h : c.Writings writes c')
    (hc : Written c) (hm : ∀ write ∈ writes, write.1.Rooted) : Written c' := by
  induction h with
  | nil => exact hc
  | cons hwrite _ ih =>
    exact ih (.write hc (hm _ List.mem_cons_self) hwrite)
      fun write hmem => hm write (List.mem_cons_of_mem _ hmem)

theorem exists_writings {writes : List (Module × Code)}
    (h : ∀ write ∈ writes, write.1.Rooted ∧ write.2.Succeeds) (c : Crate) :
    ∃ c', c.Writings writes c' := by
  induction writes generalizing c with
  | nil => exact ⟨c, .nil c⟩
  | cons write writes ih =>
    obtain ⟨hm, hcode⟩ := h write List.mem_cons_self
    obtain ⟨c₁, hwrite⟩ := exists_write_of_succeeds hcode hm c
    obtain ⟨c', hrest⟩ := ih (fun write hmem => h write (List.mem_cons_of_mem _ hmem)) c₁
    exact ⟨c', .cons (hwrite 0) hrest⟩

/-- Nothing is left to render where no code refers to an inline item. -/
theorem Writings.rounds {showsBanner debugMode : Bool} {writes : List (Module × Code)}
    (h : Writings { showsBanner, debugMode } writes c)
    (hcode : ∀ write ∈ writes, write.2.Permitted { item := fun _ => False }) : Rounds c [] c := by
  have hall : c.All (Writer.RefersTo fun _ => False) :=
    All.writings h (Writer.RefersTo.inherent _) (.new showsBanner debugMode)
      fun write hmem fuel _ hw => hw.run (hcode write hmem) fuel
  refine .done (List.eq_nil_iff_forall_not_mem.mpr ?_)
  intro i hi
  exact hall.items (mem_pending hi).1

end Crate

end CrateGen
