import CrateGen.Proofs.Code.Provenance
import CrateGen.Proofs.Code.Resolution

namespace CrateGen

open CrateGen.Action

namespace Crate

variable {c c' c'' c₀ : Crate} {i : InlineItem Code} {todo : List (InlineItem Code)}

/-- A crate that code was written into, and nothing else was done with. -/
inductive Written : Crate → Prop
  | fresh (showsBanner debugMode : Bool) : Written { showsBanner, debugMode }
  | write {c c' : Crate} {m : Module} {code : Code} {fuel : Nat} :
      Written c → m.Rooted → outcome (write fuel m code) c = (.ok (), c') → Written c'

namespace Written

theorem rendered (h : Written c) : c.rendered = [] := by
  induction h with
  | fresh => rfl
  | write _ _ hw ih =>
    obtain ⟨files, inlineModules, hrest⟩ := (write_ok hw).rest
    rw [hrest]
    exact ih

theorem finalized (h : Written c) : c.finalized = false := by
  induction h with
  | fresh => rfl
  | write _ _ hw ih =>
    obtain ⟨files, inlineModules, hrest⟩ := (write_ok hw).rest
    rw [hrest]
    exact ih

theorem rooted (h : Written c) : Inlines.Rooted c.inlineModules := by
  induction h with
  | fresh =>
    intro path m w hw
    rw [Std.ExtTreeMap.getElem?_empty] at hw
    cases hw
  | write _ hm hw ih =>
    intro path m' w' hw'
    rcases (write_ok hw).modules hw' with rfl | ⟨w, hw⟩
    · exact hm
    · exact ih path m' w hw

end Written

/-- The crate while its inline items are rendered, and the items that are left of the round. -/
structure Worklist where
  crate : Crate
  todo : List (InlineItem Code)

inductive Worklist.Next : Worklist → Worklist → Prop
  | round {c : Crate} : c.pending ≠ [] → Next ⟨c, []⟩ ⟨c, c.pending⟩
  | item {c c' : Crate} {i : InlineItem Code} {todo : List (InlineItem Code)} :
      c.Renders i c' → Next ⟨c, i :: todo⟩ ⟨c', todo⟩

/-- What the rendering of inline items comes to on its way. -/
def Reaches (c : Crate) : Worklist → Prop :=
  Relation.ReflTransGen Worklist.Next ⟨c, []⟩

/-- Wherever the rendering of inline items comes to, the items are for modules below the crate, the
code of the next one does not fail, and all keys are among finitely many. Items may refer to each
other in cycles, which are cycles of keys: an item holds the items that it refers to, and only the
first one of a key is rendered. -/
structure Resolvable (c : Crate) : Prop where
  rooted : ∀ s, c.Reaches s → ∀ i ∈ s.crate.items, i.module.Rooted
  succeeds : ∀ c' i todo, c.Reaches ⟨c', i :: todo⟩ →
    ∃ fuel w, outcome (i.code.run fuel) ((c'.marked i).target i.module) = (.ok (), w)
  finite : ∃ keys : List String, ∀ s, c.Reaches s → ∀ i ∈ s.crate.items, i.key ∈ keys

namespace Reaches

theorem todo_mem {s : Worklist} (h : c.Reaches s) : s.todo ⊆ s.crate.items := by
  induction h with
  | refl => exact List.nil_subset _
  | tail _ hnext ih =>
    cases hnext with
    | round hne =>
      intro i hi
      exact (mem_pending hi).1
    | item hr =>
      intro i hi
      exact hr.items_grow (ih (List.mem_cons_of_mem _ hi))

theorem round (h : c.Reaches ⟨c', []⟩) (hne : c'.pending ≠ []) : c.Reaches ⟨c', c'.pending⟩ :=
  h.tail (.round hne)

theorem item (h : c.Reaches ⟨c', i :: todo⟩) (hr : c'.Renders i c'') : c.Reaches ⟨c'', todo⟩ :=
  h.tail (.item hr)

theorem steps {steps : List Step} (h : c.Reaches ⟨c', steps.map (·.item)⟩)
    (hs : Steps c' steps c'') : c.Reaches ⟨c'', []⟩ := by
  induction hs with
  | nil => exact h
  | cons hr _ ih => exact ih (h.item hr)

end Reaches

namespace Resolvable

theorem exists_renders (h : Resolvable c₀) (hr : c₀.Reaches ⟨c, i :: todo⟩) :
    ∃ c', c.Renders i c' := by
  obtain ⟨fuel, w, hrun⟩ := h.succeeds c i todo hr
  have hmem : i ∈ c.items := hr.todo_mem List.mem_cons_self
  have hrooted := h.rooted _ hr i hmem
  obtain ⟨c', hwrite⟩ := exists_write hrooted hrun
  exact ⟨c', fuel, hwrite⟩

theorem exists_steps (h : Resolvable c₀) (hr : c₀.Reaches ⟨c, todo⟩) :
    ∃ steps c', steps.map (·.item) = todo ∧ Steps c steps c' := by
  induction todo generalizing c with
  | nil => exact ⟨[], c, rfl, .nil c⟩
  | cons i todo ih =>
    obtain ⟨c', hi⟩ := h.exists_renders hr
    obtain ⟨steps, c'', hitems, hsteps⟩ := ih (hr.item hi)
    refine ⟨⟨i, c, c'⟩ :: steps, c'', ?_, .cons hi hsteps⟩
    rw [List.map_cons, hitems]

/-- Every round renders keys that are new, and there are not more than `keys`. -/
theorem exists_rounds_of_keys (h : Resolvable c₀) {keys : List String}
    (hkeys : ∀ s, c₀.Reaches s → ∀ i ∈ s.crate.items, i.key ∈ keys) {n : Nat}
    (hr : c₀.Reaches ⟨c, []⟩) (hnodup : c.rendered.Nodup) (hknown : c.rendered ⊆ keys)
    (hn : keys.length < c.rendered.length + n) : ∃ rounds c', Rounds c rounds c' := by
  induction n generalizing c with
  | zero =>
    have hle := hnodup.length_le_of_subset hknown
    omega
  | succ n ih =>
    by_cases hpending : c.pending = []
    · exact ⟨[], c, .done hpending⟩
    · have hround := hr.round hpending
      obtain ⟨steps, c', hitems, hsteps⟩ := h.exists_steps hround
      rw [← hitems] at hround
      have hrendered := hsteps.rendered
      have hpos : 0 < steps.length := by
        rw [← List.length_map (·.item), hitems]
        exact List.length_pos_iff.mpr hpending
      have hlength : c'.rendered.length = c.rendered.length + steps.length := by
        rw [hrendered, List.length_append, List.length_map]
      have hknown' : c'.rendered ⊆ keys := by
        rw [hrendered]
        apply List.append_subset.mpr
        refine ⟨hknown, ?_⟩
        intro k hk
        obtain ⟨s, hs, rfl⟩ := List.mem_map.mp hk
        have hitem : s.item ∈ c.pending := by
          rw [← hitems]
          exact List.mem_map_of_mem hs
        exact hkeys _ hr s.item (mem_pending hitem).1
      obtain ⟨rounds, c'', hrounds⟩ := ih (hround.steps hsteps)
        (nodup_round hsteps hitems hnodup) hknown' (by omega)
      exact ⟨steps :: rounds, c'', .round hpending hitems hsteps hrounds⟩

theorem exists_rounds (h : Resolvable c) (hc : c.rendered = []) :
    ∃ rounds c', Rounds c rounds c' := by
  obtain ⟨keys, hkeys⟩ := h.finite
  apply h.exists_rounds_of_keys hkeys .refl
  · rw [hc]
    exact List.nodup_nil
  · rw [hc]
    exact List.nil_subset keys
  · exact Nat.lt_add_left _ (Nat.lt_succ_self keys.length)

end Resolvable

theorem outcome_finalize_of_finalized (fuel : Nat) (h : c.finalized = true) :
    outcome (finalize fuel) c = (.ok (), c) := by
  unfold finalize
  rw [outcome_bind_ok (outcome_get c), h]
  rfl

theorem outcome_finalize {fuel : Nat} (hc : c.finalized = false)
    (h : outcome (renderPending fuel fuel) c = (.ok (), c'))
    (hembed : outcome embedAll c' = (.ok (), c'')) :
    outcome (finalize fuel) c = (.ok (), { c'' with finalized := true }) := by
  unfold finalize
  rw [outcome_bind_ok (outcome_get c), hc, if_neg Bool.false_ne_true]
  exact (outcome_bind_ok h).trans (outcome_bind_ok hembed)

theorem finalize_eq_ok {fuel : Nat} (hc : c.finalized = false)
    (h : outcome (finalize fuel) c = (.ok (), c')) :
    ∃ c₁ c₂, outcome (renderPending fuel fuel) c = (.ok (), c₁) ∧
      outcome embedAll c₁ = (.ok (), c₂) ∧ c' = { c₂ with finalized := true } := by
  unfold finalize at h
  rw [outcome_bind_ok (outcome_get c), hc, if_neg Bool.false_ne_true] at h
  obtain ⟨_, c₁, hrender, h⟩ := outcome_bind_eq_ok.mp h
  obtain ⟨_, c₂, hembed, h⟩ := outcome_bind_eq_ok.mp h
  cases h
  exact ⟨c₁, c₂, hrender, hembed, rfl⟩

theorem Rounds.reaches {rounds : List (List Step)} (h : Rounds c' rounds c'')
    (hr : c.Reaches ⟨c', []⟩) : c.Reaches ⟨c'', []⟩ := by
  induction h with
  | done => exact hr
  | round hne hitems hsteps _ ih =>
    have hround := hr.round hne
    rw [← hitems] at hround
    exact ih (hround.steps hsteps)

namespace Worklist.Next

variable {s s' : Worklist}

theorem unique : Relator.RightUnique Worklist.Next := by
  intro s s₁ s₂ h₁ h₂
  cases h₁ with
  | round =>
    cases h₂
    rfl
  | item hr =>
    cases h₂ with
    | item hr' =>
      have hc := hr.unique hr'
      subst hc
      rfl

theorem items_grow (h : Next s s') : s.crate.items ⊆ s'.crate.items := by
  cases h with
  | round => exact List.Subset.refl _
  | item hr => exact hr.items_grow

end Worklist.Next

theorem Worklist.items_grow {s s' : Worklist} (h : Relation.ReflTransGen Next s s') :
    s.crate.items ⊆ s'.crate.items := by
  induction h with
  | refl => exact List.Subset.refl _
  | tail _ hnext ih => exact List.Subset.trans ih hnext.items_grow

/-- A way that ends is the only one. -/
theorem Reaches.leads_to_end {rounds : List (List Step)} {s : Worklist} (h : Rounds c rounds c')
    (hs : c.Reaches s) : Relation.ReflTransGen Worklist.Next s ⟨c', []⟩ := by
  rcases Relation.ReflTransGen.total_of_right_unique Worklist.Next.unique hs (h.reaches .refl) with
    hend | hend
  · exact hend
  · rcases hend.cases_head with heq | ⟨s', hnext, -⟩
    · rw [heq]
    · cases hnext with
      | round hne => exact absurd h.pending hne

/-- Whatever is rendered in rounds is resolvable. -/
theorem resolvable_of_rounds {rounds : List (List Step)} (h : Rounds c rounds c')
    (hrooted : ∀ i ∈ c'.items, i.module.Rooted) : Resolvable c := by
  have hgrow (s : Worklist) (hs : c.Reaches s) : s.crate.items ⊆ c'.items :=
    Worklist.items_grow (Reaches.leads_to_end h hs)
  constructor
  · intro s hs i hi
    exact hrooted i (hgrow s hs hi)
  · intro c₁ i todo hs
    rcases (Reaches.leads_to_end h hs).cases_head with heq | ⟨s', hnext, -⟩
    · cases heq
    · cases hnext with
      | item hr =>
        obtain ⟨fuel, w, hrun, -⟩ := hr.writes.own
        exact ⟨fuel, w, hrun⟩
  · refine ⟨c'.items.map (·.key), ?_⟩
    intro s hs i hi
    exact List.mem_map_of_mem (hgrow s hs hi)

theorem resolvable_of_renderPending {fuel rounds : Nat}
    (hok : (outcome (renderPending fuel rounds) c).1.isOk = true)
    (hrooted : ∀ i ∈ (outcome (renderPending fuel rounds) c).2.items, i.module.Rooted) :
    Resolvable c := by
  cases h : outcome (renderPending fuel rounds) c with
  | mk r c' =>
    rw [h] at hok hrooted
    cases r with
    | error e => cases hok
    | ok u =>
      obtain ⟨rounds, hrounds⟩ := Rounds.of_renderPending h
      exact resolvable_of_rounds hrounds hrooted

theorem Reaches.refersTo {P : InlineItem Code → Prop} (hc : c.All (Writer.RefersTo P))
    (hcode : ∀ i, P i → i.code.Permitted { item := P }) {s : Worklist} (h : c.Reaches s) :
    s.crate.All (Writer.RefersTo P) := by
  induction h with
  | refl => exact hc
  | tail hreach hnext ih =>
    cases hnext with
    | round => exact ih
    | @item c' _ i todo hr =>
      obtain ⟨fuel, hwrite⟩ := hr
      have hmarked : (c'.marked i).All (Writer.RefersTo P) := ⟨ih.files, ih.inlineModules⟩
      have hi : P i := ih.items (Reaches.todo_mem hreach List.mem_cons_self)
      exact hmarked.write (Writer.RefersTo.inherent P) (fun hw => hw.run (hcode i hi) fuel) hwrite

/-- A crate whose inline items are resolvable is finalized. -/
theorem Written.exists_finalize (hc : Written c) (h : Resolvable c) :
    ∃ (rounds : List (List Step)) (c₁ c' : Crate) (fuel₀ : Nat),
      Rounds c rounds c₁ ∧ c'.rendered = c₁.rendered ∧ c'.finalized = true ∧
      ∀ fuel ≥ fuel₀, outcome (renderPending fuel fuel) c = (.ok (), c₁) ∧
        outcome (finalize fuel) c = (.ok (), c') := by
  obtain ⟨rounds, c₁, hrounds⟩ := h.exists_rounds hc.rendered
  have hitems (s : Step) (hs : s ∈ rounds.flatten) : s.item.module.Rooted :=
    h.rooted _ (hrounds.reaches .refl) s.item
      (hrounds.steps.after_grow hs ((hrounds.steps.renders hs).items_grow (hrounds.item_mem s hs)))
  have hroot := hrounds.steps.rooted hitems hc.rooted
  obtain ⟨fuel₁, hrender⟩ := hrounds.outcome_renderPending
  have hfuel (fuel : Nat) (hf : fuel ≥ max fuel₁ (rounds.length + 1)) :
      outcome (renderPending fuel fuel) c = (.ok (), c₁) :=
    hrender fuel (Nat.le_trans (Nat.le_max_left _ _) hf) fuel
      (Nat.le_trans (Nat.le_max_right _ _) hf)
  obtain ⟨files, hembed⟩ := embedAll_ok hroot
  exact ⟨rounds, c₁, { c₁ with files, inlineModules := ∅, finalized := true },
    max fuel₁ (rounds.length + 1), hrounds, rfl, rfl,
    fun fuel hf => ⟨hfuel fuel hf, outcome_finalize hc.finalized (hfuel fuel hf) hembed⟩⟩

/-- Finalizing renders the least set of keys that holds the recorded ones and what rendering their
items records, each key once, and finalizing again changes nothing. -/
theorem finalize_resolves (hc : Written c) (h : Resolvable c) :
    ∃ (rounds : List (List Step)) (c₁ c' : Crate) (fuel₀ : Nat),
      Resolution c rounds c₁ ∧ c'.rendered = c₁.rendered ∧
      (∀ fuel ≥ fuel₀, outcome (renderPending fuel fuel) c = (.ok (), c₁) ∧
        outcome (finalize fuel) c = (.ok (), c')) ∧
      ∀ fuel, outcome (finalize fuel) c' = (.ok (), c') := by
  obtain ⟨rounds, c₁, c', fuel₀, hrounds, hrendered, hfinalized, hfuel⟩ := hc.exists_finalize h
  exact ⟨rounds, c₁, c', fuel₀, hrounds.resolution hc.rendered, hrendered, hfuel,
    fun fuel => outcome_finalize_of_finalized fuel hfinalized⟩

/-! ## Helpers -/

theorem write_root_eq {code : Code} {w : Writer}
    (hrun : outcome (Code.run 1 code) (target {} .root) = (.ok (), w)) :
    outcome (write 1 .root code) {} = (.ok (), (outcome (write 1 .root code) {}).2) := by
  obtain ⟨c, hwrite⟩ := exists_write Module.rooted_root hrun
  rw [hwrite]

def helpers : Module :=
  .named "helpers" .inCrate

def detail : Module :=
  ((Module.named "detail" .hidden).childOf helpers).asInline

/-- A helper in an inline module, which refers back to the key of the helper that needs it. -/
def padItem : InlineItem Code :=
  let back := { key := "crate::helpers::encode", module := helpers, code := .nothing }
  { key := "crate::helpers::detail::pad", module := detail,
    code := .seq (.depend (.inline back)) (.line "pub(crate) fn pad() {}") }

def encodeItem : InlineItem Code :=
  { key := "crate::helpers::encode", module := helpers,
    code := .seq (.depend (.inline padItem)) (.line "pub(crate) fn encode() {}") }

def encoder : Crate :=
  (outcome (write 1 .root (.depend (.inline encodeItem))) {}).2

/-- An item that two others refer to. -/
def alphabetItem : InlineItem Code :=
  { key := "crate::helpers::detail::alphabet", module := detail,
    code := .line "pub(crate) fn alphabet() {}" }

def hexItem : InlineItem Code :=
  { key := "crate::helpers::hex", module := helpers,
    code := .seq (.depend (.inline alphabetItem)) (.line "pub(crate) fn hex() {}") }

def base64Item : InlineItem Code :=
  { key := "crate::helpers::base64", module := helpers,
    code := .seq (.depend (.inline alphabetItem)) (.line "pub(crate) fn base64() {}") }

def codecItems : List (InlineItem Code) :=
  [alphabetItem, hexItem, base64Item]

def codecRoot : Code :=
  .seq (.depend (.inline hexItem)) (.depend (.inline base64Item))

/-- A crate whose root refers to two items that share the third. -/
def codec : Crate :=
  (outcome (write 1 .root codecRoot) {}).2

theorem helpers_checked : ∀ c ∈ [encoder, codec],
    (outcome (renderPending 1 3) c).1.isOk = true ∧
      ∀ i ∈ (outcome (renderPending 1 3) c).2.items, i.module.Rooted := by
  decide +kernel

theorem helpers_resolvable : ∀ c ∈ [encoder, codec], Resolvable c := by
  intro c hc
  obtain ⟨hok, hrooted⟩ := helpers_checked c hc
  exact resolvable_of_renderPending hok hrooted

/-- Keys may be needed for themselves. -/
theorem encoder_resolvable : Written encoder ∧ Resolvable encoder := by
  have hrun : outcome (Code.run 1 (.depend (.inline encodeItem))) (target {} .root) =
      (.ok (), (target {} .root).depend (.inline encodeItem)) := rfl
  exact ⟨.write (.fresh false false) Module.rooted_root (write_root_eq hrun),
    helpers_resolvable _ List.mem_cons_self⟩

theorem codec_writes : outcome (write 1 .root codecRoot) {} = (.ok (), codec) := by
  have hrun : outcome (Code.run 1 codecRoot) (target {} .root) =
      (.ok (), ((target {} .root).depend (.inline hexItem)).depend (.inline base64Item)) := rfl
  exact write_root_eq hrun

theorem codec_refersTo {s : Worklist} (h : codec.Reaches s) :
    s.crate.All (Writer.RefersTo (· ∈ codecItems)) := by
  have halphabet : alphabetItem ∈ codecItems := List.mem_cons_self
  have hhex : hexItem ∈ codecItems := List.mem_cons_of_mem _ List.mem_cons_self
  have hbase64 : base64Item ∈ codecItems :=
    List.mem_cons_of_mem _ (List.mem_cons_of_mem _ List.mem_cons_self)
  have hroot : codecRoot.Permitted { item := (· ∈ codecItems) } := ⟨hhex, hbase64⟩
  have hcode : ∀ i ∈ codecItems, i.code.Permitted { item := (· ∈ codecItems) } :=
    List.forall_iff_forall_mem.mp ⟨trivial, ⟨halphabet, trivial⟩, ⟨halphabet, trivial⟩⟩
  refine Reaches.refersTo ?_ hcode h
  exact (All.new false false).write (Writer.RefersTo.inherent _) (fun hw => hw.run hroot 1)
    codec_writes

theorem finalize_resolves_codec :
    Written codec ∧ Resolvable codec ∧
      (∀ s, codec.Reaches s → ∀ i ∈ s.crate.items, ∀ j ∈ s.crate.items, i.key = j.key → i = j) ∧
      ∃ (rounds : List (List Step)) (c₁ c' : Crate) (fuel₀ : Nat),
        Resolution codec rounds c₁ ∧ c'.rendered = c₁.rendered ∧
        (∀ fuel ≥ fuel₀, outcome (renderPending fuel fuel) codec = (.ok (), c₁) ∧
          outcome (finalize fuel) codec = (.ok (), c')) ∧
        ∀ fuel, outcome (finalize fuel) c' = (.ok (), c') := by
  have hwritten : Written codec :=
    .write (.fresh false false) Module.rooted_root codec_writes
  have hresolvable : Resolvable codec :=
    helpers_resolvable _ (List.mem_cons_of_mem _ List.mem_cons_self)
  have hkeys : (codecItems.map (·.key)).Nodup := by
    decide
  refine ⟨hwritten, hresolvable, fun s hs i hi j hj hkey => ?_,
    finalize_resolves hwritten hresolvable⟩
  have hall := codec_refersTo hs
  exact List.inj_on_of_nodup_map hkeys (hall.items hi) (hall.items hj) hkey

end Crate

end CrateGen
