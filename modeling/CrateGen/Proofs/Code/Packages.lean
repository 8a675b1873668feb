import CrateGen.Proofs.Code.Finalize
import CrateGen.Proofs.Code.Ledger
import CrateGen.Proofs.Code.Provenance

namespace CrateGen

open CrateGen.Action

theorem Dependencies.content_cargo (d : CargoDependency) : Content fun ds => d ∈ ds.cargo where
  empty := Std.ExtTreeSet.not_mem_empty
  merge := mem_merge

namespace Crate

variable {c c' c₁ : Crate} {d : CargoDependency} {fuel : Nat}

def Packs (c : Crate) (d : CargoDependency) : Prop :=
  c.Holds fun ds => d ∈ ds.cargo

def packages (c : Crate) : Std.ExtTreeSet CargoDependency :=
  c.writers.foldl (fun s w => w.dependencies.cargo.foldl (fun s d => s.insert d) s) ∅

theorem mem_packages : d ∈ c.packages ↔ c.Packs d := by
  have hfold (ws : List Writer) (s : Std.ExtTreeSet CargoDependency) :
      d ∈ ws.foldl (fun s w => w.dependencies.cargo.foldl (fun s d => s.insert d) s) s ↔
        d ∈ s ∨ ∃ w ∈ ws, d ∈ w.dependencies.cargo := by
    induction ws generalizing s with
    | nil => simp only [List.foldl_nil, List.not_mem_nil, false_and, exists_false, or_false]
    | cons w ws ih =>
      rw [List.foldl_cons, ih, SortedSet.mem_foldl_insert, or_assoc]
      simp only [List.mem_cons, exists_eq_or_imp]
  unfold packages
  rw [hfold, or_iff_right Std.ExtTreeSet.not_mem_empty]
  rfl

theorem mem_dependencies : d ∈ c.dependencies ↔ c.Packs d :=
  Std.ExtTreeSet.mem_toList.trans mem_packages

theorem dependencies_congr (h : ∀ d, c.Packs d ↔ c'.Packs d) :
    c.dependencies = c'.dependencies := by
  have hpackages : c.packages = c'.packages :=
    Std.ExtTreeSet.ext_mem fun d => by rw [mem_packages, mem_packages, h]
  exact congrArg Std.ExtTreeSet.toList hpackages

/-! ## What is recorded while a crate is written and its items are rendered -/

def writeAccount (fuel : Nat) (m : Module) (code : Code) : Account Crate :=
  fun c =>
    match (outcome (write fuel m code) c).1 with
    | .ok () => code.runAccount fuel (c.target m)
    | .error _ => none

def writesAccount (fuel : Nat) : List (Module × Code) → Account Crate
  | [] => .silent
  | (m, code) :: rest =>
    .andThen (write fuel m code) (writeAccount fuel m code) fun _ => writesAccount fuel rest

def itemsAccount (fuel : Nat) : List (InlineItem Code) → Account Crate
  | [] => .silent
  | i :: rest => fun c =>
    Account.andThen (write fuel i.module i.code) (writeAccount fuel i.module i.code)
      (fun _ => itemsAccount fuel rest) (c.marked i)

def pendingAccount (fuel : Nat) : Nat → Account Crate
  | 0 => .failed
  | rounds + 1 => fun c =>
    if c.pending.isEmpty then some []
    else Account.andThen (renderItems fuel c.pending) (itemsAccount fuel c.pending)
      (fun _ => pendingAccount fuel rounds) c

/-- The packages that are recorded while codes are written into modules and the items that they
refer to are rendered. -/
def sessionAccount (fuel : Nat) (writes : List (Module × Code)) : Account Crate :=
  .andThen (writeEach fuel writes) (writesAccount fuel writes) fun _ => pendingAccount fuel fuel

theorem write_accounted (fuel : Nat) (m : Module) (code : Code) :
    Accounted Packs (write fuel m code) (writeAccount fuel m code) := by
  intro c ds hds
  unfold writeAccount at hds
  cases h : outcome (write fuel m code) c with
  | mk r c' =>
    rw [h] at hds
    cases r with
    | error e => cases hds
    | ok u =>
      obtain ⟨w, hrun, hw⟩ := write_own h
      obtain ⟨_, w', hrun', hcargo⟩ := Code.run_accounted fuel code (c.target m) ds hds
      rw [hrun] at hrun'
      cases hrun'
      refine ⟨(), c', rfl, fun d => ?_⟩
      have hK := Dependencies.content_cargo d
      have hholds := write_holds hK h hw fun hk => (hcargo d).mpr (.inl hk)
      have hmem : d ∈ w.dependencies.cargo ↔ d ∈ (c.target m).dependencies.cargo ∨ d ∈ ds :=
        hcargo d
      rw [Packs, hholds, hmem, ← or_assoc, or_iff_left_of_imp (holds_of_target hK)]
      rfl

theorem writeEach_accounted (fuel : Nat) (writes : List (Module × Code)) :
    Accounted Packs (writeEach fuel writes) (writesAccount fuel writes) := by
  induction writes with
  | nil => exact .pure ()
  | cons write writes ih => exact (write_accounted fuel write.1 write.2).bind fun _ => ih

theorem renderItems_accounted (fuel : Nat) (items : List (InlineItem Code)) :
    Accounted Packs (renderItems fuel items) (itemsAccount fuel items) := by
  induction items with
  | nil => exact .pure ()
  | cons i items ih =>
    exact fun c ds hds =>
      ((write_accounted fuel i.module i.code).bind fun _ => ih) (c.marked i) ds hds

theorem renderPending_accounted (fuel rounds : Nat) :
    Accounted Packs (renderPending fuel rounds) (pendingAccount fuel rounds) := by
  induction rounds with
  | zero => exact .failed _
  | succ rounds ih =>
    intro c ds hds
    unfold pendingAccount at hds
    by_cases hpending : c.pending = []
    · rw [hpending] at hds
      cases hds
      refine ⟨(), c, renderPending_done fuel rounds hpending, fun d => ?_⟩
      rw [or_iff_left List.not_mem_nil]
    · rw [if_neg fun hempty => hpending (List.isEmpty_iff.mp hempty)] at hds
      rw [renderPending_round fuel rounds hpending]
      exact ((renderItems_accounted fuel c.pending).bind fun _ => ih) c ds hds

/-- The packages of a crate that is finalized for the first time are those that were recorded while
it was written and its items were rendered, and they are there before modules are embedded. -/
theorem session_dependencies {showsBanner debugMode : Bool} {writes : List (Module × Code)}
    {ds : List CargoDependency}
    (hds : sessionAccount fuel writes { showsBanner, debugMode } = some ds)
    (hok : outcome (session fuel writes) { showsBanner, debugMode } = (.ok (), c')) :
    ∃ c₁, outcome (do writeEach fuel writes; renderPending fuel fuel) { showsBanner, debugMode } =
        (.ok (), c₁) ∧
      c₁.dependencies = c'.dependencies ∧ ∀ d, d ∈ c'.dependencies ↔ d ∈ ds := by
  have haccounted := (writeEach_accounted fuel writes).bind fun _ =>
    renderPending_accounted fuel fuel
  obtain ⟨_, c₁, hrun, hcargo⟩ := haccounted _ ds hds
  obtain ⟨_, c₀, hwrites, hrender⟩ := outcome_bind_eq_ok.mp hrun
  have hfinalized : c₀.finalized = false := by
    obtain ⟨_, _, rfl⟩ := (Writings.of_writeEach hwrites).rest
    rfl
  unfold session at hok
  rw [outcome_bind_ok hwrites] at hok
  obtain ⟨c₁', c₂, hrender', hembed, rfl⟩ := finalize_eq_ok hfinalized hok
  have heq : c₁' = c₁ := by
    rw [hrender] at hrender'
    exact (Prod.mk.inj hrender').2.symm
  subst heq
  have hpacks (d : CargoDependency) : c₁'.Packs d ↔ Packs { c₂ with finalized := true } d :=
    (embedAll_holds (Dependencies.content_cargo d) hembed).symm
  have hfresh (d : CargoDependency) : ¬Packs { showsBanner, debugMode } d := by
    rintro ⟨w, hw, -⟩
    exact List.not_mem_nil hw
  refine ⟨c₁', hrun, dependencies_congr hpacks, fun d => ?_⟩
  rw [mem_dependencies, ← hpacks, hcargo, or_iff_right (hfresh d)]

def digestItem : InlineItem Code where
  key := "crate::helpers::detail::digest"
  module := detail
  code := .seq (.depend (.cargo ⟨"sha2", "0.10"⟩)) (.line "pub(crate) fn digest() {}")

/-- The root splices a fragment that needs a package, and the helpers refer to the digest. -/
def digestWrites : List (Module × Code) :=
  [(.root, .template "pub use #{serde:W};"
      [("serde", .code (.seq (.depend (.cargo ⟨"serde", "1"⟩)) (.inlineText "serde::Serialize")))]),
    (helpers, .depend (.inline digestItem))]

theorem digest_checked :
    sessionAccount 3 digestWrites {} = some [⟨"serde", "1"⟩, ⟨"sha2", "0.10"⟩] ∧
      (outcome (session 3 digestWrites) {}).1.isOk = true := by
  decide +kernel

theorem session_dependencies_digest : ∃ ds c', sessionAccount 3 digestWrites {} = some ds ∧
    outcome (session 3 digestWrites) {} = (.ok (), c') ∧
    ∃ c₁, outcome (do writeEach 3 digestWrites; renderPending 3 3) {} = (.ok (), c₁) ∧
      c₁.dependencies = c'.dependencies ∧ ∀ d, d ∈ c'.dependencies ↔ d ∈ ds := by
  obtain ⟨hds, hok⟩ := digest_checked
  cases h : outcome (session 3 digestWrites) {} with
  | mk r c' =>
    rw [h] at hok
    cases r with
    | error e => cases hok
    | ok u => exact ⟨_, c', hds, rfl, session_dependencies hds h⟩

end Crate

end CrateGen
