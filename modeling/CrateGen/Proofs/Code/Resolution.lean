import CrateGen.Proofs.Code.Embedding
import Mathlib.Data.List.Nodup
import Mathlib.Logic.Relation
import Mathlib.Order.Bounds.Basic

namespace CrateGen

open CrateGen.Action

namespace Crate

variable {c c' c'' : Crate} {i j : InlineItem Code}

section Pending

variable {items : List (InlineItem Code)} {m : Std.ExtTreeMap String (InlineItem Code)}

theorem mem_of_foldl_insert {k : String}
    (h : (items.foldl (fun m i => m.insert i.key i) m)[k]? = some j) :
    m[k]? = some j ∨ j ∈ items ∧ j.key = k := by
  induction items generalizing m with
  | nil => exact .inl h
  | cons i items ih =>
    rcases ih h with hm | ⟨hj, hk⟩
    · rcases SortedMap.getElem?_insert_eq_some.mp hm with ⟨rfl, rfl⟩ | ⟨-, hold⟩
      · exact .inr ⟨List.mem_cons_self, rfl⟩
      · exact .inl hold
    · exact .inr ⟨List.mem_cons_of_mem i hj, hk⟩

theorem exists_foldl_insert {k : String} (h : k ∈ m ∨ ∃ i ∈ items, i.key = k) :
    ∃ j, (items.foldl (fun m i => m.insert i.key i) m)[k]? = some j := by
  induction items generalizing m with
  | nil =>
    rcases h with hm | ⟨i, hi, -⟩
    · exact SortedMap.mem_iff.mp hm
    · cases hi
  | cons i items ih =>
    apply ih
    rw [SortedMap.mem_insert]
    rcases h with hm | ⟨i', hi', hk⟩
    · exact .inl (.inr hm)
    · rcases List.mem_cons.mp hi' with rfl | hi'
      · exact .inl (.inl hk.symm)
      · exact .inr ⟨i', hi', hk⟩

theorem mem_fresh :
    i ∈ c.items.filter (fun i => !c.rendered.contains i.key) ↔
      i ∈ c.items ∧ i.key ∉ c.rendered := by
  rw [List.mem_filter, Bool.not_eq_true', ← Bool.not_eq_true, List.contains_iff_mem]

theorem mem_pending (h : i ∈ c.pending) : i ∈ c.items ∧ i.key ∉ c.rendered := by
  obtain ⟨k, hk⟩ := SortedMap.mem_values.mp h
  rcases mem_of_foldl_insert hk with hempty | ⟨hi, -⟩
  · rw [Std.ExtTreeMap.getElem?_empty] at hempty
    cases hempty
  · exact mem_fresh.mp hi

theorem exists_mem_pending (hi : i ∈ c.items) (hk : i.key ∉ c.rendered) :
    ∃ j ∈ c.pending, j.key = i.key := by
  obtain ⟨j, hj⟩ := exists_foldl_insert (m := ∅) (.inr ⟨i, mem_fresh.mpr ⟨hi, hk⟩, rfl⟩)
  refine ⟨j, SortedMap.mem_values.mpr ⟨i.key, hj⟩, ?_⟩
  rcases mem_of_foldl_insert hj with hempty | ⟨-, hkey⟩
  · rw [Std.ExtTreeMap.getElem?_empty] at hempty
    cases hempty
  · exact hkey

theorem pending_ascending (c : Crate) : (c.pending.map (·.key)).Pairwise (· < ·) := by
  have hkeys : c.pending.map (·.key) =
      ((c.items.filter fun i => !c.rendered.contains i.key).foldl
        (fun m i => m.insert i.key i) ∅ : Std.ExtTreeMap String (InlineItem Code)).keys := by
    unfold pending
    rw [SortedMap.values_eq, List.map_map, ← Std.ExtTreeMap.map_fst_toList_eq_keys]
    apply List.map_congr_left
    rintro ⟨k, j⟩ hj
    rcases mem_of_foldl_insert (Std.ExtTreeMap.mem_toList_iff_getElem?_eq_some.mp hj) with
      hempty | ⟨-, hkey⟩
    · rw [Std.ExtTreeMap.getElem?_empty] at hempty
      cases hempty
    · exact hkey
  rw [hkeys]
  apply Std.ExtTreeMap.ordered_keys.imp
  intro a b hab
  exact compareOfLessAndEq_eq_lt.mp hab

end Pending

def marked (c : Crate) (i : InlineItem Code) : Crate :=
  { c with rendered := c.rendered ++ [i.key] }

def Renders (c : Crate) (i : InlineItem Code) (c' : Crate) : Prop :=
  ∃ fuel, outcome (write fuel i.module i.code) (c.marked i) = (.ok (), c')

namespace Renders

theorem writes (h : c.Renders i c') : Writes i.module i.code (c.marked i) c' := by
  obtain ⟨fuel, hrun⟩ := h
  exact write_ok hrun

theorem unique (h : c.Renders i c') (h' : c.Renders i c'') : c' = c'' := by
  obtain ⟨fuel, hrun⟩ := h
  obtain ⟨fuel', hrun'⟩ := h'
  have hmax := (write_below i.module i.code (Nat.le_max_left fuel fuel')).outcome_ok hrun
  have hmax' := (write_below i.module i.code (Nat.le_max_right fuel fuel')).outcome_ok hrun'
  rw [hmax] at hmax'
  cases hmax'
  rfl

theorem rendered (h : c.Renders i c') : c'.rendered = c.rendered ++ [i.key] := by
  obtain ⟨files, inlineModules, hrest⟩ := h.writes.rest
  rw [hrest]
  rfl

theorem items_grow (h : c.Renders i c') : c.items ⊆ c'.items := by
  intro j hj
  exact h.writes.items_grow hj

theorem rooted (h : c.Renders i c') (hi : i.module.Rooted) (hc : Inlines.Rooted c.inlineModules) :
    Inlines.Rooted c'.inlineModules := by
  intro path m w hw
  rcases h.writes.modules hw with rfl | ⟨w', hw'⟩
  · exact hi
  · exact hc path m w' hw'

end Renders

structure Step where
  item : InlineItem Code
  before : Crate
  after : Crate

inductive Steps : Crate → List Step → Crate → Prop
  | nil (c : Crate) : Steps c [] c
  | cons {c c' c'' : Crate} {i : InlineItem Code} {steps : List Step} :
      c.Renders i c' → Steps c' steps c'' → Steps c (⟨i, c, c'⟩ :: steps) c''

namespace Steps

variable {steps steps' : List Step}

theorem append (h : Steps c steps c') (h' : Steps c' steps' c'') :
    Steps c (steps ++ steps') c'' := by
  induction h with
  | nil c => exact h'
  | cons hr _ ih => exact .cons hr (ih h')

theorem rendered (h : Steps c steps c') :
    c'.rendered = c.rendered ++ steps.map (·.item.key) := by
  induction h with
  | nil c => exact (List.append_nil _).symm
  | cons hr _ ih =>
    rw [ih, hr.rendered, List.append_assoc]
    rfl

theorem items_grow (h : Steps c steps c') : c.items ⊆ c'.items := by
  induction h with
  | nil c => exact List.Subset.refl _
  | cons hr _ ih => exact List.Subset.trans hr.items_grow ih

theorem before_grow (h : Steps c steps c') {s : Step} (hs : s ∈ steps) :
    c.items ⊆ s.before.items := by
  induction h with
  | nil c => cases hs
  | cons hr _ ih =>
    rcases List.mem_cons.mp hs with rfl | hs
    · exact List.Subset.refl _
    · exact List.Subset.trans hr.items_grow (ih hs)

theorem after_grow (h : Steps c steps c') {s : Step} (hs : s ∈ steps) :
    s.after.items ⊆ c'.items := by
  induction h with
  | nil c => cases hs
  | cons hr hrest ih =>
    rcases List.mem_cons.mp hs with rfl | hs
    · exact hrest.items_grow
    · exact ih hs

theorem renders (h : Steps c steps c') {s : Step} (hs : s ∈ steps) :
    s.before.Renders s.item s.after := by
  induction h with
  | nil c => cases hs
  | cons hr _ ih =>
    rcases List.mem_cons.mp hs with rfl | hs
    · exact hr
    · exact ih hs

theorem rooted (h : Steps c steps c') (hi : ∀ s ∈ steps, s.item.module.Rooted)
    (hc : Inlines.Rooted c.inlineModules) : Inlines.Rooted c'.inlineModules := by
  induction h with
  | nil c => exact hc
  | cons hr _ ih =>
    apply ih
    · intro s hs
      exact hi s (List.mem_cons_of_mem _ hs)
    · exact hr.rooted (hi _ List.mem_cons_self) hc

theorem outcome_renderItems (h : Steps c steps c') :
    ∃ fuel₀, ∀ fuel ≥ fuel₀, outcome (renderItems fuel (steps.map (·.item))) c = (.ok (), c') := by
  induction h with
  | nil c => exact ⟨0, fun fuel _ => rfl⟩
  | @cons c c' c'' i steps hr _ ih =>
    obtain ⟨fuel₁, hrun⟩ := hr
    obtain ⟨fuel₂, hrest⟩ := ih
    refine ⟨max fuel₁ fuel₂, fun fuel hfuel => ?_⟩
    have hle := Nat.le_trans (Nat.le_max_left fuel₁ fuel₂) hfuel
    have hle' := Nat.le_trans (Nat.le_max_right fuel₁ fuel₂) hfuel
    have hwrite := (write_below i.module i.code hle).outcome_ok hrun
    rw [List.map_cons, renderItems, outcome_bind_ok (outcome_modify _ _)]
    exact (outcome_bind_ok hwrite).trans (hrest fuel hle')

theorem of_renderItems {fuel : Nat} {items : List (InlineItem Code)}
    (h : outcome (renderItems fuel items) c = (.ok (), c')) :
    ∃ steps, steps.map (·.item) = items ∧ Steps c steps c' := by
  induction items generalizing c with
  | nil =>
    cases h
    exact ⟨[], rfl, .nil _⟩
  | cons i items ih =>
    rw [renderItems, outcome_bind_ok (outcome_modify _ _)] at h
    obtain ⟨_, c₁, hwrite, hrest⟩ := outcome_bind_eq_ok.mp h
    obtain ⟨steps, hitems, hsteps⟩ := ih hrest
    refine ⟨⟨i, c, c₁⟩ :: steps, ?_, .cons ⟨fuel, hwrite⟩ hsteps⟩
    rw [List.map_cons, hitems]

end Steps

/-- Items are rendered in rounds, each of which renders what is pending when it starts, until
nothing is. -/
inductive Rounds : Crate → List (List Step) → Crate → Prop
  | done {c : Crate} : c.pending = [] → Rounds c [] c
  | round {c c' c'' : Crate} {steps : List Step} {rounds : List (List Step)} :
      c.pending ≠ [] → steps.map (·.item) = c.pending → Steps c steps c' → Rounds c' rounds c'' →
        Rounds c (steps :: rounds) c''

theorem renderPending_done (fuel rounds : Nat) (h : c.pending = []) :
    outcome (renderPending fuel (rounds + 1)) c = (.ok (), c) := by
  rw [renderPending, outcome_bind_ok (outcome_get c)]
  dsimp only
  rw [h]
  rfl

theorem renderPending_round (fuel rounds : Nat) (h : c.pending ≠ []) :
    outcome (renderPending fuel (rounds + 1)) c =
      outcome (renderItems fuel c.pending >>= fun _ => renderPending fuel rounds) c := by
  rw [renderPending, outcome_bind_ok (outcome_get c)]
  dsimp only
  rw [if_neg]
  intro hempty
  exact h (List.isEmpty_iff.mp hempty)

namespace Rounds

variable {rounds : List (List Step)}

theorem steps (h : Rounds c rounds c') : Steps c rounds.flatten c' := by
  induction h with
  | done => exact .nil _
  | round _ _ hsteps _ ih => exact hsteps.append ih

theorem pending (h : Rounds c rounds c') : c'.pending = [] := by
  induction h with
  | done h => exact h
  | round _ _ _ _ ih => exact ih

theorem ascending (h : Rounds c rounds c') :
    ∀ round ∈ rounds, (round.map (·.item.key)).Pairwise (· < ·) := by
  induction h with
  | done => nofun
  | @round c c' c'' steps rounds _ hitems _ _ ih =>
    have hkeys : steps.map (·.item.key) = c.pending.map (·.key) := by
      rw [← hitems, List.map_map]
      rfl
    intro round hround
    rcases List.mem_cons.mp hround with rfl | hround
    · rw [hkeys]
      exact c.pending_ascending
    · exact ih round hround

theorem item_mem (h : Rounds c rounds c') : ∀ s ∈ rounds.flatten, s.item ∈ s.before.items := by
  induction h with
  | done => nofun
  | @round c c' c'' steps rounds _ hitems hsteps _ ih =>
    intro s hs
    rw [List.flatten_cons, List.mem_append] at hs
    rcases hs with hs | hs
    · have hpending : s.item ∈ c.pending := by
        rw [← hitems]
        exact List.mem_map_of_mem hs
      exact hsteps.before_grow hs (mem_pending hpending).1
    · exact ih s hs

theorem outcome_renderPending (h : Rounds c rounds c') :
    ∃ fuel₀, ∀ fuel ≥ fuel₀, ∀ n > rounds.length,
      outcome (renderPending fuel n) c = (.ok (), c') := by
  induction h with
  | done h =>
    refine ⟨0, fun fuel _ n hn => ?_⟩
    obtain ⟨n, rfl⟩ := Nat.exists_eq_add_one.mpr hn
    exact renderPending_done fuel n h
  | @round c c' c'' steps rounds hne hitems hsteps _ ih =>
    obtain ⟨fuel₁, hround⟩ := hsteps.outcome_renderItems
    obtain ⟨fuel₂, hrest⟩ := ih
    refine ⟨max fuel₁ fuel₂, fun fuel hfuel n hn => ?_⟩
    have hle := Nat.le_trans (Nat.le_max_left fuel₁ fuel₂) hfuel
    have hle' := Nat.le_trans (Nat.le_max_right fuel₁ fuel₂) hfuel
    obtain ⟨n, rfl⟩ := Nat.exists_eq_add_one.mpr (Nat.zero_lt_of_lt hn)
    have hitems' := hround fuel hle
    rw [hitems] at hitems'
    rw [renderPending_round fuel n hne, outcome_bind_ok hitems']
    exact hrest fuel hle' n (Nat.lt_of_succ_lt_succ hn)

theorem of_renderPending {fuel n : Nat} (h : outcome (renderPending fuel n) c = (.ok (), c')) :
    ∃ rounds, Rounds c rounds c' := by
  induction n generalizing c with
  | zero => cases h
  | succ n ih =>
    by_cases hpending : c.pending = []
    · rw [renderPending_done fuel n hpending] at h
      cases h
      exact ⟨[], .done hpending⟩
    · rw [renderPending_round fuel n hpending] at h
      obtain ⟨_, c₁, hitems, hrest⟩ := outcome_bind_eq_ok.mp h
      obtain ⟨steps, heq, hsteps⟩ := Steps.of_renderItems hitems
      obtain ⟨rounds, hrounds⟩ := ih hrest
      exact ⟨steps :: rounds, .round hpending heq hsteps hrounds⟩

end Rounds

/-- A key that is recorded when the rendering starts is rendered from an item that is recorded
then. -/
theorem Rounds.exists_first {rounds : List (List Step)} (h : Rounds c rounds c')
    (hc : c.rendered = []) (hi : i ∈ c.items) :
    ∃ s ∈ rounds.flatten, s.item ∈ c.items ∧ s.item.key = i.key := by
  have hfresh : i.key ∉ c.rendered := by
    rw [hc]
    exact List.not_mem_nil
  obtain ⟨j, hj, hkey⟩ := exists_mem_pending hi hfresh
  cases h with
  | done hnone =>
    rw [hnone] at hj
    cases hj
  | round _ hitems _ _ =>
    have hmem := (mem_pending hj).1
    rw [← hitems] at hj
    obtain ⟨s, hs, rfl⟩ := List.mem_map.mp hj
    exact ⟨s, List.mem_flatten_of_mem List.mem_cons_self hs, hmem, hkey⟩

theorem nodup_round {steps : List Step} (h : Steps c steps c')
    (hitems : steps.map (·.item) = c.pending) (hc : c.rendered.Nodup) : c'.rendered.Nodup := by
  have hkeys : steps.map (·.item.key) = c.pending.map (·.key) := by
    rw [← hitems, List.map_map]
    rfl
  rw [h.rendered, hkeys]
  apply List.nodup_append.mpr
  refine ⟨hc, c.pending_ascending.imp String.ne_of_lt, ?_⟩
  intro k hk k' hk' heq
  subst heq
  obtain ⟨i, hi, rfl⟩ := List.mem_map.mp hk'
  exact (mem_pending hi).2 hk

theorem Rounds.nodup {rounds : List (List Step)} (h : Rounds c rounds c')
    (hc : c.rendered.Nodup) : c'.rendered.Nodup := by
  induction h with
  | done => exact hc
  | round _ hitems hsteps _ ih => exact ih (nodup_round hsteps hitems hc)

/-- The keys that are recorded in a crate, and with the key of a step the keys that the step is the
first to record. A key that is recorded again was recorded before. -/
structure Closed (c : Crate) (steps : List Step) (keys : Set String) : Prop where
  recorded : ∀ i ∈ c.items, i.key ∈ keys
  step : ∀ s ∈ steps, s.item.key ∈ keys →
    ∀ i ∈ s.after.items, (∀ j ∈ s.before.items, j.key ≠ i.key) → i.key ∈ keys

theorem Steps.key_mem {steps : List Step} (h : Steps c steps c') {keys : Set String}
    (hk : Closed c steps keys) (hmem : ∀ s ∈ steps, s.item ∈ s.before.items) :
    ∀ s ∈ steps, s.item.key ∈ keys := by
  induction h with
  | nil => nofun
  | @cons c c' c'' i steps hr _ ih =>
    have hi : i.key ∈ keys := hk.recorded i (hmem _ List.mem_cons_self)
    intro s hs
    rcases List.mem_cons.mp hs with rfl | hs
    · exact hi
    · refine ih ⟨?_, ?_⟩ (fun s hs => hmem s (List.mem_cons_of_mem _ hs)) s hs
      · intro j hj
        by_cases hold : ∃ j' ∈ c.items, j'.key = j.key
        · obtain ⟨j', hj', hkey⟩ := hold
          rw [← hkey]
          exact hk.recorded j' hj'
        · apply hk.step _ List.mem_cons_self hi j hj
          intro j' hj' hkey
          exact hold ⟨j', hj', hkey⟩
      · intro s hs
        exact hk.step s (List.mem_cons_of_mem _ hs)

/-- How the inline items of a crate are rendered in rounds. -/
structure Resolution (c : Crate) (rounds : List (List Step)) (c' : Crate) : Prop where
  runs : Rounds c rounds c'
  /-- Every key is rendered in one step. -/
  keys : c'.rendered = rounds.flatten.map (·.item.key)
  once : c'.rendered.Nodup
  ascending : ∀ round ∈ rounds, (round.map (·.item.key)).Pairwise (· < ·)
  /-- Every step runs the code of an item that was recorded, on the writer of its module. -/
  writes : ∀ s ∈ rounds.flatten, s.item ∈ s.before.items ∧
    Writes s.item.module s.item.code (s.before.marked s.item) s.after
  /-- What is recorded stays recorded, and its key is rendered. -/
  grows : ∀ s ∈ rounds.flatten, s.after.items ⊆ c'.items
  complete : ∀ i ∈ c'.items, i.key ∈ c'.rendered
  least : IsLeast {keys | Closed c rounds.flatten keys} {k | k ∈ c'.rendered}
  /-- The only item that is recorded with its key is the one that is rendered. -/
  agreed : ∀ i ∈ c'.items, (∀ j ∈ c'.items, j.key = i.key → j = i) →
    ∃ s ∈ rounds.flatten, s.item = i

/-- No two steps render one key. -/
theorem Resolution.unique {rounds : List (List Step)} (h : Resolution c rounds c') {s t : Step}
    (hs : s ∈ rounds.flatten) (ht : t ∈ rounds.flatten) (hkey : s.item.key = t.item.key) :
    s = t := by
  have honce := h.once
  rw [h.keys] at honce
  exact List.inj_on_of_nodup_map honce hs ht hkey

theorem Rounds.resolution {rounds : List (List Step)} (h : Rounds c rounds c')
    (hc : c.rendered = []) : Resolution c rounds c' := by
  have hkeys : c'.rendered = rounds.flatten.map (·.item.key) := by
    rw [h.steps.rendered, hc, List.nil_append]
  have hcomplete : ∀ i ∈ c'.items, i.key ∈ c'.rendered := by
    intro i hi
    by_contra hk
    obtain ⟨j, hj, -⟩ := exists_mem_pending hi hk
    rw [h.pending] at hj
    cases hj
  constructor
  · exact h
  · exact hkeys
  · apply h.nodup
    rw [hc]
    exact List.nodup_nil
  · exact h.ascending
  · intro s hs
    exact ⟨h.item_mem s hs, (h.steps.renders hs).writes⟩
  · intro s hs
    exact h.steps.after_grow hs
  · exact hcomplete
  · constructor
    · refine ⟨?_, ?_⟩
      · intro i hi
        exact hcomplete i (h.steps.items_grow hi)
      · intro s hs _ i hi _
        exact hcomplete i (h.steps.after_grow hs hi)
    · intro keys hclosed k hk
      have hk : k ∈ c'.rendered := hk
      rw [hkeys] at hk
      obtain ⟨s, hs, rfl⟩ := List.mem_map.mp hk
      exact h.steps.key_mem hclosed h.item_mem s hs
  · intro i hi hunique
    have hk := hcomplete i hi
    rw [hkeys] at hk
    obtain ⟨s, hs, hkey⟩ := List.mem_map.mp hk
    have hitem := (h.steps.renders hs).items_grow (h.item_mem s hs)
    exact ⟨s, hs, hunique s.item (h.steps.after_grow hs hitem) hkey⟩

end Crate

end CrateGen
