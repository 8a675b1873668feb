import Std.Data.ExtTreeMap
import Std.Data.ExtTreeSet

namespace CrateGen.SortedMap
open Std

variable {α : Type u} {β : Type v} {cmp : α → α → Ordering} [TransCmp cmp]

theorem values_eq (t : ExtTreeMap α β cmp) : t.values = t.toList.map Prod.snd := by
  obtain ⟨⟨q⟩⟩ := t
  induction q using Quotient.inductionOn with
  | _ m =>
    change m.inner.values = (DTreeMap.Internal.Impl.Const.toList m.inner).map Prod.snd
    rw [DTreeMap.Internal.Impl.values_eq_map_snd,
      DTreeMap.Internal.Impl.Const.toList_eq_toListModel_map]
    simp only [List.map_map]
    rfl

theorem mem_values [LawfulEqCmp cmp] {t : ExtTreeMap α β cmp} {v : β} :
    v ∈ t.values ↔ ∃ k : α, t[k]? = some v := by
  simp only [values_eq, List.mem_map, Prod.exists, exists_eq_right,
    ExtTreeMap.mem_toList_iff_getElem?_eq_some]

theorem mem_iff {t : ExtTreeMap α β cmp} {k : α} : k ∈ t ↔ ∃ v, t[k]? = some v := by
  rw [ExtTreeMap.mem_iff_isSome_getElem?, Option.isSome_iff_exists]

theorem not_mem_of_none {t : ExtTreeMap α β cmp} {k : α} (h : t[k]? = none) : k ∉ t := by
  rw [ExtTreeMap.mem_iff_isSome_getElem?, h]
  exact Bool.false_ne_true

theorem getElem?_insert_ne [LawfulEqCmp cmp] (t : ExtTreeMap α β cmp) {k k' : α} (v : β)
    (h : k' ≠ k) : (t.insert k v)[k']? = t[k']? := by
  rw [ExtTreeMap.getElem?_insert, if_neg]
  intro heq
  exact h (LawfulEqCmp.compare_eq_iff_eq.mp heq).symm

theorem getElem?_erase_ne [LawfulEqCmp cmp] (t : ExtTreeMap α β cmp) {k k' : α} (h : k' ≠ k) :
    (t.erase k)[k']? = t[k']? := by
  rw [ExtTreeMap.getElem?_erase, if_neg]
  intro heq
  exact h (LawfulEqCmp.compare_eq_iff_eq.mp heq).symm

theorem getElem?_insert_eq_some [LawfulEqCmp cmp] {t : ExtTreeMap α β cmp} {k k' : α} {v v' : β} :
    (t.insert k v)[k']? = some v' ↔ k' = k ∧ v' = v ∨ k' ≠ k ∧ t[k']? = some v' := by
  by_cases heq : k' = k
  · subst heq
    simp only [ExtTreeMap.getElem?_insert_self, Option.some.injEq, true_and, ne_eq, not_true_eq_false,
      false_and, or_false, eq_comm]
  · simp only [getElem?_insert_ne t v heq, heq, false_and, ne_eq, not_false_eq_true, true_and,
      false_or]

theorem mem_insert [LawfulEqCmp cmp] {t : ExtTreeMap α β cmp} {k k' : α} {v : β} :
    k' ∈ t.insert k v ↔ k' = k ∨ k' ∈ t := by
  rw [ExtTreeMap.mem_insert, LawfulEqCmp.compare_eq_iff_eq, eq_comm]

theorem of_getElem?_erase {t : ExtTreeMap α β cmp} {k k' : α} {v : β}
    (h : (t.erase k)[k']? = some v) : t[k']? = some v := by
  rw [ExtTreeMap.getElem?_erase] at h
  split at h
  · cases h
  · exact h

theorem mem_of_getElem?_insertMany {t : ExtTreeMap α β cmp} {l : List (α × β)} {k : α} {v : β}
    (h : (t.insertMany l)[k]? = some v) : (∃ k', (k', v) ∈ l) ∨ t[k]? = some v := by
  induction l generalizing t with
  | nil => exact .inr (ExtTreeMap.insertMany_nil (t := t) ▸ h)
  | cons entry l ih =>
    obtain ⟨k₁, v₁⟩ := entry
    rw [ExtTreeMap.insertMany_cons] at h
    rcases ih h with ⟨k', hmem⟩ | hold
    · exact .inl ⟨k', List.mem_cons_of_mem _ hmem⟩
    rw [ExtTreeMap.getElem?_insert] at hold
    split at hold
    · cases hold
      exact .inl ⟨k₁, List.mem_cons_self⟩
    · exact .inr hold

theorem mem_of_getElem?_ofList {l : List (α × β)} {k : α} {v : β}
    (h : (ExtTreeMap.ofList l cmp)[k]? = some v) : ∃ k', (k', v) ∈ l := by
  rw [ExtTreeMap.ofList_eq_insertMany_empty] at h
  rcases mem_of_getElem?_insertMany h with hmem | hempty
  · exact hmem
  · rw [ExtTreeMap.getElem?_empty] at hempty
    cases hempty

theorem insert_self [LawfulEqCmp cmp] {t : ExtTreeMap α β cmp} {k : α} {v : β}
    (h : t[k]? = some v) : t.insert k v = t := by
  apply ExtTreeMap.ext_getElem?
  intro k'
  rw [ExtTreeMap.getElem?_insert]
  split
  · next heq =>
    have hkey := LawfulEqCmp.compare_eq_iff_eq.mp heq
    subst hkey
    exact h.symm
  · rfl

theorem insert_insert [LawfulEqCmp cmp] (t : ExtTreeMap α β cmp) (k : α) (v v' : β) :
    (t.insert k v).insert k v' = t.insert k v' := by
  apply ExtTreeMap.ext_getElem?
  intro k'
  rw [ExtTreeMap.getElem?_insert, ExtTreeMap.getElem?_insert, ExtTreeMap.getElem?_insert]
  split <;> rfl

theorem insert_comm [LawfulEqCmp cmp] (t : ExtTreeMap α β cmp) {k k' : α} (v v' : β)
    (h : k ≠ k') : (t.insert k v).insert k' v' = (t.insert k' v').insert k v := by
  apply ExtTreeMap.ext_getElem?
  intro k''
  simp only [ExtTreeMap.getElem?_insert]
  split
  · next heq' =>
    rw [if_neg]
    intro heq
    rw [LawfulEqCmp.compare_eq_iff_eq] at heq heq'
    exact h (heq.trans heq'.symm)
  · rfl

theorem getElem?_insertIfNew_of_some [LawfulEqCmp cmp] {t : ExtTreeMap α β cmp} {k : α} {v : β}
    (h : t[k]? = some v) (k' : α) (v' : β) : (t.insertIfNew k' v')[k]? = some v := by
  rw [ExtTreeMap.getElem?_insertIfNew]
  split
  · next hnew =>
    have hkey := LawfulEqCmp.compare_eq_iff_eq.mp hnew.1
    subst hkey
    exact absurd (mem_iff.mpr ⟨v, h⟩) hnew.2
  · exact h

theorem nodup_toList (t : ExtTreeMap α β cmp) : t.toList.Nodup := by
  apply List.Pairwise.imp _ t.distinct_keys_toList
  intro a b hne heq
  subst heq
  exact hne ReflCmp.compare_self

theorem toList_insert_perm [LawfulEqCmp cmp] {t : ExtTreeMap α β cmp} {k : α} (h : t[k]? = none)
    (v : β) : (t.insert k v).toList.Perm ((k, v) :: t.toList) := by
  have hk (w : β) : (k, w) ∉ t.toList := by
    intro hmem
    rw [ExtTreeMap.mem_toList_iff_getElem?_eq_some, h] at hmem
    cases hmem
  have hnodup : ((k, v) :: t.toList).Nodup := List.nodup_cons.mpr ⟨hk v, nodup_toList t⟩
  apply (List.perm_ext_iff_of_nodup (nodup_toList _) hnodup).mpr
  rintro ⟨k', v'⟩
  rw [ExtTreeMap.mem_toList_iff_getElem?_eq_some, ExtTreeMap.getElem?_insert, List.mem_cons]
  split
  · next heq =>
    have hkey := LawfulEqCmp.compare_eq_iff_eq.mp heq
    subst hkey
    simp only [hk, or_false, Prod.mk.injEq, true_and, Option.some.injEq, eq_comm]
  · next hne =>
    rw [ExtTreeMap.mem_toList_iff_getElem?_eq_some]
    constructor
    · exact .inr
    · rintro (heq | hmem)
      · cases heq
        exact absurd ReflCmp.compare_self hne
      · exact hmem

theorem toList_perm_erase [LawfulEqCmp cmp] {t : ExtTreeMap α β cmp} {k : α} {v : β}
    (h : t[k]? = some v) : t.toList.Perm ((k, v) :: (t.erase k).toList) := by
  have hinsert : (t.erase k).insert k v = t := by
    apply ExtTreeMap.ext_getElem?
    intro k'
    rw [ExtTreeMap.getElem?_insert, ExtTreeMap.getElem?_erase]
    split
    · next heq =>
      have hkey := LawfulEqCmp.compare_eq_iff_eq.mp heq
      subst hkey
      exact h.symm
    · rfl
  have hperm := toList_insert_perm (t := t.erase k) ExtTreeMap.getElem?_erase_self v
  rw [hinsert] at hperm
  exact hperm

theorem values_insert [LawfulEqCmp cmp] (t : ExtTreeMap α β cmp) (k : α) :
    ∃ front back, ∀ v, (t.insert k v).values = front ++ v :: back := by
  by_cases hvalue : Nonempty β
  case neg => exact ⟨[], [], fun v => absurd ⟨v⟩ hvalue⟩
  obtain ⟨v₀⟩ := hvalue
  have hmem : (k, v₀) ∈ (t.insert k v₀).toList :=
    ExtTreeMap.mem_toList_iff_getElem?_eq_some.mpr ExtTreeMap.getElem?_insert_self
  obtain ⟨front, back, hsplit⟩ := List.append_of_mem hmem
  have hdistinct : (front ++ (k, v₀) :: back).Pairwise fun e e' => ¬cmp e.1 e'.1 = .eq := by
    rw [← hsplit]
    exact ExtTreeMap.distinct_keys_toList
  obtain ⟨-, hback, hfront⟩ := List.pairwise_append.mp hdistinct
  have hmap (v : β) : t.insert k v =
      (t.insert k v₀).map fun k' v' => if cmp k k' = .eq then v else v' := by
    apply ExtTreeMap.ext_getElem?
    intro k'
    rw [ExtTreeMap.getElem?_map, ExtTreeMap.getElem?_insert, ExtTreeMap.getElem?_insert]
    split
    · rfl
    · exact Option.map_id'.symm
  have hother (v : β) {entries : List (α × β)} (h : ∀ e ∈ entries, ¬cmp k e.1 = .eq) :
      entries.map (fun e => if cmp k e.1 = .eq then v else e.2) = entries.map Prod.snd :=
    List.map_congr_left fun e he => if_neg (h e he)
  refine ⟨front.map Prod.snd, back.map Prod.snd, fun v => ?_⟩
  rw [values_eq, hmap, ExtTreeMap.toList_map, hsplit, List.map_map, List.map_append, List.map_cons]
  change front.map (fun e => if cmp k e.1 = .eq then v else e.2) ++
    (if cmp k k = .eq then v else v₀) :: back.map (fun e => if cmp k e.1 = .eq then v else e.2) = _
  rw [if_pos ReflCmp.compare_self, hother v (List.pairwise_cons.mp hback).1,
    hother v fun e he heq => hfront e he (k, v₀) List.mem_cons_self (OrientedCmp.eq_comm.mp heq)]

theorem foldl_insertIfNew [LawfulEqCmp cmp] {entries : List (α × β)}
    (h : entries.Pairwise fun e e' => ¬cmp e.1 e'.1 = .eq) (t : ExtTreeMap α β cmp) (k : α) :
    (entries.foldl (fun t e => t.insertIfNew e.1 e.2) t)[k]? =
      t[k]?.or ((entries.find? fun e => cmp e.1 k == .eq).map Prod.snd) := by
  induction entries generalizing t with
  | nil => exact Option.or_none.symm
  | cons e entries ih =>
    obtain ⟨hnew, hrest⟩ := List.pairwise_cons.mp h
    rw [List.foldl_cons, ih hrest, ExtTreeMap.getElem?_insertIfNew, List.find?_cons]
    by_cases hk : cmp e.1 k = .eq
    · have heq := LawfulEqCmp.compare_eq_iff_eq.mp hk
      subst heq
      rw [hk, beq_self_eq_true]
      by_cases hmem : e.1 ∈ t
      · obtain ⟨v, hv⟩ := mem_iff.mp hmem
        rw [if_neg fun hnew => hnew.2 hmem, hv]
        rfl
      · rw [if_pos ⟨rfl, hmem⟩, ExtTreeMap.getElem?_eq_none hmem]
        rfl
    · rw [if_neg fun hnew => hk hnew.1, beq_false_of_ne hk]

theorem getElem?_foldl_insertIfNew [LawfulEqCmp cmp] (t new : ExtTreeMap α β cmp) (k : α) :
    (new.foldl (fun t k v => t.insertIfNew k v) t)[k]? = t[k]?.or new[k]? := by
  rw [ExtTreeMap.foldl_eq_foldl_toList, foldl_insertIfNew ExtTreeMap.distinct_keys_toList]
  congr 1
  cases hfind : new.toList.find? fun e => cmp e.1 k == .eq with
  | none =>
    rw [List.find?_eq_none] at hfind
    cases hnew : new[k]? with
    | none => rfl
    | some v =>
      have hmem := ExtTreeMap.mem_toList_iff_getElem?_eq_some.mpr hnew
      have hself : cmp k k = .eq := ReflCmp.compare_self
      exact absurd (beq_iff_eq.mpr hself) (hfind _ hmem)
  | some e =>
    have hmem := ExtTreeMap.mem_toList_iff_getElem?_eq_some.mp (List.mem_of_find?_eq_some hfind)
    have hk := (List.find?_eq_some_iff_append.mp hfind).1
    rw [← LawfulEqCmp.compare_eq_iff_eq.mp (beq_iff_eq.mp hk), hmem]
    rfl

theorem mem_foldl_insertIfNew [LawfulEqCmp cmp] {t new : ExtTreeMap α β cmp} {k : α} :
    k ∈ new.foldl (fun t k v => t.insertIfNew k v) t ↔ k ∈ t ∨ k ∈ new := by
  simp only [ExtTreeMap.mem_iff_isSome_getElem?]
  rw [getElem?_foldl_insertIfNew, Option.isSome_or, Bool.or_eq_true]

/-- Every entry was there before, or it is one of `P`. -/
def Adds (P : α → β → Prop) (t t' : ExtTreeMap α β cmp) : Prop :=
  ∀ (k : α) (v : β), t'[k]? = some v → t[k]? = some v ∨ P k v

namespace Adds

variable [LawfulEqCmp cmp] {P : α → β → Prop} {t t' t'' : ExtTreeMap α β cmp} {k : α} {v : β}

omit [LawfulEqCmp cmp] in
theorem refl (t : ExtTreeMap α β cmp) : Adds P t t :=
  fun _ _ => .inl

omit [LawfulEqCmp cmp] in
theorem trans (h : Adds P t t') (h' : Adds P t' t'') : Adds P t t'' :=
  fun k v hv => (h' k v hv).elim (h k v) .inr

theorem insert (t : ExtTreeMap α β cmp) (hv : P k v) : Adds P t (t.insert k v) := by
  intro k' v' hv'
  rcases getElem?_insert_eq_some.mp hv' with ⟨rfl, rfl⟩ | ⟨-, hold⟩
  · exact .inr hv
  · exact .inl hold

theorem insertIfNew (t : ExtTreeMap α β cmp) (hv : P k v) : Adds P t (t.insertIfNew k v) := by
  intro k' v' hv'
  rw [ExtTreeMap.getElem?_insertIfNew] at hv'
  split at hv'
  · next hnew =>
    cases hv'
    rw [← LawfulEqCmp.compare_eq_iff_eq.mp hnew.1]
    exact .inr hv
  · exact .inl hv'

theorem merge (t : ExtTreeMap α β cmp) {new : ExtTreeMap α β cmp} (h : Adds P ∅ new) :
    Adds P t (new.foldl (fun t k v => t.insertIfNew k v) t) := by
  intro k v hv
  rw [getElem?_foldl_insertIfNew, Option.or_eq_some_iff] at hv
  rcases hv with hold | ⟨-, hnew⟩
  · exact .inl hold
  · rcases h k v hnew with hempty | hv
    · rw [ExtTreeMap.getElem?_empty] at hempty
      cases hempty
    · exact .inr hv

end Adds

end CrateGen.SortedMap

namespace CrateGen.SortedSet
open Std

variable {α : Type u} {cmp : α → α → Ordering} [TransCmp cmp] [LawfulEqCmp cmp]

theorem mem_foldl_insert_list {as : List α} {s : ExtTreeSet α cmp} {a : α} :
    a ∈ as.foldl (fun s a => s.insert a) s ↔ a ∈ s ∨ a ∈ as := by
  induction as generalizing s with
  | nil => exact (or_iff_left List.not_mem_nil).symm
  | cons b as ih =>
    rw [List.foldl_cons, ih, ExtTreeSet.mem_insert, LawfulEqCmp.compare_eq_iff_eq, List.mem_cons,
      eq_comm, or_left_comm, or_assoc]

theorem mem_foldl_insert {s t : ExtTreeSet α cmp} {a : α} :
    a ∈ t.foldl (fun s a => s.insert a) s ↔ a ∈ s ∨ a ∈ t := by
  rw [ExtTreeSet.foldl_eq_foldl_toList, mem_foldl_insert_list, ExtTreeSet.mem_toList]

end CrateGen.SortedSet
