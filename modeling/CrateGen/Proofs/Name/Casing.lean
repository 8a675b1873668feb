import CrateGen.Proofs.Name.Word
import Mathlib.Data.List.Chain

/-!
Letter case of names in ASCII. Snake case is lower case with single underscores, none of them in
front; such a text is its own snake case, so a second conversion changes nothing. Both cases keep
the letters and digits of a name in their order, and differ from it in letter case and separators
only.
-/

namespace CrateGen.Text

variable {α : Type} [BEq α]

theorem flatten_splitAt (sep : α) (as : List α) :
    (splitAt sep as).flatten = as.filter (· != sep) := by
  induction as with
  | nil => rfl
  | cons a as ih =>
    obtain ⟨first, rest, hp⟩ := List.exists_cons_of_ne_nil (splitAt_ne_nil sep as)
    rw [hp, List.flatten_cons] at ih
    by_cases ha : (a == sep) = true
    · rw [splitAt_of_eq ha, hp, List.filter_cons_of_neg (by simp [bne, ha])]
      exact ih
    · rw [splitAt_of_ne ha hp, List.filter_cons_of_pos (by simp [bne, ha]), ← ih]
      rfl

end CrateGen.Text

namespace CrateGen.Name

def IsAscii (s : String) : Prop :=
  ∀ c ∈ s.toList, c.toNat < 128

instance (s : String) : Decidable (IsAscii s) :=
  List.decidableBAll (fun c : Char => c.toNat < 128) s.toList

/-- A text in lower case, without its separators. -/
def bare (s : String) : List Char :=
  (s.toList.map Char.toLower).filter fun c => !isSeparator c

/-- Lower case, with single underscores for all separators and none of them in front. -/
structure IsSnake (cs : List Char) : Prop where
  lower : ∀ c ∈ cs, isUpper c = false
  hyphen : '-' ∉ cs
  space : ' ' ∉ cs
  head : cs.head? ≠ some '_'
  single : ¬['_', '_'] <:+: cs

variable {c : Char} {cs out : List Char} {last : Option Char} {s : String}

/-! ## Characters -/

theorem toLower_ascii (hc : c.toNat < 128) : c.toLower.toNat < 128 ∧
    isUpper c.toLower = false ∧ isSeparator c.toLower = isSeparator c ∧
    (isUpper c = false → c.toLower = c ∧ c.toUpper.toLower = c) :=
  ascii_cases (P := fun c => c.toLower.toNat < 128 ∧ isUpper c.toLower = false ∧
    isSeparator c.toLower = isSeparator c ∧
    (isUpper c = false → c.toLower = c ∧ c.toUpper.toLower = c)) (by decide) hc

theorem toLower_letter (hc : isSeparator c = false) (hlt : c.toNat < 128) :
    isSeparator c.toLower = false ∧ c.toLower ≠ '_' := by
  have hsep : isSeparator c.toLower = false := (toLower_ascii hlt).2.2.1.trans hc
  constructor
  · exact hsep
  · intro heq
    rw [heq] at hsep
    cases hsep

theorem isSeparator_iff : isSeparator c = true ↔ c = '-' ∨ c = ' ' ∨ c = '_' := by
  simp [isSeparator, or_assoc]

theorem mayDivide_iff : mayDivide last = true ↔ last.getD '_' ≠ '_' := by
  cases last <;> simp [mayDivide]

/-! ## What a conversion to snake case writes -/

/-- A text for a name in snake case, behind an output that ends in `last`. Which capitals start a
word is left open; none does in front or behind an underscore. -/
inductive Cased : Option Char → List Char → List Char → Prop where
  | nil {last : Option Char} : Cased last [] []
  | skip {last : Option Char} {c : Char} {cs out : List Char} (hc : isSeparator c = true)
      (hlast : mayDivide last = false) (h : Cased last cs out) : Cased last (c :: cs) out
  | divide {last : Option Char} {c : Char} {cs out : List Char} (hc : isSeparator c = true)
      (hlast : mayDivide last = true) (h : Cased (some '_') cs out) :
      Cased last (c :: cs) ('_' :: out)
  | letter {last : Option Char} {c : Char} {cs out : List Char} (hc : isSeparator c = false)
      (h : Cased (some c.toLower) cs out) : Cased last (c :: cs) (c.toLower :: out)
  | word {last : Option Char} {c : Char} {cs out : List Char} (hc : isSeparator c = false)
      (hlast : mayDivide last = true) (h : Cased (some c.toLower) cs out) :
      Cased last (c :: cs) ('_' :: c.toLower :: out)

theorem cased_snakeFrom (prev last : Option Char) (h : ∀ c ∈ cs, c.toNat < 128) :
    Cased last cs (snakeFrom prev last cs) := by
  induction cs generalizing prev last with
  | nil => exact .nil
  | cons c cs ih =>
    simp only [List.forall_mem_cons] at h
    have hlow : lowerChars c = [c.toLower] := if_pos h.1
    rw [snakeFrom, hlow]
    cases hc : isSeparator c with
    | true =>
      cases hlast : mayDivide last with
      | true => exact .divide hc hlast (ih _ _ h.2)
      | false => exact .skip hc hlast (ih _ _ h.2)
    | false =>
      have hrest := ih (some c) (some c.toLower) h.2
      cases hlast : mayDivide last with
      | true =>
        cases isUpper c && startsWord prev cs.head? with
        | true => exact .word hc hlast hrest
        | false => exact .letter hc hrest
      | false =>
        rw [Bool.and_false]
        exact .letter hc hrest

theorem cased_snakeCase (h : IsAscii s) : Cased none s.toList (snakeCase s).toList := by
  rw [snakeCase, String.toList_ofList]
  exact cased_snakeFrom none none h

namespace Cased

theorem chars (h : Cased last cs out) (hcs : ∀ c ∈ cs, c.toNat < 128) :
    ∀ c ∈ out, c.toNat < 128 ∧ isUpper c = false ∧ (isSeparator c = true → c = '_') := by
  have hunder : '_'.toNat < 128 ∧ isUpper '_' = false ∧ (isSeparator '_' = true → '_' = '_') := by
    decide
  have hletter {c : Char} (hc : isSeparator c = false) (hlt : c.toNat < 128) :
      c.toLower.toNat < 128 ∧ isUpper c.toLower = false ∧
        (isSeparator c.toLower = true → c.toLower = '_') := by
    obtain ⟨hlow, hupper, hsep, -⟩ := toLower_ascii hlt
    rw [hsep, hc]
    exact ⟨hlow, hupper, nofun⟩
  induction h with
  | nil => simp
  | skip hc hlast h ih =>
    simp only [List.forall_mem_cons] at hcs
    exact ih hcs.2
  | divide hc hlast h ih =>
    simp only [List.forall_mem_cons] at hcs
    exact List.forall_mem_cons.mpr ⟨hunder, ih hcs.2⟩
  | letter hc h ih =>
    simp only [List.forall_mem_cons] at hcs
    exact List.forall_mem_cons.mpr ⟨hletter hc hcs.1, ih hcs.2⟩
  | word hc hlast h ih =>
    simp only [List.forall_mem_cons] at hcs
    exact List.forall_mem_cons.mpr ⟨hunder, List.forall_mem_cons.mpr
      ⟨hletter hc hcs.1, ih hcs.2⟩⟩

/-- No underscore follows another one, and the front of a name counts as one. -/
theorem spaced (h : Cased last cs out) (hcs : ∀ c ∈ cs, c.toNat < 128) :
    List.IsChain (fun a b => a = '_' → b ≠ '_') (last.getD '_' :: out) := by
  induction h with
  | nil => simp
  | skip hc hlast h ih =>
    simp only [List.forall_mem_cons] at hcs
    exact ih hcs.2
  | divide hc hlast h ih =>
    simp only [List.forall_mem_cons] at hcs
    simp only [List.isChain_cons_cons]
    exact ⟨fun heq => absurd heq (mayDivide_iff.mp hlast), ih hcs.2⟩
  | letter hc h ih =>
    simp only [List.forall_mem_cons] at hcs
    simp only [List.isChain_cons_cons]
    exact ⟨fun _ => (toLower_letter hc hcs.1).2, ih hcs.2⟩
  | word hc hlast h ih =>
    simp only [List.forall_mem_cons] at hcs
    simp only [List.isChain_cons_cons]
    exact ⟨fun heq => absurd heq (mayDivide_iff.mp hlast), fun _ => (toLower_letter hc hcs.1).2,
      ih hcs.2⟩

theorem filter_eq (h : Cased last cs out) (hcs : ∀ c ∈ cs, c.toNat < 128) :
    out.filter (· != '_') = (cs.map Char.toLower).filter fun c => !isSeparator c := by
  have hseparator {c : Char} (hc : isSeparator c = true) (hlt : c.toNat < 128) :
      isSeparator c.toLower = true := (toLower_ascii hlt).2.2.1.trans hc
  induction h with
  | nil => rfl
  | skip hc hlast h ih =>
    simp only [List.forall_mem_cons] at hcs
    simp [hseparator hc hcs.1, ih hcs.2]
  | divide hc hlast h ih =>
    simp only [List.forall_mem_cons] at hcs
    simp [hseparator hc hcs.1, ih hcs.2]
  | letter hc h ih =>
    simp only [List.forall_mem_cons] at hcs
    simp [toLower_letter hc hcs.1, ih hcs.2]
  | word hc hlast h ih =>
    simp only [List.forall_mem_cons] at hcs
    simp [toLower_letter hc hcs.1, ih hcs.2]

theorem head?_eq (h : Cased none cs out) :
    out.head? = (cs.dropWhile isSeparator).head?.map Char.toLower := by
  generalize hnone : (none : Option Char) = last at h
  induction h with
  | nil => rfl
  | skip hc _ h ih => simp [hc, ih hnone]
  | divide hc hlast h ih =>
    subst hnone
    cases hlast
  | letter hc h ih => simp [hc]
  | word hc hlast h ih =>
    subst hnone
    cases hlast

end Cased

/-! ## Snake case -/

theorem isSnake_iff : IsSnake cs ↔
    (∀ c ∈ cs, isUpper c = false ∧ (isSeparator c = true → c = '_')) ∧
      List.IsChain (fun a b => a = '_' → b ≠ '_') ('_' :: cs) := by
  rw [List.isChain_iff_forall_rel_of_append_cons_cons]
  constructor
  · intro h
    constructor
    · intro c hc
      refine ⟨h.lower c hc, fun hsep => ?_⟩
      rcases isSeparator_iff.mp hsep with rfl | rfl | rfl
      · exact absurd hc h.hyphen
      · exact absurd hc h.space
      · rfl
    · rintro a b before after heq rfl rfl
      cases before with
      | nil =>
        apply h.head
        rw [(List.cons.inj heq).2]
        rfl
      | cons d before =>
        apply h.single
        rw [(List.cons.inj heq).2]
        exact ⟨before, after, by simp⟩
  · rintro ⟨hchars, hchain⟩
    have hsep {c : Char} (hc : c ∈ cs) (hne : c ≠ '_') : isSeparator c ≠ true :=
      fun h => hne ((hchars c hc).2 h)
    constructor
    · exact fun c hc => (hchars c hc).1
    · exact fun hc => hsep hc (by decide) rfl
    · exact fun hc => hsep hc (by decide) rfl
    · intro hhead
      obtain ⟨rest, rfl⟩ := List.head?_eq_some_iff.mp hhead
      exact @hchain '_' '_' [] rest rfl rfl rfl
    · rintro ⟨before, after, rfl⟩
      exact @hchain '_' '_' ('_' :: before) after (by simp) rfl rfl

theorem IsAscii.snakeCase (h : IsAscii s) : IsAscii (snakeCase s) :=
  fun c hc => ((cased_snakeCase h).chars h c hc).1

theorem isSnake_snakeCase (h : IsAscii s) : IsSnake (snakeCase s).toList := by
  rw [isSnake_iff]
  exact ⟨fun c hc => ((cased_snakeCase h).chars h c hc).2, (cased_snakeCase h).spaced h⟩

theorem filter_snakeCase (h : IsAscii s) : (snakeCase s).toList.filter (· != '_') = bare s :=
  (cased_snakeCase h).filter_eq h

theorem snakeFrom_eq_self (prev last : Option Char) (hcs : ∀ c ∈ cs, c.toNat < 128)
    (hchars : ∀ c ∈ cs, isUpper c = false ∧ (isSeparator c = true → c = '_'))
    (hchain : List.IsChain (fun a b => a = '_' → b ≠ '_') (last.getD '_' :: cs)) :
    snakeFrom prev last cs = cs := by
  induction cs generalizing prev last with
  | nil => rfl
  | cons c cs ih =>
    simp only [List.forall_mem_cons] at hcs hchars
    obtain ⟨hfirst, hchain⟩ := List.isChain_cons_cons.mp hchain
    have hrest := ih (some c) (some c) hcs.2 hchars.2 hchain
    cases hc : isSeparator c with
    | true =>
      cases hchars.1.2 hc
      have hlast : mayDivide last = true := mayDivide_iff.mpr fun heq => hfirst heq rfl
      rw [snakeFrom, if_pos hc, if_pos hlast, hrest]
    | false =>
      have hlow : lowerChars c = [c] := by
        rw [lowerChars, if_pos hcs.1, ((toLower_ascii hcs.1).2.2.2 hchars.1.1).1]
      rw [snakeFrom, hc, if_neg Bool.false_ne_true, hlow, hchars.1.1]
      simpa using hrest

/-- A text in snake case is its own snake case. -/
theorem snakeCase_of_isSnake (h : IsAscii s) (hs : IsSnake s.toList) : snakeCase s = s := by
  obtain ⟨hchars, hchain⟩ := isSnake_iff.mp hs
  rw [snakeCase, snakeFrom_eq_self none none h hchars hchain, String.ofList_toList]

theorem snakeCase_snakeCase (h : IsAscii s) : snakeCase (snakeCase s) = snakeCase s :=
  snakeCase_of_isSnake h.snakeCase (isSnake_snakeCase h)

/-! ## Pascal case -/

theorem map_toLower_eq_self (h : ∀ c ∈ cs, c.toNat < 128 ∧ isUpper c = false) :
    cs.map Char.toLower = cs := by
  induction cs with
  | nil => rfl
  | cons c cs ih =>
    simp only [List.forall_mem_cons] at h
    rw [List.map_cons, ((toLower_ascii h.1.1).2.2.2 h.1.2).1, ih h.2]

theorem map_toLower_capitalizeChars (h : ∀ c ∈ cs, c.toNat < 128 ∧ isUpper c = false) :
    (capitalizeChars cs).map Char.toLower = cs := by
  cases cs with
  | nil => rfl
  | cons c cs =>
    simp only [List.forall_mem_cons] at h
    have hup : upperChars c = [c.toUpper] := if_pos h.1.1
    rw [capitalizeChars, hup, List.singleton_append, List.map_cons,
      ((toLower_ascii h.1.1).2.2.2 h.1.2).2, map_toLower_eq_self h.2]

/-- The words of the snake case are what is left of the pascal case in lower case. -/
theorem map_toLower_pascalCase (h : IsAscii s) :
    (pascalCase s).toList.map Char.toLower = bare s := by
  have hchars := (cased_snakeCase h).chars h
  rw [← filter_snakeCase h, ← Text.flatten_splitAt]
  rw [snakeCase, String.toList_ofList] at hchars ⊢
  rw [pascalCase, String.toList_ofList, List.map_flatMap, List.flatten_eq_flatMap]
  apply List.flatMap_congr
  intro piece hpiece
  rw [map_toLower_capitalizeChars, id]
  intro c hc
  have hmem : c ∈ (Text.splitAt '_' (snakeFrom none none s.toList)).flatten :=
    List.mem_flatten.mpr ⟨piece, hpiece, hc⟩
  rw [Text.flatten_splitAt, List.mem_filter] at hmem
  obtain ⟨hlt, hupper, -⟩ := hchars c hmem.1
  exact ⟨hlt, hupper⟩

theorem isSnake_bare (h : IsAscii s) : IsSnake (bare s) := by
  have hsep {c : Char} (hc : c ∈ bare s) : isSeparator c = false := by
    simpa using (List.mem_filter.mp hc).2
  have hunder : '_' ∉ bare s := by
    intro hmem
    cases hsep hmem
  constructor
  · intro c hc
    obtain ⟨d, hd, rfl⟩ := List.mem_map.mp (List.mem_filter.mp hc).1
    exact (toLower_ascii (h d hd)).2.1
  · intro hmem
    cases hsep hmem
  · intro hmem
    cases hsep hmem
  · intro hhead
    exact hunder (List.mem_of_mem_head? hhead)
  · intro hrun
    exact hunder (hrun.subset List.mem_cons_self)

/-! ## Both cases -/

/-- What the conversions of a name to snake case and to pascal case have in common. -/
structure CasedStably (s : String) : Prop where
  snake : IsSnake (snakeCase s).toList
  /-- Nothing but separators and letter case is lost. -/
  snake_bare : (snakeCase s).toList.filter (· != '_') = bare s
  pascal : IsSnake ((pascalCase s).toList.map Char.toLower)
  pascal_bare : ((pascalCase s).toList.map Char.toLower).filter (· != '_') = bare s
  snake_again : snakeCase (snakeCase s) = snakeCase s
  pascal_of_snake : pascalCase (snakeCase s) = pascalCase s

theorem pascalCase_eq (s : String) : pascalCase s =
    .ofList ((Text.splitAt '_' (snakeCase s).toList).flatMap capitalizeChars) := by
  rw [snakeCase, String.toList_ofList, pascalCase]

/-- Conversions of ASCII names are stable, and lose separators and letter case only. -/
theorem casedStably (h : IsAscii s) : CasedStably s := by
  have hlower := map_toLower_pascalCase h
  have hsnake := isSnake_bare h
  constructor
  · exact isSnake_snakeCase h
  · exact filter_snakeCase h
  · rw [hlower]
    exact hsnake
  · rw [hlower, List.filter_eq_self]
    intro c hc
    have hsep := (List.mem_filter.mp hc).2
    rw [bne_iff_ne]
    rintro rfl
    cases hsep
  · exact snakeCase_snakeCase h
  · rw [pascalCase_eq, pascalCase_eq, snakeCase_snakeCase h]

theorem casedStably_acronyms : IsAscii "_IDPCommunication--error 2Xx_" ∧
    CasedStably "_IDPCommunication--error 2Xx_" ∧
    snakeCase "_IDPCommunication--error 2Xx_" = "idp_communication_error_2_xx_" ∧
    pascalCase "_IDPCommunication--error 2Xx_" = "IdpCommunicationError2Xx" :=
  ⟨by decide, casedStably (by decide), by decide, by decide⟩

end CrateGen.Name
