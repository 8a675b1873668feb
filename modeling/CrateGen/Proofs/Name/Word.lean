import CrateGen.Code.SymbolTable
import CrateGen.Proofs.Code.Template
import CrateGen.Proofs.Model.Lookup
import CrateGen.Proofs.Text.Lines

namespace CrateGen.Name

variable {c : Char} {cs : List Char} {s : String}

/-- A text of letters, digits and underscores, all ASCII. -/
def IsWord (s : String) : Prop :=
  s.toList.all isAsciiWord = true

theorem toNat_lt_of_isAsciiWord (h : isAsciiWord c = true) : c.toNat < 128 := by
  have h : (c.isUpper || c.isLower || c.isDigit || c == '_') = true := h
  simp only [Bool.or_eq_true, beq_iff_eq] at h
  rcases h with ((h | h) | h) | rfl
  · have hle : c.toNat ≤ 90 := (of_decide_eq_true (p := c.val ≥ 65 ∧ c.val ≤ 90) h).2
    omega
  · have hle : c.toNat ≤ 122 := of_decide_eq_true (Bool.and_eq_true_iff.mp h).2
    omega
  · have hle : c.toNat ≤ 57 := of_decide_eq_true (Bool.and_eq_true_iff.mp h).2
    omega
  · decide

theorem ascii_cases {P : Char → Prop} (h : ∀ n < 128, P (Char.ofNat n)) (hc : c.toNat < 128) :
    P c := by
  have hn := h c.toNat hc
  rwa [Char.ofNat_toNat] at hn

/-- No capital is a lower-case letter, and only the underscore has the underscore for its capital. -/
theorem toUpper_ascii (hc : c.toNat < 128) :
    c.toUpper.isLower = false ∧ (c.toUpper = '_' → c = '_') :=
  ascii_cases (P := fun c => c.toUpper.isLower = false ∧ (c.toUpper = '_' → c = '_'))
    (by decide +kernel) hc

theorem isAsciiWord_case (h : isAsciiWord c = true) :
    isAsciiWord c.toLower = true ∧ isAsciiWord c.toUpper = true :=
  ascii_cases (P := fun c => isAsciiWord c = true →
    isAsciiWord c.toLower = true ∧ isAsciiWord c.toUpper = true)
    (by decide +kernel) (toNat_lt_of_isAsciiWord h) h

theorem all_lowerChars (h : isAsciiWord c = true) : (lowerChars c).all isAsciiWord = true := by
  rw [lowerChars, if_pos (toNat_lt_of_isAsciiWord h), List.all_cons, (isAsciiWord_case h).1]
  rfl

theorem all_upperChars (h : isAsciiWord c = true) : (upperChars c).all isAsciiWord = true := by
  rw [upperChars, if_pos (toNat_lt_of_isAsciiWord h), List.all_cons, (isAsciiWord_case h).2]
  rfl

theorem all_snakeFrom (prev last : Option Char) (h : cs.all isAsciiWord = true) :
    (snakeFrom prev last cs).all isAsciiWord = true := by
  induction cs generalizing prev last with
  | nil => rfl
  | cons c cs ih =>
    rw [List.all_cons, Bool.and_eq_true] at h
    have hlow := all_lowerChars h.1
    have hunder : isAsciiWord '_' = true := by
      decide
    rw [snakeFrom]
    split
    · split
      · rw [List.all_cons, hunder, ih _ _ h.2]
        rfl
      · exact ih _ _ h.2
    · dsimp only
      rw [List.all_append, ih _ _ h.2, Bool.and_true]
      split
      · rw [List.all_cons, hunder, hlow]
        rfl
      · exact hlow

theorem IsWord.snakeCase (h : IsWord s) : IsWord (snakeCase s) := by
  rw [IsWord, Name.snakeCase, String.toList_ofList]
  exact all_snakeFrom none none h

theorem all_splitAt {α : Type} [BEq α] {p : α → Bool} {l : List α} (sep : α)
    (h : l.all p = true) : ∀ piece ∈ Text.splitAt sep l, piece.all p = true := by
  induction l with
  | nil =>
    intro piece hp
    cases List.mem_singleton.mp hp
    rfl
  | cons a l ih =>
    rw [List.all_cons, Bool.and_eq_true] at h
    have ih := ih h.2
    intro piece hp
    rw [Text.splitAt] at hp
    split at hp
    · rcases List.mem_cons.mp hp with rfl | hp
      · rfl
      · exact ih piece hp
    · cases hs : Text.splitAt sep l with
      | nil =>
        rw [hs] at hp
        cases List.mem_singleton.mp hp
        rw [List.all_cons, h.1]
        rfl
      | cons first rest =>
        rw [hs] at hp ih
        rcases List.mem_cons.mp hp with rfl | hp
        · rw [List.all_cons, h.1, ih first List.mem_cons_self]
          rfl
        · exact ih piece (List.mem_cons_of_mem _ hp)

theorem all_capitalizeChars (h : cs.all isAsciiWord = true) :
    (capitalizeChars cs).all isAsciiWord = true := by
  cases cs with
  | nil => rfl
  | cons c cs =>
    rw [List.all_cons, Bool.and_eq_true] at h
    rw [capitalizeChars, List.all_append, all_upperChars h.1, h.2]
    rfl

theorem IsWord.pascalCase (h : IsWord s) : IsWord (pascalCase s) := by
  rw [IsWord, Name.pascalCase, String.toList_ofList, List.all_flatMap, List.all_eq_true]
  exact fun piece hp => all_capitalizeChars (all_splitAt '_' (all_snakeFrom none none h) piece hp)

theorem IsWord.capitalize (h : IsWord s) : IsWord (capitalize s) := by
  rw [IsWord, Name.capitalize, String.toList_ofList]
  exact all_capitalizeChars h

theorem IsWord.append {t : String} (hs : IsWord s) (ht : IsWord t) : IsWord (s ++ t) := by
  rw [IsWord, String.toList_append, List.all_append, Bool.and_eq_true]
  exact ⟨hs, ht⟩

theorem isPlain_of_all (h : cs.all isAsciiWord = true) : Template.isPlain cs = true := by
  induction cs with
  | nil => rfl
  | cons c cs ih =>
    rw [List.all_cons, Bool.and_eq_true] at h
    have hc : c ≠ '#' := by
      rintro rfl
      cases h.1
    rw [Template.isPlain_cons c cs hc]
    exact ih h.2

theorem IsWord.clean (h : IsWord s) : Template.Clean s where
  noBreak := by
    intro hmem
    have hword := List.all_eq_true.mp h _ hmem
    cases hword
  plain := isPlain_of_all h

/-- Keywords are still words when they are escaped, but for the raw marker in front. -/
theorem IsWord.clean_escape (h : IsWord s) : Template.Clean (escape s) := by
  rw [escape]
  split
  · exact h.clean.append (.literal rfl (by decide))
  split
  · next hraw =>
    have hlist : ("r#" ++ s).toList = 'r' :: '#' :: s.toList := String.toList_append
    refine ⟨Text.noBreak_append (by decide) h.clean.noBreak, ?_⟩
    rw [hlist, Template.isPlain_cons _ _ (by decide)]
    rw [IsWord] at h
    cases hs : s.toList with
    | nil =>
      rw [hs] at hraw
      cases hraw
    | cons c cs =>
      rw [hs] at h
      have hplain := isPlain_of_all h
      rw [List.all_cons, Bool.and_eq_true] at h
      have hc : (c != '#' && c != '{') = true := by
        rw [Bool.and_eq_true, bne_iff_ne, bne_iff_ne]
        constructor <;>
        · rintro rfl
          cases h.1
      rw [Template.isPlain, hplain, Bool.and_true]
      exact hc
  · exact h.clean

theorem head_pascalCase (h : IsWord s) (hc : (Name.pascalCase s).toList.head? = some c) :
    c.isLower = false := by
  have hpieces := all_splitAt '_' (all_snakeFrom none none h)
  rw [Name.pascalCase, String.toList_ofList] at hc
  generalize Text.splitAt '_' (snakeFrom none none s.toList) = pieces at hc hpieces
  induction pieces with
  | nil => cases hc
  | cons piece pieces ih =>
    cases piece with
    | nil => exact ih hc fun p hp => hpieces p (List.mem_cons_of_mem _ hp)
    | cons d ds =>
      have hpiece := hpieces (d :: ds) List.mem_cons_self
      rw [List.all_cons, Bool.and_eq_true] at hpiece
      have hlt := toNat_lt_of_isAsciiWord hpiece.1
      rw [List.flatMap_cons, capitalizeChars, upperChars, if_pos hlt] at hc
      cases hc
      exact (toUpper_ascii hlt).1

theorem rawKeywords_lower :
    (rawKeywords.all fun k => k.toList.head?.any Char.isLower) = true := by
  decide +kernel

theorem IsWord.needsRaw_pascalCase (h : IsWord s) : needsRaw (Name.pascalCase s).toList = false := by
  have hcontains : rawKeywords.contains
      (.ofList ((Name.pascalCase s).toList.takeWhile isAsciiWord)) = false := by
    rw [← Bool.not_eq_true, List.contains_iff_mem]
    intro hmem
    have hlower := List.all_eq_true.mp rawKeywords_lower _ hmem
    rw [String.toList_ofList] at hlower
    cases hs : (Name.pascalCase s).toList with
    | nil =>
      rw [hs] at hlower
      cases hlower
    | cons c cs =>
      have hc : c.isLower = false := head_pascalCase h (by rw [hs]; rfl)
      rw [hs, List.takeWhile_cons] at hlower
      split at hlower
      · have hlower : c.isLower = true := hlower
        rw [hc] at hlower
        cases hlower
      · cases hlower
  rw [needsRaw, hcontains, Bool.false_and]

theorem IsWord.escape_pascalCase_eq (h : IsWord s) : escape (Name.pascalCase s) =
    if pathKeywords.contains (Name.pascalCase s) then Name.pascalCase s ++ "_"
    else Name.pascalCase s := by
  rw [escape, h.needsRaw_pascalCase, if_neg Bool.false_ne_true]

/-- Type names are words, and stay so when they are escaped. -/
theorem IsWord.escape_pascalCase (h : IsWord s) : IsWord (escape (Name.pascalCase s)) := by
  have hword := h.pascalCase
  rw [h.escape_pascalCase_eq]
  split
  · have hunder : IsWord "_" := rfl
    exact hword.append hunder
  · exact hword

theorem IsWord.underscore_notMem_pascalCase (h : IsWord s) :
    '_' ∉ (Name.pascalCase s).toList := by
  rw [Name.pascalCase, String.toList_ofList, List.mem_flatMap]
  rintro ⟨piece, hpiece, hmem⟩
  have hword := all_splitAt '_' (all_snakeFrom none none h) piece hpiece
  have hnot := Text.not_mem_of_mem_splitAt hpiece
  cases piece with
  | nil => cases hmem
  | cons c cs =>
    rw [List.all_cons, Bool.and_eq_true] at hword
    have hlt := toNat_lt_of_isAsciiWord hword.1
    rw [capitalizeChars, upperChars, if_pos hlt, List.singleton_append] at hmem
    rcases List.mem_cons.mp hmem with hc | hmem
    · exact hnot ((toUpper_ascii hlt).2 hc.symm ▸ List.mem_cons_self)
    · exact hnot (List.mem_cons_of_mem _ hmem)

/-- Escaping keeps type names apart, for none of them ends in the underscore that it adds. -/
theorem IsWord.escape_pascalCase_inj {t : String} (hs : IsWord s) (ht : IsWord t) :
    escape (Name.pascalCase s) = escape (Name.pascalCase t) ↔
      Name.pascalCase s = Name.pascalCase t := by
  have hmem (a : String) : '_' ∈ (a ++ "_").toList := by
    rw [String.toList_append]
    exact List.mem_append_right _ List.mem_cons_self
  constructor
  · rw [hs.escape_pascalCase_eq, ht.escape_pascalCase_eq]
    intro heq
    split at heq <;> split at heq
    · simpa only [String.append_left_inj] using heq
    · exact absurd (heq ▸ hmem _) ht.underscore_notMem_pascalCase
    · exact absurd (heq.symm ▸ hmem _) hs.underscore_notMem_pascalCase
    · exact heq
  · intro heq
    rw [heq]

end CrateGen.Name

namespace CrateGen.ShapeId

variable {raw : String} {id : ShapeId}

/-- The name and the member of an id are words. -/
def IsWords (id : ShapeId) : Prop :=
  Name.IsWord id.name ∧ ∀ member ∈ id.member, Name.IsWord member

theorem isWord_of_isIdentifier {cs : List Char} (h : isIdentifier cs = true) :
    Name.IsWord (.ofList cs) := by
  rw [Name.IsWord, String.toList_ofList]
  cases cs with
  | nil => rfl
  | cons c cs =>
    rw [isIdentifier, Bool.and_eq_true] at h
    rw [List.all_cons, Bool.and_eq_true]
    refine ⟨?_, h.2⟩
    have hc := h.1
    rw [Bool.or_eq_true] at hc
    rw [Name.isAsciiWord, Bool.or_eq_true, Char.isAlphanum, Bool.or_eq_true]
    exact hc.imp_left .inl

theorem isWords_of_parts {isNs : Bool} {ns name : List Char} {member : Option (List Char)}
    (h : (do
      guard (isNs && isIdentifier name && member.all isIdentifier)
      return (⟨.ofList ns, .ofList name, member.map .ofList⟩ : ShapeId)) = some id) :
    id.IsWords := by
  cases hid : isNs && isIdentifier name && member.all isIdentifier with
  | false =>
    rw [hid] at h
    cases h
  | true =>
    rw [hid] at h
    rw [Bool.and_eq_true, Bool.and_eq_true] at hid
    cases h
    refine ⟨isWord_of_isIdentifier hid.1.2, fun m hm => ?_⟩
    obtain ⟨cs, hcs, rfl⟩ := Option.map_eq_some_iff.mp hm
    have hmember := hid.2
    rw [hcs] at hmember
    exact isWord_of_isIdentifier hmember

theorem isWords_of_parse? (h : parse? raw = some id) : id.IsWords := by
  unfold parse? at h
  cases hs : Text.splitFirst? '#' raw.toList with
  | none =>
    rw [hs] at h
    cases h
  | some parts =>
    obtain ⟨ns, rest⟩ := parts
    rw [hs] at h
    cases hr : Text.splitFirst? '$' rest with
    | none =>
      rw [Option.bind_eq_bind, Option.bind_some] at h
      dsimp only at h
      rw [hr] at h
      exact isWords_of_parts h
    | some parts =>
      rw [Option.bind_eq_bind, Option.bind_some] at h
      dsimp only at h
      rw [hr] at h
      exact isWords_of_parts h

end CrateGen.ShapeId

namespace CrateGen

/-- A model whose ids have words for their names and members. -/
def Model.Worded (m : Model) : Prop :=
  ∀ id s, m.get? id = some s → s.id.IsWords

variable {s : Shape}

instance (s : String) : Decidable (Name.IsWord s) :=
  inferInstanceAs (Decidable (s.toList.all Name.isAsciiWord = true))

instance (id : ShapeId) : Decidable id.IsWords :=
  inferInstanceAs (Decidable (_ ∧ _))

theorem Model.worded_of_toList {m : Model} (h : ∀ s ∈ m.toList, s.id.IsWords) : m.Worded :=
  fun id s hs => h s (Model.mem_toList.mpr ⟨id, hs⟩)

theorem ShapeId.IsWords.memberName (h : s.id.IsWords) : Name.IsWord s.memberName := by
  rw [Shape.memberName]
  cases hm : s.id.member with
  | none => rfl
  | some member => exact h.2 member hm

theorem SymbolTable.clean_memberName (t : SymbolTable) (h : s.id.IsWords) :
    Template.Clean (t.memberName s) := by
  have hname : Name.IsWord (s.id.member.getD s.id.name) := by
    cases hm : s.id.member with
    | none => exact h.1
    | some member => exact h.2 member hm
  rw [memberName]
  apply Name.IsWord.clean_escape
  split
  · exact hname.pascalCase
  · exact hname.snakeCase

end CrateGen
