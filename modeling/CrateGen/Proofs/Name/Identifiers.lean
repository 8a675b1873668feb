import CrateGen.Proofs.Model.IdText
import CrateGen.Proofs.Name.Casing
import Mathlib.Data.List.TakeWhile

/-!
When the names of generated code are identifiers. Escaping takes care of keywords; what is left is
how a name begins, for the conversions of case drop the underscores in front of it. The name of a
field, a variant or a type is an identifier exactly if a letter comes first behind them.
-/

namespace CrateGen.Name

open ShapeId (IsPart IsInitial)

/-- The words that are no identifiers as they stand, in the editions before 2024, which also reserves
`gen`. -/
def keywords : List String :=
  ["Self", "abstract", "as", "async", "await", "become", "box", "break", "const", "continue",
   "crate", "do", "dyn", "else", "enum", "extern", "false", "final", "fn", "for", "if", "impl",
   "in", "let", "loop", "macro", "match", "mod", "move", "mut", "override", "priv", "pub", "ref",
   "return", "self", "static", "struct", "super", "trait", "true", "try", "type", "typeof",
   "unsafe", "unsized", "use", "virtual", "where", "while", "yield"]

/-- The keywords that are no identifiers behind `r#` either. -/
def keywordsNeverRaw : List String :=
  ["Self", "crate", "self", "super"]

/-- The identifiers of source code, plain or raw, as far as they are ASCII. -/
inductive IsIdentifier : String → Prop where
  | plain {s : String} (hs : IsPart s) (hne : s ≠ "_") (hk : s ∉ keywords) : IsIdentifier s
  | raw {s : String} (hs : IsPart s) (hne : s ≠ "_") (hk : s ∉ keywordsNeverRaw) :
      IsIdentifier ("r#" ++ s)

/-- The first character of a name that is no separator is a letter. -/
def StartsInLetter (s : String) : Prop :=
  (s.toList.dropWhile isSeparator).head?.any Char.isAlpha = true

instance (s : String) : Decidable (StartsInLetter s) :=
  inferInstanceAs (Decidable (_ = true))

variable {s u : String}

theorem IsWord.isAscii (h : IsWord s) : IsAscii s :=
  fun c hc => toNat_lt_of_isAsciiWord (List.all_eq_true.mp h c hc)

/-- A word is an identifier, or a keyword, by its first character. -/
theorem IsWord.isPart_iff (h : IsWord u) :
    IsPart u ↔ ∃ c, u.toList.head? = some c ∧ IsInitial c := by
  rw [← ShapeId.isIdentifier_toList]
  rw [IsWord] at h
  cases hu : u.toList with
  | nil => simp [ShapeId.isIdentifier]
  | cons c cs =>
    rw [hu, List.all_cons, Bool.and_eq_true] at h
    have hrest : (cs.all fun d => d.isAlphanum || d == '_') = true := h.2
    rw [ShapeId.isIdentifier, hrest, Bool.and_true, ShapeId.isInitial_iff]
    simp

theorem IsIdentifier.head (h : IsIdentifier s) :
    s.toList.head?.any (fun c => c.isAlpha || c == '_') = true := by
  cases h with
  | plain hs =>
    obtain ⟨c, cs, hlist, hc, -⟩ := hs
    rw [hlist]
    exact ShapeId.isInitial_iff.mpr hc
  | raw =>
    rw [String.toList_append]
    rfl

/-! ## Escaped words -/

/-- Escaping knows all keywords. -/
theorem mem_keywords {k : String} : k ∈ keywords ↔ k ∈ pathKeywords ∨ k ∈ rawKeywords := by
  have hsub : (keywords.all fun k => pathKeywords.contains k || rawKeywords.contains k) = true ∧
      ((pathKeywords ++ rawKeywords).all keywords.contains) = true := by
    decide
  rw [← List.mem_append]
  constructor
  · intro hk
    simpa using List.all_eq_true.mp hsub.1 k hk
  · intro hk
    exact List.contains_iff_mem.mp (List.all_eq_true.mp hsub.2 k hk)

theorem mem_keywordsNeverRaw {k : String} : k ∈ keywordsNeverRaw ↔ k ∈ pathKeywords := by
  simp only [keywordsNeverRaw, pathKeywords, List.mem_cons, List.not_mem_nil, or_false]
  tauto

theorem pathKeywords_table : (pathKeywords.all fun k =>
    ShapeId.isIdentifier k.toList && k != "_" && ShapeId.isIdentifier (k ++ "_").toList &&
      k ++ "_" != "_" && !keywords.contains (k ++ "_")) = true := by
  decide

theorem rawKeywords_table : (rawKeywords.all fun k =>
    ShapeId.isIdentifier k.toList && k != "_" && !pathKeywords.contains k) = true := by
  decide

theorem IsWord.needsRaw_iff (h : IsWord u) : needsRaw u.toList = true ↔ u ∈ rawKeywords := by
  have hwhole : u.toList.takeWhile isAsciiWord = u.toList ∧ u.toList.dropWhile isAsciiWord = [] :=
    ⟨List.takeWhile_eq_self_iff.mpr (List.all_eq_true.mp h),
      List.dropWhile_eq_nil_iff.mpr (List.all_eq_true.mp h)⟩
  have hblank : isSourceBlankFrom .between [] = true := by
    decide
  rw [needsRaw, hwhole.1, hwhole.2, String.ofList_toList, hblank, Bool.and_true,
    List.contains_iff_mem]

theorem IsWord.not_raw (h : IsWord ("r#" ++ u)) : False := by
  rw [IsWord, String.toList_append, List.all_append] at h
  cases h

/-- Escaping makes an identifier of every word that is one or is a keyword. -/
theorem IsWord.isIdentifier_escape_iff (h : IsWord u) :
    IsIdentifier (escape u) ↔ IsPart u ∧ u ≠ "_" := by
  rw [escape]
  by_cases hpath : pathKeywords.contains u = true
  · rw [if_pos hpath]
    have htable := List.all_eq_true.mp pathKeywords_table u (List.contains_iff_mem.mp hpath)
    simp only [Bool.and_eq_true, Bool.not_eq_true', bne_iff_ne, List.contains_eq_mem,
      decide_eq_false_iff_not, ShapeId.isIdentifier_toList] at htable
    obtain ⟨⟨⟨⟨hpart, hne⟩, hpart'⟩, hne'⟩, hk⟩ := htable
    exact iff_of_true (.plain hpart' hne' hk) ⟨hpart, hne⟩
  · rw [if_neg hpath]
    rw [List.contains_iff_mem] at hpath
    by_cases hraw : needsRaw u.toList = true
    · rw [if_pos hraw]
      have htable := List.all_eq_true.mp rawKeywords_table u (h.needsRaw_iff.mp hraw)
      simp only [Bool.and_eq_true, bne_iff_ne, ShapeId.isIdentifier_toList] at htable
      obtain ⟨⟨hpart, hne⟩, -⟩ := htable
      exact iff_of_true (.raw hpart hne (mt mem_keywordsNeverRaw.mp hpath)) ⟨hpart, hne⟩
    · rw [if_neg hraw]
      constructor
      · intro hid
        cases hid with
        | plain hs hne hk => exact ⟨hs, hne⟩
        | raw hs hne hk => exact h.not_raw.elim
      · rintro ⟨hpart, hne⟩
        have hk : u ∉ keywords := by
          intro hmem
          rcases mem_keywords.mp hmem with hmem | hmem
          · exact hpath hmem
          · exact hraw (h.needsRaw_iff.mpr hmem)
        exact .plain hpart hne hk

/-! ## Names in snake case and in pascal case -/

theorem case_letters : (∀ c : Char, c.toNat < 128 → c.toLower.isAlpha = c.isAlpha ∧
      (isSeparator c = false → c.toLower ≠ '_')) ∧
    ∀ c : Char, c.toNat < 128 → c.toUpper.isAlpha = c.isAlpha ∧
      (isSeparator c = false → c.toUpper ≠ '_') := by
  constructor
  · intro c hc
    exact ascii_cases (P := fun c => c.toLower.isAlpha = c.isAlpha ∧
      (isSeparator c = false → c.toLower ≠ '_')) (by decide) hc
  · intro c hc
    exact ascii_cases (P := fun c => c.toUpper.isAlpha = c.isAlpha ∧
      (isSeparator c = false → c.toUpper ≠ '_')) (by decide) hc

theorem isPart_iff_startsInLetter (hs : IsAscii s) (hu : IsWord u) {f : Char → Char}
    (hhead : u.toList.head? = (s.toList.dropWhile isSeparator).head?.map f)
    (hf : ∀ c : Char, c.toNat < 128 → (f c).isAlpha = c.isAlpha ∧
      (isSeparator c = false → f c ≠ '_')) :
    (IsPart u ∧ u ≠ "_") ↔ StartsInLetter s := by
  rw [hu.isPart_iff, hhead, StartsInLetter]
  have hsep := List.head?_dropWhile_not isSeparator s.toList
  cases hfirst : (s.toList.dropWhile isSeparator).head? with
  | none => simp
  | some c =>
    rw [hfirst] at hhead hsep
    have hmem : c ∈ s.toList :=
      (List.dropWhile_suffix isSeparator).subset (List.mem_of_mem_head? hfirst)
    obtain ⟨halpha, hne⟩ := hf c (hs c hmem)
    have hu' : u ≠ "_" := by
      rintro rfl
      exact hne hsep (Option.some.inj hhead).symm
    simp [hu', ← ShapeId.isInitial_iff, halpha, hne hsep]

theorem IsWord.head?_snakeCase (h : IsWord s) : (Name.snakeCase s).toList.head? =
    (s.toList.dropWhile isSeparator).head?.map Char.toLower :=
  (cased_snakeCase h.isAscii).head?_eq

theorem head?_capitalized {cs : List Char} (hcs : ∀ c ∈ cs, c.toNat < 128)
    (hhead : cs.head? ≠ some '_') :
    ((Text.splitAt '_' cs).flatMap capitalizeChars).head? = cs.head?.map Char.toUpper := by
  cases cs with
  | nil => rfl
  | cons c cs =>
    have hc : ¬(c == '_') = true := by
      rw [beq_iff_eq]
      rintro rfl
      exact hhead rfl
    obtain ⟨first, rest, hp⟩ := List.exists_cons_of_ne_nil (Text.splitAt_ne_nil '_' cs)
    have hup : upperChars c = [c.toUpper] := if_pos (hcs c List.mem_cons_self)
    rw [Text.splitAt_of_ne hc hp, List.flatMap_cons, capitalizeChars, hup]
    rfl

theorem IsWord.head?_pascalCase (h : IsWord s) : (Name.pascalCase s).toList.head? =
    (s.toList.dropWhile isSeparator).head?.map Char.toUpper := by
  have hsnake := h.isAscii
  rw [pascalCase_eq, String.toList_ofList,
    head?_capitalized hsnake.snakeCase (isSnake_snakeCase hsnake).head, h.head?_snakeCase,
    Option.map_map]
  apply Option.map_congr
  intro c hc
  have hmem : c ∈ s.toList :=
    (List.dropWhile_suffix isSeparator).subset (List.mem_of_mem_head? hc)
  exact ascii_cases (P := fun c => c.toLower.toUpper = c.toUpper) (by decide)
    (hsnake c hmem)

theorem IsWord.isIdentifier_snakeCase_iff (h : IsWord s) :
    IsIdentifier (escape (Name.snakeCase s)) ↔ StartsInLetter s := by
  rw [h.snakeCase.isIdentifier_escape_iff]
  exact isPart_iff_startsInLetter h.isAscii h.snakeCase h.head?_snakeCase case_letters.1

theorem IsWord.isIdentifier_pascalCase_iff (h : IsWord s) :
    IsIdentifier (escape (Name.pascalCase s)) ↔ StartsInLetter s := by
  rw [h.pascalCase.isIdentifier_escape_iff]
  exact isPart_iff_startsInLetter h.isAscii h.pascalCase h.head?_pascalCase case_letters.2

end CrateGen.Name

namespace CrateGen

open Name

/-- The kinds of shapes that have a type, or an operation, of their own name. -/
def ShapeKind.isNamed : ShapeKind → Bool
  | .structure _ | .union _ | .enum _ | .operation _ _ _ | .service _ _ => true
  | .list _ | .map _ _ | .primitive _ | .member _ => false

namespace SymbolTable

variable {t : SymbolTable} {s : Shape} {raw : String}

theorem exists_symbol_of_isNamed (t : SymbolTable) (h : s.kind.isNamed = true) :
    ∃ ns, t.symbol s = .ok (.named (typeName s) ns) := by
  rw [symbol, symbolWithin]
  cases hk : s.kind with
  | «structure» members => exact ⟨_, rfl⟩
  | union members => exact ⟨_, rfl⟩
  | enum variants => exact ⟨_, rfl⟩
  | operation input output errors => exact ⟨_, rfl⟩
  | service version operations => exact ⟨_, rfl⟩
  | _ =>
    rw [hk] at h
    cases h

/-- The name that generated code has for a member, or for a shape with a name, is an identifier
exactly if the first character of its modeled name that is no underscore is a letter. -/
theorem isIdentifier_names_iff (t : SymbolTable) (h : ShapeId.parse? raw = some s.id) :
    (IsIdentifier (t.memberName s) ↔ StartsInLetter (s.id.member.getD s.id.name)) ∧
    (s.kind.isNamed = true → ∃ symbol, t.symbol s = .ok symbol ∧
      (IsIdentifier symbol.name ↔ StartsInLetter s.id.name)) := by
  have hwords := ShapeId.isWords_of_parse? h
  constructor
  · have hname : IsWord (s.id.member.getD s.id.name) := by
      cases hm : s.id.member with
      | none => exact hwords.1
      | some member => exact hwords.2 member hm
    rw [memberName]
    split
    · exact hname.isIdentifier_pascalCase_iff
    · exact hname.isIdentifier_snakeCase_iff
  · intro hnamed
    obtain ⟨ns, hsymbol⟩ := t.exists_symbol_of_isNamed hnamed
    exact ⟨_, hsymbol, hwords.1.isIdentifier_pascalCase_iff⟩

end SymbolTable

/-! ## Names with underscores in front -/

/-- A structure and its members, some of which are called after keywords, and a structure whose
name has neither letters nor digits. -/
def underscored : SymbolTable where
  model := ((({} : Builder).structure "ns#_self" []
    [⟨"__type", "smithy.api#String", []⟩, ⟨"_1", "smithy.api#String", []⟩]).structure "ns#__" []
    []).model
  runtime := {}
  target := .client

def selfShape : Shape where
  id := ⟨"ns", "_self", none⟩
  kind := .structure [⟨"ns", "_self", some "__type"⟩, ⟨"ns", "_self", some "_1"⟩]

def typeMember : Shape where
  id := ⟨"ns", "_self", some "__type"⟩
  kind := .member ⟨"smithy.api", "String", none⟩

def digitMember : Shape where
  id := ⟨"ns", "_self", some "_1"⟩
  kind := .member ⟨"smithy.api", "String", none⟩

def blankShape : Shape where
  id := ⟨"ns", "__", none⟩
  kind := .structure []

theorem underscored_checked : (∀ s ∈ [selfShape, typeMember, digitMember, blankShape],
      underscored.model.get? s.id = some s ∧ ShapeId.parse? s.id.display = some s.id) ∧
    underscored.memberName typeMember = "r#type" ∧ underscored.memberName digitMember = "1" ∧
    SymbolTable.typeName selfShape = "Self_" ∧ SymbolTable.typeName blankShape = "" := by
  decide

namespace SymbolTable

theorem isIdentifier_names_iff_self :
    ShapeId.parse? "ns#_self$__type" = some typeMember.id ∧
    ShapeId.parse? "ns#_self" = some selfShape.id ∧ selfShape.kind.isNamed = true ∧
    IsIdentifier (underscored.memberName typeMember) ∧
    ∃ symbol, underscored.symbol selfShape = .ok symbol ∧ IsIdentifier symbol.name := by
  have htype : ShapeId.parse? "ns#_self$__type" = some typeMember.id := by
    decide
  have hself : ShapeId.parse? "ns#_self" = some selfShape.id := by
    decide
  obtain ⟨symbol, hsymbol, hname⟩ := (isIdentifier_names_iff underscored hself).2 rfl
  exact ⟨htype, hself, rfl, (isIdentifier_names_iff underscored htype).1.mpr (by decide), symbol,
    hsymbol, hname.mpr (by decide)⟩

/-- The underscore that makes an identifier of a modeled name is not kept. -/
theorem names_not_isIdentifier :
    (underscored.model.get? digitMember.id = some digitMember ∧
      ShapeId.parse? "ns#_self$_1" = some digitMember.id ∧
      underscored.memberName digitMember = "1" ∧
      ¬IsIdentifier (underscored.memberName digitMember)) ∧
    underscored.model.get? blankShape.id = some blankShape ∧
    ShapeId.parse? "ns#__" = some blankShape.id ∧
    ∃ symbol, underscored.symbol blankShape = .ok symbol ∧ symbol.name = "" ∧
      ¬IsIdentifier symbol.name := by
  obtain ⟨hmodel, -, hdigit, -, hblank⟩ := underscored_checked
  have hdigits := hmodel digitMember (by simp)
  have hblanks := hmodel blankShape (by simp)
  obtain ⟨ns, hsymbol⟩ := underscored.exists_symbol_of_isNamed (s := blankShape) rfl
  refine ⟨⟨hdigits.1, hdigits.2, hdigit, ?_⟩, hblanks.1, hblanks.2, _, hsymbol, hblank, ?_⟩
  · intro hid
    rw [hdigit] at hid
    exact absurd hid.head (by decide)
  · intro hid
    change IsIdentifier (typeName blankShape) at hid
    rw [hblank] at hid
    exact absurd hid.head (by decide)

end SymbolTable

end CrateGen
