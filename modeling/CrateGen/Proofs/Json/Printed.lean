import CrateGen.Json.Printer
import Mathlib.Data.Option.Basic
import Mathlib.Tactic.SplitIfs

/-!
What is printed is read again. A string comes back whatever characters it holds, and a value
without numbers comes back as the document that has the same parts, with nothing missing and
nothing left over.
-/

namespace CrateGen.Json

/-! ## Strings -/

variable {c : Char} {text : List Char}

/-- In front of anything, the text is read as one part of a string, which stands for the
character alone. -/
def Spells (text : List Char) (c : Char) : Prop :=
  ∃ part, (∀ cs, readString (text ++ cs) =
      (readString cs).map fun (parts, rest) => (part :: parts, rest)) ∧
    ∀ parts, joinParts (part :: parts) = (joinParts parts).map (c :: ·)

theorem spells_escape {a : Char} (ha : escaped? a = some c) (hu : a ≠ 'u') :
    Spells ['\\', a] c := by
  refine ⟨.char c, fun cs => ?_, fun _ => rfl⟩
  rw [List.cons_append, List.singleton_append, readString.eq_4 a cs fun _ _ _ _ _ h => (hu h).elim,
    ha]
  cases readString cs <;> rfl

theorem hexDigit?_digitChar : ∀ n < 16, hexDigit? n.digitChar = some n := by
  decide

/-- A unit below the surrogates is a character of its own. -/
theorem joinParts_unit {n : Nat} (h : n < 0xD800) (parts : List StringPart) :
    joinParts (.unit n :: parts) = (joinParts parts).map (Char.ofNat n :: ·) := by
  have hlow : (decide (n < 0xD800) || decide (0xE000 ≤ n)) = true := by
    rw [decide_eq_true h, Bool.true_or]
  rw [joinParts.eq_def]
  dsimp only
  rw [if_pos hlow]

theorem spells_unit (h : c.toNat < 0x20) : Spells ('\\' :: 'u' :: unitDigits c.toNat) c := by
  have hdigit (n : Nat) : hexDigit? (n % 16).digitChar = some (n % 16) :=
    hexDigit?_digitChar _ (Nat.mod_lt n (by decide))
  have hvalue : c.toNat / 4096 % 16 * 4096 + c.toNat / 256 % 16 * 256 + c.toNat / 16 % 16 * 16 +
      c.toNat % 16 = c.toNat := by
    omega
  refine ⟨.unit c.toNat, fun cs => ?_, fun parts => ?_⟩
  · simp only [unitDigits, List.map_cons, List.map_nil, List.cons_append, List.nil_append,
      readString.eq_3, hdigit, Option.bind_eq_bind, Option.bind_some, hvalue]
    cases readString cs <;> rfl
  · rw [joinParts_unit (by omega), Char.ofNat_toNat]

theorem spells_self (hctrl : 0x20 ≤ c.toNat) (hquote : c ≠ '"') (hslash : c ≠ '\\') :
    Spells [c] c := by
  refine ⟨.char c, fun cs => ?_, fun _ => rfl⟩
  have hguard : (decide (0x20 ≤ c.toNat) && c != '\\') = true := by
    rw [Bool.and_eq_true, decide_eq_true_eq, bne_iff_ne]
    exact ⟨hctrl, hslash⟩
  rw [List.singleton_append, readString.eq_5 c cs hquote (fun _ _ _ _ _ h => (hslash h).elim)
    fun _ _ h => (hslash h).elim, hguard]
  cases readString cs <;> rfl

theorem spells_escapeChar (c : Char) : Spells (escapeChar c) c := by
  unfold escapeChar
  split_ifs with hquote hslash _ _ _ _ _ hctrl
  iterate 7
    · subst c
      exact spells_escape rfl (by decide)
  · exact spells_unit hctrl
  · exact spells_self (Nat.le_of_not_lt hctrl) hquote hslash

theorem readString_escaped (cs rest : List Char) :
    ∃ parts, readString (cs.flatMap escapeChar ++ '"' :: rest) = some (parts, rest) ∧
      joinParts parts = some cs := by
  induction cs with
  | nil => exact ⟨[], readString.eq_2 rest, rfl⟩
  | cons c cs ih =>
    obtain ⟨parts, hread, hjoin⟩ := ih
    obtain ⟨part, hpart, hchar⟩ := spells_escapeChar c
    refine ⟨part :: parts, ?_, ?_⟩
    · rw [List.flatMap_cons, List.append_assoc, hpart, hread]
      rfl
    · rw [hchar, hjoin]
      rfl

theorem readText?_escaped (s : String) (rest : List Char) :
    readText? (s.toList.flatMap escapeChar ++ '"' :: rest) = some (some s, rest) := by
  obtain ⟨parts, hread, hjoin⟩ := readString_escaped s.toList rest
  rw [readText?, hread, Option.map_some]
  dsimp only
  rw [hjoin, Option.map_some, String.ofList_toList]

theorem printString_append (s : String) (rest : List Char) :
    printString s ++ rest = '"' :: (s.toList.flatMap escapeChar ++ '"' :: rest) := by
  rw [printString, List.cons_append, List.cons_append, List.append_assoc, List.singleton_append]

/-! ## Values -/

mutual

/-- The parts of a value; a number has a text of its own and is left out. -/
def Value.document : Value → Document
  | .null => .null
  | .boolean b => .boolean b
  | .number _ => .broken
  | .string s => .string (some s)
  | .array items => .array (itemDocuments items) true
  | .object members => .object (memberDocuments members) true

def itemDocuments : List Value → List Document
  | [] => []
  | v :: rest => v.document :: itemDocuments rest

def memberDocuments : List (String × Value) → List (Option String × Document)
  | [] => []
  | (k, v) :: rest => (some k, v.document) :: memberDocuments rest

end

mutual

def Value.isNumberless : Value → Bool
  | .number _ => false
  | .array items => itemsNumberless items
  | .object members => membersNumberless members
  | _ => true

def itemsNumberless : List Value → Bool
  | [] => true
  | v :: rest => v.isNumberless && itemsNumberless rest

def membersNumberless : List (String × Value) → Bool
  | [] => true
  | (_, v) :: rest => v.isNumberless && membersNumberless rest

end

theorem membersNumberless_iff {members : List (String × Value)} :
    membersNumberless members = true ↔ ∀ member ∈ members, member.2.isNumberless = true := by
  induction members with
  | nil => exact iff_of_true rfl nofun
  | cons member members ih =>
    rw [membersNumberless, Bool.and_eq_true, ih, List.forall_mem_cons]

theorem isWhole_document {v : Value} (h : v.isNumberless = true) : v.document.isWhole = true := by
  cases v with
  | number n => cases h
  | _ => rfl

theorem skipSpace_of_not {c : Char} (h : isSpace c = false) (cs : List Char) :
    skipSpace (c :: cs) = c :: cs := by
  rw [skipSpace, List.dropWhile_cons, h]
  rfl

/-- A printed value starts neither with a space nor with the end of an array. -/
theorem exists_head_print {v : Value} (h : v.isNumberless = true) :
    ∃ c cs, v.print = c :: cs ∧ isSpace c = false ∧ c ≠ ']' := by
  cases v with
  | null => exact ⟨_, _, Value.print.eq_1, by decide, by decide⟩
  | boolean b => cases b <;> exact ⟨_, _, by rw [Value.print], by decide, by decide⟩
  | number n => cases h
  | string s => exact ⟨'"', _, by rw [Value.print, printString]; rfl, by decide, by decide⟩
  | array items => exact ⟨'[', _, by rw [Value.print]; rfl, by decide, by decide⟩
  | object members => exact ⟨'{', _, by rw [Value.print]; rfl, by decide, by decide⟩

theorem printItems_cons_cons (v v' : Value) (items : List Value) :
    printItems (v :: v' :: items) = v.print ++ ',' :: printItems (v' :: items) :=
  printItems.eq_3 v _ nofun

theorem printMembers_cons_cons (k : String) (v : Value) (member : String × Value)
    (members : List (String × Value)) : printMembers ((k, v) :: member :: members) =
      printString k ++ ':' :: v.print ++ ',' :: printMembers (member :: members) :=
  printMembers.eq_3 k v _ nofun

theorem exists_head_printItems {v : Value} {items : List Value}
    (h : itemsNumberless (v :: items) = true) :
    ∃ c cs, printItems (v :: items) = c :: cs ∧ isSpace c = false ∧ c ≠ ']' := by
  rw [itemsNumberless, Bool.and_eq_true] at h
  obtain ⟨c, cs, hc, hhead⟩ := exists_head_print h.1
  cases items with
  | nil => exact ⟨c, cs, by rw [printItems, hc], hhead⟩
  | cons v' items => exact ⟨c, _, by rw [printItems_cons_cons, hc]; rfl, hhead⟩

theorem exists_head_printMembers (k : String) (v : Value) (members : List (String × Value)) :
    ∃ cs, printMembers ((k, v) :: members) = '"' :: cs := by
  cases members with
  | nil => exact ⟨_, by rw [printMembers, printString]; rfl⟩
  | cons member members => exact ⟨_, by rw [printMembers_cons_cons, printString]; rfl⟩

section

variable (fuel : Nat) (cs : List Char)

theorem readValue_string (s : String) :
    readValue (fuel + 1) (printString s ++ cs) = (.string (some s), cs) := by
  have hspace := skipSpace_of_not (c := '"') (by decide)
  simp only [printString_append, readValue, hspace, readText?_escaped]

theorem readValue_array {c : Char} (hspace : isSpace c = false) (hend : c ≠ ']') :
    readValue (fuel + 1) ('[' :: c :: cs) =
      (.array (readItems fuel (c :: cs)).1 (readItems fuel (c :: cs)).2.1,
        (readItems fuel (c :: cs)).2.2) := by
  have hopen := skipSpace_of_not (c := '[') (by decide)
  simp only [readValue, hopen, skipSpace_of_not hspace]
  split
  · next h => exact (hend (List.cons.inj h).1).elim
  · rfl

theorem readValue_object :
    readValue (fuel + 1) ('{' :: '"' :: cs) =
      (.object (readMembers fuel ('"' :: cs)).1 (readMembers fuel ('"' :: cs)).2.1,
        (readMembers fuel ('"' :: cs)).2.2) := by
  have hopen := skipSpace_of_not (c := '{') (by decide)
  have hquote := skipSpace_of_not (c := '"') (by decide)
  simp only [readValue, hopen, hquote]
  rfl

variable {fuel cs} {text : List Char} {key : String} {doc : Document}

theorem readItems_last (h : readValue fuel (text ++ ']' :: cs) = (doc, ']' :: cs))
    (hw : doc.isWhole = true) :
    readItems (fuel + 1) (text ++ ']' :: cs) = ([doc], true, cs) := by
  have hend := skipSpace_of_not (c := ']') (by decide)
  simp only [readItems, h, hw, hend, Bool.not_true, Bool.false_eq_true, if_false]

theorem readItems_next (h : readValue fuel (text ++ ',' :: cs) = (doc, ',' :: cs))
    (hw : doc.isWhole = true) :
    readItems (fuel + 1) (text ++ ',' :: cs) =
      (doc :: (readItems fuel cs).1, (readItems fuel cs).2) := by
  have hcomma := skipSpace_of_not (c := ',') (by decide)
  simp only [readItems, h, hw, hcomma, Bool.not_true, Bool.false_eq_true, if_false]

theorem readMembers_last (h : readValue fuel (text ++ '}' :: cs) = (doc, '}' :: cs))
    (hw : doc.isWhole = true) :
    readMembers (fuel + 1) (printString key ++ ':' :: (text ++ '}' :: cs)) =
      ([(some key, doc)], true, cs) := by
  have hquote := skipSpace_of_not (c := '"') (by decide)
  have hcolon := skipSpace_of_not (c := ':') (by decide)
  have hend := skipSpace_of_not (c := '}') (by decide)
  simp only [readMembers, printString_append, hquote, readText?_escaped, hcolon, h, hw, hend,
    Bool.not_true, Bool.false_eq_true, if_false]

theorem readMembers_next (h : readValue fuel (text ++ ',' :: cs) = (doc, ',' :: cs))
    (hw : doc.isWhole = true) :
    readMembers (fuel + 1) (printString key ++ ':' :: (text ++ ',' :: cs)) =
      ((some key, doc) :: (readMembers fuel cs).1, (readMembers fuel cs).2) := by
  have hquote := skipSpace_of_not (c := '"') (by decide)
  have hcolon := skipSpace_of_not (c := ':') (by decide)
  have hcomma := skipSpace_of_not (c := ',') (by decide)
  simp only [readMembers, printString_append, hquote, readText?_escaped, hcolon, h, hw, hcomma,
    Bool.not_true, Bool.false_eq_true, if_false]

end

mutual

/-- A printed value is read up to its end, whatever comes after it. -/
theorem readValue_print : ∀ (v : Value) (fuel : Nat) (rest : List Char),
    v.isNumberless = true → v.print.length ≤ fuel →
      readValue fuel (v.print ++ rest) = (v.document, rest)
  | v, 0, rest, h, hf => by
    obtain ⟨c, cs, hc, -⟩ := exists_head_print h
    rw [hc] at hf
    cases hf
  | .null, fuel + 1, rest, _, _ => by
    rw [Value.print, readValue]
    rfl
  | .boolean true, fuel + 1, rest, _, _ => by
    rw [Value.print, readValue]
    rfl
  | .boolean false, fuel + 1, rest, _, _ => by
    rw [Value.print, readValue]
    rfl
  | .string s, fuel + 1, rest, _, _ => by
    rw [Value.print]
    exact readValue_string fuel rest s
  | .array [], fuel + 1, rest, _, _ => by
    rw [Value.print, readValue]
    rfl
  | .array (v :: items), fuel + 1, rest, h, hf => by
    rw [Value.isNumberless] at h
    rw [Value.print, List.length_append, List.length_cons, List.length_singleton] at hf
    have hread := readItems_print v items fuel rest h (by omega)
    obtain ⟨c, cs, hc, hspace, hend⟩ := exists_head_printItems h
    rw [hc, List.cons_append] at hread
    rw [Value.print, List.append_assoc, List.cons_append, hc, List.cons_append,
      List.singleton_append, readValue_array fuel _ hspace hend, hread]
    rfl
  | .object [], fuel + 1, rest, _, _ => by
    rw [Value.print, readValue]
    rfl
  | .object ((k, v) :: members), fuel + 1, rest, h, hf => by
    rw [Value.isNumberless] at h
    rw [Value.print, List.length_append, List.length_cons, List.length_singleton] at hf
    have hread := readMembers_print k v members fuel rest h (by omega)
    obtain ⟨cs, hcs⟩ := exists_head_printMembers k v members
    rw [hcs, List.cons_append] at hread
    rw [Value.print, List.append_assoc, List.cons_append, hcs, List.cons_append,
      List.singleton_append, readValue_object, hread]
    rfl

theorem readItems_print : ∀ (v : Value) (items : List Value) (fuel : Nat) (rest : List Char),
    itemsNumberless (v :: items) = true → (printItems (v :: items)).length < fuel →
      readItems fuel (printItems (v :: items) ++ ']' :: rest) =
        (itemDocuments (v :: items), true, rest)
  | v, [], fuel + 1, rest, h, hf => by
    rw [itemsNumberless, Bool.and_eq_true] at h
    rw [printItems] at hf ⊢
    exact readItems_last (readValue_print v fuel _ h.1 (by omega)) (isWhole_document h.1)
  | v, v' :: items, fuel + 1, rest, h, hf => by
    rw [itemsNumberless, Bool.and_eq_true] at h
    rw [printItems_cons_cons, List.length_append, List.length_cons] at hf
    have hrest := readItems_print v' items fuel rest h.2 (by omega)
    rw [printItems_cons_cons, List.append_assoc, List.cons_append,
      readItems_next (readValue_print v fuel _ h.1 (by omega)) (isWhole_document h.1), hrest]
    rfl

theorem readMembers_print : ∀ (k : String) (v : Value) (members : List (String × Value))
    (fuel : Nat) (rest : List Char), membersNumberless ((k, v) :: members) = true →
      (printMembers ((k, v) :: members)).length ≤ fuel →
      readMembers fuel (printMembers ((k, v) :: members) ++ '}' :: rest) =
        (memberDocuments ((k, v) :: members), true, rest)
  | k, v, members, 0, rest, _, hf => by
    obtain ⟨cs, hcs⟩ := exists_head_printMembers k v members
    rw [hcs] at hf
    cases hf
  | k, v, [], fuel + 1, rest, h, hf => by
    rw [membersNumberless, Bool.and_eq_true] at h
    rw [printMembers, List.length_append, List.length_cons] at hf
    rw [printMembers, List.append_assoc, List.cons_append]
    exact readMembers_last (readValue_print v fuel _ h.1 (by omega)) (isWhole_document h.1)
  | k, v, (k', v') :: members, fuel + 1, rest, h, hf => by
    rw [membersNumberless, Bool.and_eq_true] at h
    rw [printMembers_cons_cons, List.length_append, List.length_append, List.length_cons,
      List.length_cons] at hf
    have hrest := readMembers_print k' v' members fuel rest h.2 (by omega)
    rw [printMembers_cons_cons, List.append_assoc, List.append_assoc, List.cons_append,
      List.cons_append, readMembers_next (readValue_print v fuel _ h.1 (by omega))
        (isWhole_document h.1), hrest]
    rfl

end

theorem Document.read_print {v : Value} (h : v.isNumberless = true) :
    Document.read v.print = (v.document, true) := by
  have hread := readValue_print v (2 * v.print.length + 2) [] h (by omega)
  rw [List.append_nil] at hread
  rw [Document.read, hread]
  rfl

end CrateGen.Json
