import CrateGen.Proofs.Name.Word

namespace CrateGen.Template

/-! ## Reading a template -/

/-- What stands between the brace of a directive and what ends its key. -/
def Form.IsKey (form : Form) (key : List Char) : Prop :=
  key ≠ [] ∧ key.all form.isKeyChar = true

/-- A text starts with an escaped number sign or a directive, behind which is the rest. -/
inductive Form.Starts (form : Form) : List Char → Piece → List Char → Prop
  | sharp (rest : List Char) : Starts form ('#' :: '#' :: rest) .sharp rest
  | bare {key : List Char} (rest : List Char) : form.kindOptional = true → form.IsKey key →
      Starts form ('#' :: '{' :: (key ++ '}' :: rest)) (.directive (.ofList key) none) rest
  | kinded {key : List Char} {kind : Char} (rest : List Char) : form.IsKey key →
      isWordChar kind = true →
      Starts form ('#' :: '{' :: (key ++ ':' :: kind :: '}' :: rest))
        (.directive (.ofList key) (some kind)) rest

/-- A text is read once, from left to right. A character that starts no other piece is text. -/
inductive Form.Reads (form : Form) : List Char → List Piece → Prop
  | nil : Reads form [] []
  | piece {cs rest : List Char} {p : Piece} {ps : List Piece} :
      form.Starts cs p rest → Reads form rest ps → Reads form cs (p :: ps)
  | char {c : Char} {cs : List Char} {ps : List Piece} :
      (∀ p rest, ¬form.Starts (c :: cs) p rest) → Reads form cs ps →
      Reads form (c :: cs) (.char c :: ps)

/-- What ends a key is no part of it. -/
structure Form.Delimited (form : Form) : Prop where
  colon : form.isKeyChar ':' = false
  brace : form.isKeyChar '}' = false

theorem Form.authored_delimited : authored.Delimited :=
  ⟨by decide, by decide⟩

theorem Form.canonical_delimited : canonical.Delimited :=
  ⟨by decide, by decide⟩

section Reading

variable {form : Form} (hform : form.Delimited) {cs rest : List Char} {p : Piece}
  {ps : List Piece}
include hform

theorem Form.Starts.read? (h : form.Starts cs p rest) :
    ∃ front, cs = '#' :: (front ++ rest) ∧ form.read? (front ++ rest) = some (p, front.length) := by
  cases h with
  | sharp => exact ⟨['#'], rfl, rfl⟩
  | @bare key _ hoptional hkey =>
    obtain ⟨htake, hdrop⟩ := takeWhile_append_stop hkey.2 hform.brace rest
    have hne : key.isEmpty = false := List.isEmpty_eq_false_iff.mpr hkey.1
    refine ⟨'{' :: (key ++ ['}']), by simp, ?_⟩
    rw [List.cons_append, List.append_assoc, List.singleton_append, Form.read?, htake, hdrop]
    simp [hne, hoptional]
  | @kinded key kind _ hkey hkind =>
    obtain ⟨htake, hdrop⟩ := takeWhile_append_stop hkey.2 hform.colon (kind :: '}' :: rest)
    have hne : key.isEmpty = false := List.isEmpty_eq_false_iff.mpr hkey.1
    refine ⟨'{' :: (key ++ [':', kind, '}']), by simp, ?_⟩
    rw [List.cons_append, List.append_assoc]
    simp only [List.cons_append, List.nil_append]
    rw [Form.read?, htake, hdrop]
    simp [hne, hkind]

omit hform in
theorem Form.exists_starts {n : Nat} (h : form.read? cs = some (p, n)) :
    ∃ rest, form.Starts ('#' :: cs) p rest := by
  unfold Form.read? at h
  split at h
  · next rest =>
    cases h
    exact ⟨rest, .sharp rest⟩
  · next cs =>
    have hkey : cs.takeWhile form.isKeyChar ++ cs.dropWhile form.isKeyChar = cs :=
      List.takeWhile_append_dropWhile
    have hall : (cs.takeWhile form.isKeyChar).all form.isKeyChar = true := List.all_takeWhile
    dsimp only at h
    split at h
    · cases h
    · next hne =>
      have hne := fun hnil => hne (List.isEmpty_iff.mpr hnil)
      split at h
      · next rest hrest =>
        split at h
        · next hoptional =>
          cases h
          have hstart := Form.Starts.bare rest hoptional ⟨hne, hall⟩
          rw [← hrest, hkey] at hstart
          exact ⟨rest, hstart⟩
        · cases h
      · next kind rest hrest =>
        split at h
        · next hkind =>
          cases h
          have hstart := Form.Starts.kinded rest ⟨hne, hall⟩ hkind
          rw [← hrest, hkey] at hstart
          exact ⟨rest, hstart⟩
        · cases h
      · cases h
  · cases h

theorem Form.Starts.pieces (h : form.Starts cs p rest) :
    form.pieces 0 cs = p :: form.pieces 0 rest := by
  obtain ⟨front, rfl, hread⟩ := h.read? hform
  rw [Form.pieces, hread, ← pieces_skip form front rest]

omit hform in
theorem Form.pieces_text {c : Char} (h : ∀ p rest, ¬form.Starts (c :: cs) p rest) :
    form.pieces 0 (c :: cs) = .char c :: form.pieces 0 cs := by
  by_cases hc : c = '#'
  · subst hc
    cases hread : form.read? cs with
    | none => rw [Form.pieces, hread]
    | some read =>
      obtain ⟨rest, hstart⟩ := Form.exists_starts hread
      exact absurd hstart (h _ rest)
  · exact pieces_cons form hc cs

theorem Form.Reads.pieces (h : form.Reads cs ps) : form.pieces 0 cs = ps := by
  induction h with
  | nil => rfl
  | piece hstart _ ih => rw [hstart.pieces hform, ih]
  | char htext _ ih => rw [Form.pieces_text htext, ih]

/-- The pieces of a text are the only ones that it is read as. -/
theorem Form.reads_iff : form.Reads cs ps ↔ form.pieces 0 cs = ps := by
  refine ⟨Form.Reads.pieces hform, fun h => h ▸ ?_⟩
  clear h
  -- What is behind a directive is shorter, so the induction is on the length.
  induction hlen : cs.length using Nat.strongRecOn generalizing cs with
  | ind n ih =>
    cases cs with
    | nil => exact .nil
    | cons c cs =>
      by_cases hstart : ∃ p rest, form.Starts (c :: cs) p rest
      · obtain ⟨p, rest, hstart⟩ := hstart
        obtain ⟨front, heq, -⟩ := hstart.read? hform
        have hlt : rest.length < n := by
          rw [← hlen, heq, List.length_cons, List.length_append]
          omega
        rw [hstart.pieces hform]
        exact .piece hstart (ih _ hlt rfl)
      · have htext : ∀ p rest, ¬form.Starts (c :: cs) p rest :=
          fun p rest h => hstart ⟨p, rest, h⟩
        have hlt : cs.length < n := by
          rw [← hlen, List.length_cons]
          omega
        rw [Form.pieces_text htext]
        exact .char htext (ih _ hlt rfl)

end Reading

/-! ## Reading the canonical text -/

/-- A piece as it is read back from its canonical text. -/
def Piece.settled : Piece → Piece
  | .char c => .char c
  | .sharp => .sharp
  | .directive key kind => .directive (lowercase key) (some (kind.getD 'T'))

/-- The characters of a key as authors write it are, in lower case, those of a canonical one. -/
theorem canonical_toLower {c : Char} (h : Form.authored.isKeyChar c = true) :
    Form.canonical.isKeyChar c.toLower = true :=
  Name.ascii_cases (P := fun c => Form.authored.isKeyChar c = true →
    Form.canonical.isKeyChar c.toLower = true)
    (by decide +kernel) (Name.toNat_lt_of_isAsciiWord h) h

theorem authored_of_canonical {c : Char} (h : Form.canonical.isKeyChar c = true) :
    Form.authored.isKeyChar c = true := by
  simp only [Form.canonical, Bool.or_eq_true] at h
  change (c.isUpper || c.isLower || c.isDigit || c == '_') = true
  simp only [Bool.or_eq_true]
  tauto

theorem lowerWithin_key {key : List Char} (h : key.all Form.authored.isKeyChar = true)
    (before : List Char) :
    LetterCase.lowerWithin before key = key.map Char.toLower := by
  induction key generalizing before with
  | nil => rfl
  | cons c key ih =>
    rw [List.all_cons, Bool.and_eq_true] at h
    have hlt := Name.toNat_lt_of_isAsciiWord h.1
    have hsigma : c ≠ 'Σ' := by
      rintro rfl
      exact absurd hlt (by decide)
    rw [LetterCase.lowerWithin, if_neg hsigma, ih h.2, lowerChars, if_pos hlt]
    rfl

/-- A key in lower case is one in canonical form. -/
theorem Form.IsKey.lowercase {key : List Char} (h : authored.IsKey key) :
    canonical.IsKey (lowercase (.ofList key)).toList := by
  rw [CrateGen.lowercase, String.toList_ofList, String.toList_ofList, lowerWithin_key h.2]
  refine ⟨fun hnil => h.1 (List.map_eq_nil_iff.mp hnil), ?_⟩
  rw [List.all_map, List.all_eq_true]
  exact fun c hc => canonical_toLower (List.all_eq_true.mp h.2 c hc)

variable {cs rest tail : List Char} {p : Piece} {ps : List Piece}

/-- A directive or an escaped number sign is read back from its canonical text. -/
theorem Form.Starts.settled (h : authored.Starts cs p rest) (tail : List Char) :
    canonical.Starts (p.canonical ++ tail) p.settled tail := by
  cases h with
  | sharp => exact .sharp tail
  | @bare key _ _ hkey =>
    have hstart := Form.Starts.kinded tail hkey.lowercase (by decide : isWordChar 'T' = true)
    rw [String.ofList_toList] at hstart
    simpa [Piece.canonical, Piece.settled] using hstart
  | @kinded key kind _ hkey hkind =>
    have hstart := Form.Starts.kinded tail hkey.lowercase hkind
    rw [String.ofList_toList] at hstart
    simpa [Piece.canonical, Piece.settled] using hstart

/-- Whatever starts with a number sign in the text does so in the canonical text. -/
theorem Form.Starts.canonical_head (h : authored.Starts cs p rest) (tail : List Char) :
    ∃ front, cs = '#' :: front ∧ ∃ back, p.canonical ++ tail = '#' :: back := by
  cases h with
  | sharp => exact ⟨_, rfl, _, rfl⟩
  | bare => exact ⟨_, rfl, _, rfl⟩
  | kinded => exact ⟨_, rfl, _, rfl⟩

theorem Form.Reads.front (h : authored.Reads cs ps) {front : List Char}
    (heq : ps.flatMap Piece.canonical = front ++ tail) (hfront : '#' ∉ front) :
    ∃ rest, cs = front ++ rest := by
  induction h generalizing front with
  | nil =>
    rw [List.flatMap_nil, eq_comm, List.append_eq_nil_iff] at heq
    exact ⟨[], by rw [heq.1]; rfl⟩
  | @piece cs rest p ps hstart _ _ =>
    cases front with
    | nil => exact ⟨cs, rfl⟩
    | cons c front =>
      obtain ⟨-, -, back, hback⟩ := hstart.canonical_head (ps.flatMap Piece.canonical)
      rw [List.flatMap_cons, hback] at heq
      exact absurd (List.mem_cons.mpr (.inl (List.cons.inj heq).1)) hfront
  | @char c cs ps _ _ ih =>
    cases front with
    | nil => exact ⟨c :: cs, rfl⟩
    | cons d front =>
      obtain ⟨rfl, hbehind⟩ := List.cons.inj heq
      obtain ⟨rest, hrest⟩ := ih hbehind fun hmem => hfront (List.mem_cons_of_mem c hmem)
      exact ⟨rest, congrArg (c :: ·) hrest⟩

/-- Where the canonical text goes on with a number sign, so does the text. -/
theorem Form.Reads.sharp_head (h : authored.Reads cs ps)
    (heq : ps.flatMap Piece.canonical = '#' :: tail) : ∃ rest, cs = '#' :: rest := by
  cases h with
  | nil => cases heq
  | piece hstart _ =>
    obtain ⟨front, rfl, -⟩ := hstart.canonical_head []
    exact ⟨front, rfl⟩
  | char _ _ =>
    obtain ⟨rfl, -⟩ := List.cons.inj heq
    exact ⟨_, rfl⟩

/-- What is no directive does not become one when what is behind it is put into canonical form. -/
theorem Form.Reads.text_stays {c : Char} (h : authored.Reads cs ps)
    (htext : ∀ p rest, ¬authored.Starts (c :: cs) p rest) (p : Piece) (rest : List Char) :
    ¬canonical.Starts (c :: ps.flatMap Piece.canonical) p rest := by
  intro hstart
  generalize hcs : c :: ps.flatMap Piece.canonical = text at hstart
  cases hstart with
  | sharp =>
    obtain ⟨rfl, heq⟩ := List.cons.inj hcs
    obtain ⟨rest, rfl⟩ := h.sharp_head heq
    exact htext _ _ (.sharp rest)
  | bare _ hoptional => cases hoptional
  | @kinded key kind _ hkey hkind =>
    obtain ⟨rfl, heq⟩ := List.cons.inj hcs
    have hsplit : ps.flatMap Piece.canonical =
        ('{' :: (key ++ [':', kind, '}'])) ++ rest := by
      rw [heq]
      simp
    have hfront : '#' ∉ '{' :: (key ++ [':', kind, '}']) := by
      have hsharp : '#' ∉ key := fun hmem =>
        absurd (List.all_eq_true.mp hkey.2 '#' hmem) (by decide)
      have hne : '#' ≠ kind := by
        rintro rfl
        exact absurd hkind (by decide)
      simp [hsharp, hne]
    obtain ⟨behind, rfl⟩ := h.front hsplit hfront
    have hauthored : authored.IsKey key := ⟨hkey.1, List.all_eq_true.mpr fun d hd =>
      authored_of_canonical (List.all_eq_true.mp hkey.2 d hd)⟩
    have hstart := Form.Starts.kinded behind hauthored hkind
    have hsame : '{' :: (key ++ ':' :: kind :: '}' :: behind) =
        '{' :: (key ++ [':', kind, '}']) ++ behind := by
      simp
    rw [hsame] at hstart
    exact htext _ behind hstart

/-- The canonical text of a template is read as the template is. -/
theorem Form.Reads.settled (h : authored.Reads cs ps) :
    canonical.Reads (ps.flatMap Piece.canonical) (ps.map Piece.settled) := by
  induction h with
  | nil => exact .nil
  | piece hstart _ ih => exact .piece (hstart.settled _) ih
  | char htext hrest ih => exact .char (hrest.text_stays htext) ih

end CrateGen.Template
