import CrateGen.Proofs.Code.Action
import CrateGen.Proofs.Text.Flush

namespace CrateGen

open CrateGen.Action

namespace Template

/-- A piece of a template: text, or the directive of a key that stands for `name`. -/
inductive Part where
  | text (s : String)
  | hole (key name : String)

def Part.written : Part → String
  | .text s => s
  | .hole key _ => r"#{" ++ key ++ r"}"

/-- The template made of parts. -/
def written (parts : List Part) : String :=
  parts.foldr (fun part rest => part.written ++ rest) ""

/-- The text of parts behind the text `out`. -/
def fillFrom (out : String) : List Part → String
  | [] => out
  | .text s :: rest => fillFrom (out ++ s) rest
  | .hole _ name :: rest => fillFrom (out ++ Text.hang (Text.lastIndent out) name) rest

/-- The text of parts: that of a template with each name in the place of its key. -/
def fill (parts : List Part) : String :=
  fillFrom "" parts

/-- No number sign of the text starts a directive, whatever follows the text. -/
def isPlain : List Char → Bool
  | [] => true
  | '#' :: rest =>
    (match rest with
      | [] => false
      | c :: _ => c != '#' && c != '{') && isPlain rest
  | _ :: rest => isPlain rest

/-- The characters of a key, and those of its canonical form, are what they should be. -/
def isKey (key : String) : Bool :=
  !key.toList.isEmpty && key.toList.all Form.authored.isKeyChar &&
    !(lowercase key).toList.isEmpty && (lowercase key).toList.all Form.canonical.isKeyChar

def Part.isSound : Part → Bool
  | .text s => isPlain s.toList
  | .hole key _ => isKey key

variable {form : Form} {cs rest key : List Char} {scopes : List Scope} {parts : List Part}

theorem isPlain_cons (c : Char) (cs : List Char) (hc : c ≠ '#') :
    isPlain (c :: cs) = isPlain cs := by
  rw [isPlain]
  intro heq
  exact hc heq

theorem isPlain_append (h : isPlain cs = true) (h' : isPlain rest = true) :
    isPlain (cs ++ rest) = true := by
  induction cs with
  | nil => exact h'
  | cons c cs ih =>
    by_cases hc : c = '#'
    · subst hc
      cases cs with
      | nil => cases h
      | cons d cs =>
        rw [isPlain, Bool.and_eq_true] at h
        rw [List.cons_append, List.cons_append, isPlain, Bool.and_eq_true]
        exact ⟨h.1, ih h.2⟩
    · rw [isPlain_cons c cs hc] at h
      rw [List.cons_append, isPlain_cons c _ hc]
      exact ih h

theorem pieces_cons (form : Form) {c : Char} (hc : c ≠ '#') (cs : List Char) :
    form.pieces 0 (c :: cs) = .char c :: form.pieces 0 cs := by
  rw [Form.pieces]
  intro heq
  exact hc heq

theorem pieces_append (form : Form) (h : isPlain cs = true) (rest : List Char) :
    form.pieces 0 (cs ++ rest) = cs.map .char ++ form.pieces 0 rest := by
  induction cs with
  | nil => rfl
  | cons c cs ih =>
    by_cases hc : c = '#'
    · subst hc
      cases cs with
      | nil => cases h
      | cons d cs =>
        rw [isPlain, Bool.and_eq_true] at h
        obtain ⟨hd, h⟩ := h
        have hread : form.read? (d :: cs ++ rest) = none := by
          simp only [Bool.and_eq_true, bne_iff_ne] at hd
          rw [List.cons_append, Form.read?]
          · exact fun _ heq => hd.1 (List.cons.inj heq).1
          · exact fun _ heq => hd.2 (List.cons.inj heq).1
        rw [List.cons_append, Form.pieces, hread, ih h]
        rfl
    · rw [isPlain_cons c cs hc] at h
      rw [List.cons_append, pieces_cons form hc, ih h]
      rfl

theorem pieces_skip (form : Form) (cs rest : List Char) :
    form.pieces cs.length (cs ++ rest) = form.pieces 0 rest := by
  induction cs with
  | nil => rfl
  | cons c cs ih => exact ih

theorem takeWhile_append_stop {p : Char → Bool} {c : Char} (h : key.all p = true)
    (hc : p c = false) (rest : List Char) :
    (key ++ c :: rest).takeWhile p = key ∧ (key ++ c :: rest).dropWhile p = c :: rest := by
  induction key with
  | nil => simp [hc]
  | cons d key ih =>
    rw [List.all_cons, Bool.and_eq_true] at h
    obtain ⟨htake, hdrop⟩ := ih h.2
    simp [h.1, htake, hdrop]

theorem pieces_of_read {piece : Piece}
    (h : form.read? (cs ++ rest) = some (piece, cs.length)) :
    form.pieces 0 ('#' :: (cs ++ rest)) = piece :: form.pieces 0 rest := by
  rw [Form.pieces, h]
  exact congrArg (piece :: ·) (pieces_skip form cs rest)

theorem pieces_authored (hne : key ≠ []) (h : key.all Form.authored.isKeyChar = true)
    (rest : List Char) :
    Form.authored.pieces 0 ('#' :: '{' :: key ++ '}' :: rest) =
      .directive (.ofList key) none :: Form.authored.pieces 0 rest := by
  obtain ⟨htake, hdrop⟩ := takeWhile_append_stop h
    (by decide : Form.authored.isKeyChar '}' = false) rest
  have hread : Form.authored.read? (('{' :: key ++ ['}']) ++ rest) =
      some (.directive (.ofList key) none, ('{' :: key ++ ['}']).length) := by
    rw [List.append_assoc, List.singleton_append, List.cons_append, Form.read?, htake, hdrop,
      if_neg (mt List.isEmpty_iff.mp hne), List.length_append]
    rfl
  have hpieces := pieces_of_read hread
  rwa [List.append_assoc, List.singleton_append] at hpieces

theorem pieces_canonical (hne : key ≠ []) (h : key.all Form.canonical.isKeyChar = true)
    (rest : List Char) :
    Form.canonical.pieces 0 ('#' :: '{' :: key ++ ':' :: 'T' :: '}' :: rest) =
      .directive (.ofList key) (some 'T') :: Form.canonical.pieces 0 rest := by
  obtain ⟨htake, hdrop⟩ :=
    takeWhile_append_stop h (by decide : Form.canonical.isKeyChar ':' = false)
      ('T' :: '}' :: rest)
  have hread : Form.canonical.read? (('{' :: key ++ [':', 'T', '}']) ++ rest) =
      some (.directive (.ofList key) (some 'T'),
        ('{' :: key ++ [':', 'T', '}']).length) := by
    rw [List.append_assoc, List.cons_append, Form.read?]
    simp only [List.cons_append, List.nil_append]
    rw [htake, hdrop, if_neg (mt List.isEmpty_iff.mp hne)]
    simp only [List.length_cons, List.length_append]
    rfl
  have hpieces := pieces_of_read hread
  rwa [List.append_assoc] at hpieces

/-- The pieces that a part is read as, first as written and then in canonical form. -/
def Part.authored : Part → List Piece
  | .text s => s.toList.map .char
  | .hole key _ => [.directive key none]

def Part.canonical : Part → List Piece
  | .text s => s.toList.map .char
  | .hole key _ => [.directive (lowercase key) (some 'T')]

theorem toList_written_hole (key name : String) (rest : List Char) :
    (Part.hole key name).written.toList ++ rest =
      '#' :: '{' :: key.toList ++ '}' :: rest := by
  simp [Part.written]

theorem pieces_written (h : ∀ part ∈ parts, part.isSound = true) :
    Form.authored.pieces 0 (written parts).toList = parts.flatMap Part.authored := by
  induction parts with
  | nil => rfl
  | cons part parts ih =>
    have ih := ih fun x hx => h x (List.mem_cons_of_mem _ hx)
    have hpart := h part List.mem_cons_self
    have hcons : (written (part :: parts)).toList =
        part.written.toList ++ (written parts).toList := String.toList_append
    rw [List.flatMap_cons, ← ih, hcons]
    cases part with
    | text s => exact pieces_append _ hpart _
    | hole key name =>
      simp only [Part.isSound, isKey, Bool.and_eq_true, Bool.not_eq_true',
        List.isEmpty_eq_false_iff] at hpart
      obtain ⟨⟨⟨hne, hkey⟩, -⟩, -⟩ := hpart
      rw [toList_written_hole, pieces_authored hne hkey, String.ofList_toList]
      rfl

theorem pieces_canonicalized (h : ∀ part ∈ parts, part.isSound = true) :
    Form.canonical.pieces 0 ((parts.flatMap Part.authored).flatMap Piece.canonical) =
      parts.flatMap Part.canonical := by
  induction parts with
  | nil => rfl
  | cons part parts ih =>
    have ih := ih fun x hx => h x (List.mem_cons_of_mem _ hx)
    have hpart := h part List.mem_cons_self
    rw [List.flatMap_cons, List.flatMap_cons, List.flatMap_append, ← ih]
    cases part with
    | text s =>
      have hchars : (Part.text s).authored.flatMap Piece.canonical = s.toList := by
        rw [Part.authored, List.flatMap_map]
        exact List.flatMap_singleton' _
      rw [hchars]
      exact pieces_append _ hpart _
    | hole key name =>
      simp only [Part.isSound, isKey, Bool.and_eq_true, Bool.not_eq_true',
        List.isEmpty_eq_false_iff] at hpart
      obtain ⟨⟨-, hne⟩, hkey⟩ := hpart
      have hread := pieces_canonical hne hkey
        ((parts.flatMap Part.authored).flatMap Piece.canonical)
      rw [String.ofList_toList] at hread
      rw [Part.authored, List.flatMap_singleton, Piece.canonical]
      simp only [List.cons_append, List.append_assoc, List.nil_append, Option.getD_none] at hread ⊢
      exact hread

def text? : Arg Code → Option String
  | .symbol s => some s.type
  | .type t => some t.path
  | .literal l => some l
  | .code _ => none

def Binds (scopes : List Scope) (key name : String) : Prop :=
  ∃ arg, Scope.lookup scopes (lowercase key) = some arg ∧ text? arg = some name

theorem missing?_eq_none (h : ∀ key name, .hole key name ∈ parts → Binds scopes key name) :
    missing? scopes (parts.flatMap Part.authored) = none := by
  rw [missing?, List.findSome?_eq_none_iff]
  intro piece hp
  obtain ⟨part, hpart, hp⟩ := List.mem_flatMap.mp hp
  cases part with
  | text s =>
    obtain ⟨c, -, rfl⟩ := List.mem_map.mp hp
    rfl
  | hole key name =>
    cases List.mem_singleton.mp hp
    obtain ⟨arg, harg, -⟩ := h key name hpart
    simp only [harg, Option.isNone_some, Bool.false_eq_true, ↓reduceIte]

theorem renderDirective_eq_ok (splice : Code → WriterM Unit) {key name : String} {w : Writer}
    (h : Binds w.scopes key name) :
    ∃ ds, outcome (Code.renderDirective splice (lowercase key) 'T') w =
      (.ok name, { w with dependencies := ds }) := by
  obtain ⟨arg, harg, htext⟩ := h
  rw [Code.renderDirective, outcome_bind_ok (outcome_get w), harg]
  cases arg with
  | symbol s =>
    cases htext
    exact ⟨_, rfl⟩
  | type t =>
    cases htext
    exact ⟨_, rfl⟩
  | literal l =>
    cases htext
    exact ⟨_, rfl⟩
  | code c => cases htext

theorem expand_chars (splice : Code → WriterM Unit) (out : String) (cs : List Char)
    (pieces : List Piece) :
    Code.expand splice out (cs.map .char ++ pieces) =
      Code.expand splice (out ++ .ofList cs) pieces := by
  induction cs generalizing out with
  | nil => simp
  | cons c cs ih =>
    rw [List.map_cons, List.cons_append, Code.expand, ih]
    congr 1
    exact String.toList_injective (by simp)

/-- Expanding the pieces of a template fills its parts. -/
theorem expand_eq_ok (splice : Code → WriterM Unit) (out : String) (w : Writer)
    (h : ∀ key name, .hole key name ∈ parts → Binds w.scopes key name) :
    ∃ ds, outcome (Code.expand splice out (parts.flatMap Part.canonical)) w =
      (.ok (fillFrom out parts), { w with dependencies := ds }) := by
  induction parts generalizing out w with
  | nil => exact ⟨_, rfl⟩
  | cons part parts ih =>
    have hrest := fun key name hkey => h key name (List.mem_cons_of_mem _ hkey)
    rw [List.flatMap_cons]
    cases part with
    | text s =>
      rw [Part.canonical, expand_chars, String.ofList_toList]
      exact ih (out ++ s) w hrest
    | hole key name =>
      obtain ⟨ds, hd⟩ := renderDirective_eq_ok splice (h key name List.mem_cons_self)
      rw [Part.canonical, List.singleton_append, Code.expand, Option.getD_some,
        outcome_bind_ok hd]
      exact ih _ { w with dependencies := ds } hrest

theorem renderTemplate_eq_ok (splice : Code → WriterM Unit) {template : String} (w : Writer)
    (htext : template = written parts) (hflush : Text.dedent template = template)
    (hsound : ∀ part ∈ parts, part.isSound = true)
    (h : ∀ key name, .hole key name ∈ parts → Binds w.scopes key name) :
    ∃ ds, outcome (Code.renderTemplate splice template) w =
      (.ok (fill parts), { w with dependencies := ds }) := by
  have hcanon : canonicalize w.scopes template.toList =
      .ok ((parts.flatMap Part.authored).flatMap Piece.canonical) := by
    rw [canonicalize, htext, pieces_written hsound,
      missing?_eq_none h]
  obtain ⟨ds, hd⟩ := expand_eq_ok splice "" w h
  refine ⟨ds, ?_⟩
  rw [Code.renderTemplate, outcome_bind_ok (outcome_get w), hflush]
  dsimp only
  rw [hcanon, outcome_bind_ok (outcome_ofExcept_ok _ w), pieces_canonicalized hsound]
  exact hd

/-- A text that can stand anywhere in a line of a template. -/
structure Clean (s : String) : Prop where
  noBreak : '\n' ∉ s.toList
  plain : isPlain s.toList = true

theorem Clean.literal {s : String} (h : s = .ofList cs)
    (hc : (isPlain cs && !cs.contains '\n') = true) : Clean s := by
  rw [Bool.and_eq_true] at hc
  constructor
  · rw [h, String.toList_ofList]
    simpa using hc.2
  · rw [h, String.toList_ofList]
    exact hc.1

theorem Clean.append {s t : String} (hs : Clean s) (ht : Clean t) : Clean (s ++ t) := by
  constructor
  · exact Text.noBreak_append hs.noBreak ht.noBreak
  · rw [String.toList_append]
    exact isPlain_append hs.plain ht.plain

/-- A part that a line of a template in the scopes may have. -/
def Part.Fits (scopes : List Scope) : Part → Prop
  | .text s => Clean s
  | .hole key name => isKey key = true ∧ Binds scopes key name

def Part.startsFlush : Part → Prop
  | .text s => Text.startsFlush s = true
  | .hole _ _ => True

def Part.endsFlush : Part → Prop
  | .text s => Text.endsFlush s = true
  | .hole _ _ => True

theorem Part.Fits.isSound {part : Part} (h : part.Fits scopes) : part.isSound = true := by
  cases part with
  | text s => exact Clean.plain h
  | hole key name => exact h.1

theorem Part.Fits.noBreak {part : Part} (h : part.Fits scopes) : '\n' ∉ part.written.toList := by
  cases part with
  | text s => exact Clean.noBreak h
  | hole key name =>
    obtain ⟨hkey, -⟩ := h
    simp only [isKey, Bool.and_eq_true, List.all_eq_true] at hkey
    intro hmem
    rw [← List.append_nil (Part.hole key name).written.toList, toList_written_hole] at hmem
    simp only [List.cons_append, List.mem_cons, List.mem_append, List.not_mem_nil, or_false]
      at hmem
    rcases hmem with he | he | hmem | he
    · cases he
    · cases he
    · have hchar := hkey.1.1.2 _ hmem
      cases hchar
    · cases he

structure IsLine (scopes : List Scope) (parts : List Part) : Prop where
  fits : parts.Forall (Part.Fits scopes)
  ends : match parts.getLast? with
    | some part => part.endsFlush
    | none => False

theorem written_cons (part : Part) (parts : List Part) :
    written (part :: parts) = part.written ++ written parts :=
  rfl

theorem written_append (parts parts' : List Part) :
    written (parts ++ parts') = written parts ++ written parts' := by
  induction parts with
  | nil => exact String.empty_append.symm
  | cons part parts ih =>
    rw [List.cons_append, written_cons, written_cons, ih, String.append_assoc]

theorem noBreak_written (h : parts.Forall (Part.Fits scopes)) : '\n' ∉ (written parts).toList := by
  induction parts with
  | nil => decide
  | cons part parts ih =>
    rw [List.forall_cons] at h
    exact Text.noBreak_append h.1.noBreak (ih h.2)

theorem IsLine.firm (h : IsLine scopes parts) : Text.Firm (written parts) := by
  refine ⟨noBreak_written h.fits, ?_⟩
  obtain ⟨-, hends⟩ := h
  cases hl : parts.getLast? with
  | none =>
    rw [hl] at hends
    exact hends.elim
  | some part =>
    rw [hl] at hends
    obtain ⟨front, rfl⟩ := List.getLast?_eq_some_iff.mp hl
    rw [written_append]
    refine Text.endsFlush_append ?_
    rw [written_cons]
    have hnil : part.written ++ written [] = part.written := String.append_empty
    rw [hnil]
    cases part with
    | text s => exact hends
    | hole key name => exact Text.endsFlush_append (Text.endsFlush_literal rfl (by decide))

theorem startsFlush_written {part : Part} (h : part.startsFlush) (parts : List Part) :
    Text.startsFlush (written (part :: parts)) = true := by
  refine Text.startsFlush_append ?_
  cases part with
  | text s => exact h
  | hole key name =>
    exact Text.startsFlush_append (Text.startsFlush_append
      (Text.startsFlush_literal rfl (by decide)))

def sheet (lines : List (List Part)) : List Part :=
  [.text "\n"].intercalate lines

theorem mem_sheet {part : Part} {lines : List (List Part)} (h : part ∈ sheet lines) :
    part = .text "\n" ∨ ∃ line ∈ lines, part ∈ line := by
  induction lines with
  | nil => cases h
  | cons line lines ih =>
    cases lines with
    | nil =>
      rw [sheet, List.intercalate_singleton] at h
      exact .inr ⟨line, List.mem_cons_self, h⟩
    | cons next lines =>
      rw [sheet, List.intercalate_cons_cons, List.append_assoc] at h
      rcases List.mem_append.mp h with h | h
      · exact .inr ⟨line, List.mem_cons_self, h⟩
      · rcases List.mem_append.mp h with h | h
        · exact .inl (List.mem_singleton.mp h)
        · exact (ih h).imp_right fun ⟨l, hl, hp⟩ => ⟨l, List.mem_cons_of_mem _ hl, hp⟩

theorem written_sheet (lines : List (List Part)) :
    written (sheet lines) = Text.unlines (lines.map written) := by
  induction lines with
  | nil => rfl
  | cons line lines ih =>
    cases lines with
    | nil =>
      rw [sheet, List.intercalate_singleton, List.map_cons, List.map_nil, Text.unlines,
        String.intercalate_singleton]
    | cons next lines =>
      rw [sheet, List.intercalate_cons_cons, written_append, written_append, ← sheet, ih,
        List.map_cons, List.map_cons, List.map_cons, Text.unlines, Text.unlines,
        String.intercalate_cons_cons]
      rfl

theorem Binds.head {key name : String} {arg : Arg Code} (h : text? arg = some name) :
    Binds ([(lowercase key, key, arg)] :: scopes) key name := by
  refine ⟨arg, ?_, h⟩
  simp only [Scope.lookup, List.findSome?_cons, Scope.get?, List.find?_cons, beq_self_eq_true,
    Option.map_some]

theorem Binds.push {key name : String} {s : Scope} (hs : s.get? (lowercase key) = none)
    (h : Binds scopes key name) : Binds (s :: scopes) key name := by
  obtain ⟨arg, harg, hname⟩ := h
  refine ⟨arg, ?_, hname⟩
  rw [Scope.lookup, List.findSome?_cons, hs]
  exact harg

end Template

namespace Scope

variable {args : List (String × Arg Code)}

theorem go_eq_ok {bound : Scope}
    (h : (bound.map (·.1) ++ args.map fun a => lowercase a.1).Nodup) :
    ofArgs.go bound args = .ok (bound ++ args.map fun a => (lowercase a.1, a.1, a.2)) := by
  induction args generalizing bound with
  | nil =>
    rw [List.map_nil, List.append_nil]
    rfl
  | cons a args ih =>
    obtain ⟨key, arg⟩ := a
    have hfresh : bound.any (·.1 == lowercase key) = false := by
      rw [List.any_eq_false]
      intro b hb heq
      have hmem : b.1 ∈ bound.map (·.1) := List.mem_map_of_mem hb
      rw [eq_of_beq heq] at hmem
      exact (List.nodup_append.mp h).2.2 _ hmem _ List.mem_cons_self rfl
    have hnodup : ((bound ++ [(lowercase key, key, arg)]).map (·.1) ++
        args.map fun a => lowercase a.1).Nodup := by
      simpa only [List.map_append, List.map_cons, List.map_nil, List.append_assoc,
        List.singleton_append] using h
    rw [ofArgs.go, hfresh, if_neg Bool.false_ne_true, ih hnodup]
    simp only [List.map_cons, List.append_assoc, List.singleton_append]

theorem ofArgs_eq_ok (h : (args.map fun a => lowercase a.1).Nodup) :
    ofArgs args = .ok (args.map fun a => (lowercase a.1, a.1, a.2)) :=
  go_eq_ok h

theorem get?_ofArgs (h : (args.map fun a => lowercase a.1).Nodup) {key : String} {arg : Arg Code}
    (hmem : (key, arg) ∈ args) :
    get? (args.map fun a => (lowercase a.1, a.1, a.2)) (lowercase key) = some arg := by
  induction args with
  | nil => cases hmem
  | cons a args ih =>
    obtain ⟨hhead, htail⟩ := List.nodup_cons.mp h
    rw [get?, List.map_cons, List.find?_cons]
    rcases List.mem_cons.mp hmem with rfl | hmem
    · simp only [beq_self_eq_true, Option.map_some]
    · have hne : (lowercase a.1 == lowercase key) = false := by
        rw [← Bool.not_eq_true]
        intro heq
        refine hhead (List.mem_map.mpr ⟨(key, arg), hmem, ?_⟩)
        exact (eq_of_beq heq).symm
      dsimp only
      rw [hne]
      exact ih htail hmem

end Scope

end CrateGen
