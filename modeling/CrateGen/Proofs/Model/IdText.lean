import CrateGen.Proofs.Json.Printed
import CrateGen.Proofs.Outcome
import CrateGen.Proofs.Text.Lines
import CrateGen.Settings.Json

/-!
The text of an id and the id say the same. The format is given here on its own, by the shape of
its parts and the marks between them; reading accepts just the texts of that format, gives the id
that is displayed as the text, and every id of such parts is read back. The same holds for ids as
strings of a document.
-/

namespace CrateGen.Text

variable {α : Type} [BEq α] [LawfulBEq α] {sep : α} {l before after : List α}

theorem splitFirst?_eq_none : splitFirst? sep l = none ↔ sep ∉ l := by
  induction l with
  | nil => exact iff_of_true rfl List.not_mem_nil
  | cons a l ih =>
    rw [splitFirst?, List.mem_cons, not_or]
    split
    · next h => exact iff_of_false nofun fun hne => hne.1 (eq_of_beq h).symm
    · next h =>
      rw [Option.map_eq_none_iff, ih]
      exact (and_iff_right fun heq => h (beq_iff_eq.mpr heq.symm)).symm

/-- The first separator is the one with none before it. -/
theorem splitFirst?_eq_some :
    splitFirst? sep l = some (before, after) ↔ sep ∉ before ∧ l = before ++ sep :: after := by
  induction l generalizing before with
  | nil =>
    refine iff_of_false nofun fun h => ?_
    exact List.append_ne_nil_of_right_ne_nil before (List.cons_ne_nil sep after) h.2.symm
  | cons a l ih =>
    rw [splitFirst?]
    split
    · next h =>
      cases eq_of_beq h
      cases before with
      | nil => simp
      | cons b before =>
        refine iff_of_false nofun fun hsplit => hsplit.1 ?_
        rw [(List.cons.inj hsplit.2).1]
        exact List.mem_cons_self
    · next h =>
      rw [Option.map_eq_some_iff]
      constructor
      · rintro ⟨⟨before, after⟩, hsplit, heq⟩
        cases heq
        obtain ⟨hnot, rfl⟩ := ih.mp hsplit
        refine ⟨fun hmem => ?_, rfl⟩
        rcases List.mem_cons.mp hmem with heq | hmem
        · exact h (beq_iff_eq.mpr heq.symm)
        · exact hnot hmem
      · rintro ⟨hnot, heq⟩
        cases before with
        | nil => exact (h (beq_iff_eq.mpr (List.cons.inj heq).1)).elim
        | cons b before =>
          obtain ⟨rfl, hl⟩ := List.cons.inj heq
          exact ⟨_, ih.mpr ⟨fun hmem => hnot (List.mem_cons_of_mem _ hmem), hl⟩, rfl⟩

omit [BEq α] [LawfulBEq α] in
theorem mem_intercalate {a : α} {pieces : List (List α)} (h : a ∈ [sep].intercalate pieces) :
    a = sep ∨ ∃ piece ∈ pieces, a ∈ piece := by
  induction pieces with
  | nil => cases h
  | cons piece pieces ih =>
    cases pieces with
    | nil =>
      rw [List.intercalate_singleton] at h
      exact .inr ⟨piece, List.mem_cons_self, h⟩
    | cons next pieces =>
      rw [List.intercalate_cons_cons, List.mem_append, List.mem_append, List.mem_singleton] at h
      rcases h with (h | rfl) | h
      · exact .inr ⟨piece, List.mem_cons_self, h⟩
      · exact .inl rfl
      · exact (ih h).imp_right fun ⟨p, hp, ha⟩ => ⟨p, List.mem_cons_of_mem _ hp, ha⟩

end CrateGen.Text

namespace CrateGen.ShapeId

/-! ## The format -/

/-- The characters `[A-Za-z_]`. -/
def IsInitial (c : Char) : Prop :=
  ('A' ≤ c ∧ c ≤ 'Z') ∨ ('a' ≤ c ∧ c ≤ 'z') ∨ c = '_'

/-- The texts `[A-Za-z_][A-Za-z0-9_]*`. -/
def IsPart (s : String) : Prop :=
  ∃ c cs, s.toList = c :: cs ∧ IsInitial c ∧ ∀ d ∈ cs, IsInitial d ∨ ('0' ≤ d ∧ d ≤ '9')

/-- Parts with dots between them, at least one. -/
def IsNamespace (s : String) : Prop :=
  ∃ first rest, s = ".".intercalate (first :: rest) ∧ ∀ part ∈ first :: rest, IsPart part

/-- A namespace and a name, and perhaps the name of a member. -/
inductive IsText : String → Prop where
  | root {ns name : String} (hns : IsNamespace ns) (hname : IsPart name) :
      IsText (ns ++ "#" ++ name)
  | member {ns name member : String} (hns : IsNamespace ns) (hname : IsPart name)
      (hmember : IsPart member) : IsText (ns ++ "#" ++ name ++ "$" ++ member)

structure Valid (id : ShapeId) : Prop where
  ns : IsNamespace id.ns
  name : IsPart id.name
  member : ∀ member ∈ id.member, IsPart member

variable {c : Char} {cs : List Char} {s : String} {id : ShapeId}

theorem isInitial_iff : (c.isAlpha || c == '_') = true ↔ IsInitial c := by
  have hupper : c.isUpper = true ↔ 'A' ≤ c ∧ c ≤ 'Z' := decide_eq_true_iff
  have hlower : c.isLower = true ↔ 'a' ≤ c ∧ c ≤ 'z' :=
    Bool.and_eq_true_iff.trans (and_congr decide_eq_true_iff decide_eq_true_iff)
  have halpha : c.isAlpha = (c.isUpper || c.isLower) := rfl
  rw [Bool.or_eq_true, beq_iff_eq, halpha, Bool.or_eq_true, or_assoc, hupper, hlower]
  rfl

theorem isLater_iff :
    (c.isAlphanum || c == '_') = true ↔ IsInitial c ∨ ('0' ≤ c ∧ c ≤ '9') := by
  have hdigit : c.isDigit = true ↔ '0' ≤ c ∧ c ≤ '9' :=
    Bool.and_eq_true_iff.trans (and_congr decide_eq_true_iff decide_eq_true_iff)
  rw [Char.isAlphanum, Bool.or_right_comm, Bool.or_eq_true, isInitial_iff, hdigit]

theorem isIdentifier_iff : isIdentifier cs = true ↔ IsPart (.ofList cs) := by
  unfold IsPart
  rw [String.toList_ofList]
  cases cs with
  | nil => exact iff_of_false nofun fun ⟨_, _, h, _⟩ => List.cons_ne_nil _ _ h.symm
  | cons c cs =>
    rw [isIdentifier, Bool.and_eq_true, isInitial_iff, List.all_eq_true]
    simp only [isLater_iff]
    constructor
    · exact fun h => ⟨c, cs, rfl, h⟩
    · rintro ⟨_, _, heq, h⟩
      cases heq
      exact h

theorem isIdentifier_toList : isIdentifier s.toList = true ↔ IsPart s := by
  rw [isIdentifier_iff, String.ofList_toList]

/-! ## The marks between the parts -/

theorem IsPart.notMem (h : IsPart s) {mark : Char} (hmark : mark ∈ ['.', '#', '$']) :
    mark ∉ s.toList := by
  obtain ⟨c, cs, hs, hc, hcs⟩ := h
  have hno : ¬(IsInitial mark ∨ ('0' ≤ mark ∧ mark ≤ '9')) := by
    rw [← isLater_iff]
    simp only [List.mem_cons, List.not_mem_nil, or_false] at hmark
    rcases hmark with rfl | rfl | rfl <;> decide
  rw [hs, List.mem_cons]
  rintro (rfl | hmem)
  · exact hno (.inl hc)
  · exact hno (hcs mark hmem)

theorem IsNamespace.notMem (h : IsNamespace s) : '#' ∉ s.toList := by
  obtain ⟨first, rest, rfl, hparts⟩ := h
  rw [String.toList_intercalate]
  intro hmem
  rcases Text.mem_intercalate hmem with heq | ⟨piece, hpiece, hmem⟩
  · cases heq
  · obtain ⟨part, hpart, rfl⟩ := List.mem_map.mp hpiece
    exact (hparts part hpart).notMem (by decide) hmem

/-- The pieces between the dots are the parts. -/
theorem all_splitAt_iff :
    (Text.splitAt '.' s.toList).all isIdentifier = true ↔ IsNamespace s := by
  rw [List.all_eq_true]
  constructor
  · intro h
    obtain ⟨first, rest, hpieces⟩ := List.exists_cons_of_ne_nil (Text.splitAt_ne_nil '.' s.toList)
    refine ⟨.ofList first, rest.map .ofList, ?_, ?_⟩
    · apply String.toList_inj.mp
      rw [String.toList_intercalate, ← List.map_cons, ← hpieces, List.map_map]
      simp only [Function.comp_def, String.toList_ofList, List.map_id']
      exact (Text.intercalate_splitAt '.' s.toList).symm
    · intro part hpart
      rw [← List.map_cons, ← hpieces] at hpart
      obtain ⟨piece, hpiece, rfl⟩ := List.mem_map.mp hpart
      exact isIdentifier_iff.mp (h piece hpiece)
  · rintro ⟨first, rest, rfl, hparts⟩ piece hpiece
    have hsplit : Text.splitAt '.' (".".intercalate (first :: rest)).toList =
        (first :: rest).map String.toList := by
      rw [String.toList_intercalate]
      refine Text.splitAt_intercalate fun piece hpiece => ?_
      rw [← List.map_cons] at hpiece
      obtain ⟨part, hpart, rfl⟩ := List.mem_map.mp hpiece
      exact (hparts part hpart).notMem (by decide)
    rw [hsplit] at hpiece
    obtain ⟨part, hpart, rfl⟩ := List.mem_map.mp hpiece
    exact isIdentifier_toList.mpr (hparts part hpart)

/-- What stands behind the namespace and its mark. -/
def localText (id : ShapeId) : List Char :=
  id.name.toList ++ (id.member.map fun member => '$' :: member.toList).getD []

theorem toList_display (id : ShapeId) :
    id.display.toList = id.ns.toList ++ '#' :: id.localText := by
  rw [display, localText, String.toList_append, String.toList_append, String.toList_append,
    List.append_assoc, List.append_assoc]
  cases id.member <;> simp

/-- A text cut at the mark of a member. -/
def cutMember (rest : List Char) : List Char × Option (List Char) :=
  match Text.splitFirst? '$' rest with
  | some (name, member) => (name, some member)
  | none => (rest, none)

theorem cutMember_localText (h : '$' ∉ id.name.toList) :
    cutMember id.localText = (id.name.toList, id.member.map String.toList) := by
  rw [cutMember, localText]
  cases id.member with
  | none =>
    have hcut := Text.splitFirst?_eq_none.mpr h
    simp only [Option.map_none, Option.getD_none, List.append_nil, hcut]
  | some member =>
    have hcut := Text.splitFirst?_eq_some.mpr
      ⟨h, Eq.refl (id.name.toList ++ '$' :: member.toList)⟩
    simp only [Option.map_some, Option.getD_some, hcut]

theorem eq_localText {rest : List Char}
    (h : cutMember rest = (id.name.toList, id.member.map String.toList)) :
    rest = id.localText := by
  rw [cutMember] at h
  rw [localText]
  cases hcut : Text.splitFirst? '$' rest with
  | none =>
    rw [hcut] at h
    obtain ⟨hname, hmember⟩ := Prod.mk.inj h
    rw [Option.map_eq_none_iff.mp hmember.symm, hname]
    exact (List.append_nil _).symm
  | some parts =>
    rw [hcut] at h
    obtain ⟨hname, hmember⟩ := Prod.mk.inj h
    obtain ⟨member, hid, htext⟩ := Option.map_eq_some_iff.mp hmember.symm
    rw [(Text.splitFirst?_eq_some.mp hcut).2, hid, hname, Option.map_some, Option.getD_some, htext]

/-- The parts that a text is cut into make up an id, if they are of the format. -/
def ofParts? (ns name : List Char) (member : Option (List Char)) : Option ShapeId := do
  guard ((Text.splitAt '.' ns).all isIdentifier && isIdentifier name && member.all isIdentifier)
  return ⟨.ofList ns, .ofList name, member.map .ofList⟩

theorem ofParts?_eq_some {ns name : List Char} {member : Option (List Char)} :
    ofParts? ns name member = some id ↔ id.Valid ∧ ns = id.ns.toList ∧
      (name, member) = (id.name.toList, id.member.map String.toList) := by
  have hguard (b : Bool) (x : ShapeId) :
      (do guard b; return x) = some id ↔ b = true ∧ x = id := by
    cases b with
    | false => exact iff_of_false nofun fun h => Bool.false_ne_true h.1
    | true => exact Option.some_inj.trans (and_iff_right rfl).symm
  rw [ofParts?, hguard, Bool.and_eq_true, Bool.and_eq_true]
  constructor
  · rintro ⟨⟨⟨hns, hname⟩, hmember⟩, rfl⟩
    refine ⟨⟨?_, isIdentifier_iff.mp hname, ?_⟩, String.toList_ofList.symm, ?_⟩
    · exact all_splitAt_iff.mp (by rwa [String.toList_ofList])
    · intro m hm
      obtain ⟨cs, rfl, rfl⟩ := Option.map_eq_some_iff.mp hm
      exact isIdentifier_iff.mp hmember
    · rw [String.toList_ofList, Option.map_map]
      simp only [Function.comp_def, String.toList_ofList, Option.map_id']
  · rintro ⟨hvalid, rfl, hlocal⟩
    cases hlocal
    refine ⟨⟨⟨all_splitAt_iff.mpr hvalid.ns, isIdentifier_toList.mpr hvalid.name⟩, ?_⟩, ?_⟩
    · rw [Option.all_map, Option.all_eq_true]
      exact fun m hm => isIdentifier_toList.mpr (hvalid.member m hm)
    · rw [Option.map_map]
      simp only [Function.comp_def, String.ofList_toList, Option.map_id']

theorem parse?_eq (s : String) : parse? s = (Text.splitFirst? '#' s.toList).bind fun parts =>
    ofParts? parts.1 (cutMember parts.2).1 (cutMember parts.2).2 :=
  rfl

/-- Reading gives the ids of the format, each for the text that displays it. -/
theorem parse?_eq_some : parse? s = some id ↔ id.Valid ∧ id.display = s := by
  rw [parse?_eq, Option.bind_eq_some_iff, ← String.toList_inj, toList_display]
  constructor
  · rintro ⟨⟨ns, rest⟩, hcut, hid⟩
    obtain ⟨hvalid, rfl, hlocal⟩ := ofParts?_eq_some.mp hid
    rw [(Text.splitFirst?_eq_some.mp hcut).2]
    exact ⟨hvalid, congrArg (id.ns.toList ++ '#' :: ·) (eq_localText hlocal).symm⟩
  · rintro ⟨hvalid, htext⟩
    refine ⟨(id.ns.toList, id.localText), ?_, ?_⟩
    · exact Text.splitFirst?_eq_some.mpr ⟨hvalid.ns.notMem, htext.symm⟩
    · rw [cutMember_localText (hvalid.name.notMem (by decide))]
      exact ofParts?_eq_some.mpr ⟨hvalid, rfl, rfl⟩

theorem isText_iff : IsText s ↔ ∃ id, Valid id ∧ id.display = s := by
  constructor
  · intro h
    cases h with
    | @root ns name hns hname =>
      exact ⟨⟨ns, name, none⟩, ⟨hns, hname, nofun⟩, String.append_empty⟩
    | @member ns name member hns hname hmember =>
      refine ⟨⟨ns, name, some member⟩, ⟨hns, hname, fun m hm => ?_⟩, ?_⟩
      · cases hm
        exact hmember
      · exact (String.append_assoc ..).symm
  · rintro ⟨⟨ns, name, member⟩, hvalid, rfl⟩
    cases member with
    | none =>
      have hroot := IsText.root hvalid.ns hvalid.name
      rwa [← String.append_empty (s := ns ++ "#" ++ name)] at hroot
    | some member =>
      have hmember := IsText.member hvalid.ns hvalid.name (hvalid.member member rfl)
      rwa [String.append_assoc] at hmember

/-! ## Ids in documents -/

open Json

theorem mismatch_ne_ok {α : Type} {doc : Document} {expected : String} {a : α} :
    doc.mismatch expected ≠ .ok a := by
  rw [Document.mismatch]
  cases doc.found <;> nofun

theorem asString_eq_ok {doc : Document} : doc.asString = .ok s ↔ doc = .string (some s) := by
  unfold Document.asString
  split
  · simp
  · exact iff_of_false nofun nofun
  · next hsome _ => exact iff_of_false mismatch_ne_ok (hsome s)

theorem asShapeId_eq_ok {doc : Document} :
    doc.asShapeId = .ok id ↔ id.Valid ∧ doc = .string (some id.display) := by
  rw [Document.asShapeId]
  constructor
  · intro h
    obtain ⟨raw, hraw, h⟩ := Outcome.bind_eq_ok.mp h
    split at h
    · next x hx =>
      cases h
      obtain ⟨hvalid, rfl⟩ := parse?_eq_some.mp hx
      exact ⟨hvalid, asString_eq_ok.mp hraw⟩
    · cases h
  · rintro ⟨hvalid, rfl⟩
    refine Outcome.bind_eq_ok.mpr ⟨_, rfl, ?_⟩
    rw [parse?_eq_some.mpr ⟨hvalid, rfl⟩]
    rfl

theorem read_eq_ok : read s = .ok id ↔
    id.Valid ∧ Document.read s.toList = (.string (some id.display), true) := by
  rw [read]
  generalize Document.read s.toList = found
  obtain ⟨doc, ended⟩ := found
  simp only [Outcome.bind_eq_ok, asShapeId_eq_ok, Prod.mk.injEq]
  cases ended with
  | false => exact iff_of_false (by rintro ⟨_, _, h⟩; cases h) fun h => Bool.false_ne_true h.2.2
  | true => simp [pure, Except.pure]

theorem read_printString (s : String) :
    Document.read (String.ofList (printString s)).toList = (.string (some s), true) := by
  have hread := Document.read_print (v := .string s) rfl
  rwa [Value.print, ← String.toList_ofList (l := printString s)] at hread

/-- Ids and texts of the format are inverse to each other: reading accepts just the texts of the
format, gives the id that the text displays, and reads every id of the format back from its text.
The same goes for ids and the strings of documents. -/
theorem display_inverse :
    (∀ s, (∃ id, parse? s = some id) ↔ IsText s) ∧
    (∀ s id, parse? s = some id ↔ id.Valid ∧ id.display = s) ∧
    (∀ id, parse? id.display = some id ↔ id.Valid) ∧
    (∀ id, read id.serialize = .ok id ↔ id.Valid) ∧
    (∀ s id, read (.ofList (printString s)) = .ok id ↔
      id.Valid ∧ id.serialize = .ofList (printString s)) ∧
    ∀ text id, read text = .ok id ↔
      id.Valid ∧ Document.read text.toList = (.string (some id.display), true) := by
  have hserialize (id : ShapeId) : id.serialize = .ofList (printString id.display) := by
    rw [serialize, Value.print]
  refine ⟨fun s => ?_, fun s id => parse?_eq_some, fun id => ?_, fun id => ?_, fun s id => ?_,
    fun text id => read_eq_ok⟩
  · simp only [parse?_eq_some, isText_iff]
  · rw [parse?_eq_some, and_iff_left rfl]
  · rw [read_eq_ok, hserialize, read_printString, and_iff_left rfl]
  · rw [read_eq_ok, hserialize, read_printString]
    refine and_congr_right fun _ => ⟨fun h => ?_, fun h => ?_⟩
    · cases h
      rfl
    · rw [← read_printString s, ← h, read_printString]

end CrateGen.ShapeId
