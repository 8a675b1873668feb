import CrateGen.Proofs.EventStream.PrintedBrackets
import CrateGen.Proofs.EventStream.Unmarshaller

/-!
The brackets of generated unmarshallers. The names that come from a model of words have no
brackets, those of packages and parsers have matching ones, and so all that a plan writes is well
bracketed, whatever its branches and bindings are.
-/

namespace CrateGen

/-- The names of the packages have no brackets, as is so with identifiers and hyphens. -/
def RuntimePackages.Unbracketed (r : RuntimePackages) : Prop :=
  ∀ name ∈ [r.eventStreamCrate, r.httpCrate, r.typesCrate], Text.brackets name = []

instance (r : RuntimePackages) : Decidable r.Unbracketed :=
  inferInstanceAs (Decidable (∀ name ∈ _, _))

theorem RuntimePackages.Unbracketed.balanced {r : RuntimePackages} (h : r.Unbracketed)
    {name item : String} (hname : name ∈ [r.eventStreamCrate, r.httpCrate, r.typesCrate])
    (hitem : Text.Balanced item) : Text.Balanced ((r.package name).resolve item).path := by
  have hpackage : Text.Balanced (r.package name).path :=
    .of_brackets ((CargoDependency.brackets_pathName _).trans (h name hname))
  exact (hpackage.append (by decide)).append hitem

/-- The parsers that a protocol has for shapes have paths with matching brackets. -/
structure Protocol.BalancedParsers (protocol : Protocol) (operation : Shape) : Prop where
  payload : ∀ {member parser}, member.id.IsWords →
    protocol.payloadParser operation member = .ok parser → Text.Balanced parser.path
  error : ∀ {s parser}, s.id.IsWords →
    protocol.errorParser operation s = .ok (some parser) → Text.Balanced parser.path

/-- So has the one for generic errors. -/
structure Protocol.Balanced (protocol : Protocol) (operation : Shape) : Prop
    extends protocol.BalancedParsers operation where
  generic : Text.Balanced (protocol.genericErrorParser operation).path

namespace Protocol

theorem balanced_parserModule {s : Shape} (h : s.id.IsWords) : Text.Balanced (parserModule s) :=
  Text.Balanced.append (by decide) (.of_brackets (Text.brackets_of_isWord h.1.snakeCase))

theorem balanced_parserType {s : Shape} (h : s.id.IsWords) {suffix : String}
    (hsuffix : Text.Balanced suffix) :
    Text.Balanced (parserModule s ++ "::de_" ++ parserName s ++ suffix) := by
  have hname : Text.Balanced (parserName s) :=
    .of_brackets (Text.brackets_of_isWord h.1.snakeCase)
  exact (((balanced_parserModule h).append (by decide)).append hname).append hsuffix

/-- The parsers of payloads in JSON are named after shapes of the model. -/
theorem json_balanced (name : String) {ctx : Context} (hm : ctx.model.Worded)
    (operation : Shape) : (Protocol.json name ctx).Balanced operation where
  payload _ h := by
    obtain ⟨target, htarget, h⟩ := Outcome.bind_eq_ok.mp h
    cases h
    obtain ⟨id, -, hid⟩ := Model.memberTarget_eq_ok.mp htarget
    exact balanced_parserType (hm id target hid) (by decide)
  error hs h := by
    unfold Protocol.json at h
    dsimp only at h
    split at h
    · cases h
    split at h
    · cases h
    · cases h
      exact balanced_parserType hs (by decide)
  generic := by
    change Text.Balanced "crate::json_errors::parse_event_stream_error_metadata"
    decide

end Protocol

namespace EventStream

open CrateGen.Action Outcome
open Template (Part fill sheet shown_append shown_cons shown_nil)
open Text (behind_append)

/-! ## The names of a plan -/

def PayloadKind.Balanced : PayloadKind → Prop
  | .structured parser => Text.Balanced parser.path
  | .blob | .text => True

structure PayloadBinding.Balanced (binding : PayloadBinding) : Prop where
  field : Text.Balanced binding.field
  kind : binding.kind.Balanced

structure HeaderBinding.Balanced (binding : HeaderBinding) : Prop where
  member : Text.Balanced (Text.quote binding.member)
  field : Text.Balanced binding.field

def EventBody.Balanced : EventBody → Prop
  | .empty type => Text.Balanced type.type
  | .payloadOnly parser => Text.Balanced parser.path
  | .bound builder payload headers =>
    Text.Balanced builder.type ∧ (∀ binding ∈ payload, binding.Balanced) ∧
      ∀ binding ∈ headers, binding.Balanced

structure EventBranch.Balanced (branch : EventBranch) : Prop where
  eventType : Text.Balanced (Text.quote branch.eventType)
  variant : Text.Balanced branch.variant
  body : branch.body.Balanced

structure ErrorBranch.Balanced (branch : ErrorBranch) : Prop where
  eventType : Text.Balanced branch.eventType ∧ Text.Balanced (Text.quote branch.eventType)
  variant : Text.Balanced branch.variant
  builder : Text.Balanced branch.builder.type
  parser : ∀ parser ∈ branch.parser, Text.Balanced parser.path

/-- The brackets of all names in a plan match, but for the parser of generic errors. -/
structure Plan.BalancedNames (plan : Plan) : Prop where
  unmarshaller : Text.Balanced plan.unmarshaller
  union : Text.Balanced plan.union.type
  error : Text.Balanced plan.error.type
  runtime : plan.runtime.Unbracketed
  events : ∀ branch ∈ plan.events, branch.Balanced
  errors : ∀ branch ∈ plan.errors, branch.Balanced

structure Plan.Balanced (plan : Plan) : Prop extends plan.BalancedNames where
  generic : ∀ parser ∈ plan.genericErrorParser, Text.Balanced parser.path

theorem EventBody.balanced_payloadStmt {payload : Option PayloadBinding}
    (h : ∀ binding ∈ payload, binding.Balanced) : (payloadStmt payload).Balanced := by
  cases payload with
  | none => trivial
  | some binding =>
    obtain ⟨hfield, hkind⟩ := h binding rfl
    change binding.kind.guardStmt.Balanced ∧ Text.Balanced binding.field ∧
      (binding.kind.expr binding.field).Balanced
    cases hk : binding.kind with
    | blob => exact ⟨⟨by decide, by decide⟩, hfield, trivial⟩
    | text => exact ⟨⟨by decide, by decide⟩, hfield, trivial⟩
    | structured parser =>
      rw [hk] at hkind
      exact ⟨trivial, hfield, hkind, hfield⟩

theorem EventBody.balanced_headersStmt {headers : List HeaderBinding}
    (h : ∀ binding ∈ headers, binding.Balanced) : (headersStmt headers).Balanced := by
  rw [headersStmt]
  split
  · trivial
  · apply Stmt.armsBalanced
    intro arm harm
    obtain ⟨binding, hb, rfl⟩ := List.mem_map.mp harm
    have hreader : Text.Balanced binding.type.reader := by
      cases binding.type <;> decide
    exact ⟨(h binding hb).member, (h binding hb).field, hreader⟩

theorem EventBody.Balanced.stmt {body : EventBody} (h : body.Balanced) {variant : String}
    (hvariant : Text.Balanced variant) : (body.stmt variant).Balanced := by
  cases body with
  | empty type => exact ⟨hvariant, h⟩
  | payloadOnly parser => exact ⟨⟨h, hvariant⟩, hvariant, trivial⟩
  | bound builder payload headers =>
    obtain ⟨hbuilder, hpayload, hheaders⟩ := h
    exact ⟨⟨⟨hbuilder, balanced_payloadStmt hpayload⟩, balanced_headersStmt hheaders⟩, hvariant,
      trivial⟩

theorem ErrorBranch.Balanced.stmt {branch : ErrorBranch} (h : branch.Balanced) (target : Target) :
    (branch.stmt target).Balanced := by
  have hparser := h.parser
  unfold ErrorBranch.stmt
  cases target with
  | client =>
    cases hp : branch.parser with
    | none => trivial
    | some parser => exact ⟨h.builder, hparser parser hp, h.eventType.1, h.variant⟩
  | server =>
    cases hp : branch.parser with
    | none => exact ⟨h.builder, h.variant⟩
    | some parser => exact ⟨⟨h.builder, hparser parser hp, h.eventType.1⟩, h.variant⟩

namespace Plan

variable {plan : Plan}

theorem BalancedNames.errorChoice (h : plan.BalancedNames) : plan.errorChoice.Balanced := by
  have herrors := h.errors
  unfold Plan.errorChoice
  cases hplan : plan.errors with
  | nil => trivial
  | cons branch rest =>
    rw [hplan] at herrors
    cases rest with
    | nil =>
      have hbranch := herrors branch List.mem_cons_self
      exact ⟨hbranch.eventType.2, hbranch.stmt plan.target⟩
    | cons next rest =>
      apply Stmt.armsBalanced
      intro arm harm
      obtain ⟨branch, hb, rfl⟩ := List.mem_map.mp harm
      exact ⟨(herrors branch hb).eventType.2, (herrors branch hb).stmt plan.target⟩

theorem balanced_lastStmt (plan : Plan) : plan.lastStmt.Balanced := by
  rw [lastStmt]
  cases plan.target <;> trivial

theorem Balanced.program (h : plan.Balanced) : plan.program.Balanced := by
  have hevents : Stmt.ArmsBalanced (plan.events.map EventBranch.arm) := by
    apply Stmt.armsBalanced
    intro arm harm
    obtain ⟨branch, hb, rfl⟩ := List.mem_map.mp harm
    have hbranch := h.events branch hb
    exact ⟨hbranch.eventType, hbranch.body.stmt hbranch.variant⟩
  have hcatchAll : plan.catchAll.Balanced := by
    rw [catchAll]
    split
    · trivial
    · exact ⟨by decide, by decide⟩
  have hgeneric : plan.genericStmt.Balanced := by
    rw [genericStmt]
    cases hp : plan.genericErrorParser with
    | none => trivial
    | some parser => exact h.generic parser hp
  exact ⟨⟨by decide, ⟨hevents, by decide, hcatchAll⟩, by decide,
    ⟨⟨hgeneric, h.errorChoice⟩, plan.balanced_lastStmt⟩, trivial⟩, by decide, by decide, by decide⟩

theorem BalancedNames.names (h : plan.BalancedNames) (key : String) : Text.Balanced (plan.names key) := by
  have hitem {name : String} (hname : name ∈ [plan.runtime.eventStreamCrate,
      plan.runtime.httpCrate, plan.runtime.typesCrate]) (item : String)
      (hitem : Text.Balanced item) (k : String) :
      ∀ text ∈ Template.text? (typeArg k ((plan.runtime.package name).resolve item)).2,
        Text.Balanced text := by
    intro text htext
    cases htext
    exact h.runtime.balanced hname hitem
  have hscope : ∀ a ∈ plan.scope, ∀ name ∈ Template.text? a.2, Text.Balanced name := by
    have hstream := List.mem_cons_self (a := plan.runtime.eventStreamCrate)
      (l := [plan.runtime.httpCrate, plan.runtime.typesCrate])
    refine List.forall_iff_forall_mem.mp ⟨hitem (by simp) "Blob" (by decide) _,
      hitem hstream "smithy" (by decide) _, hitem hstream "frame::Message" (by decide) _,
      hitem hstream "error::Error" (by decide) _, ?_, ?_, ?_,
      hitem hstream "frame::UnmarshalledMessage" (by decide) _,
      hitem hstream "frame::UnmarshallMessage" (by decide) _⟩
    · intro name hname
      cases hname
      exact h.error
    · intro name hname
      cases hname
      exact h.union
    · intro name hname
      cases hname
      decide
  rw [Plan.names]
  cases hget : plan.bound.get? (lowercase key) with
  | none => decide
  | some arg =>
    obtain ⟨entry, hfound, rfl⟩ := Option.map_eq_some_iff.mp hget
    obtain ⟨a, ha, rfl⟩ := List.mem_map.mp (List.mem_of_find?_eq_some hfound)
    rw [Option.bind_some]
    cases htext : Template.text? a.2 with
    | none => decide
    | some name => exact hscope a ha name htext

theorem Balanced.printed (h : plan.Balanced) : Text.Balanced (Entry.joined plan.printed) := by
  have hname := h.unmarshaller
  have hn := h.names
  have hdeclaration : Text.Balanced (Text.unlines plan.declaration) := by
    apply Text.Balanced.unlines
    simp only [Text.Balanced, declaration, String.join_cons, String.join_nil, behind_append,
      hname.behind]
    rfl
  have himpl : Text.Balanced (fill (sheet (Printing.implHeader plan.names plan.unmarshaller))) := by
    apply Printing.balanced_sheet
    simp only [Text.Balanced, Printing.implHeader, Printing.shared, List.flatten_cons,
      List.flatten_nil, shown_append, shown_cons, shown_nil, Part.shown, behind_append,
      (hn _).behind, hname.behind, Option.bind_some]
    rfl
  have hfunction : Text.Balanced (fill (sheet (Printing.functionHeader plan.names))) := by
    apply Printing.balanced_sheet
    simp only [Text.Balanced, Printing.functionHeader, Printing.shared, List.flatten_cons,
      List.flatten_nil, shown_append, shown_cons, shown_nil, Part.shown, behind_append,
      (hn _).behind, Option.bind_some]
    rfl
  have htype {text : String} (htext : Text.Balanced text) (key : String) :
      Text.Balanced (Entry.joined (Printing.item [[.text text, Printing.shared plan.names key,
        .text ";"]])) := by
    apply Printing.balanced_item
    simp only [Text.Balanced, Printing.shared, List.flatten_cons, List.flatten_nil, shown_append,
      shown_cons, shown_nil, Part.shown, behind_append, (hn _).behind, htext.behind,
      Option.bind_some]
    rfl
  have hread : Text.Balanced (Entry.joined (Printing.readHeaders plan.names)) := by
    apply Printing.balanced_item
    simp only [Text.Balanced, Printing.shared, List.flatten_cons, List.flatten_nil, shown_append,
      shown_cons, shown_nil, Part.shown, behind_append, (hn _).behind, Option.bind_some]
    rfl
  rw [Plan.printed, Entry.joined_cons]
  refine hdeclaration.append (Printing.balanced_braces himpl ?_)
  rw [Entry.joined_append, Entry.joined_append]
  refine ((htype (by decide) _).append (htype (by decide) _)).append
    (Printing.balanced_braces hfunction ?_)
  rw [Entry.joined_append]
  exact hread.append (Stmt.balanced_print hn plan.program h.program)

/-- Nothing else can close what the path of the parser of generic errors leaves open. -/
theorem BalancedNames.broken_printed (h : plan.BalancedNames) {parser : RuntimeType Code} {c : Char}
    (hparser : plan.genericErrorParser = some parser)
    (hopen : Text.behind [] parser.path = some [c]) (hc : c ≠ '}') :
    Text.Broken (Entry.joined plan.printed) := by
  have hn := h.names
  have hpath (awaited : List Char) : Text.behind awaited parser.path = some (c :: awaited) :=
    Text.behind_frame hopen awaited
  have hgeneric : Text.behind [] (Entry.joined (plan.genericStmt.print plan.names)) = some [c] := by
    have hsheet := Template.brackets_fill (Printing.letGeneric plan.names parser)
    rw [genericStmt, hparser, Stmt.print, Printing.item, Entry.joined_singleton, Text.behind, hsheet,
      ← Text.behind]
    simp only [Printing.letGeneric, Printing.shared, List.flatten_cons, List.flatten_nil,
      shown_append, shown_cons, shown_nil, Part.shown, behind_append, (hn _).behind, hpath,
      Option.bind_some]
    rfl
  have herror : Text.behind [] (Entry.joined (plan.errorStmt.print plan.names)) = some [c] := by
    have hchoice := Stmt.balanced_print hn plan.errorChoice h.errorChoice
    have hlast := Stmt.balanced_print hn plan.lastStmt plan.balanced_lastStmt
    change Text.behind [] (Entry.joined ((plan.genericStmt.print plan.names ++
      plan.errorChoice.print plan.names) ++ plan.lastStmt.print plan.names)) = _
    rw [Entry.joined_append, Entry.joined_append, behind_append, behind_append, hgeneric,
      Option.bind_some, hchoice.behind, Option.bind_some, hlast.behind]
  have harm := Printing.broken_braces_of_open herror hc (Text.quote "exception" ++ " =>")
  have hprogram : Text.Broken (Entry.joined (plan.program.print plan.names)) := by
    rw [program, Stmt.print]
    apply Printing.broken_braces
    rw [Stmt.printArms, Stmt.printArms, Entry.joined_append, Entry.joined_append,
      Entry.joined_append]
    exact ((harm.append _).append_left _).append _
  rw [Plan.printed, Entry.joined_cons]
  refine (Printing.broken_braces ?_ _).append_left _
  rw [Entry.joined_append]
  refine (Printing.broken_braces ?_ _).append_left _
  rw [Entry.joined_append]
  exact hprogram.append_left _

/-- Nor can anything close what the name of the unmarshaller leaves open. -/
theorem broken_printed_of_unmarshaller {c : Char}
    (hopen : Text.behind [] plan.unmarshaller = some [c]) (hc : c ≠ '}') :
    Text.Broken (Entry.joined plan.printed) := by
  have hvalue : Text.behind [] ("        " ++ plan.unmarshaller) = some [c] := by
    rw [behind_append]
    exact hopen
  obtain ⟨front, hfront⟩ : ∃ front, plan.declaration =
      front ++ ["        " ++ plan.unmarshaller, r"    }", r"}"] :=
    ⟨plan.declaration.take 6, rfl⟩
  have hdeclaration : Text.Broken (String.join plan.declaration) := by
    rw [hfront, String.join_append, String.join_cons]
    exact (Text.broken_of_open hvalue hc rfl).append_left _
  have hunlines := (Text.brackets_unlines plan.declaration).trans
    (Text.brackets_join plan.declaration).symm
  rw [Plan.printed, Entry.joined_cons]
  exact (hdeclaration.congr hunlines).append _

end Plan

/-! ## Plans that are built -/

variable {ctx : Context} {protocol : Protocol} {operation union : Shape} {plan : Plan}

theorem headerBinding_balanced {member : Shape} {binding : HeaderBinding}
    (hmember : member.id.IsWords) (h : Plan.headerBinding ctx member = .ok binding) :
    binding.Balanced := by
  obtain ⟨hname, hfield, -⟩ := headerBinding_of h
  constructor
  · rw [hname]
    exact .of_brackets (Text.brackets_quote hmember.memberName)
  · rw [hfield]
    exact ctx.symbols.balanced_memberName hmember

theorem balanced_symbol_of_isStructure {target : Shape} {symbol : Symbol Code}
    (hs : target.isStructure = true) (htarget : target.id.IsWords)
    (h : ctx.symbols.symbol target = .ok symbol) :
    Text.Balanced symbol.type ∧ Text.Balanced symbol.builder.type := by
  rw [SymbolTable.symbol, SymbolTable.symbolWithin] at h
  rw [Shape.isStructure] at hs
  have hname := SymbolTable.balanced_typeName htarget
  cases hk : target.kind with
  | «structure» members =>
    rw [hk] at h
    cases h
    have hns :
        Text.Balanced (if target.isError then "crate::types::error" else "crate::types") := by
      cases target.isError <;> decide
    exact ⟨Symbol.balanced_named hname hns, Symbol.balanced_builder_named hname hns⟩
  | _ =>
    rw [hk] at hs
    cases hs

theorem balanced_errorSymbol (hr : ctx.runtime.Unbracketed) {union : Symbol Code}
    (h : Text.Balanced union.name) (errors : List ErrorBranch) :
    Text.Balanced (Plan.errorSymbol ctx union errors).type := by
  rw [Plan.errorSymbol]
  split
  · have hmem : ctx.runtime.httpCrate ∈ [ctx.runtime.eventStreamCrate, ctx.runtime.httpCrate,
        ctx.runtime.typesCrate] := by
      simp
    exact Symbol.balanced_ofRuntimeType (hr.balanced hmem (by decide))
  · exact Symbol.balanced_named (h.append (by decide)) (by decide)

section

variable (hp : protocol.BalancedParsers operation)
include hp

theorem payloadBinding_balanced {member : Shape} {binding : PayloadBinding}
    (hmember : member.id.IsWords)
    (h : Plan.payloadBinding ctx protocol operation member = .ok binding) : binding.Balanced := by
  obtain ⟨hkind, hbinding⟩ := Plan.payloadBinding_inversion h
  have hfield := ctx.symbols.balanced_memberName hmember
  generalize binding.kind = kind at hkind hbinding
  subst hbinding
  refine ⟨hfield, ?_⟩
  cases hkind with
  | blob => trivial
  | text => trivial
  | structured hparser => exact hp.payload hmember hparser

theorem eventBody_balanced {member target : Shape} {fields : List Shape} {body : EventBody}
    (hmember : member.id.IsWords) (hs : target.isStructure = true) (htarget : target.id.IsWords)
    (hfields : ∀ field ∈ fields, field.id.IsWords)
    (h : Plan.Body ctx protocol operation member target fields body) : body.Balanced := by
  cases h with
  | empty _ hsymbol => exact (balanced_symbol_of_isStructure hs htarget hsymbol).1
  | payloadOnly _ _ hparser => exact hp.payload hmember hparser
  | bound _ hsymbol hpayload hheaders =>
    refine ⟨(balanced_symbol_of_isStructure hs htarget hsymbol).2, fun binding hb => ?_,
      fun binding hb => ?_⟩
    · obtain ⟨field, hfield, hbinding⟩ := exists_of_rel hpayload hb
      exact payloadBinding_balanced hp (hfields field (List.mem_of_find?_eq_some hfield)) hbinding
    · obtain ⟨field, hfield, hbinding⟩ := exists_of_forall₂ hheaders hb
      exact headerBinding_balanced (hfields field (List.mem_of_mem_filter hfield)) hbinding

theorem branch_balanced (hm : ctx.model.Worded) {member : Shape} (hmember : member.id.IsWords)
    {branch : EventBranch ⊕ ErrorBranch} (h : Plan.Branch ctx protocol operation member branch) :
    branch.elim EventBranch.Balanced ErrorBranch.Balanced := by
  have htype := hmember.memberName
  cases h with
  | event htarget hs _ hfields hbody =>
    obtain ⟨id, -, hid⟩ := Model.memberTarget_eq_ok.mp htarget
    exact {
      eventType := .of_brackets (Text.brackets_quote htype)
      variant := ctx.symbols.balanced_memberName hmember
      body := eventBody_balanced hp hmember hs (hm id _ hid)
        (fun field hf => isWords_of_membersOf hm hfields hf) hbody }
  | error htarget hs _ hsymbol hparser =>
    obtain ⟨id, -, hid⟩ := Model.memberTarget_eq_ok.mp htarget
    have hwords := hm id _ hid
    exact {
      eventType := ⟨.of_brackets (Text.brackets_of_isWord htype),
        .of_brackets (Text.brackets_quote htype)⟩
      variant := .of_brackets (Text.brackets_of_isWord hwords.1)
      builder := (balanced_symbol_of_isStructure hs hwords hsymbol).2
      parser := by
        rintro t rfl
        exact hp.error hwords hparser }

/-- The names in a plan over ids of words have matching brackets. -/
theorem Plan.balancedNames_of_build (hm : ctx.model.Worded) (hu : union.id.IsWords)
    (hr : ctx.runtime.Unbracketed) (h : Plan.build ctx protocol operation union = .ok plan) :
    plan.BalancedNames := by
  have hsources := sources_of_build h
  have hsymbol := Except.ok.inj
    ((symbol_of_isUnion hsources.isUnion).symm.trans hsources.symbol)
  have hname := SymbolTable.balanced_typeName hu
  exact {
    unmarshaller := by
      rw [(built_of_build h).unmarshaller]
      exact Text.Balanced.append
        (.of_brackets (Text.brackets_of_isWord hu.1.escape_pascalCase.pascalCase)) (by decide)
    union := by
      rw [← hsymbol]
      exact Symbol.balanced_named hname (by decide)
    error := by
      rw [hsources.error, ← hsymbol]
      refine balanced_errorSymbol hr ?_ _
      rw [Symbol.name_named]
      exact hname
    runtime := hsources.runtime ▸ hr
    events := fun branch hb => by
      obtain ⟨members, member, hmembers, hmember, hbranch⟩ := hsources.event hb
      exact branch_balanced hp hm (isWords_of_membersOf hm hmembers hmember) hbranch
    errors := fun branch hb => by
      obtain ⟨members, member, hmembers, hmember, hbranch⟩ := hsources.errorBranch hb
      exact branch_balanced hp hm (isWords_of_membersOf hm hmembers hmember) hbranch }

end

theorem Plan.balanced_of_build (hp : protocol.Balanced operation) (hm : ctx.model.Worded)
    (hu : union.id.IsWords) (hr : ctx.runtime.Unbracketed)
    (h : Plan.build ctx protocol operation union = .ok plan) : plan.Balanced where
  toBalancedNames := balancedNames_of_build hp.toBalancedParsers hm hu hr h
  generic parser hparser := by
    rw [(sources_of_build h).generic] at hparser
    cases ht : ctx.target with
    | client =>
      rw [ht] at hparser
      cases hparser
      exact hp.generic
    | server =>
      rw [ht] at hparser
      cases hparser

/-- Whatever writer the code of an unmarshaller is run on, it goes on with a text in which brackets
are nested at every prefix and all closed at the end. -/
theorem Plan.wellBracketed_of_build (hp : protocol.Balanced operation) (hm : ctx.model.Worded)
    (hu : union.id.IsWords) (hr : ctx.runtime.Unbracketed)
    (h : Plan.build ctx protocol operation union = .ok plan) (depth : Nat) (w : Writer) :
    ∃ w' text, outcome (Code.run (depth + 1) plan.writeUnmarshaller) w = (.ok (), w') ∧
      w'.page.text = w.page.text ++ text ∧ Text.WellBracketed text := by
  obtain ⟨ds, hrun⟩ := ((built_of_build h).named hm hu).writes w.scopes (Code.run depth) w rfl
  obtain ⟨text, htext, hbrackets⟩ := w.goesOn_wrote plan.printed ds
  have hbalanced := (Plan.balanced_of_build hp hm hu hr h).printed.congr hbrackets
  exact ⟨_, text, hrun, htext, hbalanced.wellBracketed⟩

theorem Plan.wellBracketed_of_build_readings : ∃ plan,
    (Protocol.json "aws.protocols#restJson1" readingsContext).Balanced readingsUnion ∧
    readings.Worded ∧ readingsUnion.id.IsWords ∧ readingsContext.runtime.Unbracketed ∧
    Plan.build readingsContext (Protocol.json "aws.protocols#restJson1" readingsContext)
      readingsUnion readingsUnion = .ok plan ∧
    ∃ w' text, outcome (Code.run 1 plan.writeUnmarshaller) (.ofModule .root) = (.ok (), w') ∧
      w'.page.text = (Writer.ofModule .root).page.text ++ text ∧ Text.WellBracketed text := by
  obtain ⟨plan, h, -⟩ := exists_readingsPlan
  have hwords := readingsUnion_isWords
  have hm : readingsContext.model.Worded := readings_worded
  have hjson :
      (Protocol.json "aws.protocols#restJson1" readingsContext).Balanced readingsUnion :=
    Protocol.json_balanced _ hm _
  have hruntime : readingsContext.runtime.Unbracketed := by
    decide +kernel
  exact ⟨plan, hjson, hm, hwords, hruntime, h,
    Plan.wellBracketed_of_build hjson hm hwords hruntime h 0 _⟩

/-! ## Brackets that are left open -/

/-- Whether the plan has the only event of a feed, with nothing in it. -/
def Plan.isBare (plan : Plan) (name : String) : Bool :=
  plan.unmarshaller == name ++ "Unmarshaller" && plan.errors.isEmpty &&
    match plan.events with
    | [⟨_, variant, .empty _⟩] => variant == "Event"
    | _ => false

theorem Plan.named_of_isBare {name : String} (h : plan.isBare name = true)
    (hname : Template.Clean name) :
    plan.unmarshaller = name ++ "Unmarshaller" ∧ plan.Named := by
  unfold isBare at h
  rw [Bool.and_eq_true, Bool.and_eq_true, beq_iff_eq, List.isEmpty_iff] at h
  obtain ⟨⟨hunmarshaller, herrors⟩, hevents⟩ := h
  refine ⟨hunmarshaller, ⟨name, hname, hunmarshaller⟩, fun branch hb => ?_, fun branch hb => ?_⟩
  · split at hevents
    · next type variant symbol hplan =>
      rw [hplan] at hb
      cases List.mem_singleton.mp hb
      dsimp only
      rw [eq_of_beq hevents]
      exact ⟨.literal rfl (by decide), trivial⟩
    · cases hevents
  · rw [herrors] at hb
    cases hb

theorem Plan.Named.writes_broken (h : plan.Named)
    (hbroken : Text.Broken (Entry.joined plan.printed)) (depth : Nat) (w : Writer) :
    ∃ w' text, outcome (Code.run (depth + 1) plan.writeUnmarshaller) w = (.ok (), w') ∧
      w'.page.text = w.page.text ++ text ∧ ¬Text.WellBracketed text := by
  obtain ⟨ds, hrun⟩ := h.writes w.scopes (Code.run depth) w rfl
  obtain ⟨text, htext, hbrackets⟩ := w.goesOn_wrote plan.printed ds
  exact ⟨_, text, hrun, htext, (hbroken.congr hbrackets).not_wellBracketed⟩

/-- The protocol with another parser of generic errors, whose path leaves a bracket open. -/
def openProtocol (ctx : Context) : Protocol :=
  { Protocol.json "aws.protocols#restJson1" ctx with
    genericErrorParser := fun _ => { path := "crate::parse(" } }

def openPlan : Except Error Plan :=
  Plan.build (feedContext "Feed" []) (openProtocol (feedContext "Feed" [])) feedOperation
    (feedUnion "Feed")

theorem openFeeds_checked :
    ((feedBuilder "Feed(" []).build.1.toOption.isSome = true ∧
      (feedPlan "Feed(" []).toOption.any (·.isBare "Feed(") = true) ∧
    ((feedBuilder "Feed" []).build.1.toOption.isSome = true ∧
      (∀ s ∈ (feed "Feed" []).toList, s.id.IsWords) ∧ (feedUnion "Feed").id.IsWords ∧
      openPlan.toOption.isSome = true) ∧
    ∀ name ∈ ["Feed(", "Feed"], (feedContext name []).runtime.Unbracketed := by
  decide +kernel

/-- Plans that are built, and write texts whose brackets do not match: for the name of a union, and
for the path of a parser. -/
theorem Plan.unbracketed_of_build :
    ((feed "Feed(" []).Built ∧ (feedContext "Feed(" []).runtime.Unbracketed ∧ ∃ plan,
      feedPlan "Feed(" [] = .ok plan ∧ ∀ depth w, ∃ w' text,
        outcome (Code.run (depth + 1) plan.writeUnmarshaller) w = (.ok (), w') ∧
          w'.page.text = w.page.text ++ text ∧ ¬Text.WellBracketed text) ∧
    (feed "Feed" []).Built ∧ (feed "Feed" []).Worded ∧
      (feedContext "Feed" []).runtime.Unbracketed ∧ ∃ plan, openPlan = .ok plan ∧
        ∀ depth w, ∃ w' text,
          outcome (Code.run (depth + 1) plan.writeUnmarshaller) w = (.ok (), w') ∧
            w'.page.text = w.page.text ++ text ∧ ¬Text.WellBracketed text := by
  obtain ⟨⟨hbuilt, hbare⟩, ⟨hbuilt', hwords, hunion, hok⟩, hruntime⟩ := openFeeds_checked
  have hworded : (feed "Feed" []).Worded := Model.worded_of_toList hwords
  have hm : (feedContext "Feed" []).model.Worded := hworded
  have hruntime' := hruntime "Feed" (by decide)
  refine ⟨⟨feed_built hbuilt, hruntime _ List.mem_cons_self, ?_⟩, feed_built hbuilt', hworded,
    hruntime', ?_⟩
  · obtain ⟨plan, h, hplan⟩ := exists_of_any hbare
    obtain ⟨hname, hnamed⟩ := plan.named_of_isBare hplan (.literal rfl (by decide))
    have hopen : Text.behind [] plan.unmarshaller = some [')'] := by
      rw [hname]
      decide
    exact ⟨plan, h, hnamed.writes_broken (broken_printed_of_unmarshaller hopen (by decide))⟩
  · obtain ⟨plan, h⟩ := exists_of_isSome hok
    have hnamed := (built_of_build h).named hm hunion
    have hjson := Protocol.json_balanced "aws.protocols#restJson1" hm feedOperation
    have hparsers : (openProtocol (feedContext "Feed" [])).BalancedParsers feedOperation :=
      ⟨hjson.payload, hjson.error⟩
    have hnames := balancedNames_of_build hparsers hm hunion hruntime' h
    have hopen : Text.behind [] "crate::parse(" = some [')'] := by
      decide
    exact ⟨plan, h, hnamed.writes_broken
      (hnames.broken_printed (sources_of_build h).generic hopen (by decide))⟩

end EventStream

end CrateGen
