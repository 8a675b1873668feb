import CrateGen.Proofs.EventStream.Semantics

namespace CrateGen.EventStream

open Template (Part Binds Clean IsLine)
open Code.Writes (Spelled)

/-- The keys that every template of an unmarshaller can refer to. -/
def sharedKeys : List String :=
  ["Blob", "expect_fns", "Message", "Error", "OpError", "Output", "tracing",
   "UnmarshalledMessage", "UnmarshallMessage"]

/-- The shared keys stand for their names. -/
def Shares (n : Names) (scopes : List Scope) : Prop :=
  ∀ key ∈ sharedKeys, (Part.hole key (n key)).Fits scopes

section

variable {n : Names} {scopes : List Scope}

theorem Shares.push_nil (h : Shares n scopes) : Shares n ([] :: scopes) :=
  fun key hkey => ⟨(h key hkey).1, (h key hkey).2.push rfl⟩

theorem Shares.push (h : Shares n scopes) {key : String}
    (hkey : ∀ shared ∈ sharedKeys, lowercase key ≠ lowercase shared) (arg : Arg Code) :
    Shares n ([(lowercase key, key, arg)] :: scopes) := by
  refine fun shared hs => ⟨(h shared hs).1, (h shared hs).2.push ?_⟩
  have hne : (lowercase key == lowercase shared) = false :=
    beq_eq_false_iff_ne.mpr (hkey shared hs)
  rw [Scope.get?, List.find?_cons]
  dsimp only
  rw [hne]
  rfl

end

/-- The keys that single templates have of their own. -/
def ownKeys : List String :=
  ["parser", "builder", "UnionStruct", "parse_generic_error"]

theorem keys_sound : (∀ key ∈ ownKeys ++ sharedKeys, Template.isKey key = true) ∧
    ((ownKeys ++ sharedKeys).map lowercase).Nodup := by
  decide +kernel

theorem own_ne_shared (key : String) (hkey : key ∈ ownKeys) :
    ∀ shared ∈ sharedKeys, lowercase key ≠ lowercase shared := by
  have hnodup := keys_sound.2
  rw [List.map_append] at hnodup
  exact fun shared hs => (List.nodup_append.mp hnodup).2.2 _ (List.mem_map_of_mem hkey) _
    (List.mem_map_of_mem hs)

theorem fits_own {scopes : List Scope} {key name : String} {arg : Arg Code}
    (hkey : key ∈ ownKeys) (h : Template.text? arg = some name) :
    (Part.hole key name).Fits ([(lowercase key, key, arg)] :: scopes) :=
  ⟨keys_sound.1 key (List.mem_append_left _ hkey), .head h⟩

theorem quote_plain : Text.quote "application/octet-stream" = "\"application/octet-stream\"" ∧
    Text.quote "text/plain" = "\"text/plain\"" ∧ Text.quote "event" = "\"event\"" ∧
    Text.quote "exception" = "\"exception\"" := by
  decide +kernel

theorem fits_literal {scopes : List Scope} {s : String} {cs : List Char} (h : s = .ofList cs)
    (hc : (Template.isPlain cs && !cs.contains '\n') = true) : (Part.text s).Fits scopes :=
  Clean.literal h hc

section

variable {n : Names} {scopes : List Scope}

theorem isLine_literal {scopes : List Scope} {s : String} {cs : List Char} (h : s = .ofList cs)
    (hc : (Template.isPlain cs && !cs.contains '\n') = true)
    (he : (cs.getLast?.any fun c => !isBlank c) = true) : IsLine scopes [.text s] :=
  ⟨fits_literal h hc, Text.endsFlush_literal h he⟩

theorem isLine_parserCall (h : Shares n scopes) {call : List Part} (hcall : IsLine scopes call)
    {subject : String} (hs : Clean subject) {last : String}
    (hlast : last = r"    })?" ∨ last = r"    })?;") :
    (Printing.parserCall n call subject last).Forall (IsLine scopes) := by
  refine ⟨hcall, isLine_literal rfl (by decide) (by decide), ⟨?_, ?_⟩, ?_⟩
  · exact ⟨fits_literal rfl (by decide), h "Error" (by decide), fits_literal rfl (by decide),
      fits_literal rfl (by decide), hs, fits_literal rfl (by decide), fits_literal rfl (by decide),
      fits_literal rfl (by decide)⟩
  · exact Text.endsFlush_literal rfl (by decide)
  · rcases hlast with rfl | rfl
    · exact isLine_literal rfl (by decide) (by decide)
    · exact isLine_literal rfl (by decide) (by decide)

theorem writes_parse (h : Shares n scopes) (parser : RuntimeType Code) {subject : String}
    (hs : Clean subject) :
    Code.Writes scopes (parsePayload parser subject)
      (Printing.item (Printing.parse n parser subject)) := by
  have hshares := h.push (own_ne_shared "parser" (by decide)) (.type parser)
  refine Code.Writes.template rfl ⟨?_, trivial, isLine_parserCall hshares ⟨?_, ?_⟩ hs (.inl rfl)⟩
  · simp only [Printing.parse, Printing.parserCall, Printing.unmarshalling, Printing.shared,
      paragraph, parserCall, unmarshalling, hole, List.map_cons, List.map_nil, Template.written,
      List.foldr_cons, List.foldr_nil, Part.written, String.append_assoc, String.append_empty,
      List.cons_append, List.nil_append]
  · exact ⟨fits_own (by decide) rfl, fits_literal rfl (by decide)⟩
  · exact Text.endsFlush_literal rfl (by decide)

theorem writes_expr_blob (h : Shares n scopes) :
    Code.Writes scopes (Code.template (hole "Blob" ++ "::new(message.payload().as_ref())") [])
      (Printing.item (Printing.expr n .blob)) := by
  refine Code.Writes.template rfl ⟨?_, trivial, ?_, ?_⟩
  · simp only [Printing.expr, Printing.shared, hole, List.map_cons, List.map_nil,
      Template.written, List.foldr_cons, List.foldr_nil, Part.written, String.append_assoc,
      String.append_empty, Text.unlines, String.intercalate_singleton]
  · exact ⟨h.push_nil "Blob" (by decide), fits_literal rfl (by decide)⟩
  · exact Text.endsFlush_literal rfl (by decide)

theorem writes_expr_text (h : Shares n scopes) :
    Code.Writes scopes
      (Code.template (paragraph [
        "std::str::from_utf8(message.payload())",
        "    .map_err(|_| " ++ hole "Error" ++
          "::unmarshalling(\"message payload is not valid UTF-8\"))?",
        "    .to_owned()"]) [])
      (Printing.item (Printing.expr n .text)) := by
  refine Code.Writes.template rfl ⟨?_, Text.startsFlush_literal rfl (by decide), ?_, ⟨?_, ?_⟩, ?_⟩
  · simp only [Printing.expr, Printing.shared, paragraph, hole, List.map_cons, List.map_nil,
      Template.written, List.foldr_cons, List.foldr_nil, Part.written, String.append_assoc,
      String.append_empty]
  · exact isLine_literal rfl (by decide) (by decide)
  · exact ⟨fits_literal rfl (by decide), h.push_nil "Error" (by decide),
      fits_literal rfl (by decide)⟩
  · exact Text.endsFlush_literal rfl (by decide)
  · exact isLine_literal rfl (by decide) (by decide)

theorem writes_expr_header (h : Shares n scopes) (type : HeaderType) :
    Code.Writes scopes (Code.template (hole "expect_fns" ++ "::" ++ type.reader ++ "(header)?") [])
      (Printing.item (Printing.expr n (.header type.reader))) := by
  have hclean : Clean type.reader := by
    cases type <;> exact .append (Clean.literal rfl (by decide)) (Clean.literal rfl (by decide))
  refine Code.Writes.template rfl ⟨?_, trivial, ?_, ?_⟩
  · simp only [Printing.expr, Printing.shared, hole, List.map_cons, List.map_nil,
      Template.written, List.foldr_cons, List.foldr_nil, Part.written, String.append_assoc,
      String.append_empty, Text.unlines, String.intercalate_singleton]
  · exact ⟨h.push_nil "expect_fns" (by decide), fits_literal rfl (by decide), hclean,
      fits_literal rfl (by decide)⟩
  · exact Text.endsFlush_literal rfl (by decide)

theorem writes_payloadValue (h : Shares n scopes) {binding : PayloadBinding}
    (hs : Clean binding.field) :
    Code.Writes scopes (payloadValue binding)
      (Printing.item (Printing.expr n (binding.kind.expr binding.field))) := by
  rw [payloadValue]
  cases binding.kind with
  | blob => exact writes_expr_blob h
  | text => exact writes_expr_text h
  | structured parser => exact writes_parse h parser hs

theorem writes_setField (field : String) (isOptional : Bool) {value : Code} {expr : Expr}
    (hv : Code.Writes scopes value (Printing.item (Printing.expr n expr))) :
    Code.Writes scopes (setField field isOptional value)
      (Printing.set n field isOptional expr) := by
  have hstarts : Text.startsFlush ("builder = builder." ++ Name.setter field ++ "(") = true :=
    Text.startsFlush_append (Text.startsFlush_append (Text.startsFlush_literal rfl (by decide)))
  have hbefore := Text.trim_of_flush hstarts
    (Text.endsFlush_append (Text.endsFlush_literal rfl (by decide)))
  have hne : "builder = builder." ++ Name.setter field ++ "(" ≠ "" := by
    intro he
    rw [he] at hstarts
    cases hstarts
  refine Code.Writes.within hbefore hne (Text.trim_literal rfl (by decide) (by decide))
    (by decide) ?_
  split
  · exact Code.Writes.within (Text.trim_literal rfl (by decide) (by decide)) (by decide)
      (Text.trim_literal rfl (by decide) (by decide)) (by decide) hv
  · exact hv

theorem writes_contentTypeGuard (h : Shares n scopes) {expected : String}
    (hq : Clean (Text.quote expected)) (he : Clean expected) :
    Code.Writes scopes (contentTypeGuard expected)
      (Printing.item (Printing.contentTypeGuard n expected)) := by
  refine Code.Writes.template rfl ⟨?_, Text.startsFlush_literal rfl (by decide), ?_, ⟨?_, ?_⟩,
    ⟨?_, ?_⟩, ⟨?_, ?_⟩, ?_, ?_, ?_⟩
  · simp only [Printing.contentTypeGuard, Printing.shared, paragraph, hole, List.map_cons,
      List.map_nil, Template.written, List.foldr_cons, List.foldr_nil, Part.written,
      String.append_assoc, String.append_empty]
  · exact isLine_literal rfl (by decide) (by decide)
  · exact ⟨fits_literal rfl (by decide), hq, fits_literal rfl (by decide)⟩
  · exact Text.endsFlush_literal rfl (by decide)
  · exact ⟨fits_literal rfl (by decide), h.push_nil "Error" (by decide),
      fits_literal rfl (by decide)⟩
  · exact Text.endsFlush_literal rfl (by decide)
  · exact ⟨fits_literal rfl (by decide), he, fits_literal rfl (by decide)⟩
  · exact Text.endsFlush_literal rfl (by decide)
  · exact isLine_literal rfl (by decide) (by decide)
  · exact isLine_literal rfl (by decide) (by decide)
  · exact isLine_literal rfl (by decide) (by decide)

theorem writes_guard (h : Shares n scopes) (kind : PayloadKind) :
    Code.Writes scopes
      (match kind.contentType? with
        | some contentType => contentTypeGuard contentType
        | none => .nothing) (kind.guardStmt.print n) := by
  cases kind with
  | blob =>
    refine writes_contentTypeGuard h ?_ (Clean.literal rfl (by decide))
    rw [quote_plain.1]
    exact Clean.literal rfl (by decide)
  | text =>
    refine writes_contentTypeGuard h ?_ (Clean.literal rfl (by decide))
    rw [quote_plain.2.1]
    exact Clean.literal rfl (by decide)
  | structured parser => exact .nothing

theorem writes_payload (h : Shares n scopes) {binding : PayloadBinding}
    (hs : Clean binding.field) :
    Code.Writes scopes (writePayload binding) (binding.stmt.print n) :=
  (writes_guard h binding.kind).seq
    (writes_setField binding.field binding.isOptional (writes_payloadValue h hs))

theorem writes_block {header : String} {cs : List Char} (hh : header = .ofList cs)
    (hs : (cs.head?.any fun c => !isBlank c) = true)
    (he : (cs.getLast?.any fun c => !isBlank c) = true)
    (hc : (Template.isPlain cs && !cs.contains '\n') = true) {body : Code} {es : List Entry}
    (h : Code.Writes scopes body es) :
    Code.Writes scopes (Code.block header body) (Printing.braces header es) :=
  Code.Writes.block (Text.startsFlush_literal hh hs)
    ⟨(Clean.literal hh hc).noBreak, Text.endsFlush_literal hh he⟩ h

theorem writes_labelled (label : String) {body : Code} {es : List Entry}
    (h : Code.Writes scopes body es) :
    Code.Writes scopes (Code.block (Text.quote label ++ " =>") body)
      (Printing.braces (Text.quote label ++ " =>") es) := by
  refine Code.Writes.block (Text.startsFlush_append (Text.startsFlush_quote label)) ⟨?_, ?_⟩ h
  · exact Text.noBreak_append (Text.noBreak_quote label) (by decide)
  · exact Text.endsFlush_append (Text.endsFlush_literal rfl (by decide))

theorem writes_arms {α : Type} {code : α → Code} {arm : α → String × Stmt} {as : List α}
    (h : ∀ a ∈ as, Code.Writes scopes (code a)
      (Printing.braces (Text.quote (arm a).1 ++ " =>") ((arm a).2.print n))) :
    Code.Writes scopes (Code.join (as.map code)) (Stmt.printArms n (as.map arm)) := by
  have hall : List.Forall₂ (Code.Writes scopes) (as.map code) (as.map fun a =>
      Printing.braces (Text.quote (arm a).1 ++ " =>") ((arm a).2.print n)) := by
    induction as with
    | nil => exact .nil
    | cons a as ih =>
      exact .cons (h a List.mem_cons_self) (ih fun x hx => h x (List.mem_cons_of_mem _ hx))
  have hprint : Stmt.printArms n (as.map arm) = (as.map fun a =>
      Printing.braces (Text.quote (arm a).1 ++ " =>") ((arm a).2.print n)).flatten := by
    clear h hall
    induction as with
    | nil =>
      rw [List.map_nil, Stmt.printArms]
      rfl
    | cons a as ih => rw [List.map_cons, Stmt.printArms, ih, List.map_cons, List.flatten_cons]
  rw [hprint]
  exact .join hall

theorem headerComment_line : Text.lines "Event stream protocol headers start with ':'" =
      ["Event stream protocol headers start with ':'"] ∧
    Text.trimEnd (Writer.comment.untab "Event stream protocol headers start with ':'") =
      "Event stream protocol headers start with ':'" := by
  decide +kernel

theorem writes_headers (h : Shares n scopes) (bindings : List HeaderBinding) :
    Code.Writes scopes (writeHeaders bindings)
      ((Stmt.forHeaders (bindings.map HeaderBinding.arm)).print n) := by
  have harms : Code.Writes scopes (Code.join (bindings.map writeHeader))
      (Stmt.printArms n (bindings.map HeaderBinding.arm)) := by
    refine writes_arms fun binding _ => ?_
    rw [HeaderBinding.arm, Stmt.print]
    exact writes_labelled binding.member (writes_setField binding.field binding.isOptional
      (writes_expr_header h binding.type))
  have hcomment : Code.Writes scopes
      (.comment .plain "Event stream protocol headers start with ':'")
      [⟨.fresh, 0, "// Event stream protocol headers start with ':'"⟩] :=
    Code.Writes.comment
      (Text.dedent_line (Text.startsFlush_literal rfl (by decide))
        ⟨(Clean.literal rfl (by decide)).noBreak, Text.endsFlush_literal rfl (by decide)⟩)
      (by decide) headerComment_line.1 headerComment_line.2
  have htrace : Code.Writes scopes
      (Code.template (hole "tracing" ++
        "::trace!(\"Unrecognized event stream message header: {}\", name);") [])
      (Printing.item [[Printing.shared n "tracing",
        .text "::trace!(\"Unrecognized event stream message header: {}\", name);"]]) := by
    refine Code.Writes.template rfl ⟨?_, trivial, ?_, ?_⟩
    · simp only [Printing.shared, hole, List.map_cons, List.map_nil, Template.written,
        List.foldr_cons, List.foldr_nil, Part.written, String.append_assoc, String.append_empty,
        Text.unlines, String.intercalate_singleton]
    · exact ⟨h.push_nil "tracing" (by decide), fits_literal rfl (by decide)⟩
    · exact Text.endsFlush_literal rfl (by decide)
  have hlast : Code.Writes scopes (Code.block "name => if !name.starts_with(':')" _)
      (Printing.braces "name => if !name.starts_with(':')" _) :=
    writes_block rfl (by decide) (by decide) (by decide) htrace
  have hmatch := (harms.seq hcomment).seq hlast
  rw [List.append_assoc] at hmatch
  rw [Stmt.print]
  exact writes_block rfl (by decide) (by decide) (by decide)
    (writes_block rfl (by decide) (by decide) (by decide) hmatch)

theorem writes_letBuilder (isMutable : Bool) (builder : Symbol Code) :
    Code.Writes scopes
      (Code.template ((if isMutable then "let mut" else "let") ++ " builder = " ++
        hole "builder" ++ "::default();") [symbolArg "builder" builder])
      ((Stmt.letBuilder isMutable builder).print n) := by
  rw [Stmt.print]
  cases isMutable <;>
  · refine Code.Writes.template rfl ⟨?_, Text.startsFlush_literal rfl (by decide), ?_, ?_⟩
    · simp only [Printing.letBuilder, hole, List.map_cons, List.map_nil, Template.written,
        List.foldr_cons, List.foldr_nil, Part.written, String.append_assoc, String.append_empty,
        Text.unlines, String.intercalate_singleton]
    · exact ⟨fits_literal rfl (by decide), fits_literal rfl (by decide),
        fits_own (by decide) rfl, fits_literal rfl (by decide)⟩
    · exact Text.endsFlush_literal rfl (by decide)

theorem writes_letMutBuilder (builder : Symbol Code) :
    Code.Writes scopes
      (Code.template ("let mut builder = " ++ hole "builder" ++ "::default();")
        [symbolArg "builder" builder])
      ((Stmt.letBuilder true builder).print n) := by
  have hlet : "let mut builder = " = "let mut" ++ " builder = " := by
    decide
  rw [hlet]
  exact writes_letBuilder true builder

theorem isLine_append {front middle : List Part} {last : Part}
    (hfront : front.Forall (Part.Fits scopes)) (hmiddle : middle.Forall (Part.Fits scopes))
    (hlast : last.Fits scopes) (hends : last.endsFlush) :
    IsLine scopes (front ++ middle ++ [last]) := by
  refine ⟨List.forall_append.mpr ⟨List.forall_append.mpr ⟨hfront, hmiddle⟩, hlast⟩, ?_⟩
  rw [List.getLast?_concat]
  exact hends

theorem writes_event {variant : String} (hv : Clean variant) (held : Held) {content : String}
    {args : List (String × Arg Code)} {s : Scope} (hs : Scope.ofArgs args = .ok s)
    (hcontent : content = Template.written (Printing.held held)) (h : Shares n (s :: scopes))
    (hheld : (Printing.held held).Forall (Part.Fits (s :: scopes))) :
    Code.Writes scopes (Code.template (eventResult variant content) args)
      ((Stmt.event variant held).print n) := by
  rw [Stmt.print]
  refine Code.Writes.template hs ⟨?_, Text.startsFlush_literal rfl (by decide),
    isLine_append ?_ hheld (fits_literal rfl (by decide))
      (Text.endsFlush_literal rfl (by decide))⟩
  · simp only [Printing.eventResult, Printing.shared, eventResult, hole, List.map_cons,
      List.map_nil, Template.written_append, ← hcontent]
    simp only [Template.written, List.foldr_cons, List.foldr_nil, Part.written,
      String.append_assoc, String.append_empty, Text.unlines, String.intercalate_singleton]
  · exact ⟨fits_literal rfl (by decide), h "UnmarshalledMessage" (by decide),
      fits_literal rfl (by decide), h "Output" (by decide), fits_literal rfl (by decide), hv,
      fits_literal rfl (by decide)⟩

def EventBody.Named : EventBody → Prop
  | .bound _ payload _ => ∀ binding ∈ payload, Clean binding.field
  | _ => True

theorem writes_body (h : Shares n scopes) {variant : String} (hv : Clean variant)
    {body : EventBody} (hb : body.Named) :
    Code.Writes scopes (writeBody variant body) ((body.stmt variant).print n) := by
  cases body with
  | empty type =>
    refine writes_event hv (.built type) rfl ?_ (h.push (own_ne_shared "UnionStruct" (by decide)) _)
      ⟨fits_own (by decide) rfl, fits_literal rfl (by decide)⟩
    simp only [Printing.held, Template.written, List.foldr_cons, List.foldr_nil, Part.written,
      String.append_assoc, String.append_empty, hole]
  | payloadOnly parser =>
    refine Code.Writes.seq ?_ (writes_event hv .parsed rfl String.append_empty.symm h.push_nil
      (fits_literal rfl (by decide)))
    exact Code.Writes.within (Text.trim_literal rfl (by decide) (by decide)) (by decide)
      (Text.trim_literal rfl (by decide) (by decide)) (by decide) (writes_parse h parser hv)
  | bound builder payload headers =>
    have hheaders : Code.Writes scopes
        (if headers.isEmpty then .nothing else writeHeaders headers)
        ((EventBody.headersStmt headers).print n) := by
      rw [EventBody.headersStmt]
      split
      · exact .nothing
      · exact writes_headers h headers
    have hbuilder : Code.Writes scopes _ _ := writes_letMutBuilder (n := n) builder
    have hevent : Code.Writes scopes (Code.template (eventResult variant "builder.build()") [])
        ((Stmt.event variant .builder).print n) :=
      writes_event hv .builder rfl String.append_empty.symm h.push_nil
        (fits_literal rfl (by decide))
    cases payload with
    | none => exact ((hbuilder.seq .nothing).seq hheaders).seq hevent
    | some binding =>
      exact ((hbuilder.seq (writes_payload h (hb binding rfl))).seq hheaders).seq hevent

end

end CrateGen.EventStream
