import CrateGen.Code.SymbolTable
import CrateGen.Proofs.Code.Path
import CrateGen.Proofs.Code.Progress
import CrateGen.Proofs.Model.Nesting
import CrateGen.Proofs.Outcome

/-!
The types of generated code as expressions, and the symbols that stand for them. The symbol of a
shape is found by going down lists, maps and members. In a typable model no way down comes back to
a shape, so none is longer than the model is large.
-/

namespace CrateGen

open Outcome

inductive LeafType where
  | named (ns name : String)
  | scalar (type : Primitive)
deriving DecidableEq

inductive TypeExpr where
  | leaf (l : LeafType)
  | option (inner : TypeExpr)
  | vec (inner : TypeExpr)
  | hashMap (key value : TypeExpr)
deriving DecidableEq

namespace RuntimePackages

variable (r : RuntimePackages)

def typesDependency : Dependency Code :=
  .cargo { name := r.typesCrate, version := r.version }

/-- An item of that package, with the path to it if the package has a name. -/
def typesItem (item : String) : String :=
  if r.types.path = "" then item else r.types.path ++ "::" ++ item

end RuntimePackages

namespace LeafType

def text (r : RuntimePackages) : LeafType → String
  | named ns name => ns ++ "::" ++ name
  | scalar .blob => r.typesItem "Blob"
  | scalar .timestamp => r.typesItem "DateTime"
  | scalar .boolean => "bool"
  | scalar .string => "::std::string::String"
  | scalar .byte => "i8"
  | scalar .short => "i16"
  | scalar .integer => "i32"
  | scalar .long => "i64"
  | scalar .float => "f32"
  | scalar .double => "f64"

def needsTypes : LeafType → Bool
  | scalar .blob | scalar .timestamp => true
  | _ => false

end LeafType

namespace TypeExpr

def leaves : TypeExpr → List LeafType
  | leaf l => [l]
  | option inner | vec inner => inner.leaves
  | hashMap key value => key.leaves ++ value.leaves

def text (r : RuntimePackages) : TypeExpr → String
  | leaf l => l.text r
  | option inner => "::std::option::Option<" ++ inner.text r ++ ">"
  | vec inner => "::std::vec::Vec<" ++ inner.text r ++ ">"
  | hashMap key value =>
    "::std::collections::HashMap<" ++ key.text r ++ ", " ++ value.text r ++ ">"

def needsTypes (type : TypeExpr) : Bool :=
  type.leaves.any LeafType.needsTypes

theorem text_option (r : RuntimePackages) (inner : TypeExpr) :
    (option inner).text r = "::std::option::Option<" ++ inner.text r ++ ">" :=
  rfl

theorem text_vec (r : RuntimePackages) (inner : TypeExpr) :
    (vec inner).text r = "::std::vec::Vec<" ++ inner.text r ++ ">" :=
  rfl

theorem text_hashMap (r : RuntimePackages) (key value : TypeExpr) : (hashMap key value).text r =
    "::std::collections::HashMap<" ++ key.text r ++ ", " ++ value.text r ++ ">" :=
  rfl

theorem needsTypes_leaf (l : LeafType) : (leaf l).needsTypes = l.needsTypes :=
  Bool.or_false _

theorem needsTypes_option (inner : TypeExpr) : (option inner).needsTypes = inner.needsTypes :=
  rfl

theorem needsTypes_vec (inner : TypeExpr) : (vec inner).needsTypes = inner.needsTypes :=
  rfl

theorem needsTypes_hashMap (key value : TypeExpr) :
    (hashMap key value).needsTypes = (key.needsTypes || value.needsTypes) :=
  List.any_append

def optionIf (isOptional : Bool) (type : TypeExpr) : TypeExpr :=
  if isOptional then option type else type

end TypeExpr

namespace Dependencies

theorem insert_insert (ds : Dependencies) (package : CargoDependency) :
    (ds.insert (.cargo package)).insert (.cargo package) = ds.insert (.cargo package) := by
  have hcargo : (ds.cargo.insert package).insert package = ds.cargo.insert package := by
    apply Std.ExtTreeSet.ext_mem
    intro d
    simp only [Std.ExtTreeSet.mem_insert, or_self_left]
  change { ds with cargo := (ds.cargo.insert package).insert package } = _
  rw [hcargo]
  rfl

theorem insertAll_eq_insert {package : CargoDependency} {new : List (Dependency Code)}
    (hne : new ≠ []) (h : ∀ d ∈ new, d = .cargo package) (ds : Dependencies) :
    ds.insertAll new = ds.insert (.cargo package) := by
  induction new generalizing ds with
  | nil => exact absurd rfl hne
  | cons d new ih =>
    obtain ⟨hd, hnew⟩ := List.forall_mem_cons.mp h
    change (ds.insert d).insertAll new = _
    rw [hd]
    by_cases hempty : new = []
    · rw [hempty]
      rfl
    · rw [ih hempty hnew, insert_insert]

end Dependencies

/-! ## Symbols that stand for a type -/

/-- A symbol is written as the type, and what it depends on is what the type needs. -/
structure Symbol.Renders (r : RuntimePackages) (s : Symbol Code) (type : TypeExpr) : Prop where
  text : s.type = type.text r
  dependencies : ∀ d, d ∈ s.allDependencies ↔ type.needsTypes = true ∧ d = r.typesDependency

namespace Symbol

variable {r : RuntimePackages} {s inner key value : Symbol Code} {l : LeafType}
  {type keyType valueType : TypeExpr}

theorem allDependencies_named (name ns : String) :
    (named name ns : Symbol Code).allDependencies = [] :=
  rfl

theorem allDependencies_ofRuntimeType (t : RuntimeType Code) :
    (ofRuntimeType t).allDependencies = t.dependency.toList :=
  List.append_nil _

theorem mem_allDependencies_generic (ns name : String) {arguments : List (Symbol Code)}
    {d : Dependency Code} : d ∈ (generic ns name arguments).allDependencies ↔
      ∃ s ∈ arguments, d ∈ s.allDependencies :=
  mem_allDependencies.trans (or_iff_right List.not_mem_nil)

/-- What a writer records with a symbol is the package of the types that are not built in, if one of
the types is such a type. -/
theorem Renders.mention (h : s.Renders r type) (w : Writer) : w.mention s =
    if type.needsTypes then w.depend r.typesDependency else w := by
  unfold Writer.mention Writer.depend
  split
  · next hneeds =>
    have hmem : r.typesDependency ∈ s.allDependencies := (h.dependencies _).mpr ⟨hneeds, rfl⟩
    rw [Dependencies.insertAll_eq_insert (List.ne_nil_of_mem hmem) fun d hd =>
      ((h.dependencies d).mp hd).2]
    rfl
  · next hneeds =>
    have hnone : s.allDependencies = [] :=
      List.eq_nil_iff_forall_not_mem.mpr fun d hd => hneeds ((h.dependencies d).mp hd).1
    rw [hnone]
    rfl

theorem renders_leaf (htext : s.type = l.text r) (hneeds : l.needsTypes = false)
    (hd : s.allDependencies = []) : s.Renders r (.leaf l) where
  text := htext
  dependencies d := by
    rw [hd, TypeExpr.needsTypes_leaf, hneeds]
    exact iff_of_false List.not_mem_nil fun h => Bool.noConfusion h.1

theorem renders_named {ns name : String} (h : ns ≠ "") :
    (named name ns).Renders r (.leaf (.named ns name)) :=
  renders_leaf (if_neg h) rfl (allDependencies_named name ns)

theorem renders_types {item : String} (hsplit : Path.splitLastChars? item.toList = none)
    (hcolon : item.toList.head? ≠ some ':') (htext : l.text r = r.typesItem item)
    (hneeds : l.needsTypes = true) :
    (ofRuntimeType (r.types.resolve item)).Renders r (.leaf l) where
  text := by
    have hpath : Path.splitLast? (r.types.resolve item).path = some (r.types.path, item) :=
      Path.splitLast?_append hsplit hcolon r.types.path
    change _ = l.text r
    rw [ofRuntimeType, hpath, htext]
    rfl
  dependencies d := by
    rw [allDependencies_ofRuntimeType, TypeExpr.needsTypes_leaf, hneeds]
    exact List.mem_singleton.trans (and_iff_right rfl).symm

theorem renders_option (h : inner.Renders r type) : (option inner).Renders r (.option type) where
  text := by
    rw [TypeExpr.text_option, ← h.text]
    rfl
  dependencies d := by
    change d ∈ (generic "::std::option" "Option" [inner]).allDependencies ↔ _
    rw [mem_allDependencies_generic, TypeExpr.needsTypes_option, ← h.dependencies d]
    simp only [List.mem_singleton, exists_eq_left]

theorem renders_optionIf (h : inner.Renders r type) (isOptional : Bool) :
    (if isOptional then option inner else inner).Renders r (type.optionIf isOptional) := by
  cases isOptional with
  | false => exact h
  | true => exact renders_option h

theorem renders_vec (h : inner.Renders r type) : (vec inner).Renders r (.vec type) where
  text := by
    rw [TypeExpr.text_vec, ← h.text]
    rfl
  dependencies d := by
    rw [vec, mem_allDependencies_generic, TypeExpr.needsTypes_vec, ← h.dependencies d]
    simp only [List.mem_singleton, exists_eq_left]

theorem renders_hashMap (hkey : key.Renders r keyType) (hvalue : value.Renders r valueType) :
    (hashMap key value).Renders r (.hashMap keyType valueType) where
  text := by
    change "::std::collections::HashMap<" ++ ", ".intercalate [key.type, value.type] ++ ">" = _
    rw [String.intercalate_cons_cons, String.intercalate_singleton, TypeExpr.text_hashMap,
      hkey.text, hvalue.text]
    simp only [String.append_assoc]
  dependencies d := by
    rw [hashMap, mem_allDependencies_generic, TypeExpr.needsTypes_hashMap, Bool.or_eq_true,
      or_and_right, ← hkey.dependencies d, ← hvalue.dependencies d]
    simp only [List.mem_cons, List.not_mem_nil, or_false, exists_eq_or_imp, exists_eq_left]

end Symbol

def Model.isOptional (m : Model) (s : Shape) : Bool :=
  s.target?.isSome && (m.get? s.id.container).any Shape.isStructure && !s.isRequired

namespace SymbolTable

variable {t : SymbolTable} {s member target : Shape} {id : ShapeId} {l : LeafType}
  {type type' : TypeExpr} {symbol : Symbol Code} {depth : Nat}

/-- On servers constrained scalar shapes have types of their own. -/
def primitiveLeaf (t : SymbolTable) (s : Shape) (type : Primitive) : LeafType :=
  if t.target = .server && s.traits.isConstrained then
    .named "crate::model" (Name.pascalCase s.id.name)
  else
    .scalar type

/-- The type of a shape that is not made of the types of others. -/
def leaf? (t : SymbolTable) (s : Shape) : Option LeafType :=
  match s.kind with
  | .structure _ =>
    some (.named (if s.isError then "crate::types::error" else "crate::types") (typeName s))
  | .union _ | .enum _ => some (.named "crate::types" (typeName s))
  | .operation _ _ _ =>
    some (.named ("crate::operation::" ++ Name.snakeCase s.id.name) (typeName s))
  | .service _ _ => some (.named "crate" (typeName s))
  | .primitive type => some (t.primitiveLeaf s type)
  | .list _ | .map _ _ | .member _ => none

/-- The type of a shape: what lists, maps and members make of the types they lead to. -/
inductive HasType (t : SymbolTable) : Shape → TypeExpr → Prop where
  | leaf {s : Shape} {l : LeafType} (h : t.leaf? s = some l) : HasType t s (.leaf l)
  | list {s item : Shape} {id : ShapeId} {type : TypeExpr} (hs : s.kind = .list id)
    (hi : t.model.get? id = some item) (h : HasType t item type) : HasType t s (.vec type)
  | map {s key value : Shape} {keyId valueId : ShapeId} {keyType valueType : TypeExpr}
    (hs : s.kind = .map keyId valueId) (hk : t.model.get? keyId = some key)
    (hv : t.model.get? valueId = some value) (hkey : HasType t key keyType)
    (hvalue : HasType t value valueType) : HasType t s (.hashMap keyType valueType)
  | member {s target : Shape} {id : ShapeId} {type : TypeExpr} (hs : s.kind = .member id)
    (ht : t.model.get? id = some target) (h : HasType t target type) :
    HasType t s (type.optionIf (t.model.isOptional s))

theorem nested_of_leaf? (h : t.leaf? s = some l) : s.kind.nested = [] := by
  obtain ⟨id, kind, traits⟩ := s
  cases kind with
  | list item => cases h
  | map key value => cases h
  | member target => cases h
  | _ => rfl

theorem HasType.unique (h : t.HasType s type) (h' : t.HasType s type') : type' = type := by
  induction h generalizing type' with
  | leaf h =>
    have hnested := nested_of_leaf? h
    cases h' with
    | leaf h' => rw [Option.some.inj (h.symm.trans h')]
    | list hs => cases hs ▸ hnested
    | map hs => cases hs ▸ hnested
    | member hs => cases hs ▸ hnested
  | list hs hi h ih =>
    cases h' with
    | leaf h' => cases hs ▸ nested_of_leaf? h'
    | list hs' hi' h' =>
      cases hs.symm.trans hs'
      cases hi.symm.trans hi'
      rw [ih h']
    | map hs' => cases hs.symm.trans hs'
    | member hs' => cases hs.symm.trans hs'
  | map hs hk hv _ _ ihkey ihvalue =>
    cases h' with
    | leaf h' => cases hs ▸ nested_of_leaf? h'
    | list hs' => cases hs.symm.trans hs'
    | map hs' hk' hv' hkey' hvalue' =>
      cases hs.symm.trans hs'
      cases hk.symm.trans hk'
      cases hv.symm.trans hv'
      rw [ihkey hkey', ihvalue hvalue']
    | member hs' => cases hs.symm.trans hs'
  | member hs ht h ih =>
    cases h' with
    | leaf h' => cases hs ▸ nested_of_leaf? h'
    | list hs' => cases hs.symm.trans hs'
    | map hs' => cases hs.symm.trans hs'
    | member hs' ht' h' =>
      cases hs.symm.trans hs'
      cases ht.symm.trans ht'
      rw [ih h']

/-! ## Finding a symbol -/

/-- A search that may go deep enough gives the symbol of a shape. -/
structure Finds (t : SymbolTable) (search : Nat → Except Error (Symbol Code)) (depth : Nat)
    (s : Shape) (symbol : Symbol Code) (type : TypeExpr) : Prop where
  eq_ok : ∀ {d}, depth ≤ d → search d = .ok symbol
  hasType : t.HasType s type
  renders : symbol.Renders t.runtime type
  optional : symbol.isOptional = t.model.isOptional s

def Findable (t : SymbolTable) (search : Nat → Except Error (Symbol Code)) (depth : Nat)
    (s : Shape) : Prop :=
  ∃ symbol type, t.Finds search depth s symbol type

/-- What is found behind the first shape of a search takes one more unit of depth. -/
theorem symbolWithin_eq_ok (h : ∀ {d}, depth ≤ d → t.symbolWithin (d + 1) s = .ok symbol)
    {d : Nat} (hd : depth + 1 ≤ d) : t.symbolWithin d s = .ok symbol := by
  cases d with
  | zero => cases hd
  | succ d => exact h (Nat.le_of_succ_le_succ hd)

theorem renders_primitiveSymbol (t : SymbolTable) (s : Shape) (type : Primitive) :
    (t.primitiveSymbol s type).Renders t.runtime (.leaf (t.primitiveLeaf s type)) := by
  unfold primitiveSymbol primitiveLeaf
  split
  · exact Symbol.renders_named (by decide)
  · cases type with
    | blob => exact Symbol.renders_types (by decide) (by decide) rfl rfl
    | timestamp => exact Symbol.renders_types (by decide) (by decide) rfl rfl
    | _ => exact Symbol.renders_leaf rfl rfl rfl

theorem primitiveSymbol_isOptional (t : SymbolTable) (s : Shape) (type : Primitive) :
    (t.primitiveSymbol s type).isOptional = false := by
  unfold primitiveSymbol
  split
  · rfl
  · cases type <;> rfl

theorem symbolWithin_leaf (h : t.leaf? s = some l) :
    ∃ symbol, (∀ d, t.symbolWithin (d + 1) s = .ok symbol) ∧
      symbol.Renders t.runtime (.leaf l) ∧ symbol.isOptional = false := by
  obtain ⟨id, kind, traits⟩ := s
  cases kind with
  | «structure» members =>
    cases h
    refine ⟨_, fun _ => rfl, Symbol.renders_named ?_, rfl⟩
    split <;> decide
  | operation input output errors =>
    cases h
    refine ⟨_, fun _ => rfl, Symbol.renders_named fun hempty => ?_, rfl⟩
    exact absurd (String.append_eq_empty_iff.mp hempty).1 (by decide)
  | primitive type =>
    cases h
    exact ⟨_, fun _ => rfl, t.renders_primitiveSymbol _ type,
      t.primitiveSymbol_isOptional _ type⟩
  | list item => cases h
  | map key value => cases h
  | member target => cases h
  | _ =>
    cases h
    exact ⟨_, fun _ => rfl, Symbol.renders_named (by decide), rfl⟩

theorem isOptional_eq_false {m : Model} (h : ∀ target, s.kind ≠ .member target) :
    m.isOptional s = false := by
  rw [Model.isOptional, Shape.target?]
  split
  · next target hk => exact absurd hk (h target)
  · rfl

theorem findable_leaf (h : t.leaf? s = some l) (depth : Nat) :
    t.Findable (t.symbolWithin · s) (depth + 1) s := by
  obtain ⟨symbol, heq, hrenders, hplain⟩ := symbolWithin_leaf h
  have hkind (target : ShapeId) : s.kind ≠ .member target := by
    intro hk
    cases hk ▸ nested_of_leaf? h
  exact ⟨symbol, .leaf l, symbolWithin_eq_ok fun _ => heq _, .leaf h, hrenders,
    hplain.trans (isOptional_eq_false hkind).symm⟩

theorem findable_list {item : ShapeId} (hs : s.kind = .list item)
    (hi : t.model.get? item = some member)
    (h : t.Findable (fun d => t.memberSymbol (t.symbolWithin d) member) depth member) :
    t.Findable (t.symbolWithin · s) (depth + 1) s := by
  obtain ⟨symbol, type, h⟩ := h
  have hfound {d : Nat} (hd : depth ≤ d) : t.symbolWithin (d + 1) s = .ok (.vec symbol) := by
    rw [symbolWithin, hs]
    simp only [Model.expect_eq_ok.mpr hi, h.eq_ok hd, ok_bind]
    rfl
  have hplain : t.model.isOptional s = false :=
    isOptional_eq_false fun target hk => by cases hs.symm.trans hk
  exact ⟨.vec symbol, .vec type, symbolWithin_eq_ok hfound, .list hs hi h.hasType,
    Symbol.renders_vec h.renders, hplain.symm⟩

theorem findable_map {keyId valueId : ShapeId} {key value : Shape}
    (hs : s.kind = .map keyId valueId) (hk : t.model.get? keyId = some key)
    (hv : t.model.get? valueId = some value)
    (hkey : t.Findable (fun d => t.memberSymbol (t.symbolWithin d) key) depth key)
    (hvalue : t.Findable (fun d => t.memberSymbol (t.symbolWithin d) value) depth value) :
    t.Findable (t.symbolWithin · s) (depth + 1) s := by
  obtain ⟨keySymbol, keyType, hkey⟩ := hkey
  obtain ⟨valueSymbol, valueType, hvalue⟩ := hvalue
  have hfound {d : Nat} (hd : depth ≤ d) :
      t.symbolWithin (d + 1) s = .ok (.hashMap keySymbol valueSymbol) := by
    rw [symbolWithin, hs]
    simp only [Model.expect_eq_ok.mpr hk, Model.expect_eq_ok.mpr hv, hkey.eq_ok hd,
      hvalue.eq_ok hd, ok_bind]
    rfl
  have hplain : t.model.isOptional s = false :=
    isOptional_eq_false fun target hk => by cases hs.symm.trans hk
  exact ⟨.hashMap keySymbol valueSymbol, .hashMap keyType valueType, symbolWithin_eq_ok hfound,
    .map hs hk hv hkey.hasType hvalue.hasType, Symbol.renders_hashMap hkey.renders hvalue.renders,
    hplain.symm⟩

theorem memberSymbol_eq_ok {search : Shape → Except Error (Symbol Code)}
    (hs : s.kind = .member id) (ht : t.model.get? id = some target)
    (hroot : t.model.contains s.id.container = true) (h : search target = .ok symbol) :
    t.memberSymbol search s =
      .ok (if t.model.isOptional s then .option symbol else symbol) := by
  obtain ⟨container, hcontainer⟩ := Model.contains_iff.mp hroot
  have htarget : t.model.memberTarget s = .ok target :=
    Model.memberTarget_eq_ok.mpr ⟨id, hs, ht⟩
  have hoptional : t.model.isOptional s = (container.isStructure && !s.isRequired) := by
    rw [Model.isOptional, Shape.target?, hs, hcontainer]
    rfl
  rw [memberSymbol, htarget, hoptional]
  simp only [Model.expect_eq_ok.mpr hcontainer, h, ok_bind]
  rfl

theorem findable_memberSymbol (hs : s.kind = .member id) (ht : t.model.get? id = some target)
    (hroot : t.model.contains s.id.container = true) (hdirect : t.model.isMember id = false)
    (h : t.Findable (t.symbolWithin · target) depth target) :
    t.Findable (fun d => t.memberSymbol (t.symbolWithin d) s) depth s := by
  obtain ⟨symbol, type, h⟩ := h
  have hplain : symbol.isOptional = false := by
    rw [h.optional]
    apply isOptional_eq_false
    intro next hk
    rw [Model.isMember_iff.mpr ⟨target, next, ht, hk⟩] at hdirect
    cases hdirect
  have hoptional : (if t.model.isOptional s then .option symbol else symbol).isOptional =
      t.model.isOptional s := by
    cases t.model.isOptional s with
    | false => exact hplain
    | true => rfl
  exact ⟨_, _, fun hd => memberSymbol_eq_ok hs ht hroot (h.eq_ok hd), .member hs ht h.hasType,
    Symbol.renders_optionIf h.renders _, hoptional⟩

theorem findable_member (hs : s.kind = .member id)
    (h : t.Findable (fun d => t.memberSymbol (t.symbolWithin d) s) depth s) :
    t.Findable (t.symbolWithin · s) (depth + 1) s := by
  obtain ⟨symbol, type, h⟩ := h
  have hfound {d : Nat} (hd : depth ≤ d) : t.symbolWithin (d + 1) s = .ok symbol := by
    rw [symbolWithin, hs]
    exact h.eq_ok hd
  exact ⟨symbol, type, symbolWithin_eq_ok hfound, h.hasType, h.renders, h.optional⟩

theorem findable_isMember (ht : t.model.Typable) (hmember : t.model.isMember id = true)
    (h : ∀ {x target}, t.model.get? x = some target → t.model.Nests id x →
      t.Findable (t.symbolWithin · target) depth target) :
    ∃ member, t.model.get? id = some member ∧
      t.Findable (fun d => t.memberSymbol (t.symbolWithin d) member) depth member := by
  obtain ⟨member, x, hid, hk⟩ := Model.isMember_iff.mp hmember
  have hnests : t.model.Nests id x := Model.nests_of_kind hid hk (List.mem_singleton_self x)
  have hreference : x ∈ member.references := by
    rw [Shape.references, hk]
    exact List.mem_singleton_self x
  obtain ⟨target, hx⟩ := ht.built.closed hid hreference
  have hroot := ht.rooted hid hk
  rw [← ht.built.keyed hid] at hroot
  exact ⟨member, hid, findable_memberSymbol hk hx hroot (ht.direct hid hk) (h hx hnests)⟩

/-- A search that may pass all shapes that do not lead to where it starts. -/
theorem findable_of_descends (ht : t.model.Typable) {path : List ShapeId}
    (hs : t.model.get? id = some s) (hd : t.model.Descends path id)
    (hdepth : t.model.size < path.length + depth) : t.Findable (t.symbolWithin · s) depth s := by
  -- Each step down uses up one unit of depth and adds one shape to the path, so that the depth runs
  -- out only behind more shapes than there are.
  induction depth generalizing path id s with
  | zero =>
    have hle := hd.length_le
    omega
  | succ depth ih =>
    have hmember {x : ShapeId} (hx : t.model.isMember x = true)
        (hleads : Relation.ReflTransGen t.model.Nests id x) :
        ∃ member, t.model.get? x = some member ∧
          t.Findable (fun d => t.memberSymbol (t.symbolWithin d) member) depth member := by
      apply findable_isMember ht hx
      intro y target hy hnests
      apply ih hy (hd.cons ht.acyclic (.tail' hleads hnests))
      rw [List.length_cons]
      omega
    cases hk : s.kind with
    | list item =>
      have hnests : t.model.Nests id item :=
        Model.nests_of_kind hs hk (List.mem_singleton_self item)
      obtain ⟨member, hitem, hfind⟩ := hmember (ht.item hs hk) (.single hnests)
      exact findable_list hk hitem hfind
    | map key value =>
      have hkey : t.model.Nests id key := Model.nests_of_kind hs hk List.mem_cons_self
      have hvalue : t.model.Nests id value :=
        Model.nests_of_kind hs hk (List.mem_cons_of_mem key (List.mem_singleton_self value))
      obtain ⟨hkeyMember, hvalueMember⟩ := ht.entry hs hk
      obtain ⟨keyMember, hkey, hfindKey⟩ := hmember hkeyMember (.single hkey)
      obtain ⟨valueMember, hvalue, hfindValue⟩ := hmember hvalueMember (.single hvalue)
      exact findable_map hk hkey hvalue hfindKey hfindValue
    | member target =>
      have hself := Model.isMember_iff.mpr ⟨s, target, hs, hk⟩
      obtain ⟨member, hget, hfind⟩ := hmember hself .refl
      cases hs.symm.trans hget
      exact findable_member hk hfind
    | _ => exact findable_leaf (by rw [leaf?, hk]) depth

/-- A symbol stands for a shape: every search that may go deeper than the model is large finds it,
it is written as the only type that the shape has, it is optional for the members that their
structure does not require, and a writer that mentions it records what the type needs. -/
structure StandsFor (t : SymbolTable) (symbol : Symbol Code) (s : Shape) (type : TypeExpr) :
    Prop where
  found : ∀ {depth}, t.model.size < depth → t.symbolWithin depth s = .ok symbol
  hasType : t.HasType s type
  unique : ∀ {type'}, t.HasType s type' → type' = type
  text : symbol.type = type.text t.runtime
  optional : symbol.isOptional = t.model.isOptional s
  mention : ∀ w : Writer, w.mention symbol =
    if type.needsTypes then w.depend t.runtime.typesDependency else w

/-- Every shape of a typable model has a symbol that stands for it. -/
theorem exists_symbol_standsFor (ht : t.model.Typable) (hs : t.model.get? id = some s) :
    ∃ symbol type, t.symbol s = .ok symbol ∧ t.StandsFor symbol s type := by
  have hdepth : t.model.size < ([] : List ShapeId).length + (t.model.size + 1) := by
    rw [List.length_nil]
    omega
  obtain ⟨symbol, type, h⟩ := findable_of_descends ht hs (.nil t.model id) hdepth
  refine ⟨symbol, type, h.eq_ok (Nat.le_refl _), ?_⟩
  exact ⟨h.eq_ok, h.hasType, h.hasType.unique, h.renders.text, h.optional, h.renders.mention⟩

/-- A report that may have lists of days by codes that only servers restrict. -/
def reportBuilder : Builder :=
  ({} : Builder)
    |>.perform (.primitive "ns#Code" .string [.length (some 3) none])
    |>.perform (.list "ns#Days" [] "smithy.api#Timestamp")
    |>.perform (.map "ns#DaysByCode" "ns#Code" "ns#Days")
    |>.perform (.structure "ns#Report" [] [⟨"days", "ns#DaysByCode", []⟩])

def reportTable : SymbolTable where
  model := reportBuilder.model
  runtime := {}
  target := .server

def reportDays : Shape where
  id := ⟨"ns", "Report", some "days"⟩
  kind := .member (.root "ns" "DaysByCode")

/-- Every shape stands above those that its type is made of. -/
def reportRank (id : ShapeId) : Nat :=
  ["ns#Days$member", "ns#Days", "ns#DaysByCode$value", "ns#DaysByCode$key", "ns#DaysByCode",
    "ns#Report$days"].findIdx? (· == id.display) |>.elim 0 (· + 1)

theorem report_checked :
    reportBuilder.build.1.toOption.isSome = true ∧
    (∀ s ∈ reportTable.model.toList, s.target?.isSome = true →
      reportTable.model.contains s.id.container = true) ∧
    (∀ s ∈ reportTable.model.toList, ∀ x ∈ s.kind.nested,
      reportTable.model.isMember x = s.target?.isNone ∧ reportRank x < reportRank s.id) ∧
    reportTable.model.get? reportDays.id = some reportDays ∧
    (reportTable.symbol reportDays).toOption.map Symbol.type =
      some ("::std::option::Option<::std::collections::HashMap<crate::model::Code, " ++
        "::std::vec::Vec<aws_smithy_types::DateTime>>>") := by
  decide +kernel

theorem report_typable : reportTable.model.Typable := by
  obtain ⟨hok, hrooted, hnested, -⟩ := report_checked
  have hreached : reportBuilder.Reached := .perform (.perform (.perform (.perform .start _) _) _) _
  exact .of_toList (hreached.built hok) reportRank hrooted hnested

theorem exists_symbol_standsFor_reportDays : ∃ symbol type,
    reportTable.model.Typable ∧ reportTable.model.get? reportDays.id = some reportDays ∧
    reportTable.symbol reportDays = .ok symbol ∧ reportTable.StandsFor symbol reportDays type ∧
    symbol.type = "::std::option::Option<::std::collections::HashMap<crate::model::Code, " ++
      "::std::vec::Vec<aws_smithy_types::DateTime>>>" := by
  obtain ⟨-, -, -, hget, htext⟩ := report_checked
  obtain ⟨symbol, type, hsymbol, hstands⟩ := exists_symbol_standsFor report_typable hget
  refine ⟨symbol, type, report_typable, hget, hsymbol, hstands, ?_⟩
  rw [hsymbol] at htext
  exact Option.some.inj htext

end SymbolTable

end CrateGen
