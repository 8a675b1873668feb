import CrateGen.Model.Builder
import Mathlib.Data.List.Induction

/-!
The calls of a builder. A call does two things: it reads texts as ids, and it puts shapes into the
model. Both are a matter of the call alone (`Command.texts`, `Command.declared`), and
`Builder.perform_eq` says that it does nothing else.
-/

namespace CrateGen

/-- A call of a builder that adds shapes. -/
inductive Builder.Command where
  | structure (id : String) (traits : List Trait) (members : List MemberDef)
  | union (id : String) (traits : List Trait) (members : List MemberDef)
  | list (id : String) (traits : List Trait) (target : String)
  | map (id key value : String)
  | primitive (id : String) (type : Primitive) (traits : List Trait)
  | enumeration (id : String) (variants : List String)
  | operation (id : String) (input output : Option String) (errors : List String)
  | service (id version : String) (operations : List String) (traits : List Trait)
  | add (s : Shape)

def Builder.perform (b : Builder) : Builder.Command → Builder
  | .structure id traits members => b.structure id traits members
  | .union id traits members => b.union id traits members
  | .list id traits target => b.list id traits target
  | .map id key value => b.map id key value
  | .primitive id type traits => b.primitive id type traits
  | .enumeration id variants => b.enumeration id variants
  | .operation id input output errors => b.operation id input output errors
  | .service id version operations traits => b.service id version operations traits
  | .add s => b.add s

/-! ## The traits that were given -/

/-- The traits of the shape are those of the list, and of several of one kind the last. -/
def Shape.Annotated (s : Shape) (given : List Trait) : Prop :=
  ∀ k, s.traits.get? k = (given.filter (·.kind = k)).getLast?

theorem Traits.get?_ofList (ts : List Trait) (k : TraitKind) :
    (Traits.ofList ts).get? k = (ts.filter (·.kind = k)).getLast? := by
  induction ts using List.reverseRecOn with
  | nil => rfl
  | append_singleton ts t ih =>
    have hinsert : (Traits.ofList (ts ++ [t])).get? k =
        if k = t.kind then some t else (Traits.ofList ts).get? k := by
      rw [Traits.ofList, List.foldl_append]
      rfl
    rw [hinsert, List.filter_append, ih]
    by_cases hk : k = t.kind
    · simp [hk]
    · simp [hk, Ne.symm hk]

/-- A trait is the only one of its kind in the list. -/
theorem Traits.filter_toList (ts : Traits) (k : TraitKind) :
    ts.toList.filter (·.kind = k) = (ts.get? k).toList := by
  have hkind : (fun k' => (ts.get? k').filter fun t => decide (t.kind = k)) =
      fun k' => if k' = k then ts.get? k else none := by
    funext k'
    split
    · next hk =>
      subst hk
      cases ht : ts.get? k' with
      | none => rfl
      | some t => exact Option.filter_some_pos (decide_eq_true (ts.kind_eq ht))
    · next hk =>
      rw [Option.filter_eq_none_iff]
      intro t ht
      simpa [ts.kind_eq ht] using hk
  rw [Traits.toList, List.filter_filterMap, hkind]
  generalize ts.get? k = found
  cases found <;> cases k <;> rfl

theorem Traits.ofList_toList (ts : Traits) : Traits.ofList ts.toList = ts := by
  apply Traits.ext
  funext k
  rw [Traits.get?_ofList, Traits.filter_toList]
  cases ts.get? k <;> rfl

/-- A shape as a call gives it. -/
structure Declaration where
  id : ShapeId
  kind : ShapeKind
  traits : List Trait := []

def Declaration.shape (d : Declaration) : Shape :=
  { id := d.id, kind := d.kind, traits := .ofList d.traits }

theorem Declaration.annotated (d : Declaration) : d.shape.Annotated d.traits :=
  Traits.get?_ofList d.traits

/-! ## What a call reads and declares -/

def MemberDef.idText (container : ShapeId) (d : MemberDef) : String :=
  container.display ++ "$" ++ d.name

/-- The id of a member whose target and own id are valid. -/
def MemberDef.id? (container : ShapeId) (d : MemberDef) : Option ShapeId :=
  (ShapeId.parse? d.target).bind fun _ => ShapeId.parse? (d.idText container)

/-- The target comes first, and a member whose target is not valid is not looked at any more. -/
def MemberDef.texts (container : ShapeId) (d : MemberDef) : List String :=
  match ShapeId.parse? d.target with
  | none => [d.target]
  | some _ => [d.target, d.idText container]

def MemberDef.declared (container : ShapeId) (d : MemberDef) : List Declaration :=
  match ShapeId.parse? d.target, ShapeId.parse? (d.idText container) with
  | some target, some id => [{ id, kind := .member target, traits := d.traits }]
  | _, _ => []

def MemberDef.item (target : String) : MemberDef :=
  { name := "member", target }

def MemberDef.key (target : String) : MemberDef :=
  { name := "key", target }

def MemberDef.value (target : String) : MemberDef :=
  { name := "value", target }

namespace Builder

/-- The texts that a call reads as ids, in order. After an id that is not valid a call reads
nothing more. -/
def Command.texts : Command → List String
  | .structure id _ members | .union id _ members =>
    id :: (ShapeId.parse? id).elim [] fun root => members.flatMap (·.texts root)
  | .list id _ target =>
    id :: (ShapeId.parse? id).elim [] (MemberDef.item target).texts
  | .map id key value =>
    id :: (ShapeId.parse? id).elim [] fun root =>
      (MemberDef.key key).texts root ++ (MemberDef.value value).texts root
  | .primitive id _ _ | .enumeration id _ => [id]
  | .operation id input output errors =>
    id :: (ShapeId.parse? id).elim [] fun _ => input.toList ++ output.toList ++ errors
  | .service id _ operations _ =>
    id :: (ShapeId.parse? id).elim [] fun _ => operations
  | .add _ => []

/-- The members of an aggregate, then itself. -/
def declaredAggregate (root : ShapeId) (kind : List ShapeId → ShapeKind) (traits : List Trait)
    (members : List MemberDef) : List Declaration :=
  members.flatMap (·.declared root) ++
    [{ id := root, kind := kind (members.filterMap (·.id? root)), traits }]

/-- The shapes that a call puts into the model, in order. What is not valid is left out. -/
def Command.declared : Command → List Declaration
  | .structure id traits members =>
    (ShapeId.parse? id).elim [] fun root => declaredAggregate root .structure traits members
  | .union id traits members =>
    (ShapeId.parse? id).elim [] fun root => declaredAggregate root .union traits members
  | .list id traits target =>
    (ShapeId.parse? id).elim [] fun root =>
      (MemberDef.item target).declared root ++
        ((MemberDef.item target).id? root).toList.map fun item =>
          { id := root, kind := .list item, traits }
  | .map id key value =>
    (ShapeId.parse? id).elim [] fun root =>
      (MemberDef.key key).declared root ++ (MemberDef.value value).declared root ++
        match (MemberDef.key key).id? root, (MemberDef.value value).id? root with
        | some key, some value => [{ id := root, kind := .map key value }]
        | _, _ => []
  | .primitive id type traits =>
    (ShapeId.parse? id).toList.map fun id => { id, kind := .primitive type, traits }
  | .enumeration id variants =>
    (ShapeId.parse? id).toList.map fun id => { id, kind := .enum variants }
  | .operation id input output errors =>
    (ShapeId.parse? id).toList.map fun id =>
      { id, kind := .operation (input.bind ShapeId.parse?) (output.bind ShapeId.parse?)
          (errors.filterMap ShapeId.parse?) }
  | .service id version operations traits =>
    (ShapeId.parse? id).toList.map fun id =>
      { id, kind := .service version (operations.filterMap ShapeId.parse?), traits }
  | .add s => [{ id := s.id, kind := s.kind, traits := s.traits.toList }]

def firstInvalid? (texts : List String) : Option String :=
  texts.find? fun raw => (ShapeId.parse? raw).isNone

/-- The builder after it has read the texts and taken the shapes. -/
def follow (b : Builder) (texts : List String) (ds : List Declaration) : Builder where
  model := b.model.insertAll (ds.map Declaration.shape)
  invalid := b.invalid.or (firstInvalid? texts)

@[simp] theorem follow_nil (b : Builder) : b.follow [] [] = b := by
  rw [follow, firstInvalid?, List.find?_nil, Option.or_none]
  rfl

@[simp] theorem follow_follow (b : Builder) (texts texts' : List String)
    (ds ds' : List Declaration) :
    (b.follow texts ds).follow texts' ds' = b.follow (texts ++ texts') (ds ++ ds') := by
  simp only [follow, firstInvalid?, Model.insertAll, List.map_append, List.foldl_append,
    List.find?_append, Option.or_assoc]

theorem follow_add (b : Builder) (texts : List String) (ds : List Declaration)
    (d : Declaration) : (b.follow texts ds).add d.shape = b.follow texts (ds ++ [d]) := by
  simp only [follow, add, Model.insertAll, List.map_append, List.foldl_append]
  rfl

theorem parse_eq (b : Builder) (raw : String) :
    b.parse raw = (ShapeId.parse? raw, b.follow [raw] []) := by
  rw [parse, follow, firstInvalid?, List.find?_singleton]
  cases ShapeId.parse? raw with
  | none => rfl
  | some id =>
    simp only [Option.isNone_some, Bool.false_eq_true, if_false, Option.or_none]
    rfl

theorem parseAll_eq (b : Builder) (raws : List String) :
    b.parseAll raws = (raws.filterMap ShapeId.parse?, b.follow raws []) := by
  induction raws generalizing b with
  | nil => rw [parseAll, follow_nil, List.filterMap_nil]
  | cons raw raws ih =>
    rw [parseAll, parse_eq]
    dsimp only
    rw [ih, follow_follow]
    cases h : ShapeId.parse? raw <;> simp [h]

theorem parseOption_eq (b : Builder) (raw : Option String) :
    b.parseOption raw = (raw.bind ShapeId.parse?, b.follow raw.toList []) := by
  cases raw with
  | none => rw [parseOption, Option.toList_none, follow_nil, Option.bind_none]
  | some raw => exact b.parse_eq raw

theorem addMember_eq (b : Builder) (container : ShapeId) (d : MemberDef) :
    b.addMember container d = (d.id? container,
      b.follow (d.texts container) (d.declared container)) := by
  rw [addMember, parse_eq, MemberDef.id?, MemberDef.texts, MemberDef.declared]
  cases ShapeId.parse? d.target with
  | none => rfl
  | some target =>
    dsimp only [Option.bind_some]
    rw [parse_eq, follow_follow, ← MemberDef.idText]
    cases ShapeId.parse? (d.idText container) with
    | none => rfl
    | some id =>
      exact congrArg (some id, ·) (follow_add _ _ _ { id, kind := .member target, traits := d.traits })

theorem addMembers_eq (b : Builder) (container : ShapeId) (ds : List MemberDef) :
    b.addMembers container ds = (ds.filterMap (·.id? container),
      b.follow (ds.flatMap (·.texts container)) (ds.flatMap (·.declared container))) := by
  induction ds generalizing b with
  | nil => rw [addMembers, List.flatMap_nil, List.flatMap_nil, follow_nil, List.filterMap_nil]
  | cons d ds ih =>
    rw [addMembers, addMember_eq]
    dsimp only
    rw [ih, follow_follow, List.flatMap_cons, List.flatMap_cons]
    cases h : d.id? container <;> simp [h]

theorem aggregate_eq (b : Builder) (id : String) (kind : List ShapeId → ShapeKind)
    (traits : List Trait) (members : List MemberDef) :
    b.aggregate id kind traits members =
      b.follow (id :: (ShapeId.parse? id).elim [] fun root => members.flatMap (·.texts root))
        ((ShapeId.parse? id).elim [] fun root => declaredAggregate root kind traits members) := by
  rw [aggregate, parse_eq]
  cases ShapeId.parse? id with
  | none => rfl
  | some root =>
    dsimp only
    rw [addMembers_eq, follow_follow]
    exact follow_add _ _ _ { id := root, kind := kind (members.filterMap (·.id? root)), traits }

theorem list_eq (b : Builder) (id : String) (traits : List Trait) (target : String) :
    b.list id traits target = b.follow (Command.list id traits target).texts
      (Command.list id traits target).declared := by
  rw [list, parse_eq, Command.texts, Command.declared]
  cases ShapeId.parse? id with
  | none => rfl
  | some root =>
    simp only [Option.elim_some, MemberDef.item, addMember_eq, follow_follow]
    cases MemberDef.id? root { name := "member", target } with
    | none => simp
    | some item => exact follow_add _ _ _ { id := root, kind := .list item, traits }

theorem map_eq (b : Builder) (id key value : String) :
    b.map id key value = b.follow (Command.map id key value).texts
      (Command.map id key value).declared := by
  rw [map, parse_eq, Command.texts, Command.declared]
  cases ShapeId.parse? id with
  | none => rfl
  | some root =>
    simp only [Option.elim_some, MemberDef.key, MemberDef.value, addMember_eq, follow_follow]
    cases MemberDef.id? root { name := "key", target := key } with
    | none => simp
    | some key =>
      cases MemberDef.id? root { name := "value", target := value } with
      | none => simp
      | some value => exact follow_add _ _ _ { id := root, kind := .map key value }

theorem simple_eq (b : Builder) (id : String) (kind : ShapeKind) (traits : List Trait) :
    b.simple id kind traits = b.follow [id]
      ((ShapeId.parse? id).toList.map fun id => { id, kind, traits }) := by
  rw [simple, parse_eq]
  cases ShapeId.parse? id with
  | none => rfl
  | some root => exact follow_add _ _ _ { id := root, kind, traits }

theorem operation_eq (b : Builder) (id : String) (input output : Option String)
    (errors : List String) :
    b.operation id input output errors = b.follow (Command.operation id input output errors).texts
      (Command.operation id input output errors).declared := by
  rw [operation, parse_eq, Command.texts, Command.declared]
  cases ShapeId.parse? id with
  | none => rfl
  | some root =>
    simp only [Option.elim_some, parseOption_eq, parseAll_eq, follow_follow, List.append_assoc]
    exact follow_add _ _ _ { id := root, kind := .operation _ _ _ }

theorem service_eq (b : Builder) (id version : String) (operations : List String)
    (traits : List Trait) :
    b.service id version operations traits =
      b.follow (Command.service id version operations traits).texts
        (Command.service id version operations traits).declared := by
  rw [service, parse_eq, Command.texts, Command.declared]
  cases ShapeId.parse? id with
  | none => rfl
  | some root =>
    simp only [Option.elim_some, parseAll_eq, follow_follow]
    exact follow_add _ _ _ { id := root, kind := .service version _, traits }

/-- A call reads its texts and takes its shapes, whatever the builder holds. -/
theorem perform_eq (b : Builder) (c : Command) : b.perform c = b.follow c.texts c.declared := by
  cases c with
  | «structure» id traits members => exact b.aggregate_eq id .structure traits members
  | union id traits members => exact b.aggregate_eq id .union traits members
  | list id traits target => exact b.list_eq id traits target
  | map id key value => exact b.map_eq id key value
  | primitive id type traits => exact b.simple_eq id (.primitive type) traits
  | enumeration id variants => exact b.simple_eq id (.enum variants) []
  | operation id input output errors => exact b.operation_eq id input output errors
  | service id version operations traits => exact b.service_eq id version operations traits
  | add s =>
    have hs : (Declaration.mk s.id s.kind s.traits.toList).shape = s := by
      rw [Declaration.shape, Traits.ofList_toList]
    have hadd := follow_add b [] [] (.mk s.id s.kind s.traits.toList)
    rw [hs, follow_nil] at hadd
    exact hadd

end Builder

end CrateGen
