import CrateGen.Model.ShapeId

namespace CrateGen

inductive Blame where
  | client
  | server
deriving DecidableEq

structure Deprecation where
  message : Option String
  since : Option String
deriving DecidableEq

/-- A typed annotation of a shape. -/
inductive Trait where
  | documentation (text : String)
  | deprecated (notice : Deprecation)
  | error (blame : Blame)
  | retryable (throttling : Bool)
  | required
  | length (min max : Option Nat)
  | range (min max : Option Int)
  | pattern (regex : String)
  | uniqueItems
  /-- On unions: the union is an event stream. -/
  | streaming
  | eventHeader
  | eventPayload
  /-- On services: the absolute id of the protocol. -/
  | protocol (name : String)
  /-- The member from which a shape was extracted. -/
  | refactored (member : ShapeId)
deriving DecidableEq

inductive TraitKind where
  | documentation
  | deprecated
  | error
  | retryable
  | required
  | length
  | range
  | pattern
  | uniqueItems
  | streaming
  | eventHeader
  | eventPayload
  | protocol
  | refactored
deriving DecidableEq

namespace Trait

def kind : Trait → TraitKind
  | documentation _ => .documentation
  | deprecated _ => .deprecated
  | error _ => .error
  | retryable _ => .retryable
  | required => .required
  | length _ _ => .length
  | range _ _ => .range
  | pattern _ => .pattern
  | uniqueItems => .uniqueItems
  | streaming => .streaming
  | eventHeader => .eventHeader
  | eventPayload => .eventPayload
  | protocol _ => .protocol
  | refactored _ => .refactored

end Trait

namespace TraitKind

def all : List TraitKind :=
  [documentation, deprecated, error, retryable, required, length, range, pattern, uniqueItems,
   streaming, eventHeader, eventPayload, protocol, refactored]

/-- The kinds that restrict the values of a shape. -/
def isConstraint : TraitKind → Bool
  | length | range | pattern | uniqueItems => true
  | _ => false

end TraitKind

/-- The traits of a shape, at most one of each kind. -/
@[ext]
structure Traits where
  get? : TraitKind → Option Trait
  kind_eq : ∀ {k t}, get? k = some t → t.kind = k := by simp

namespace Traits

def empty : Traits where
  get? _ := none

instance : EmptyCollection Traits :=
  ⟨empty⟩

def insert (ts : Traits) (t : Trait) : Traits where
  get? k := if k = t.kind then some t else ts.get? k
  kind_eq {k u} h := by
    split at h
    · next hk => rw [hk, ← Option.some.inj h]
    · exact ts.kind_eq h

/-- The traits of a list; of several of one kind the last. -/
def ofList (ts : List Trait) : Traits :=
  ts.foldl insert ∅

def toList (ts : Traits) : List Trait :=
  TraitKind.all.filterMap ts.get?

def filter (p : TraitKind → Bool) (ts : Traits) : Traits where
  get? k := if p k then ts.get? k else none
  kind_eq {k u} h := by
    split at h
    · exact ts.kind_eq h
    · cases h

def contains (ts : Traits) (k : TraitKind) : Bool :=
  (ts.get? k).isSome

def constraints (ts : Traits) : Traits :=
  ts.filter TraitKind.isConstraint

def withoutConstraints (ts : Traits) : Traits :=
  ts.filter fun k => !k.isConstraint

def isConstrained (ts : Traits) : Bool :=
  TraitKind.all.any fun k => k.isConstraint && ts.contains k

theorem mem_all (k : TraitKind) : k ∈ TraitKind.all := by
  cases k <;> decide

instance : DecidableEq Traits := fun a b =>
  decidable_of_iff (∀ k ∈ TraitKind.all, a.get? k = b.get? k)
    ⟨fun h => Traits.ext (funext fun k => h k (mem_all k)), fun h _ _ => h ▸ rfl⟩

end Traits

end CrateGen
