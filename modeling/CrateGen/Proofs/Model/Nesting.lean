import CrateGen.Proofs.Model.Built
import Mathlib.Logic.Relation

namespace CrateGen

/-- The ids of the shapes whose types a shape's type is made of. The other kinds have types of
their own. -/
def ShapeKind.nested : ShapeKind → List ShapeId
  | .list item => [item]
  | .map key value => [key, value]
  | .member target => [target]
  | _ => []

namespace Model

variable {m : Model} {a b x : ShapeId} {s : Shape} {path : List ShapeId}

def isMember (m : Model) (id : ShapeId) : Bool :=
  (m.get? id).any fun s => s.target?.isSome

theorem isMember_iff :
    m.isMember x = true ↔ ∃ s target, m.get? x = some s ∧ s.kind = .member target := by
  have htarget (s : Shape) : s.target?.isSome = true ↔ ∃ target, s.kind = .member target := by
    rw [Shape.target?]
    cases s.kind <;> simp
  simp only [isMember, Option.any_eq_true, htarget, exists_and_left]

/-- The shape of one id is a list, a map or a member that holds or targets the other id. -/
def Nests (m : Model) (a b : ShapeId) : Prop :=
  ∃ s, m.get? a = some s ∧ b ∈ s.kind.nested

theorem nests_of_kind {kind : ShapeKind} (hs : m.get? a = some s) (hk : s.kind = kind)
    (hb : b ∈ kind.nested) : m.Nests a b :=
  ⟨s, hs, hk ▸ hb⟩

/-- No lists, maps and members lead back to where they start. -/
def Acyclic (m : Model) : Prop :=
  ∀ a, ¬Relation.TransGen m.Nests a a

theorem acyclic_of_rank (rank : ShapeId → Nat) (h : ∀ {a b}, m.Nests a b → rank b < rank a) :
    m.Acyclic := by
  have hlt {a b : ShapeId} (hab : Relation.TransGen m.Nests a b) : rank b < rank a := by
    induction hab with
    | single hab => exact h hab
    | tail _ hbc ih => exact Nat.lt_trans (h hbc) ih
  intro a haa
  exact Nat.lt_irrefl _ (hlt haa)

/-- A built model in which lists and maps hold members, members target other shapes than members
and have their container with them, and no type contains itself unless through a named one. -/
structure Typable (m : Model) : Prop where
  built : m.Built
  rooted : ∀ {id s target}, m.get? id = some s → s.kind = .member target →
    m.contains id.container = true
  item : ∀ {id s item}, m.get? id = some s → s.kind = .list item → m.isMember item = true
  entry : ∀ {id s key value}, m.get? id = some s → s.kind = .map key value →
    m.isMember key = true ∧ m.isMember value = true
  direct : ∀ {id s target}, m.get? id = some s → s.kind = .member target →
    m.isMember target = false
  acyclic : m.Acyclic

theorem Typable.of_toList (hb : m.Built) (rank : ShapeId → Nat)
    (hr : ∀ s ∈ m.toList, s.target?.isSome = true → m.contains s.id.container = true)
    (hn : ∀ s ∈ m.toList, ∀ x ∈ s.kind.nested,
      m.isMember x = s.target?.isNone ∧ rank x < rank s.id) : m.Typable := by
  have hlisted {id : ShapeId} {s : Shape} (hs : m.get? id = some s) : s ∈ m.toList :=
    Model.mem_toList.mpr ⟨id, hs⟩
  have hkind {id x : ShapeId} {s : Shape} {kind : ShapeKind} (hs : m.get? id = some s)
      (hk : s.kind = kind) (hx : x ∈ kind.nested) : m.isMember x = s.target?.isNone :=
    (hn s (hlisted hs) x (hk ▸ hx)).1
  constructor
  case built => exact hb
  case rooted =>
    intro id s target hs hk
    have hcontainer := hr s (hlisted hs) (by rw [Shape.target?, hk]; rfl)
    rwa [hb.keyed hs] at hcontainer
  case item =>
    intro id s item hs hk
    have hitem := hkind hs hk (List.mem_singleton_self item)
    rwa [Shape.target?, hk] at hitem
  case entry =>
    intro id s key value hs hk
    have hkey := hkind hs hk (List.mem_cons_self (a := key))
    have hvalue := hkind hs hk (List.mem_cons_of_mem key (List.mem_singleton_self value))
    rw [Shape.target?, hk] at hkey hvalue
    exact ⟨hkey, hvalue⟩
  case direct =>
    intro id s target hs hk
    have htarget := hkind hs hk (List.mem_singleton_self target)
    rwa [Shape.target?, hk] at htarget
  case acyclic =>
    apply acyclic_of_rank rank
    rintro a b ⟨s, hs, hb'⟩
    have hrank := (hn s (hlisted hs) b hb').2
    rwa [hb.keyed hs] at hrank

/-- Shapes of the model, each of them once, that all lead to the shape of an id through lists, maps
and members. -/
structure Descends (m : Model) (path : List ShapeId) (id : ShapeId) : Prop where
  nodup : path.Nodup
  present : ∀ a ∈ path, m.contains a = true
  leads : ∀ a ∈ path, Relation.TransGen m.Nests a id

theorem Descends.nil (m : Model) (id : ShapeId) : m.Descends [] id where
  nodup := List.nodup_nil
  present _ ha := (List.not_mem_nil ha).elim
  leads _ ha := (List.not_mem_nil ha).elim

theorem Descends.cons (hacyclic : m.Acyclic) (h : m.Descends path a)
    (hab : Relation.TransGen m.Nests a b) : m.Descends (a :: path) b where
  nodup := List.nodup_cons.mpr ⟨fun ha => hacyclic a (h.leads a ha), h.nodup⟩
  present := by
    obtain ⟨c, ⟨s, hs, -⟩, -⟩ := Relation.TransGen.head'_iff.mp hab
    exact List.forall_mem_cons.mpr ⟨Model.contains_iff.mpr ⟨s, hs⟩, h.present⟩
  leads := List.forall_mem_cons.mpr ⟨hab, fun x hx => (h.leads x hx).trans hab⟩

/-- A way down passes no more shapes than the model has. -/
theorem Descends.length_le (h : m.Descends path a) : path.length ≤ m.size := by
  rw [Model.size, ← Std.ExtTreeMap.length_keys]
  apply h.nodup.length_le_of_subset
  intro x hx
  exact Std.ExtTreeMap.mem_keys.mpr (Std.ExtTreeMap.contains_iff_mem.mp (h.present x hx))

end Model

end CrateGen
