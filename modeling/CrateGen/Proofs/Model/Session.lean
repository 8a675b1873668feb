import CrateGen.Proofs.Model.Built

/-!
Runs of a builder. What a build answers after any run is told by the texts read since the build
before it and by the shapes of the whole run.
-/

namespace CrateGen

variable {m : Model}

/-! ## Runs -/

def preludeDeclared : List Declaration :=
  Primitive.all.map fun p => { id := p.shape.id, kind := .primitive p }

theorem prelude_eq : prelude = (⟨∅⟩ : Model).insertAll (preludeDeclared.map Declaration.shape) :=
  rfl

namespace Builder

/-- A builder after a run, with all that was declared since the first builder and the texts read
since the last build. A run may go on from a model that it has built. -/
inductive Session : List Declaration → List String → Builder → Prop
  | start : Session preludeDeclared [] {}
  | call {ds texts b} (h : Session ds texts b) (c : Command) :
      Session (ds ++ c.declared) (texts ++ c.texts) (b.perform c)
  | build {ds texts b} (h : Session ds texts b) : Session ds [] b.build.2
  | resume {ds texts b m} (h : Session ds texts b) (hm : b.build.1 = .ok m) :
      Session ds [] (.ofModel m)

variable {b : Builder} {ds : List Declaration} {texts : List String}

/-- Every builder that calls lead to has such a run behind it. -/
theorem reached_iff_session : b.Reached ↔ ∃ ds texts, Session ds texts b := by
  constructor
  · intro h
    induction h with
    | start => exact ⟨_, _, .start⟩
    | perform _ c ih =>
      obtain ⟨ds, texts, h⟩ := ih
      exact ⟨_, _, h.call c⟩
    | build _ ih =>
      obtain ⟨ds, texts, h⟩ := ih
      exact ⟨_, _, h.build⟩
    | resume _ hm ih =>
      obtain ⟨ds, texts, h⟩ := ih
      exact ⟨_, _, h.resume hm⟩
  · rintro ⟨ds, texts, h⟩
    induction h with
    | start => exact .start
    | call _ c ih => exact .perform ih c
    | build _ ih => exact .build ih
    | resume _ hm ih => exact .resume ih hm

/-- A run is told by its declarations and the texts that are still to be reported. -/
theorem Session.state (h : Session ds texts b) :
    b.model = (⟨∅⟩ : Model).insertAll (ds.map Declaration.shape) ∧
      b.invalid = firstInvalid? texts := by
  induction h with
  | start => exact ⟨prelude_eq, rfl⟩
  | @call ds texts b _ c ih =>
    obtain ⟨hmodel, hinvalid⟩ := ih
    rw [perform_eq, follow, hmodel, hinvalid, firstInvalid?, firstInvalid?, firstInvalid?,
      List.find?_append, List.map_append, Model.insertAll, Model.insertAll, Model.insertAll,
      List.foldl_append]
    exact ⟨rfl, rfl⟩
  | build _ ih =>
    rw [build_after]
    exact ⟨ih.1, rfl⟩
  | resume _ hm ih =>
    rw [(build_eq_ok hm).1]
    exact ⟨ih.1, rfl⟩

end Builder

/-! ## Answers -/

/-- The model holds what was declared last under each id, and nothing else. -/
structure Model.Holds (m : Model) (ds : List Declaration) : Prop where
  keyed : m.Keyed
  present : ∀ d ∈ ds, m.contains d.id = true
  last : ∀ {id s}, m.get? id = some s → ∃ d, ds.reverse.find? (·.id = id) = some d ∧
    s.kind = d.kind ∧ s.Annotated d.traits

/-- The shape is the first in the order of ids that has a reference to nothing, and `r` is its
first such reference. -/
structure Model.FirstDangling (m : Model) (s : Shape) (r : ShapeId) : Prop where
  shape : m.get? s.id = some s
  reference : s.references.find? (!m.contains ·) = some r
  least : ∀ {id t x}, m.get? id = some t → x ∈ t.references → m.contains x = false →
    (compare s.id id).isLE

theorem Model.holds_insertAll (ds : List Declaration) :
    ((⟨∅⟩ : Model).insertAll (ds.map Declaration.shape)).Holds ds := by
  have hempty : ∀ id, (⟨∅⟩ : Model).get? id = none := fun id => by simp [Model.get?]
  have hget (id : ShapeId) : ((⟨∅⟩ : Model).insertAll (ds.map Declaration.shape)).get? id =
      (ds.reverse.find? (·.id = id)).map Declaration.shape := by
    rw [Model.get?_insertAll, hempty, Option.or_none, ← List.map_reverse, List.find?_map]
    rfl
  refine ⟨?_, ?_, ?_⟩
  · apply Model.Keyed.insertAll
    intro id s h
    rw [hempty] at h
    cases h
  · intro d hd
    have hfind : (ds.reverse.find? (·.id = d.id)).isSome := by
      simpa only [List.find?_isSome, List.mem_reverse, decide_eq_true_eq] using ⟨d, hd, rfl⟩
    obtain ⟨d', hd'⟩ := Option.isSome_iff_exists.mp hfind
    exact Model.contains_iff.mpr ⟨d'.shape, by rw [hget, hd', Option.map_some]⟩
  · intro id s hs
    rw [hget] at hs
    obtain ⟨d, hd, rfl⟩ := Option.map_eq_some_iff.mp hs
    exact ⟨d, hd, rfl, d.annotated⟩

theorem Model.toList_ascending (hk : m.Keyed) :
    m.toList.Pairwise fun s t => compare s.id t.id = .lt := by
  rw [Model.toList, SortedMap.values_eq, List.pairwise_map]
  apply Std.ExtTreeMap.ordered_keys_toList.imp_of_mem
  intro a b ha hb hab
  have hid {entry : ShapeId × Shape} (h : entry ∈ m.shapes.toList) : entry.2.id = entry.1 :=
    hk (Std.ExtTreeMap.mem_toList_iff_getElem?_eq_some.mp h)
  rw [hid ha, hid hb]
  exact hab

theorem Model.validate_eq_error (hk : m.Keyed) {e : Error} (h : m.validate = .error e) :
    ∃ s r, m.FirstDangling s r ∧ e = .danglingReference s.id r := by
  have hfirst : m.toList.findSome? m.dangling? = some e := by
    rw [Model.validate] at h
    split at h
    · next hsome =>
      cases h
      exact hsome
    · cases h
  obtain ⟨before, s, after, hlist, hs, hbefore⟩ := List.findSome?_eq_some_iff.mp hfirst
  obtain ⟨r, hr, rfl⟩ := Option.map_eq_some_iff.mp hs
  refine ⟨s, r, ⟨hk.mem_toList.mp ?_, hr, ?_⟩, rfl⟩
  · rw [hlist]
    exact List.mem_append_right _ List.mem_cons_self
  · intro id t x ht hx hmissing
    cases hk ht
    have hdangling : m.dangling? t ≠ none := by
      rw [Ne, Model.dangling?_eq_none]
      intro hall
      rw [Model.contains_iff.mpr (hall x hx)] at hmissing
      cases hmissing
    have hsorted := Model.toList_ascending hk
    have ht := hk.mem_toList.mpr ht
    rw [hlist] at hsorted ht
    rcases List.mem_append.mp ht with hin | hin
    · exact absurd (hbefore t hin) hdangling
    · rcases List.mem_cons.mp hin with rfl | hin
      · exact Std.ReflOrd.isLE_rfl
      · have hlt := List.rel_of_pairwise_cons (List.pairwise_append.mp hsorted).2.1 hin
        rw [hlt]
        rfl

namespace Builder

variable {b : Builder} {ds : List Declaration} {texts : List String}

/-- What the next build answers after `ds` was declared and `texts` were read since the build
before it. -/
structure Answers (b : Builder) (ds : List Declaration) (texts : List String) : Prop where
  holds : b.model.Holds ds
  prelude : ∀ p : Primitive, b.model.contains (.root "smithy.api" p.name) = true
  /-- The earliest text that is not an id is reported before anything else. -/
  misread : ∀ {raw}, firstInvalid? texts = some raw → b.build.1 = .error (.invalidShapeId raw)
  accepts : firstInvalid? texts = none → (b.build.1 = .ok b.model ↔ b.model.Closed)
  dangles : firstInvalid? texts = none → ¬b.model.Closed → ∃ s r, b.model.FirstDangling s r ∧
    b.build.1 = .error (.danglingReference s.id r)
  gives : ∀ {m}, b.build.1 = .ok m → m = b.model
  /-- The shapes stay, and no text is reported twice. -/
  after : b.build.2 = .ofModel b.model

theorem build_of_valid (h : b.invalid = none) :
    b.build.1 = b.model.validate.map fun _ => b.model := by
  rw [build, h]

theorem Session.preludeDeclared_prefix (h : Session ds texts b) : preludeDeclared <+: ds := by
  induction h with
  | start => exact List.prefix_rfl
  | call _ c ih => exact ih.trans (List.prefix_append _ _)
  | build _ ih => exact ih
  | resume _ _ ih => exact ih

/-- In every run of a builder, each build reports the earliest text since the last build that is
not an id; else it gives the model exactly when every reference resolves, and else reports the
first one that does not. -/
theorem Session.build_answers (h : Session ds texts b) : b.Answers ds texts := by
  obtain ⟨hmodel, hinvalid⟩ := h.state
  have hholds : b.model.Holds ds := by
    rw [hmodel]
    exact Model.holds_insertAll ds
  refine ⟨hholds, ?_, ?_, ?_, ?_, fun hm => (build_eq_ok hm).1, b.build_after⟩
  · intro p
    have hp : Declaration.mk p.shape.id (.primitive p) [] ∈ preludeDeclared :=
      List.mem_map_of_mem (by cases p <;> decide)
    exact hholds.present _ (h.preludeDeclared_prefix.subset hp)
  · intro raw hraw
    rw [Builder.build, hinvalid, hraw]
  · intro hread
    rw [build_of_valid (hinvalid.trans hread), ← Model.validate_eq_ok]
    cases b.model.validate <;> simp [Except.map]
  · intro hread hopen
    rw [build_of_valid (hinvalid.trans hread)]
    cases hv : b.model.validate with
    | ok u =>
      have hclosed : b.model.Closed := Model.validate_eq_ok.mp hv
      exact (hopen hclosed).elim
    | error e =>
      obtain ⟨s, r, hfirst, rfl⟩ := Model.validate_eq_error hholds.keyed hv
      exact ⟨s, r, hfirst, rfl⟩

/-! ## A run with mistakes -/

/-- A member that targets nothing, a build that reports it, then several texts that are no ids. -/
def misspelt : Builder :=
  ({} : Builder)
    |>.perform (.union "ns#Open" [] [⟨"y", "ns#Missing", []⟩, ⟨"z", "smithy.api#Blob", []⟩])
    |>.build.2
    |>.perform (.structure "ns#Ok" [.documentation "a", .documentation "b"]
      [⟨"no name", "smithy.api#String", []⟩, ⟨"x", "also bad", []⟩])
    |>.perform (.enumeration "bad id" [])

theorem Session.build_answers_misspelt : ∃ ds texts, Session ds texts misspelt ∧
    misspelt.Answers ds texts ∧ firstInvalid? texts = some "ns#Ok$no name" ∧
    misspelt.build.1 = .error (.invalidShapeId "ns#Ok$no name") := by
  have h : Session _ _ misspelt := (((Session.start.call _).build).call _).call _
  refine ⟨_, _, h, h.build_answers, ?_, h.build_answers.misread ?_⟩
  · decide +kernel
  · decide +kernel

end Builder

end CrateGen
