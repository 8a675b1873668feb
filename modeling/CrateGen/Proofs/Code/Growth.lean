import CrateGen.Proofs.Code.Progress
import CrateGen.Proofs.SortedMap

namespace CrateGen

open CrateGen.Action

namespace Dependencies

/-- Every inline item that is recorded stays recorded. -/
def Within (ds ds' : Dependencies) : Prop :=
  ∀ (k : String) (i : InlineItem Code), ds.inline[k]? = some i → ds'.inline[k]? = some i

namespace Within

variable {ds ds' ds'' : Dependencies}

theorem refl (ds : Dependencies) : ds.Within ds :=
  fun _ _ h => h

theorem trans (h : ds.Within ds') (h' : ds'.Within ds'') : ds.Within ds'' :=
  fun k i hk => h' k i (h k i hk)

theorem insert (ds : Dependencies) (d : Dependency Code) : ds.Within (ds.insert d) := by
  intro k i hk
  cases d with
  | cargo d => exact hk
  | inline new => exact SortedMap.getElem?_insertIfNew_of_some hk new.key new

theorem merge (ds new : Dependencies) : ds.Within (ds.merge new) := by
  intro k i hk
  change (new.inline.foldl (fun m k i => m.insertIfNew k i) ds.inline)[k]? = some i
  rw [SortedMap.getElem?_foldl_insertIfNew, hk]
  rfl

end Within

end Dependencies

theorem Writer.grows_progress :
    Writer.Progress {} fun w w' => w.dependencies.Within w'.dependencies where
  refl w := .refl w.dependencies
  trans h h' := h.trans h'
  emit w _ := .refl w.dependencies
  newline w := .refl w.dependencies
  level w _ := .refl w.dependencies
  scopes w _ := .refl w.dependencies
  issued w _ := .refl w.dependencies
  preamble w _ := .refl w.dependencies
  addUse w _ := .refl w.dependencies
  declare w _ _ := .refl w.dependencies
  depend w d _ := .insert w.dependencies d
  merge w _ child _ _ := .merge w.dependencies child.dependencies
  mergeDependencies w _ child _ _ := .merge w.dependencies child.dependencies

/-- Code loses no inline item that is recorded, even where it fails. -/
theorem Code.run_grows (depth : Nat) (c : Code) (w : Writer) :
    w.dependencies.Within (outcome (c.run depth) w).2.dependencies :=
  run_progress Writer.grows_progress depth c w

end CrateGen
