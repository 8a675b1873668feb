import CrateGen.Proofs.Code.History

namespace CrateGen

open CrateGen.Action

namespace Crate

open Inlines

variable {c c' c'' : Crate} {m : Module} {own : Writer} {fuel : Nat}

/-! ## Every inline module becomes a block -/

/-- The block of a module is in a file, or the module is left, or it is in one that is left. -/
def Carried (m : Module) (own : Writer) (ms : Inlines) (c : Crate) : Prop :=
  (∃ (path : String) (m' : Module) (w : Writer), ms[path]? = some (m', w) ∧
      Writer.Carries m own m' w) ∨
    ∃ (path : String) (w : Writer), c.files[path]? = some w ∧ Writer.ShowsBlock m own w

theorem carried_parent {ms : Inlines} {path : String} {m' parent : Module} {w : Writer}
    (hw : ms[path]? = some (m', w)) (h : Carried m own ms c) :
    Carried m own (c.intoParent ms path m' parent w) c := by
  have hself := Std.ExtTreeMap.getElem?_insert_self (t := ms.erase path) (k := parent.fullPath)
    (v := ((entry (ms.erase path) parent (c.newInline parent)).1,
      (entry (ms.erase path) parent (c.newInline parent)).2.embed m' w))
  rcases h with ⟨path', m'', v, hv, hcarries⟩ | hfile
  · left
    by_cases heq : path' = path
    -- The module that is taken off carries it, so its parent shows it now.
    · subst heq
      rw [hw] at hv
      cases hv
      exact ⟨_, _, _, hself, .inr (hcarries.embed _)⟩
    · have herase : (ms.erase path)[path']? = some (m'', v) :=
        (SortedMap.getElem?_erase_ne ms heq).trans hv
      by_cases hparent : path' = parent.fullPath
      -- The parent carries it already, and so was there: `entry` finds it.
      · subst hparent
        have hentry : entry (ms.erase path) parent (c.newInline parent) = (m'', v) := by
          unfold Inlines.entry
          rw [herase]
          rfl
        rw [hentry] at hself
        rw [intoParent, hentry]
        exact ⟨_, _, _, hself, hcarries.extends (.embed v m' w)⟩
      · exact ⟨path', m'', v, (SortedMap.getElem?_insert_ne _ _ hparent).trans herase, hcarries⟩
  · exact .inr hfile

theorem carried_file {ms : Inlines} {path : String} {m' : Module} {w : Writer}
    (hw : ms[path]? = some (m', w)) (h : Carried m own ms c) :
    Carried m own (ms.erase path) (c.intoFile m' w) := by
  obtain ⟨v, hv, hget⟩ := c.getElem?_embedFile m' w
  have hself := (hget m'.fileOwner.filePath).trans (if_pos rfl)
  rcases h with ⟨path', m'', v', hv', hcarries⟩ | ⟨path', v', hv', hshows⟩
  · by_cases heq : path' = path
    · subst heq
      rw [hw] at hv'
      cases hv'
      exact .inr ⟨_, _, hself, hcarries.embed v⟩
    · exact .inl ⟨path', m'', v', (SortedMap.getElem?_erase_ne ms heq).trans hv', hcarries⟩
  · right
    obtain ⟨v'', hv'', hext⟩ := (Grows.openFile c m'.fileOwner).file hv'
    by_cases heq : path' = m'.fileOwner.filePath
    · subst heq
      rw [hv] at hv''
      cases hv''
      exact ⟨_, _, hself, (hshows.extends hext).extends (.embed v m' w)⟩
    · exact ⟨path', v'', (hget path').trans ((if_neg heq).trans hv''), hshows.extends hext⟩

/-- Embedding makes every inline module a block that some file shows. -/
theorem embedAll_shows (h : outcome embedAll c = (.ok (), c')) {path : String}
    (hm : c.inlineModules[path]? = some (m, own)) :
    ∃ (path : String) (w : Writer), c'.files[path]? = some w ∧ Writer.ShowsBlock m own w := by
  have hcarried := embedAll_preserves ⟨carried_parent, carried_file⟩ h
    (.inl ⟨path, m, own, hm, .inl ⟨rfl, .refl own⟩⟩)
  rcases hcarried with ⟨path', m', w, hw, -⟩ | hfile
  · rw [Std.ExtTreeMap.getElem?_empty] at hw
    cases hw
  · exact hfile

/-- The text of some file of the crate has the block of a module, in which is what `own` holds. -/
def ShowsBlock (c : Crate) (m : Module) (own : Writer) : Prop :=
  ∃ (path text : String) (inner : Writer), (path, text) ∈ c.renderAll ∧ own.Extends inner ∧
    Text.StandIn (m.block inner.blockContents) (Text.lines text)

theorem Grows.showsBlock (h : c.Grows c') {path : String} {w : Writer}
    (hw : c.files[path]? = some w) (hshows : Writer.ShowsBlock m own w) : c'.ShowsBlock m own := by
  obtain ⟨w', hw', hext⟩ := h.file hw
  obtain ⟨inner, hinner, hpage⟩ := hshows.extends hext
  refine ⟨path, w'.render, inner, ?_, hinner,
    Writer.render_standIn hpage (m.block_closed _)⟩
  exact List.mem_map.mpr
    ⟨(path, w'), Std.ExtTreeMap.mem_toList_iff_getElem?_eq_some.mpr hw', rfl⟩

/-! ## Every item is run to its end -/

section

variable {runs earlier last later : List Run} {key : String}

theorem filter_key (hnodup : (runs.filterMap (·.key)).Nodup) {r : Run} (hr : r ∈ runs)
    (hkey : r.key = some key) : runs.filter (·.key == some key) = [r] := by
  induction runs with
  | nil => cases hr
  | cons r' runs ih =>
    by_cases hhead : r'.key = some key
    · rw [List.filterMap_cons_some hhead, List.nodup_cons] at hnodup
      have hother : ∀ r'' ∈ runs, r''.key ≠ some key :=
        fun r'' hr'' heq => hnodup.1 (List.mem_filterMap.mpr ⟨r'', hr'', heq⟩)
      rcases List.mem_cons.mp hr with rfl | hr
      · rw [List.filter_cons, if_pos (beq_iff_eq.mpr hkey), List.filter_eq_nil_iff.mpr]
        exact fun r'' hr'' heq => hother r'' hr'' (eq_of_beq heq)
      · exact absurd hkey (hother r hr)
    · have htail : (runs.filterMap (·.key)).Nodup :=
        hnodup.sublist ((List.sublist_cons_self r' runs).filterMap _)
      rw [List.filter_cons, if_neg fun heq => hhead (eq_of_beq heq)]
      rcases List.mem_cons.mp hr with rfl | hr
      · exact absurd hkey hhead
      · exact ih htail hr

theorem Tracks.finalize_ok (h : Tracks earlier c)
    (hrooted : ∀ r ∈ Call.finalize.runs fuel c, r.module.Rooted)
    (hfinalize : outcome (finalize fuel) c = (.ok (), c')) :
    ∃ c₁ c₂, Tracks (earlier ++ Call.finalize.runs fuel c) c₁ ∧ c₁.pending = [] ∧
      (∀ r ∈ Call.finalize.runs fuel c, r.result = .ok ()) ∧
      outcome embedAll c₁ = (.ok (), c₂) ∧ c' = { c₂ with finalized := true } := by
  obtain ⟨c₁, c₂, hrender, hembed, hc'⟩ := finalize_eq_ok h.unfinished hfinalize
  rw [Call.runs_finalize h.unfinished] at hrooted ⊢
  have htracks := h.runPending fuel fuel hrooted
  obtain ⟨rounds, hrounds⟩ := Rounds.of_renderPending hrender
  rw [hrender] at htracks
  exact ⟨c₁, c₂, htracks, hrounds.pending, pendingRuns_succeed hrender, hembed, hc'⟩

theorem Tracks.exists_run (h : Tracks runs c) (hpending : c.pending = [])
    (hkey : c.Holds fun ds => key ∈ ds.inline) : ∃ r ∈ runs, r.key = some key := by
  obtain ⟨w, hw, hmem⟩ := hkey
  obtain ⟨i, hi⟩ := SortedMap.mem_iff.mp hmem
  obtain ⟨-, rfl⟩ := (h.keyed.writers hw).inline hi
  have hrendered : i.key ∈ c.rendered := by
    by_contra hunseen
    obtain ⟨j, hj, -⟩ := exists_mem_pending (mem_items.mpr ⟨w, hw, _, hi⟩) hunseen
    rw [hpending] at hj
    cases hj
  rw [h.rendered] at hrendered
  exact List.mem_filterMap.mp hrendered

/-- What a crate has come to that was finalized after the runs `earlier`, with the runs `last`, and
then went through the runs `later`: `c'` when it was finalized, `c''` in the end. -/
structure Settled (earlier last later : List Run) (c' c'' : Crate) : Prop where
  /-- No inline module was left. -/
  inlineModules : c'.inlineModules = ∅
  /-- The item of every key that was referred to was run once and to its end, unless its code had
  failed before. -/
  once : ∀ w ∈ c'.writers, ∀ key ∈ w.dependencies.inline,
    (∀ r ∈ earlier, r.key = some key → r.result = .ok ()) →
    ∃ r, (earlier ++ last ++ later).filter (·.key == some key) = [r] ∧ r.result = .ok () ∧
      ⟨key, r.module, r.code⟩ ∈ r.before.items
  /-- Every inline module that was written to is a block in a file, with what its writer held. -/
  embedded : ∀ r ∈ earlier ++ last, r.module.isInline = true → ∃ m w,
    r.after.inlineModules[r.module.fullPath]? = some (m, w) ∧ m.fullPath = r.module.fullPath ∧
      c''.ShowsBlock m w
  /-- Finalizing again changes nothing. -/
  idle : ∀ fuel, outcome (finalize fuel) c'' = (.ok (), c'')

/-- The first finalize that does not fail settles the crate, whatever calls there were before and
come after. -/
theorem finalize_settles {showsBanner debugMode : Bool} {before after : Log}
    (hbefore : History { showsBanner, debugMode } before)
    (hfirst : before.events.any Event.finalizes = false)
    (hfinalize : outcome (finalize fuel) before.crate = (.ok (), c))
    (hafter : History c after)
    (hrooted : ∀ r ∈ before.runs ++ Call.finalize.runs fuel before.crate, r.module.Rooted) :
    Settled before.runs (Call.finalize.runs fuel before.crate) after.runs c after.crate := by
  have hlast : ∀ r ∈ Call.finalize.runs fuel before.crate, r.module.Rooted :=
    fun r hr => hrooted r (List.mem_append_right _ hr)
  have htracks := hbefore.tracks (.new showsBanner debugMode) hfirst
    fun r hr => hrooted r (List.mem_append_left _ hr)
  obtain ⟨c₁, c₂, htracks₁, hpending, hsucceed, hembed, rfl⟩ :=
    htracks.finalize_ok hlast hfinalize
  obtain ⟨hgrows, hlater⟩ := hafter.after rfl
  constructor
  · obtain ⟨files, rfl⟩ := embedAll_files hembed
    rfl
  · intro w hw key hkey hearlier
    have hheld : c₁.Holds fun ds => key ∈ ds.inline :=
      (embedAll_holds (Dependencies.content_key key) hembed).mp ⟨w, hw, hkey⟩
    obtain ⟨r, hr, hrkey⟩ := htracks₁.exists_run hpending hheld
    -- Keys are run once up to here, and what is called afterwards runs no item.
    refine ⟨r, ?_, ?_, htracks₁.source r hr key hrkey⟩
    · have hnone : after.runs.filter (·.key == some key) = [] := by
        rw [List.filter_eq_nil_iff]
        intro r' hr' heq
        rw [hlater r' hr'] at heq
        cases heq
      have hnodup := htracks₁.nodup
      rw [htracks₁.rendered] at hnodup
      rw [List.filter_append, hnone, List.append_nil, filter_key hnodup hr hrkey]
    · rcases List.mem_append.mp hr with hr | hr
      · exact hearlier r hr hrkey
      · exact hsucceed r hr
  · intro r hr hin
    -- What the run left in the writer is still there when embedding starts.
    obtain ⟨m, w, w', hwritten, hkept, hext⟩ := htracks₁.kept r hr hin
    obtain ⟨hpath, -⟩ := htracks₁.inline hkept
    obtain ⟨path, v, hv, inner, hinner, hshows⟩ := embedAll_shows hembed hkept
    exact ⟨m, w, hwritten, hpath.symm,
      hgrows.showsBlock hv ⟨inner, hext.trans hinner, hshows⟩⟩
  · intro fuel'
    apply outcome_finalize_of_finalized
    obtain ⟨files, inlineModules, hrest⟩ := hgrows.rest
    rw [hrest]

end

def brokenItem : InlineItem Code where
  key := "crate::helpers::broken"
  module := helpers
  code := .fail (.unknownFile "broken.rs")

/-- A write to an inline module breaks off halfway, and an item ends a finalize before the others
are run. -/
def brokenDown : Log :=
  perform 3
    [.write .root (.depend (.inline padItem)),
      .write detail (.seq (.line "use super::*;") (.fail (.unknownFile "detail.rs"))),
      .write helpers (.depend (.inline brokenItem)),
      .finalize] {}

def recovered : Crate :=
  (outcome (finalize 3) brokenDown.crate).2

/-- What comes too late for the block of the module. -/
def aftermath : Log :=
  perform 3 [.write detail (.line "pub(crate) fn late() {}"), .finalize] recovered

example : (brokenDown.runs ++ Call.finalize.runs 3 brokenDown.crate).map
      (fun r => (r.key, r.result.isOk)) =
    [(none, true), (none, false), (none, true), (some "crate::helpers::broken", false),
      (some "crate::helpers::detail::pad", true), (some "crate::helpers::encode", true)] := by
  decide +kernel

theorem recovered_checked :
    (∀ e ∈ brokenDown.events, Returned e.result) ∧
      brokenDown.events.any Event.finalizes = false ∧
      (outcome (finalize 3) brokenDown.crate).1.isOk = true ∧
      (∀ e ∈ aftermath.events, Returned e.result) ∧
      ∀ r ∈ brokenDown.runs ++ Call.finalize.runs 3 brokenDown.crate, r.module.Rooted := by
  decide +kernel

theorem finalize_settles_recovered :
    History {} brokenDown ∧ brokenDown.events.any Event.finalizes = false ∧
      outcome (finalize 3) brokenDown.crate = (.ok (), recovered) ∧ History recovered aftermath ∧
      (∀ r ∈ brokenDown.runs ++ Call.finalize.runs 3 brokenDown.crate, r.module.Rooted) ∧
      Settled brokenDown.runs (Call.finalize.runs 3 brokenDown.crate) aftermath.runs recovered
        aftermath.crate := by
  obtain ⟨hbefore, hfirst, hok, hafter, hrooted⟩ := recovered_checked
  have hbefore := History.perform 3 _ {} hbefore
  have hafter := History.perform 3 _ recovered hafter
  have hfinalize : outcome (finalize 3) brokenDown.crate = (.ok (), recovered) := by
    unfold recovered
    cases h : outcome (finalize 3) brokenDown.crate with
    | mk result c =>
      rw [h] at hok
      cases result with
      | error e => cases hok
      | ok u => rfl
  exact ⟨hbefore, hfirst, hfinalize, hafter, hrooted,
    finalize_settles hbefore hfirst hfinalize hafter hrooted⟩

def lateModule : Module :=
  (Module.named "late" .exported).asInline

def belated : Log :=
  perform 2
    [.write .root (.depend (.inline brokenItem)), .finalize, .finalize,
      .write lateModule (.line "pub struct Late;"), .finalize] {}

/-- An item that failed is not run again, and a module that is written to after the crate was
finalized is left over: neither keeps a finalize from ending. -/
theorem finalize_misses_late :
    History {} belated ∧
      belated.events.map (·.result.isOk) = [true, false, true, true, true] ∧
      (∃ w ∈ belated.crate.writers, brokenItem.key ∈ w.dependencies.inline) ∧
      (∀ r ∈ belated.runs, r.key = some brokenItem.key → r.result.isOk = false) ∧
      belated.crate.renderAll =
        [("src/helpers.rs", "\n"), ("src/lib.rs", "pub(crate) mod helpers;\n")] ∧
      lateModule.fullPath ∈ belated.crate.inlineModules :=
  ⟨.perform 2 _ {} (by decide +kernel), by decide +kernel⟩

end Crate

end CrateGen
