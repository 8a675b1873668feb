import CrateGen.Proofs.Code.Content
import CrateGen.Proofs.Code.Finalize
import CrateGen.Proofs.Code.Passage
import Mathlib.Data.List.Induction

namespace CrateGen

open CrateGen.Action

theorem Code.run_extends (fuel : Nat) (code : Code) (w : Writer) :
    w.Extends (outcome (code.run fuel) w).2 :=
  run_progress Writer.extends_progress fuel code w

theorem Dependencies.content_key (key : String) : Content fun ds => key ∈ ds.inline where
  empty := Std.ExtTreeMap.not_mem_empty
  merge := SortedMap.mem_foldl_insertIfNew

namespace Crate

variable {c c' c'' : Crate} {m : Module} {code : Code} {fuel : Nat}

/-! ## What writers hold stays -/

/-- No writer is lost, and what it holds stays. -/
structure Grows (c c' : Crate) : Prop where
  rest : ∃ files inlineModules, c' = { c with files, inlineModules }
  file : ∀ {path : String} {w : Writer}, c.files[path]? = some w →
    ∃ w', c'.files[path]? = some w' ∧ w.Extends w'
  inline : ∀ {path : String} {m : Module} {w : Writer}, c.inlineModules[path]? = some (m, w) →
    ∃ w', c'.inlineModules[path]? = some (m, w') ∧ w.Extends w'

namespace Grows

theorem refl (c : Crate) : c.Grows c where
  rest := ⟨_, _, rfl⟩
  file hw := ⟨_, hw, .refl _⟩
  inline hw := ⟨_, hw, .refl _⟩

theorem trans (h : c.Grows c') (h' : c'.Grows c'') : c.Grows c'' where
  rest := by
    obtain ⟨_, _, rfl⟩ := h.rest
    obtain ⟨_, _, rfl⟩ := h'.rest
    exact ⟨_, _, rfl⟩
  file hw := by
    obtain ⟨w', hw', hext⟩ := h.file hw
    obtain ⟨w'', hw'', hext'⟩ := h'.file hw'
    exact ⟨w'', hw'', hext.trans hext'⟩
  inline hw := by
    obtain ⟨w', hw', hext⟩ := h.inline hw
    obtain ⟨w'', hw'', hext'⟩ := h'.inline hw'
    exact ⟨w'', hw'', hext.trans hext'⟩

theorem openFile (c : Crate) (m : Module) : c.Grows (c.openFile m) := by
  have hopen := Opens.openFile c m
  obtain ⟨files, hrest⟩ := hopen.rest
  constructor
  · exact ⟨files, c.inlineModules, hrest⟩
  · intro path w hw
    obtain ⟨modules, hw'⟩ := hopen.kept hw
    refine ⟨_, hw', ?_⟩
    refine openChain_files (P := fun path w' => ∀ {w}, c.files[path]? = some w → w.Extends w')
      ?_ ?_ ?_ m.fileChain hw' hw
    · intro path w hw w' hw'
      rw [hw] at hw'
      cases hw'
      exact .refl w
    · intro m' hm' w hw
      exact absurd (SortedMap.mem_iff.mpr ⟨w, hw⟩) hm'
    · intro path w' m' hext w hw
      exact (hext hw).trans (.declare w' m')
  · intro path m' w hw
    rw [hrest]
    exact ⟨w, hw, .refl w⟩

theorem insertFile {path : String} {w w' : Writer} (hw : c.files[path]? = some w)
    (h : w.Extends w') : c.Grows { c with files := c.files.insert path w' } where
  rest := ⟨_, _, rfl⟩
  file {path' v} hv := by
    by_cases heq : path' = path
    · subst heq
      rw [hw] at hv
      cases hv
      exact ⟨w', Std.ExtTreeMap.getElem?_insert_self, h⟩
    · exact ⟨v, (SortedMap.getElem?_insert_ne _ _ heq).trans hv, .refl v⟩
  inline hw := ⟨_, hw, .refl _⟩

theorem insertInline (c : Crate) (m : Module) {w : Writer} (h : (c.inlineEntry m).2.Extends w) :
    c.Grows { c with
      inlineModules := c.inlineModules.insert m.fullPath ((c.inlineEntry m).1, w) } where
  rest := ⟨_, _, rfl⟩
  file hw := ⟨_, hw, .refl _⟩
  inline {path m' v} hv := by
    by_cases heq : path = m.fullPath
    · subst heq
      unfold inlineEntry at h ⊢
      rw [hv] at h ⊢
      exact ⟨w, Std.ExtTreeMap.getElem?_insert_self, h⟩
    · exact ⟨v, (SortedMap.getElem?_insert_ne _ _ heq).trans hv, .refl v⟩

theorem write (fuel : Nat) (m : Module) (code : Code) (c : Crate) :
    c.Grows (outcome (write fuel m code) c).2 := by
  have hrun := code.run_extends fuel (c.target m)
  cases hm : m.isInline with
  | false =>
    rw [write_file fuel code c hm]
    exact (openFile c m).trans (insertFile (c.openFile_target hm) hrun)
  | true =>
    have hopen := openFile c m.fileOwner
    rcases write_inline_cases fuel code c hm with hok | ⟨e, herror⟩
    · obtain ⟨files, hrest⟩ := (Opens.openFile c m.fileOwner).rest
      rw [target_inline c hm] at hrun
      rw [hok, target_inline c hm]
      rw [hrest] at hopen ⊢
      exact hopen.trans (insertInline { c with files } m hrun)
    · rw [herror]
      exact hopen

end Grows

theorem write_modules {path : String} {m' : Module} {w' : Writer}
    (h : (outcome (write fuel m code) c).2.inlineModules[path]? = some (m', w')) :
    path = m.fullPath ∧ m' = m ∨ ∃ w, c.inlineModules[path]? = some (m', w) := by
  cases hm : m.isInline with
  | false =>
    obtain ⟨files, hrest⟩ := (Opens.openFile c m).rest
    rw [write_file fuel code c hm, hrest] at h
    exact .inr ⟨w', h⟩
  | true =>
    obtain ⟨files, hrest⟩ := (Opens.openFile c m.fileOwner).rest
    rcases write_inline_cases fuel code c hm with hok | ⟨e, herror⟩
    · rw [hok] at h
      rcases SortedMap.getElem?_insert_eq_some.mp h with ⟨rfl, hentry⟩ | ⟨-, hold⟩
      · cases hentry
        rcases c.inlineEntry_cases m with ⟨-, hnew⟩ | hknown
        · exact .inl ⟨rfl, congrArg Prod.fst hnew⟩
        · exact .inr ⟨_, hknown⟩
      · exact .inr ⟨w', hold⟩
    · rw [herror, hrest] at h
      exact .inr ⟨w', h⟩

theorem exists_written (fuel : Nat) (code : Code) (c : Crate) (hm : m.isInline = true)
    (hr : m.Rooted) :
    ∃ m' w, (outcome (write fuel m code) c).2.inlineModules[m.fullPath]? = some (m', w) := by
  rw [write_inline fuel code hm (openInline_ok _ hr)]
  exact ⟨_, _, Std.ExtTreeMap.getElem?_insert_self⟩

/-! ## What is run -/

/-- Code that was run on the writer of a module. -/
structure Run where
  /-- The key of the inline item that the code is of, if it is the code of one. -/
  key : Option String
  module : Module
  code : Code
  before : Crate
  result : Except Halt Unit
  after : Crate

def Run.of (fuel : Nat) (key : Option String) (m : Module) (code : Code) (c : Crate) : Run where
  key := key
  module := m
  code := code
  before := c
  result := (outcome (write fuel m code) c).1
  after := (outcome (write fuel m code) c).2

/-- The runs of inline items, in order; a failure is the last. -/
def itemRuns (fuel : Nat) : List (InlineItem Code) → Crate → List Run
  | [], _ => []
  | i :: rest, c =>
    .of fuel (some i.key) i.module i.code (c.marked i) ::
      match outcome (write fuel i.module i.code) (c.marked i) with
      | (.ok _, c') => itemRuns fuel rest c'
      | (.error _, _) => []

/-- The runs of pending items, round after round. -/
def pendingRuns (fuel : Nat) : Nat → Crate → List Run
  | 0, _ => []
  | rounds + 1, c =>
    if c.pending.isEmpty then []
    else
      itemRuns fuel c.pending c ++
        match outcome (renderItems fuel c.pending) c with
        | (.ok _, c') => pendingRuns fuel rounds c'
        | (.error _, _) => []

section

variable {i : InlineItem Code} {todo : List (InlineItem Code)} {e : Halt}

theorem renderItems_cons (fuel : Nat) (i : InlineItem Code) (todo : List (InlineItem Code))
    (c : Crate) :
    outcome (renderItems fuel (i :: todo)) c =
      outcome (write fuel i.module i.code >>= fun _ => renderItems fuel todo) (c.marked i) :=
  outcome_bind_ok (outcome_modify _ _)

theorem itemRuns_ok (h : outcome (write fuel i.module i.code) (c.marked i) = (.ok (), c')) :
    itemRuns fuel (i :: todo) c =
      .of fuel (some i.key) i.module i.code (c.marked i) :: itemRuns fuel todo c' := by
  rw [itemRuns, h]

theorem itemRuns_error
    (h : outcome (write fuel i.module i.code) (c.marked i) = (.error e, c')) :
    itemRuns fuel (i :: todo) c = [.of fuel (some i.key) i.module i.code (c.marked i)] := by
  rw [itemRuns, h]

theorem pendingRuns_done {rounds : Nat} (h : c.pending = []) :
    pendingRuns fuel (rounds + 1) c = [] := by
  rw [pendingRuns, h]
  rfl

theorem pendingRuns_round {rounds : Nat} (h : c.pending ≠ []) :
    pendingRuns fuel (rounds + 1) c = itemRuns fuel c.pending c ++
      match outcome (renderItems fuel c.pending) c with
      | (.ok _, c') => pendingRuns fuel rounds c'
      | (.error _, _) => [] := by
  rw [pendingRuns, if_neg fun hempty => h (List.isEmpty_iff.mp hempty)]

/-- Where no failure ends the rendering, no run failed. -/
theorem itemRuns_succeed (h : outcome (renderItems fuel todo) c = (.ok (), c')) :
    ∀ r ∈ itemRuns fuel todo c, r.result = .ok () := by
  induction todo generalizing c with
  | nil => exact fun _ hr => (List.not_mem_nil hr).elim
  | cons i todo ih =>
    rw [renderItems_cons] at h
    obtain ⟨_, c₁, hw, hrest⟩ := outcome_bind_eq_ok.mp h
    rw [itemRuns_ok hw]
    intro r hr
    rcases List.mem_cons.mp hr with rfl | hr
    · exact congrArg Prod.fst hw
    · exact ih hrest r hr

theorem pendingRuns_succeed {rounds : Nat}
    (h : outcome (renderPending fuel rounds) c = (.ok (), c')) :
    ∀ r ∈ pendingRuns fuel rounds c, r.result = .ok () := by
  induction rounds generalizing c with
  | zero => exact fun _ hr => (List.not_mem_nil hr).elim
  | succ rounds ih =>
    by_cases hpending : c.pending = []
    · rw [pendingRuns_done hpending]
      exact fun _ hr => (List.not_mem_nil hr).elim
    · rw [renderPending_round fuel rounds hpending] at h
      obtain ⟨_, c₁, hitems, hrest⟩ := outcome_bind_eq_ok.mp h
      rw [pendingRuns_round hpending, hitems]
      intro r hr
      rcases List.mem_append.mp hr with hr | hr
      · exact itemRuns_succeed hitems r hr
      · exact ih hrest r hr

end

inductive Call where
  | write (m : Module) (code : Code)
  | finalize

namespace Call

def act (fuel : Nat) : Call → CrateM Unit
  | .write m code => Crate.write fuel m code
  | .finalize => Crate.finalize fuel

def runs (fuel : Nat) : Call → Crate → List Run
  | .write m code, c => [.of fuel none m code c]
  | .finalize, c => if c.finalized then [] else pendingRuns fuel fuel c

theorem runs_finalize (h : c.finalized = false) :
    finalize.runs fuel c = pendingRuns fuel fuel c := by
  unfold runs
  dsimp only
  rw [h, if_neg Bool.false_ne_true]

theorem runs_finalized (h : c.finalized = true) : finalize.runs fuel c = [] :=
  if_pos h

end Call

structure Event where
  call : Call
  result : Except Halt Unit

def Event.finalizes : Event → Bool
  | ⟨.finalize, .ok ()⟩ => true
  | _ => false

/-- A call ended or failed, and its code was not spliced too deeply for it. -/
def Returned : Except Halt Unit → Prop
  | .error .exhausted => False
  | _ => True

instance : (result : Except Halt Unit) → Decidable (Returned result)
  | .error .exhausted => isFalse id
  | .error (.failed _) => isTrue trivial
  | .ok () => isTrue trivial

/-- Calls, what they ran, and the crate after them. -/
structure Log where
  events : List Event
  runs : List Run
  crate : Crate

/-- A call goes on with what the one before it left, even if that failed. -/
def Log.call (fuel : Nat) (log : Log) (call : Call) : Log where
  events := log.events ++ [⟨call, (outcome (call.act fuel) log.crate).1⟩]
  runs := log.runs ++ call.runs fuel log.crate
  crate := (outcome (call.act fuel) log.crate).2

def perform (fuel : Nat) (calls : List Call) (c : Crate) : Log :=
  calls.foldl (·.call fuel) ⟨[], [], c⟩

/-- The log of calls on a crate, each with as much fuel as it takes. -/
inductive History (start : Crate) : Log → Prop
  | nil : History start ⟨[], [], start⟩
  | call {log : Log} {fuel : Nat} {call : Call} :
      History start log → Returned (outcome (call.act fuel) log.crate).1 →
        History start (log.call fuel call)

theorem History.perform (fuel : Nat) (calls : List Call) (start : Crate)
    (h : ∀ e ∈ (perform fuel calls start).events, Returned e.result) :
    History start (Crate.perform fuel calls start) := by
  induction calls using List.reverseRecOn with
  | nil => exact .nil
  | append_singleton calls call ih =>
    unfold Crate.perform at h ⊢
    rw [List.foldl_append] at h ⊢
    exact .call (ih fun e he => h e (List.mem_append_left _ he))
      (h _ (List.mem_append_right _ List.mem_cons_self))

/-! ## Every item is run once -/

def noted (c : Crate) (key : Option String) : Crate :=
  { c with rendered := c.rendered ++ key.toList }

/-- The crate, which was not finalized yet, knows which items were run, and its inline modules hold
what was written. -/
structure Tracks (runs : List Run) (c : Crate) : Prop where
  unfinished : c.finalized = false
  rendered : c.rendered = runs.filterMap (·.key)
  nodup : c.rendered.Nodup
  source : ∀ r ∈ runs, ∀ key, r.key = some key → ⟨key, r.module, r.code⟩ ∈ r.before.items
  keyed : c.All (Writer.RefersTo fun _ => True)
  inline : ∀ {path : String} {m : Module} {w : Writer}, c.inlineModules[path]? = some (m, w) →
    path = m.fullPath ∧ m.Rooted
  kept : ∀ r ∈ runs, r.module.isInline = true → ∃ m w w',
    r.after.inlineModules[r.module.fullPath]? = some (m, w) ∧
      c.inlineModules[r.module.fullPath]? = some (m, w') ∧ w.Extends w'

namespace Tracks

variable {runs : List Run} {key : Option String} {todo : List (InlineItem Code)}

theorem new (showsBanner debugMode : Bool) : Tracks [] { showsBanner, debugMode } where
  unfinished := rfl
  rendered := rfl
  nodup := .nil
  source _ hr := (List.not_mem_nil hr).elim
  keyed := .new showsBanner debugMode
  inline hw := by
    rw [Std.ExtTreeMap.getElem?_empty] at hw
    cases hw
  kept _ hr := (List.not_mem_nil hr).elim

theorem rooted (h : Tracks runs c) : Inlines.Rooted c.inlineModules :=
  fun _ _ _ hw => (h.inline hw).2

theorem run (h : Tracks runs c) (fuel : Nat) (key : Option String) (code : Code)
    (hkey : ∀ k, key = some k → ⟨k, m, code⟩ ∈ c.items ∧ k ∉ c.rendered) (hm : m.Rooted) :
    Tracks (runs ++ [Run.of fuel key m code (c.noted key)])
      (outcome (write fuel m code) (c.noted key)).2 := by
  have hgrows := Grows.write fuel m code (c.noted key)
  have hrendered : (outcome (write fuel m code) (c.noted key)).2.rendered =
      c.rendered ++ key.toList := by
    obtain ⟨_, _, hrest⟩ := hgrows.rest
    rw [hrest]
    rfl
  constructor
  · obtain ⟨_, _, hrest⟩ := hgrows.rest
    rw [hrest]
    exact h.unfinished
  · rw [hrendered, h.rendered, List.filterMap_append]
    cases key <;> rfl
  · rw [hrendered, List.nodup_append]
    refine ⟨h.nodup, ?_, ?_⟩
    · cases key with
      | none => exact .nil
      | some k => exact List.nodup_singleton k
    · rintro k hk k' hk' rfl
      exact (hkey k (Option.mem_toList.mp hk')).2 hk
  · intro r hr k hk
    rcases List.mem_append.mp hr with hold | hnew
    · exact h.source r hold k hk
    · cases List.mem_singleton.mp hnew
      exact (hkey k hk).1
  · have hkeyed : (c.noted key).All (Writer.RefersTo fun _ => True) :=
      ⟨h.keyed.files, h.keyed.inlineModules⟩
    exact hkeyed.written (Writer.RefersTo.inherent _) m fun hw => hw.run code.permitted_any fuel
  · intro path m' w hw
    rcases write_modules hw with ⟨rfl, rfl⟩ | ⟨w', hw'⟩
    · exact ⟨rfl, hm⟩
    · exact h.inline hw'
  · intro r hr hin
    rcases List.mem_append.mp hr with hold | hnew
    · obtain ⟨m', w, w', hafter, hc, hext⟩ := h.kept r hold hin
      obtain ⟨w'', hw'', hext'⟩ := hgrows.inline hc
      exact ⟨m', w, w'', hafter, hw'', hext.trans hext'⟩
    · cases List.mem_singleton.mp hnew
      obtain ⟨m', w, hw⟩ := exists_written fuel code (c.noted key) hin hm
      exact ⟨m', w, w, hw, hw, .refl w⟩

theorem runItems (h : Tracks runs c) (fuel : Nat) (hnodup : (todo.map (·.key)).Nodup)
    (hfresh : ∀ i ∈ todo, i ∈ c.items ∧ i.key ∉ c.rendered)
    (hrooted : ∀ r ∈ itemRuns fuel todo c, r.module.Rooted) :
    Tracks (runs ++ itemRuns fuel todo c) (outcome (renderItems fuel todo) c).2 := by
  induction todo generalizing runs c with
  | nil =>
    unfold itemRuns
    rw [List.append_nil]
    exact h
  | cons i todo ih =>
    obtain ⟨hkey, hnodup⟩ := List.nodup_cons.mp hnodup
    have hnew : ∀ k, some i.key = some k →
        ⟨k, i.module, i.code⟩ ∈ c.items ∧ k ∉ c.rendered := by
      rintro _ ⟨⟩
      exact hfresh i List.mem_cons_self
    have hstep := h.run fuel (some i.key) i.code hnew (hrooted _ List.mem_cons_self)
    change Tracks _ (outcome (write fuel i.module i.code) (c.marked i)).2 at hstep
    rw [renderItems_cons, outcome_bind]
    cases hw : outcome (write fuel i.module i.code) (c.marked i) with
    | mk result c₁ =>
      rw [hw] at hstep
      cases result with
      | error e =>
        rw [itemRuns_error hw]
        exact hstep
      | ok u =>
        rw [itemRuns_ok hw] at hrooted ⊢
        rw [List.append_cons]
        -- The keys of a round differ, so those that are left are still new.
        refine ih hstep hnodup ?_ fun r hr => hrooted r (List.mem_cons_of_mem _ hr)
        intro j hj
        have hi : c.Renders i c₁ := ⟨fuel, hw⟩
        obtain ⟨hmem, hunseen⟩ := hfresh j (List.mem_cons_of_mem _ hj)
        refine ⟨hi.items_grow hmem, ?_⟩
        rw [hi.rendered, List.mem_append, List.mem_singleton, not_or]
        exact ⟨hunseen, fun heq => hkey (List.mem_map.mpr ⟨j, hj, heq⟩)⟩

theorem runPending (h : Tracks runs c) (fuel rounds : Nat)
    (hrooted : ∀ r ∈ pendingRuns fuel rounds c, r.module.Rooted) :
    Tracks (runs ++ pendingRuns fuel rounds c) (outcome (renderPending fuel rounds) c).2 := by
  induction rounds generalizing runs c with
  | zero =>
    unfold pendingRuns
    rw [List.append_nil]
    exact h
  | succ rounds ih =>
    by_cases hpending : c.pending = []
    · rw [pendingRuns_done hpending, List.append_nil, renderPending_done fuel rounds hpending]
      exact h
    · rw [renderPending_round fuel rounds hpending, outcome_bind]
      rw [pendingRuns_round hpending] at hrooted ⊢
      have hitems := h.runItems fuel (c.pending_ascending.imp String.ne_of_lt)
        (fun _ hi => mem_pending hi) fun r hr => hrooted r (List.mem_append_left _ hr)
      cases hround : outcome (renderItems fuel c.pending) c with
      | mk result c₁ =>
        rw [hround] at hrooted hitems
        cases result with
        | error e =>
          rw [List.append_nil]
          exact hitems
        | ok u =>
          rw [← List.append_assoc]
          exact ih hitems fun r hr => hrooted r (List.mem_append_right _ hr)

/-- A finalize that fails has run pending items up to one that failed: embedding does not fail. -/
theorem finalize_failed (h : Tracks runs c)
    (hrooted : ∀ r ∈ pendingRuns fuel fuel c, r.module.Rooted) {result : Except Halt Unit}
    (hfinalize : outcome (finalize fuel) c = (result, c'))
    (hfailed : result ≠ .ok ()) : Tracks (runs ++ pendingRuns fuel fuel c) c' := by
  have htracks := h.runPending fuel fuel hrooted
  cases hrender : outcome (renderPending fuel fuel) c with
  | mk rendered c₁ =>
    rw [hrender] at htracks
    cases rendered with
    | error e =>
      unfold finalize at hfinalize
      rw [outcome_bind_ok (outcome_get c), h.unfinished, if_neg Bool.false_ne_true] at hfinalize
      rw [outcome_bind, hrender] at hfinalize
      cases hfinalize
      exact htracks
    | ok u =>
      -- The modules are all below the crate, so the finalize would have ended.
      obtain ⟨files, hembed⟩ := embedAll_ok htracks.rooted
      rw [outcome_finalize h.unfinished hrender hembed] at hfinalize
      exact absurd (congrArg Prod.fst hfinalize).symm hfailed

end Tracks

namespace History

variable {start : Crate} {log : Log}

/-- Until the crate is finalized it knows which items were run. -/
theorem tracks (h : History start log) (hstart : Tracks [] start)
    (hevents : log.events.any Event.finalizes = false)
    (hrooted : ∀ r ∈ log.runs, r.module.Rooted) : Tracks log.runs log.crate := by
  induction h with
  | nil => exact hstart
  | @call log fuel call _ _ ih =>
    unfold Log.call at hevents hrooted ⊢
    dsimp only at hevents hrooted ⊢
    rw [List.any_append, Bool.or_eq_false_iff] at hevents
    have htracks := ih hevents.1 fun r hr => hrooted r (List.mem_append_left _ hr)
    have hcall : ∀ r ∈ call.runs fuel log.crate, r.module.Rooted :=
      fun r hr => hrooted r (List.mem_append_right _ hr)
    cases call with
    | write m code =>
      have hstep := htracks.run fuel none code nofun (hcall _ List.mem_cons_self)
      have hnoted : log.crate.noted none = log.crate := by
        unfold noted
        rw [Option.toList_none, List.append_nil]
      rw [hnoted] at hstep
      exact hstep
    | finalize =>
      rw [Call.runs_finalize htracks.unfinished] at hcall ⊢
      have hfailed : (outcome (finalize fuel) log.crate).1 ≠ .ok () := by
        intro hok
        have hlast := hevents.2
        change [Event.mk .finalize (outcome (finalize fuel) log.crate).1].any _ = false at hlast
        rw [hok] at hlast
        cases hlast
      exact htracks.finalize_failed hcall rfl hfailed

/-- Calls on a crate that was finalized lose nothing of its files, and run no item. -/
theorem after (h : History c log) (hc : c.finalized = true) :
    c.Grows log.crate ∧ ∀ r ∈ log.runs, r.key = none := by
  induction h with
  | nil => exact ⟨.refl c, fun _ hr => (List.not_mem_nil hr).elim⟩
  | @call log fuel call _ _ ih =>
    obtain ⟨hgrows, hruns⟩ := ih
    have hfinalized : log.crate.finalized = true := by
      obtain ⟨_, _, hrest⟩ := hgrows.rest
      rw [hrest]
      exact hc
    cases call with
    | write m code =>
      refine ⟨hgrows.trans (.write fuel m code log.crate), ?_⟩
      intro r hr
      rcases List.mem_append.mp hr with hr | hr
      · exact hruns r hr
      · cases List.mem_singleton.mp hr
        rfl
    | finalize =>
      have hidle : (outcome (Call.finalize.act fuel) log.crate).2 = log.crate :=
        congrArg Prod.snd (outcome_finalize_of_finalized fuel hfinalized)
      unfold Log.call
      dsimp only
      rw [hidle, Call.runs_finalized hfinalized, List.append_nil]
      exact ⟨hgrows, hruns⟩

end History

end Crate

end CrateGen
