import CrateGen.Proofs.Json.Printed
import CrateGen.Proofs.Model.IdText
import Mathlib.Data.List.Perm.Subperm
import Mathlib.Data.List.Nodup

/-!
Settings that are written are read back. Fields that hold their defaults may be left out of the
written object and of the objects in it, and the fields may come in any order; what is read does
not change.
-/

namespace CrateGen

open Json

variable {k : String} {v : Value} {ms ds full short : List (String × Value)}

/-- The members of an object in any order, without some that are as in `defaults`. An object
among them that also has defaults may itself be without some of its members. -/
inductive Abridges :
    List (String × Value) → List (String × Value) → List (String × Value) → Prop where
  | nil {defaults : List (String × Value)} : Abridges defaults [] []
  | keep {defaults full short : List (String × Value)} (member : String × Value)
      (h : Abridges defaults full short) : Abridges defaults (member :: full) (member :: short)
  | drop {defaults full short : List (String × Value)} {member : String × Value}
      (hmem : member ∈ defaults) (h : Abridges defaults full short) :
      Abridges defaults (member :: full) short
  | within {defaults full short defaults' full' short' : List (String × Value)} {k : String}
      (hmem : (k, .object defaults') ∈ defaults) (hinner : Abridges defaults' full' short')
      (h : Abridges defaults full short) :
      Abridges defaults ((k, .object full') :: full) ((k, .object short') :: short)
  | reorder {defaults full short short' : List (String × Value)}
      (h : Abridges defaults full short) (hperm : short.Perm short') :
      Abridges defaults full short'

namespace Abridges

theorem refl (ds full : List (String × Value)) : Abridges ds full full := by
  induction full with
  | nil => exact .nil
  | cons member full ih => exact .keep member ih

theorem keys_subperm (h : Abridges ds full short) :
    (short.map Prod.fst).Subperm (full.map Prod.fst) := by
  induction h with
  | nil => exact .refl _
  | keep member _ ih => exact (List.subperm_cons _).mpr ih
  | drop _ _ ih => exact ih.trans (List.sublist_cons_self ..).subperm
  | within _ _ _ _ ih => exact (List.subperm_cons _).mpr ih
  | reorder _ hperm ih => exact (hperm.map _).symm.subperm.trans ih

theorem nodup_keys (h : Abridges ds full short) (hfull : (full.map Prod.fst).Nodup) :
    (short.map Prod.fst).Nodup := by
  obtain ⟨keys, hperm, hsub⟩ := h.keys_subperm
  exact hperm.nodup_iff.mp (hfull.sublist hsub)

/-- A member of a list as it is, or an object among them that has been abridged. -/
inductive Remains (ds full : List (String × Value)) (k : String) : Value → Prop where
  | whole {v : Value} (h : (k, v) ∈ full) : Remains ds full k v
  | object {defaults' full' short' : List (String × Value)}
      (hdefault : (k, .object defaults') ∈ ds) (hfull : (k, .object full') ∈ full)
      (hinner : Abridges defaults' full' short') : Remains ds full k (.object short')

theorem Remains.cons {member : String × Value} (h : Remains ds full k v) :
    Remains ds (member :: full) k v := by
  cases h with
  | whole h => exact .whole (List.mem_cons_of_mem _ h)
  | object hdefault hfull hinner => exact .object hdefault (List.mem_cons_of_mem _ hfull) hinner

theorem remains (h : Abridges ds full short) (hm : (k, v) ∈ short) :
    Remains ds full k v := by
  induction h with
  | nil => cases hm
  | keep member _ ih =>
    rcases List.mem_cons.mp hm with rfl | hm
    · exact .whole List.mem_cons_self
    · exact (ih hm).cons
  | drop _ _ ih => exact (ih hm).cons
  | within hmem hinner _ _ ih =>
    rcases List.mem_cons.mp hm with heq | hm
    · cases heq
      exact .object hmem List.mem_cons_self hinner
    · exact (ih hm).cons
  | reorder _ hperm ih => exact ih (hperm.mem_iff.mpr hm)

theorem mem_full (h : Abridges ds full short) (hm : (k, v) ∈ full) :
    k ∈ short.map Prod.fst ∨ (k, v) ∈ ds := by
  induction h with
  | nil => cases hm
  | keep member _ ih =>
    rcases List.mem_cons.mp hm with rfl | hm
    · exact .inl List.mem_cons_self
    · exact (ih hm).imp_left (List.mem_cons_of_mem _)
  | drop hmem _ ih =>
    rcases List.mem_cons.mp hm with rfl | hm
    · exact .inr hmem
    · exact ih hm
  | within _ _ _ _ ih =>
    rcases List.mem_cons.mp hm with heq | hm
    · cases heq
      exact .inl List.mem_cons_self
    · exact (ih hm).imp_left (List.mem_cons_of_mem _)
  | reorder _ hperm ih => exact (ih hm).imp_left (hperm.map Prod.fst).mem_iff.mp

theorem mem_defaults (h : Abridges ds full short) (hm : (k, v) ∈ full)
    (hno : k ∉ short.map Prod.fst) : (k, v) ∈ ds :=
  (h.mem_full hm).resolve_left hno

theorem isNumberless (h : Abridges ds full short)
    (hfull : membersNumberless full = true) : membersNumberless short = true := by
  induction h with
  | nil => rfl
  | keep member _ ih =>
    rw [membersNumberless, Bool.and_eq_true] at hfull ⊢
    exact hfull.imp_right ih
  | drop _ _ ih =>
    rw [membersNumberless, Bool.and_eq_true] at hfull
    exact ih hfull.2
  | within _ _ _ hinner ih =>
    rw [membersNumberless, Bool.and_eq_true] at hfull ⊢
    exact ⟨hinner hfull.1, ih hfull.2⟩
  | reorder _ hperm ih =>
    have hshort := membersNumberless_iff.mp (ih hfull)
    exact membersNumberless_iff.mpr fun member hm => hshort member (hperm.mem_iff.mpr hm)

end Abridges

/-! ## Reading the members of an object -/

namespace Settings

/-- Members that each fill a field of their own fill these fields. `draft keys` is what has been
read when the fields `keys` are filled. -/
theorem readObject_members {δ : Type} {put : δ → String → Document → Except Fault δ}
    {draft : List String → δ} (keys : List String)
    (hput : ∀ k v, (k, v) ∈ ms → ∀ keys, k ∉ keys →
      put (draft keys) k v.document = .ok (draft (k :: keys)))
    (hnodup : (ms.map Prod.fst).Nodup) (hfresh : ∀ k ∈ ms.map Prod.fst, k ∉ keys) :
    readObject put true (draft keys) (memberDocuments ms) =
      .ok (draft ((ms.map Prod.fst).reverse ++ keys)) := by
  induction ms generalizing keys with
  | nil => rfl
  | cons member ms ih =>
    obtain ⟨k, v⟩ := member
    rw [List.map_cons, List.nodup_cons] at hnodup
    rw [List.map_cons, List.forall_mem_cons] at hfresh
    rw [memberDocuments, readObject, hput k v List.mem_cons_self keys hfresh.1]
    have hrest := ih (k :: keys) (fun k' v' hm => hput k' v' (List.mem_cons_of_mem _ hm))
      hnodup.2 fun k' hk' hmem => by
        rcases List.mem_cons.mp hmem with rfl | hmem
        · exact hnodup.1 hk'
        · exact hfresh.2 k' hk' hmem
    rw [List.map_cons, List.reverse_cons, List.append_assoc]
    exact hrest

theorem readObject_abridged {δ : Type} {put : δ → String → Document → Except Fault δ}
    {draft : List String → δ} (h : Abridges ds full short) (hnodup : (full.map Prod.fst).Nodup)
    (hput : ∀ {k v keys}, Abridges.Remains ds full k v → k ∉ keys →
      put (draft keys) k v.document = .ok (draft (k :: keys))) :
    readObject put true (draft []) (memberDocuments short) =
      .ok (draft (short.map Prod.fst).reverse) := by
  have hread := readObject_members [] (fun k v hm keys hk => hput (h.remains hm) hk)
    (h.nodup_keys hnodup) nofun
  rw [List.append_nil] at hread
  exact hread

theorem getD_filled {α : Type} {a default : α} {p : Prop} [Decidable p] (h : ¬p → a = default) :
    (if p then some a else none).getD default = a := by
  by_cases hp : p
  · rw [if_pos hp, Option.getD_some]
  · rw [if_neg hp, Option.getD_none, h hp]

end Settings

open Settings (setOnce readObject readObject_abridged getD_filled)

namespace Target

theorem ofDocument_name (t : Target) : ofDocument (.string (some t.name)) = .ok t := by
  cases t <;> rfl

theorem name_inj {t t' : Target} (h : t.name = t'.name) : t = t' := by
  have hread := ofDocument_name t
  rw [h, ofDocument_name] at hread
  exact (Except.ok.inj hread).symm

end Target

namespace CodegenOptions

variable {o : CodegenOptions} {keys : List String}

def members (o : CodegenOptions) : List (String × Value) :=
  [("target", .string o.target.name), ("includeBanner", .boolean o.includeBanner),
   ("debugMode", .boolean o.debugMode)]

/-- What has been read of options when the fields `keys` are filled. -/
def draft (o : CodegenOptions) (keys : List String) : Draft where
  target := if "target" ∈ keys then some o.target else none
  includeBanner := if "includeBanner" ∈ keys then some o.includeBanner else none
  debugMode := if "debugMode" ∈ keys then some o.debugMode else none

theorem put_draft (h : Abridges.Remains ({} : CodegenOptions).members o.members k v)
    (hk : k ∉ keys) : (o.draft keys).put k v.document = .ok (o.draft (k :: keys)) := by
  cases h with
  | whole h =>
    simp only [members, List.mem_cons, Prod.mk.injEq, List.not_mem_nil, or_false] at h
    rcases h with ⟨rfl, rfl⟩ | ⟨rfl, rfl⟩ | ⟨rfl, rfl⟩
    · simp [draft, Draft.put, setOnce, hk, Value.document, Target.ofDocument_name]
    · simp [draft, Draft.put, setOnce, hk, Value.document, Document.asBoolean]
    · simp [draft, Draft.put, setOnce, hk, Value.document, Document.asBoolean]
  | object hdefault => simp [members] at hdefault

theorem ofDocument_abridged (h : Abridges ({} : CodegenOptions).members o.members short) :
    ofDocument (.object (memberDocuments short) true) = .ok o := by
  have hkeys : (o.members.map Prod.fst).Nodup := by
    change ["target", "includeBanner", "debugMode"].Nodup
    decide
  have hread := readObject_abridged h hkeys put_draft
  have hstart : o.draft [] = {} := rfl
  rw [hstart] at hread
  have htarget (hno : "target" ∉ short.map Prod.fst) : o.target = .client := by
    have hmem := h.mem_defaults (v := .string o.target.name) (by simp [members]) hno
    exact Target.name_inj (by simpa [members] using hmem)
  have hbanner (hno : "includeBanner" ∉ short.map Prod.fst) : o.includeBanner = true := by
    have hmem := h.mem_defaults (v := .boolean o.includeBanner) (by simp [members]) hno
    simpa [members] using hmem
  have hdebug (hno : "debugMode" ∉ short.map Prod.fst) : o.debugMode = false := by
    have hmem := h.mem_defaults (v := .boolean o.debugMode) (by simp [members]) hno
    simpa [members] using hmem
  rw [ofDocument, hread]
  simp only [draft, List.mem_reverse]
  refine congrArg Except.ok ?_
  rw [getD_filled htarget, getD_filled hbanner, getD_filled hdebug]

theorem members_inj {o' : CodegenOptions} (h : o.members = o'.members) : o = o' := by
  have hread := ofDocument_abridged (.refl _ o.members)
  rw [h, ofDocument_abridged (.refl _ _)] at hread
  exact (Except.ok.inj hread).symm

end CodegenOptions

namespace RuntimePackages

variable {r : RuntimePackages} {keys : List String}

def members (r : RuntimePackages) : List (String × Value) :=
  [("eventStreamCrate", .string r.eventStreamCrate), ("httpCrate", .string r.httpCrate),
   ("typesCrate", .string r.typesCrate), ("version", .string r.version)]

def draft (r : RuntimePackages) (keys : List String) : Draft where
  eventStreamCrate := if "eventStreamCrate" ∈ keys then some r.eventStreamCrate else none
  httpCrate := if "httpCrate" ∈ keys then some r.httpCrate else none
  typesCrate := if "typesCrate" ∈ keys then some r.typesCrate else none
  version := if "version" ∈ keys then some r.version else none

theorem put_draft (h : Abridges.Remains ({} : RuntimePackages).members r.members k v)
    (hk : k ∉ keys) : (r.draft keys).put k v.document = .ok (r.draft (k :: keys)) := by
  cases h with
  | whole h =>
    simp only [members, List.mem_cons, Prod.mk.injEq, List.not_mem_nil, or_false] at h
    rcases h with ⟨rfl, rfl⟩ | ⟨rfl, rfl⟩ | ⟨rfl, rfl⟩ | ⟨rfl, rfl⟩ <;>
      simp [draft, Draft.put, setOnce, hk, Value.document, Document.asString]
  | object hdefault => simp [members] at hdefault

theorem ofDocument_abridged (h : Abridges ({} : RuntimePackages).members r.members short) :
    ofDocument (.object (memberDocuments short) true) = .ok r := by
  have hkeys : (r.members.map Prod.fst).Nodup := by
    change ["eventStreamCrate", "httpCrate", "typesCrate", "version"].Nodup
    decide
  have hread := readObject_abridged h hkeys put_draft
  have hstart : r.draft [] = {} := rfl
  rw [hstart] at hread
  have hstream (hno : "eventStreamCrate" ∉ short.map Prod.fst) :
      r.eventStreamCrate = ({} : RuntimePackages).eventStreamCrate := by
    simpa [members] using h.mem_defaults (v := .string r.eventStreamCrate) (by simp [members]) hno
  have hhttp (hno : "httpCrate" ∉ short.map Prod.fst) :
      r.httpCrate = ({} : RuntimePackages).httpCrate := by
    simpa [members] using h.mem_defaults (v := .string r.httpCrate) (by simp [members]) hno
  have htypes (hno : "typesCrate" ∉ short.map Prod.fst) :
      r.typesCrate = ({} : RuntimePackages).typesCrate := by
    simpa [members] using h.mem_defaults (v := .string r.typesCrate) (by simp [members]) hno
  have hversion (hno : "version" ∉ short.map Prod.fst) :
      r.version = ({} : RuntimePackages).version := by
    simpa [members] using h.mem_defaults (v := .string r.version) (by simp [members]) hno
  rw [ofDocument, hread]
  simp only [draft, List.mem_reverse]
  refine congrArg Except.ok ?_
  rw [getD_filled hstream, getD_filled hhttp, getD_filled htypes, getD_filled hversion]

theorem members_inj {r' : RuntimePackages} (h : r.members = r'.members) : r = r' := by
  have hread := ofDocument_abridged (.refl _ r.members)
  rw [h, ofDocument_abridged (.refl _ _)] at hread
  exact (Except.ok.inj hread).symm

end RuntimePackages

namespace Settings

variable {s : Settings} {keys : List String}

def members (s : Settings) : List (String × Value) :=
  [("service", .string s.service.display), ("moduleName", .string s.moduleName),
   ("moduleVersion", .string s.moduleVersion)] ++
  (s.moduleDescription.map fun d => ("moduleDescription", Value.string d)).toList ++
  [("codegen", .object s.codegen.members), ("runtimeConfig", .object s.runtime.members)]

theorem toValue_eq (s : Settings) : s.toValue = .object s.members :=
  rfl

/-- The fields that can be left out, with the values that they have then. -/
def defaults : List (String × Value) :=
  [("moduleVersion", .string defaultVersion),
   ("codegen", .object ({} : CodegenOptions).members),
   ("runtimeConfig", .object ({} : RuntimePackages).members)]

theorem members_default (service : ShapeId) (moduleName : String) :
    ({ service, moduleName } : Settings).members =
      ("service", .string service.display) :: ("moduleName", .string moduleName) :: defaults :=
  rfl

def draft (s : Settings) (keys : List String) : Draft where
  service := if "service" ∈ keys then some s.service else none
  moduleName := if "moduleName" ∈ keys then some s.moduleName else none
  moduleVersion := if "moduleVersion" ∈ keys then some s.moduleVersion else none
  moduleDescription := if "moduleDescription" ∈ keys then some s.moduleDescription else none
  codegen := if "codegen" ∈ keys then some s.codegen else none
  runtime := if "runtimeConfig" ∈ keys then some s.runtime else none

theorem put_draft (hservice : s.service.Valid) (h : Abridges.Remains defaults s.members k v)
    (hk : k ∉ keys) : (s.draft keys).put k v.document = .ok (s.draft (k :: keys)) := by
  have hid := ShapeId.asShapeId_eq_ok.mpr ⟨hservice, rfl⟩
  have hcodegen {short : List (String × Value)}
      (h : Abridges ({} : CodegenOptions).members s.codegen.members short)
      (hk : "codegen" ∉ keys) : (s.draft keys).put "codegen" (Value.object short).document =
        .ok (s.draft ("codegen" :: keys)) := by
    simp [draft, Draft.put, setOnce, hk, Value.document, CodegenOptions.ofDocument_abridged h]
  have hruntime {short : List (String × Value)}
      (h : Abridges ({} : RuntimePackages).members s.runtime.members short)
      (hk : "runtimeConfig" ∉ keys) :
      (s.draft keys).put "runtimeConfig" (Value.object short).document =
        .ok (s.draft ("runtimeConfig" :: keys)) := by
    simp [draft, Draft.put, setOnce, hk, Value.document, RuntimePackages.ofDocument_abridged h]
  cases h with
  | whole hmem =>
    simp only [members, List.mem_append, List.mem_cons, Prod.mk.injEq, List.not_mem_nil, or_false,
      Option.mem_toList, Option.map_eq_some_iff] at hmem
    rcases hmem with ((⟨rfl, rfl⟩ | ⟨rfl, rfl⟩ | ⟨rfl, rfl⟩) | ⟨d, hd, rfl, rfl⟩) |
      ⟨rfl, rfl⟩ | ⟨rfl, rfl⟩
    · simp [draft, Draft.put, setOnce, hk, Value.document, hid]
    · simp [draft, Draft.put, setOnce, hk, Value.document, Document.asString]
    · simp [draft, Draft.put, setOnce, hk, Value.document, Document.asString]
    · simp [draft, Draft.put, setOnce, hk, Value.document, Document.asOptionalString,
        Document.asString, hd]
    · exact hcodegen (.refl _ _) hk
    · exact hruntime (.refl _ _) hk
  | @object defaults' full' short' hdefault hfull hinner =>
    simp only [defaults, List.mem_cons, Prod.mk.injEq, reduceCtorEq, and_false, Value.object.injEq,
      List.not_mem_nil, or_false, false_or] at hdefault
    rcases hdefault with ⟨rfl, rfl⟩ | ⟨rfl, rfl⟩
    · have hown : full' = s.codegen.members := by
        simpa [members] using hfull
      exact hcodegen (hown ▸ hinner) hk
    · have hown : full' = s.runtime.members := by
        simpa [members] using hfull
      exact hruntime (hown ▸ hinner) hk

theorem ofDocument_abridged (hservice : s.service.Valid)
    (h : Abridges defaults s.members short) :
    ofDocument (.object (memberDocuments short) true) = .ok s := by
  have hkeys : (s.members.map Prod.fst).Nodup := by
    rw [members]
    cases s.moduleDescription with
    | none =>
      change ["service", "moduleName", "moduleVersion", "codegen", "runtimeConfig"].Nodup
      decide
    | some d =>
      change ["service", "moduleName", "moduleVersion", "moduleDescription", "codegen",
        "runtimeConfig"].Nodup
      decide
  have hread := readObject_abridged h hkeys (put_draft hservice)
  have hstart : s.draft [] = {} := rfl
  rw [hstart] at hread
  have hid : "service" ∈ short.map Prod.fst := by
    by_contra hno
    simpa [defaults] using h.mem_defaults (v := .string s.service.display) (by simp [members]) hno
  have hname : "moduleName" ∈ short.map Prod.fst := by
    by_contra hno
    simpa [defaults] using h.mem_defaults (v := .string s.moduleName) (by simp [members]) hno
  have hversion (hno : "moduleVersion" ∉ short.map Prod.fst) :
      s.moduleVersion = defaultVersion := by
    simpa [defaults] using h.mem_defaults (v := .string s.moduleVersion) (by simp [members]) hno
  have hdescription (hno : "moduleDescription" ∉ short.map Prod.fst) :
      s.moduleDescription = none := by
    cases hd : s.moduleDescription with
    | none => rfl
    | some d => simpa [defaults] using h.mem_defaults (v := .string d) (by simp [members, hd]) hno
  have hcodegen (hno : "codegen" ∉ short.map Prod.fst) : s.codegen = {} := by
    have hmem := h.mem_defaults (v := .object s.codegen.members) (by simp [members]) hno
    exact CodegenOptions.members_inj (by simpa [defaults] using hmem)
  have hruntime (hno : "runtimeConfig" ∉ short.map Prod.fst) : s.runtime = {} := by
    have hmem := h.mem_defaults (v := .object s.runtime.members) (by simp [members]) hno
    exact RuntimePackages.members_inj (by simpa [defaults] using hmem)
  rw [ofDocument, hread]
  simp only [draft, List.mem_reverse, if_pos hid, if_pos hname]
  refine congrArg Except.ok ?_
  dsimp only
  rw [getD_filled hversion, getD_filled hdescription, getD_filled hcodegen, getD_filled hruntime]

theorem numberless_members (s : Settings) : membersNumberless s.members = true := by
  rw [members]
  cases s.moduleDescription <;> rfl

theorem read_abridged (hservice : s.service.Valid) (h : Abridges defaults s.members short) :
    read (.ofList (Value.object short).print) = .ok s := by
  have hdoc := Document.read_print (v := .object short) (h.isNumberless s.numberless_members)
  rw [read, String.toList_ofList, hdoc, Value.document]
  dsimp only
  rw [ofDocument_abridged hservice h]
  rfl

/-- Settings are read back from what is written of them, also when fields that hold their
defaults are left out of it. -/
theorem parse_serialize (hservice : ∃ raw, ShapeId.parse? raw = some s.service)
    (hname : Text.isBlankText s.moduleName = false)
    (hversion : Text.isBlankText s.runtime.version = false) :
    parse s.serialize = .ok s ∧
      ∀ full short, s.toValue = .object full → Abridges defaults full short →
        parse (.ofList (Value.object short).print) = .ok s := by
  obtain ⟨raw, hraw⟩ := hservice
  have hvalid : s.validate = .ok () := by
    rw [validate, hname, hversion]
    rfl
  have hparse {short : List (String × Value)} (h : Abridges defaults s.members short) :
      parse (.ofList (Value.object short).print) = .ok s := by
    rw [parse, read_abridged (ShapeId.parse?_eq_some.mp hraw).1 h]
    change (do s.validate; return s) = Except.ok s
    rw [hvalid]
    rfl
  refine ⟨hparse (.refl _ _), fun full short hfull h => ?_⟩
  rw [toValue_eq] at hfull
  cases hfull
  exact hparse h

/-- Settings with quotes, a control character and letters beyond ASCII, where two objects and a
member in each are as the defaults. -/
def escaped : Settings where
  service := .root "ns.weather" "Weather"
  moduleName := "weather-\"sdk\""
  moduleDescription := some "Wetter für Zürich\n\u0001"
  codegen := { target := .server }
  runtime := { httpCrate := "http-é", version := "1\\2" }

theorem parse_serialize_escaped :
    (∃ raw, ShapeId.parse? raw = some escaped.service) ∧
      Text.isBlankText escaped.moduleName = false ∧
      Text.isBlankText escaped.runtime.version = false ∧
      parse escaped.serialize = .ok escaped ∧
      parse (.ofList (Value.object
        [("runtimeConfig", .object [("version", .string "1\\2"), ("httpCrate", .string "http-é")]),
         ("codegen", .object [("target", .string "server"), ("debugMode", .boolean false)]),
         ("moduleDescription", .string "Wetter für Zürich\n\u0001"),
         ("moduleName", .string "weather-\"sdk\""),
         ("service", .string "ns.weather#Weather")]).print) = .ok escaped := by
  have hservice : ∃ raw, ShapeId.parse? raw = some escaped.service :=
    ⟨"ns.weather#Weather", by decide +kernel⟩
  have hname : Text.isBlankText escaped.moduleName = false := by decide +kernel
  have hversion : Text.isBlankText escaped.runtime.version = false := by decide +kernel
  have hcodegen : Abridges ({} : CodegenOptions).members escaped.codegen.members
      [("target", .string "server"), ("debugMode", .boolean false)] :=
    .keep _ (.drop (by simp [CodegenOptions.members, escaped]) (.keep _ .nil))
  have hruntime : Abridges ({} : RuntimePackages).members escaped.runtime.members
      [("version", .string "1\\2"), ("httpCrate", .string "http-é")] :=
    .reorder (.drop (by simp [RuntimePackages.members, escaped]) (.keep _
      (.drop (by simp [RuntimePackages.members, escaped]) (.keep _ .nil)))) (.swap ..)
  have hkept : Abridges defaults escaped.members
      [("service", .string escaped.service.display), ("moduleName", .string "weather-\"sdk\""),
       ("moduleDescription", .string "Wetter für Zürich\n\u0001"),
       ("codegen", .object [("target", .string "server"), ("debugMode", .boolean false)]),
       ("runtimeConfig",
         .object [("version", .string "1\\2"), ("httpCrate", .string "http-é")])] :=
    .keep _ (.keep _ (.drop (by simp [defaults, escaped, defaultVersion]) (.keep _
      (.within (by simp [defaults]) hcodegen (.within (by simp [defaults]) hruntime .nil)))))
  have hdisplay : escaped.service.display = "ns.weather#Weather" := by decide +kernel
  rw [hdisplay] at hkept
  obtain ⟨hwhole, habridged⟩ := parse_serialize hservice hname hversion
  exact ⟨hservice, hname, hversion, hwhole,
    habridged escaped.members _ rfl (.reorder hkept (List.reverse_perm _).symm)⟩

end Settings

end CrateGen
