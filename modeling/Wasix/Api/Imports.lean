import Mathlib.Data.List.AList
import Mathlib.Data.List.Forall2
/-!
# Wasix — resolving a module's imports

An `Imports` object maps `(module, name)` keys to externs
(`HashMap<(String, String), Extern>`, modelled by its content, an `AList`).
`imports_for_module` walks the module's import list in order, pushing the
value found for each import, and returns the `UnknownImport` link error of
the first import it cannot find. The js and sys implementations differ
only in what they push: the extern itself, or its `to_export()`; both are
`importsForModuleWith`, at `id` and at `toExport`.

`importsForModuleWith_resolves` is the loop's specification: `Ok` exactly
when every import is defined, with one value per import in the module's
order; otherwise the error names the first import that is missing.

An object is built by definitions: `extend` defines each entry another
object's iterator yields, `register_namespace` each pair of its contents
under one namespace. `extend_rightUnion` is the union law: whatever order
the other object's `HashMap` yields its entries in, `get_export` then finds
its binding where it has one and the old one elsewhere.
`registerNamespace_definesInOrder` is the last-one-wins law of a run of
definitions.

`contains_namespace` and `get_namespace_exports` read a whole namespace.
`namespaceExports_agree`: whatever order the map yields its entries in, the
two agree with each other and with `get_export`. `importsForModule_extend`
puts the union law and the loop's specification together: linked against
`a.extend(&b)`, a module's imports resolve to `b`'s externs first, then `a`'s.
-/

namespace Wasix

namespace Api

/-- An import a module declares (`ImportType`): its module, its name and its
type. -/
structure ImportType (Ty : Type) where
  module : String
  name : String
  ty : Ty

/-- `ImportError`; of its variants the modelled code builds `UnknownImport`. -/
inductive ImportError (Ty : Type)
  | unknownImport (ty : Ty)

/-- `LinkError`; of its variants the modelled code builds `Import`. -/
inductive LinkError (Ty : Type)
  | «import» (module name : String) (err : ImportError Ty)

/-- The import object (`Imports`). -/
structure Imports (Extern : Type) where
  map : AList fun _ : String × String => Extern

variable {Extern Ty α : Type}

namespace Imports

/-- `Imports::define`: `val` under `(ns, name)`, replacing what was there. -/
def define (self : Imports Extern) (ns name : String) (val : Extern) : Imports Extern :=
  ⟨self.map.insert (ns, name) val⟩

/-- `Imports::extend`: each `((ns, name), ext)` the iterator yields is
defined in turn. -/
def extend (self : Imports Extern) (iter : List ((String × String) × Extern)) : Imports Extern :=
  iter.foldl (fun acc p => acc.define p.1.1 p.1.2 p.2) self

/-- `Imports::register_namespace`: each `(name, extern_)` of `contents` is
inserted under `(ns, name)` in turn. -/
def registerNamespace (self : Imports Extern) (ns : String) (contents : List (String × Extern)) :
    Imports Extern :=
  contents.foldl (fun acc p => ⟨acc.map.insert (ns, p.1) p.2⟩) self

/-- The orders in which `(&self).into_iter()` may yield the entries: those of
a clone of the `HashMap`, which nothing fixes, so every order of them. -/
def IntoIter (self : Imports Extern) (it : List ((String × String) × Extern)) : Prop :=
  it.Perm (self.map.entries.map fun e => (e.1, e.2))

/-- `get_export`, with `conv` applied to what is found. -/
def getExportWith (conv : Extern → α) (self : Imports Extern) (ns name : String) : Option α :=
  (self.map.lookup (ns, name)).map conv

/-- The loop of `imports_for_module`, with `conv` applied to what is pushed:
`ret` holds what was pushed so far, and the first import not in the map
returns its error. -/
def importsForModuleLoop (conv : Extern → α) (self : Imports Extern) (ret : List α) :
    List (ImportType Ty) → Except (LinkError Ty) (List α)
  | [] => .ok ret
  | i :: rest =>
    match self.map.lookup (i.module, i.name) with
    | some imp => importsForModuleLoop conv self (ret ++ [conv imp]) rest
    | none => .error (.import i.module i.name (.unknownImport i.ty))

/-- `imports_for_module`, with `conv` applied to what is pushed. -/
def importsForModuleWith (conv : Extern → α) (self : Imports Extern)
    (module : List (ImportType Ty)) : Except (LinkError Ty) (List α) :=
  importsForModuleLoop conv self [] module

end Imports

namespace Js

/-- `Imports::get_export` of the js API: the extern. -/
def getExport (self : Imports Extern) (ns name : String) : Option Extern :=
  self.getExportWith id ns name

/-- `Imports::imports_for_module` of the js API: the externs. -/
def importsForModule (self : Imports Extern) (module : List (ImportType Ty)) :
    Except (LinkError Ty) (List Extern) :=
  self.importsForModuleWith id module

end Js

namespace Sys

/-- `Imports::get_export` of the sys API: the extern's `to_export()`. -/
def getExport {Export : Type} (toExport : Extern → Export) (self : Imports Extern)
    (ns name : String) : Option Export :=
  self.getExportWith toExport ns name

/-- `Imports::imports_for_module` of the sys API: the externs' `to_export()`. -/
def importsForModule {Export : Type} (toExport : Extern → Export) (self : Imports Extern)
    (module : List (ImportType Ty)) : Except (LinkError Ty) (List Export) :=
  self.importsForModuleWith toExport module

end Sys

namespace Imports

/-- `e` is the error for the first import of `module` missing from `self`. -/
def FirstUnknown (self : Imports Extern) (module : List (ImportType Ty)) (e : LinkError Ty) :
    Prop :=
  ∃ pre i post, module = pre ++ i :: post ∧ (∀ i' ∈ pre, (i'.module, i'.name) ∈ self.map) ∧
    (i.module, i.name) ∉ self.map ∧ e = .import i.module i.name (.unknownImport i.ty)

/-- What resolving `module` against `self` must give, `get` being the lookup
whose values are returned: `Ok` exactly when every import is defined, with
the values of the imports, in order and one per import; otherwise the error
for the first import that is not defined. -/
structure Resolves (self : Imports Extern) (get : String → String → Option α)
    (module : List (ImportType Ty)) (r : Except (LinkError Ty) (List α)) : Prop where
  ok_iff : (∃ v, r = .ok v) ↔ ∀ i ∈ module, (i.module, i.name) ∈ self.map
  ok : ∀ v, r = .ok v ↔ List.Forall₂ (fun i x => get i.module i.name = some x) module v
  error : ∀ e, r = .error e ↔ self.FirstUnknown module e

/-- `r` is `b` over `a` to the js `get_export`: `b`'s extern wherever `b`
has one, `a`'s elsewhere. -/
def RightUnion (a b r : Imports Extern) : Prop :=
  ∀ ns name, Js.getExport r ns name = (Js.getExport b ns name).or (Js.getExport a ns name)

/-- What `get_export`, reading through `conv`, finds in `r` once the pairs of
`contents` were defined under `ns` in `self` in order: under `(ns, name)` the
extern last paired with `name`, and under every other key what `self` had. -/
structure DefinesInOrder (conv : Extern → α) (self r : Imports Extern) (ns : String)
    (contents : List (String × Extern)) : Prop where
  last : ∀ pre name e post, contents = pre ++ (name, e) :: post → name ∉ post.map Prod.fst →
    r.getExportWith conv ns name = some (conv e)
  other : ∀ ns' name, (ns' = ns → name ∉ contents.map Prod.fst) →
    r.getExportWith conv ns' name = self.getExportWith conv ns' name

variable {conv : Extern → α} {self : Imports Extern}

/-- The loop's invariant on success: what it returns is `ret` followed by one
value per remaining import. -/
theorem importsForModuleLoop_eq_ok {ret v : List α} {module : List (ImportType Ty)} :
    importsForModuleLoop conv self ret module = .ok v ↔
      ∃ v', v = ret ++ v' ∧
        List.Forall₂ (fun i x => self.getExportWith conv i.module i.name = some x) module v' := by
  induction module generalizing ret with
  | nil => simp [importsForModuleLoop, eq_comm]
  | cons i rest ih =>
    simp only [importsForModuleLoop, List.forall₂_cons_left_iff, getExportWith]
    cases hi : self.map.lookup (i.module, i.name) with
    | none => simp
    | some imp =>
      simp only [ih, Option.map_some', Option.some.injEq]
      constructor
      · rintro ⟨v', rfl, h⟩
        exact ⟨conv imp :: v', by simp, conv imp, v', rfl, h, rfl⟩
      · rintro ⟨_, rfl, _, v', rfl, h, rfl⟩
        exact ⟨v', by simp, h⟩

/-- The loop's error is the one for the first import missing from the map. -/
theorem importsForModuleLoop_eq_error {ret : List α} {module : List (ImportType Ty)}
    {e : LinkError Ty} :
    importsForModuleLoop conv self ret module = .error e ↔ self.FirstUnknown module e := by
  induction module generalizing ret with
  | nil => simp [importsForModuleLoop, FirstUnknown]
  | cons i rest ih =>
    simp only [importsForModuleLoop]
    cases hi : self.map.lookup (i.module, i.name) with
    | none =>
      have hni : (i.module, i.name) ∉ self.map := AList.lookup_eq_none.1 hi
      refine ⟨fun h => ⟨[], i, rest, rfl, by simp, hni, by cases h; rfl⟩, ?_⟩
      rintro ⟨_ | ⟨p, pre⟩, i', post, heq, hpre, -, rfl⟩
      · cases heq; rfl
      · cases heq; exact absurd (hpre _ (List.mem_cons_self _ _)) hni
    | some imp =>
      have hi' : (i.module, i.name) ∈ self.map := AList.lookup_isSome.1 (by simp [hi])
      rw [ih]
      constructor
      · rintro ⟨pre, i', post, rfl, hpre, h⟩
        exact ⟨i :: pre, i', post, rfl, by simpa [hi'] using hpre, h⟩
      · rintro ⟨_ | ⟨p, pre⟩, i', post, heq, hpre, h, rfl⟩
        · cases heq; exact absurd hi' h
        · cases heq
          exact ⟨pre, i', post, rfl, fun x hx => hpre x (List.mem_cons_of_mem _ hx), h, rfl⟩

/-- **`imports_for_module` resolves as specified.** -/
theorem importsForModuleWith_resolves (conv : Extern → α) (self : Imports Extern)
    (module : List (ImportType Ty)) :
    self.Resolves (self.getExportWith conv) module (self.importsForModuleWith conv module) where
  ok v := by simp [importsForModuleWith, importsForModuleLoop_eq_ok]
  error e := importsForModuleLoop_eq_error
  ok_iff := by
    constructor
    · rintro ⟨v, hv⟩
      obtain ⟨v', -, h⟩ := importsForModuleLoop_eq_ok.1 hv
      refine ((List.forall₂_and_left _ _).1 (List.Forall₂.imp (fun i x hx => ⟨?_, hx⟩) h)).1
      obtain ⟨imp, himp, -⟩ := Option.map_eq_some'.1 hx
      exact AList.lookup_isSome.1 (by rw [himp]; rfl)
    · intro hall
      cases hr : self.importsForModuleWith conv module with
      | ok v => exact ⟨v, rfl⟩
      | error e =>
        obtain ⟨pre, i, post, rfl, -, hi, -⟩ := importsForModuleLoop_eq_error.1 hr
        exact absurd (hall i (by simp)) hi

/-- A definition is what `get_export` finds under its key afterwards. -/
theorem getExportWith_define (conv : Extern → α) (self : Imports Extern) (ns name : String)
    (val : Extern) : (self.define ns name val).getExportWith conv ns name = some (conv val) := by
  simp [define, getExportWith, AList.lookup_insert]

/-! ### Definitions in order -/

@[simp] theorem extend_nil : self.extend [] = self := rfl

@[simp] theorem extend_cons (p : (String × String) × Extern) (l : List ((String × String) × Extern)) :
    self.extend (p :: l) = (self.define p.1.1 p.1.2 p.2).extend l := rfl

theorem extend_append (l₁ l₂ : List ((String × String) × Extern)) :
    self.extend (l₁ ++ l₂) = (self.extend l₁).extend l₂ :=
  List.foldl_append _ _ _ _

/-- A key no entry names keeps its binding. -/
theorem lookup_extend_of_forall_ne {l : List ((String × String) × Extern)} {k : String × String}
    (h : ∀ p ∈ l, p.1 ≠ k) : (self.extend l).map.lookup k = self.map.lookup k := by
  induction l generalizing self with
  | nil => rfl
  | cons p l ih =>
    rw [extend_cons, ih fun q hq => h q (List.mem_cons_of_mem _ hq)]
    exact AList.lookup_insert_ne (h p (List.mem_cons_self _ _)).symm

/-- A key is bound to the last entry that names it. -/
theorem lookup_extend_last {l pre post : List ((String × String) × Extern)} {k : String × String}
    {e : Extern} (h : l = pre ++ (k, e) :: post) (hk : ∀ p ∈ post, p.1 ≠ k) :
    (self.extend l).map.lookup k = some e := by
  rw [h, extend_append, extend_cons, lookup_extend_of_forall_ne hk]
  exact AList.lookup_insert _

/-- `register_namespace` is `extend` over the contents put under `ns`. -/
theorem registerNamespace_eq_extend (ns : String) (contents : List (String × Extern)) :
    self.registerNamespace ns contents = self.extend (contents.map fun p => ((ns, p.1), p.2)) := by
  rw [extend, List.foldl_map]
  rfl

/-- **`extend` is a right-biased union.** Whatever order `b`'s map yields its
entries in, extending `a` by them leaves `b`'s binding wherever `b` has one
and `a`'s elsewhere: the keys of a map are distinct, so no order lets one
entry of `b` overwrite another. -/
theorem extend_rightUnion (a b : Imports Extern) {it : List ((String × String) × Extern)}
    (hit : b.IntoIter it) : a.RightUnion b (a.extend it) := by
  intro ns name
  simp only [Js.getExport, getExportWith, Option.map_id_fun, id]
  have hnd : (it.map Prod.fst).Nodup := by
    rw [(hit.map Prod.fst).nodup_iff, List.map_map]
    exact b.map.nodupKeys
  cases hb : b.map.lookup (ns, name) with
  | none =>
    rw [lookup_extend_of_forall_ne, Option.none_or]
    rintro p hp hpk
    obtain ⟨q, hq, rfl⟩ := List.mem_map.1 (hit.mem_iff.1 hp)
    exact AList.lookup_eq_none.1 hb (hpk ▸ AList.mem_keys.1 (List.mem_map_of_mem Sigma.fst hq))
  | some e =>
    have hmem : ((ns, name), e) ∈ it :=
      hit.mem_iff.2 (List.mem_map.2 ⟨⟨(ns, name), e⟩, AList.mem_lookup_iff.1 hb, rfl⟩)
    obtain ⟨pre, post, hsplit⟩ := List.append_of_mem hmem
    rw [hsplit, List.map_append, List.map_cons] at hnd
    have hpost : (ns, name) ∉ post.map Prod.fst := (List.nodup_cons.1 hnd.of_append_right).1
    rw [lookup_extend_last hsplit fun p hp hpk => hpost (hpk ▸ List.mem_map_of_mem Prod.fst hp),
      Option.or_some]

/-- **`register_namespace` is a run of definitions, the last one winning.** -/
theorem registerNamespace_definesInOrder (conv : Extern → α) (self : Imports Extern) (ns : String)
    (contents : List (String × Extern)) :
    self.DefinesInOrder conv (self.registerNamespace ns contents) ns contents where
  last pre name e post h hname := by
    set f : String × Extern → (String × String) × Extern := fun p => ((ns, p.1), p.2)
    have hsplit : contents.map f = pre.map f ++ ((ns, name), e) :: post.map f := by simp [h, f]
    rw [getExportWith, registerNamespace_eq_extend, lookup_extend_last hsplit]
    · rfl
    · simp only [List.mem_map, f]
      rintro _ ⟨p, hp, rfl⟩ hpn
      exact hname (List.mem_map.2 ⟨p, hp, congrArg Prod.snd hpn⟩)
  other ns' name h := by
    rw [getExportWith, getExportWith, registerNamespace_eq_extend, lookup_extend_of_forall_ne]
    simp only [List.mem_map]
    rintro _ ⟨p, hp, rfl⟩ hpn
    cases hpn
    exact h rfl (List.mem_map_of_mem _ hp)

end Imports

/-! ## Namespaces -/

namespace Imports

/-- `Imports::contains_namespace`: some key lies in the namespace `name`. -/
def containsNamespace (self : Imports Extern) (name : String) : Bool :=
  self.map.keys.any fun k => k.1 == name

/-- `Imports::get_namespace_exports`, with the map's entries taken in the order
`it` that `self.map.iter()` yields (one the map's `IntoIter` allows): the
`(name, extern)` pairs of the namespace `name`, collected into an `Exports`,
or `None` when there is none. Their names are distinct, so no pair of the
collection replaces another. -/
def getNamespaceExports (it : List ((String × String) × Extern)) (name : String) :
    Option (List (String × Extern)) :=
  match it.filterMap fun p => if p.1.1 == name then some (p.1.2, p.2) else none with
  | [] => none
  | ret => some ret

variable {self : Imports Extern} {it : List ((String × String) × Extern)}

/-- The pairs of a namespace, in any order of the map, are what `get_export`
finds in it. -/
theorem mem_namespace_iff (hit : self.IntoIter it) {ns n : String} {e : Extern} :
    (n, e) ∈ it.filterMap (fun p => if p.1.1 == ns then some (p.1.2, p.2) else none) ↔
      Js.getExport self ns n = some e := by
  simp only [List.mem_filterMap, hit.mem_iff, List.mem_map, Js.getExport, getExportWith,
    Option.map_id_fun, id]
  constructor
  · rintro ⟨_, ⟨⟨⟨ns', n'⟩, e'⟩, hmem, rfl⟩, h⟩
    simp only [beq_iff_eq, Option.ite_none_right_eq_some, Option.some.injEq, Prod.mk.injEq] at h
    obtain ⟨rfl, rfl, rfl⟩ := h
    exact AList.mem_lookup_iff.2 hmem
  · intro h
    exact ⟨((ns, n), e), ⟨_, AList.mem_lookup_iff.1 h, rfl⟩, by simp⟩

theorem filterMap_namespace_ne_nil (hit : self.IntoIter it) (ns : String) :
    it.filterMap (fun p => if p.1.1 == ns then some (p.1.2, p.2) else none) ≠ [] ↔
      self.containsNamespace ns = true := by
  rw [Ne, List.eq_nil_iff_forall_not_mem]
  simp only [not_forall, not_not, Prod.exists, mem_namespace_iff hit]
  simp only [containsNamespace, List.any_eq_true, beq_iff_eq, Prod.exists, Js.getExport,
    getExportWith, Option.map_id_fun, id]
  constructor
  · rintro ⟨n, e, h⟩
    exact ⟨ns, n, AList.mem_keys.2 (AList.lookup_isSome.1 (by rw [h]; rfl)), rfl⟩
  · rintro ⟨_, n, hk, rfl⟩
    obtain ⟨e, he⟩ := Option.isSome_iff_exists.1 (AList.lookup_isSome.2 (AList.mem_keys.1 hk))
    exact ⟨n, e, he⟩

end Imports

/-- **Both APIs resolve a module's imports as specified**, the js one with the
externs it finds, the sys one with their exports. -/
theorem importsForModule_js_sys {Export : Type} (toExport : Extern → Export)
    (self : Imports Extern) (module : List (ImportType Ty)) :
    self.Resolves (Js.getExport self) module (Js.importsForModule self module) ∧
      self.Resolves (Sys.getExport toExport self) module (Sys.importsForModule toExport self module) :=
  ⟨Imports.importsForModuleWith_resolves id self module,
    Imports.importsForModuleWith_resolves toExport self module⟩

/-- **How definitions combine.** After `a.extend(&b)`, the js `get_export`
finds `b`'s extern wherever `b` has one and `a`'s elsewhere, whatever order
`b`'s map yields its entries in. `register_namespace(ns, contents)`, in
either API, is the definitions of the pairs of `contents` under `ns` in
order: its `get_export` (the extern itself in js, `conv = id`, its export in
sys) finds the extern last paired with each name, and every other key as
before. -/
theorem extend_registerNamespace (a b : Imports Extern) (it : List ((String × String) × Extern))
    (hit : b.IntoIter it) (ns : String) (contents : List (String × Extern)) (conv : Extern → α) :
    a.RightUnion b (a.extend it) ∧
      a.DefinesInOrder conv (a.registerNamespace ns contents) ns contents :=
  ⟨Imports.extend_rightUnion a b hit, Imports.registerNamespace_definesInOrder conv a ns contents⟩

/-- **The namespace lookups agree with `get_export`.** Whatever order the
map yields its entries in, `get_namespace_exports(ns)` is `Some` exactly when
`contains_namespace(ns)` holds, and it holds `(name, extern)` exactly when
`get_export(ns, name)` finds `extern`. -/
theorem namespaceExports_agree (self : Imports Extern) {it : List ((String × String) × Extern)}
    (hit : self.IntoIter it) (ns : String) :
    (Imports.getNamespaceExports it ns).isSome = self.containsNamespace ns ∧
      ∀ n e, (n, e) ∈ (Imports.getNamespaceExports it ns).getD [] ↔ Js.getExport self ns n = some e := by
  have hne := Imports.filterMap_namespace_ne_nil hit ns
  unfold Imports.getNamespaceExports
  split
  next h =>
    refine ⟨(Bool.eq_false_iff.2 fun hc => hne.2 hc h).symm, fun n e => ?_⟩
    rw [← Imports.mem_namespace_iff hit, h]
    exact Iff.rfl
  next h => exact ⟨(hne.1 h).symm, fun n e => Imports.mem_namespace_iff hit⟩

/-- The `dog` namespace of an object holding `dog.happy` and `dog.small`, in
the order its map holds them. -/
theorem dog_namespace_exports :
    let imports : Imports Nat := ((⟨∅⟩ : Imports Nat).define "dog" "happy" 0).define "dog" "small" 1
    let it := imports.map.entries.map fun e => (e.1, e.2)
    imports.IntoIter it ∧
      ((Imports.getNamespaceExports it "dog").isSome = imports.containsNamespace "dog" ∧
        ∀ n e, (n, e) ∈ (Imports.getNamespaceExports it "dog").getD [] ↔
          Js.getExport imports "dog" n = some e) := by
  intro imports it
  exact ⟨List.Perm.refl _, namespaceExports_agree imports (List.Perm.refl _) "dog"⟩

/-- A key is in `a` extended by `b`'s entries exactly when it is in `b` or in `a`. -/
theorem Imports.mem_extend (a b : Imports Extern) {it : List ((String × String) × Extern)}
    (hit : b.IntoIter it) (k : String × String) :
    k ∈ (a.extend it).map ↔ k ∈ b.map ∨ k ∈ a.map := by
  have h := Imports.extend_rightUnion a b hit k.1 k.2
  simp only [Js.getExport, Imports.getExportWith, Option.map_id_fun, id, Prod.mk.eta] at h
  simp only [← AList.lookup_isSome, h, Option.isSome_or, Bool.or_eq_true]

/-- **Linking against `a.extend(&b)`.** Whatever order `b`'s map yields its
entries in, the js `imports_for_module` on `a` extended by them resolves as
specified, each import to `b`'s extern where `b` defines it and to `a`'s
elsewhere; the keys it finds are those of `b` and of `a`. -/
theorem importsForModule_extend (a b : Imports Extern) {it : List ((String × String) × Extern)}
    (hit : b.IntoIter it) (module : List (ImportType Ty)) :
    (a.extend it).Resolves (fun ns n => (Js.getExport b ns n).or (Js.getExport a ns n)) module
        (Js.importsForModule (a.extend it) module) ∧
      ∀ k, k ∈ (a.extend it).map ↔ k ∈ b.map ∨ k ∈ a.map := by
  have hget : (fun ns n => (Js.getExport b ns n).or (Js.getExport a ns n)) =
      Js.getExport (a.extend it) :=
    funext fun ns => funext fun n => (Imports.extend_rightUnion a b hit ns n).symm
  rw [hget]
  exact ⟨Imports.importsForModuleWith_resolves id _ module, Imports.mem_extend a b hit⟩

/-- The objects of the `chaining_works` test, linked against a module that
imports `dog.happy` and `cat.small`. -/
theorem chained_module_links :
    let imports1 : Imports Nat := (⟨∅⟩ : Imports Nat).define "dog" "happy" 0
    let imports2 : Imports Nat := ((⟨∅⟩ : Imports Nat).define "dog" "small" 1).define "cat" "small" 2
    let it := imports2.map.entries.map fun e => (e.1, e.2)
    let module : List (ImportType Unit) := [⟨"dog", "happy", ()⟩, ⟨"cat", "small", ()⟩]
    imports2.IntoIter it ∧
      ((imports1.extend it).Resolves
          (fun ns n => (Js.getExport imports2 ns n).or (Js.getExport imports1 ns n)) module
          (Js.importsForModule (imports1.extend it) module) ∧
        ∀ k, k ∈ (imports1.extend it).map ↔ k ∈ imports2.map ∨ k ∈ imports1.map) := by
  intro imports1 imports2 it module
  exact ⟨List.Perm.refl _, importsForModule_extend imports1 imports2 (List.Perm.refl _) module⟩

/-- The objects of the `chaining_works` test with a collision added, both
defining `dog.small`, the second's entries yielded in reverse map order; and
`env` registered with `memory` twice. -/
theorem chaining_works_extend :
    let imports1 : Imports Nat := ((⟨∅⟩ : Imports Nat).define "dog" "happy" 0).define "dog" "small" 5
    let imports2 : Imports Nat := ((⟨∅⟩ : Imports Nat).define "dog" "small" 1).define "cat" "small" 2
    let it := (imports2.map.entries.map fun e => (e.1, e.2)).reverse
    let contents : List (String × Nat) := [("memory", 3), ("table", 4), ("memory", 6)]
    imports2.IntoIter it ∧ imports1.RightUnion imports2 (imports1.extend it) ∧
      imports1.DefinesInOrder id (imports1.registerNamespace "env" contents) "env" contents := by
  intro imports1 imports2 it contents
  exact ⟨List.reverse_perm _,
    extend_registerNamespace imports1 imports2 it (List.reverse_perm _) "env" contents id⟩

/-- The `chaining_works` test itself: all three imports are found. -/
example :
    let imports1 : Imports Nat := (⟨∅⟩ : Imports Nat).define "dog" "happy" 0
    let imports2 : Imports Nat := ((⟨∅⟩ : Imports Nat).define "dog" "small" 1).define "cat" "small" 2
    let r := imports1.extend (imports2.map.entries.map fun e => (e.1, e.2))
    Js.getExport r "cat" "small" = some 2 ∧ Js.getExport r "dog" "happy" = some 0 ∧
      Js.getExport r "dog" "small" = some 1 := by
  decide

/-- The collision resolved: `dog.small` is the second object's, and
`env.memory` the last one registered. -/
example :
    let imports1 : Imports Nat := ((⟨∅⟩ : Imports Nat).define "dog" "happy" 0).define "dog" "small" 5
    let imports2 : Imports Nat := ((⟨∅⟩ : Imports Nat).define "dog" "small" 1).define "cat" "small" 2
    let r := imports1.extend (imports2.map.entries.map fun e => (e.1, e.2)).reverse
    Js.getExport r "dog" "small" = some 1 ∧ Js.getExport r "dog" "happy" = some 0 ∧
      Js.getExport (imports1.registerNamespace "env" [("memory", 3), ("table", 4), ("memory", 6)])
        "env" "memory" = some 6 := by
  decide

end Api

end Wasix
