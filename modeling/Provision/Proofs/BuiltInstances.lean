import Provision.Proofs.Orders
import Provision.Proofs.Utf8

/-!
# The instances that a deployment builds

Only planning resolves keys: it goes through the imports by alias and stops at the first one that it
does not get past (`Passes`). `Registry.Grows` is the invariant of this walk, which starts from a
registry in which nothing was built: every key that was resolved has one instance, and no other key
has any. From it `Builds` follows, which says for which keys a deployment builds instances.
-/

namespace Provision

variable {π : Type}

/-! ## Entries before an entry -/

namespace Table

variable {ν : Type} {t : Table ν} {name : String} {value : ν}

/-- Before an entry stand those whose names come before its name in the order of bytes. -/
theorem exists_split (h : t.get? name = some value) :
    ∃ before after, t.entries = before ++ (name, value) :: after ∧
      ∀ k v, (k, v) ∈ before ↔ t.get? k = some v ∧ Text.encode k < Text.encode name := by
  obtain ⟨before, after, heq⟩ := List.append_of_mem (get?_eq_some.1 h)
  have hascending := t.ascending
  unfold Ascending at hascending
  rw [heq, List.pairwise_append, List.pairwise_cons] at hascending
  obtain ⟨-, ⟨hafter, -⟩, hbefore⟩ := hascending
  refine ⟨before, after, heq, fun k v => ?_⟩
  rw [get?_eq_some, ← Text.lt_iff_encode_lt, heq]
  constructor
  · intro hk
    exact ⟨List.mem_append_left _ hk, hbefore _ hk _ List.mem_cons_self⟩
  · rintro ⟨hk, hlt⟩
    rcases List.mem_append.1 hk with hk | hk
    · exact hk
    rcases List.mem_cons.1 hk with hk | hk
    · obtain ⟨rfl, -⟩ := Prod.mk.inj hk
      exact absurd hlt (String.lt_irrefl k)
    · exact absurd (hafter _ hk) (String.lt_asymm hlt)

end Table

/-! ## What planning gets past -/

/-- There are no instances, whatever is registered. -/
def Registry.Fresh (g : Registry π) : Prop := ∀ key, g.instance? key = none

/-- Planning gets past the import: its provider is registered, and no parameter that its settings
refer to lacks a value. -/
structure Passes (g : Registry π) (p : Parameters) (i : ImportDeclaration) : Prop where
  registered : g.contains i.key = true
  filled : ∀ name, ¬ i.Lacks p name

/-- Why planning stops at the import. -/
inductive StopsPlanning (g : Registry π) (p : Parameters) (i : ImportDeclaration) :
    DeployFault → Prop
  | notFound (h : g.contains i.key = false) : StopsPlanning g p i (.provider (.notFound i.key))
  | lacking {name : String} (hr : g.contains i.key = true) (h : i.Lacks p name) :
    StopsPlanning g p i (.unknown name)

/-- The aliases have their instances and their settings. -/
structure Equips (t : Template) (p : Parameters) (h : Registry π)
    (imports : List (String × ResolvedImport π)) : Prop where
  /-- Every alias has the instance of its key and settings of its own. -/
  own : ∀ a i, t.imports.get? a = some i →
    ∃ x, findValue? a imports = some x ∧ Resolved p h i x
  /-- Aliases of one key share its instance. -/
  shared : ∀ a b i j x y, t.imports.get? a = some i → t.imports.get? b = some j → i.key = j.key →
    findValue? a imports = some x → findValue? b imports = some y → x.target = y.target

/-! ## Resolving keys -/

namespace Registry

/-- The registry `h` came from `g`, in which nothing was built, by building instances of some keys,
one of each. -/
structure Grows (g h : Registry π) (keys : List ProviderKey) : Prop where
  grown : g.Extends h
  built : h.built = g.built ++ keys
  once : keys.Nodup
  mem_iff : ∀ key, key ∈ keys ↔ (h.instance? key).isSome = true

section Growing

variable {g h : Registry π} {keys : List ProviderKey} {key : ProviderKey}

theorem fresh_empty : (∅ : Registry π).Fresh := fun _ => rfl

/-- Nothing is built when a factory is registered. -/
theorem Fresh.register (hg : g.Fresh) (key : ProviderKey) (factory : Nat → π) :
    (g.register key factory).Fresh := by
  intro k
  unfold instance?
  rw [get?_register]
  split_ifs
  · rfl
  · exact hg k

theorem Fresh.grows (hg : g.Fresh) : g.Grows g [] where
  grown := .refl g
  built := (List.append_nil _).symm
  once := List.nodup_nil
  mem_iff key := by rw [hg key]; simp

/-- Resolving a registered key builds an instance, unless it has one. -/
theorem Grows.resolve (hg : g.Grows h keys) (hc : g.contains key = true) :
    ∃ target h' keys', h.resolve key = (.ok target, h') ∧ g.Grows h' keys' ∧
      ∀ k, k ∈ keys' ↔ k ∈ keys ∨ k = key := by
  have hc' : h.contains key = true := (hg.grown.contains_eq key).trans hc
  obtain ⟨target, h', hr⟩ := resolve_of_contains hc'
  obtain ⟨hext, hinstance, -⟩ := resolve_ok hr
  rw [hr]
  refine ⟨target, h', ?_⟩
  rcases hk : h.registrations.get? key with _ | ⟨f, _ | i⟩
  · rw [resolve_of_missing hk] at hr
    cases hr
  · -- the instance is built now, so the key is none of those before
    have hnone : h.instance? key = none := by
      unfold instance?
      rw [hk]
      rfl
    have hnew : key ∉ keys := fun hmem => by
      have hsome := (hg.mem_iff key).1 hmem
      rw [hnone] at hsome
      cases hsome
    have hbuilt : h'.built = h.built ++ [key] := by
      rw [resolve_of_factory hk] at hr
      rw [← (Prod.mk.inj hr).2]
    refine ⟨keys ++ [key], rfl,
      { grown := hg.grown.trans hext
        built := by rw [hbuilt, hg.built, List.append_assoc]
        once := ?_
        mem_iff := fun k => ?_ }, fun k => by rw [List.mem_append, List.mem_singleton]⟩
    · exact List.nodup_append_comm.1 (List.nodup_cons.2 ⟨hnew, hg.once⟩)
    · rw [List.mem_append, List.mem_singleton, hg.mem_iff k]
      by_cases hkey : k = key
      · subst hkey
        rw [hinstance]
        exact iff_of_true (.inr rfl) rfl
      · have hsame : h'.instance? k = h.instance? k := by
          unfold instance?
          rw [← (show (h.resolve key).2 = h' by rw [hr]), get?_resolve_of_ne hkey]
        rw [hsame, or_iff_left hkey]
  · rw [resolve_of_instance hk] at hr
    obtain ⟨-, rfl⟩ := Prod.mk.inj hr
    have hkey : key ∈ keys := (hg.mem_iff key).2 (by rw [hinstance]; rfl)
    refine ⟨keys, rfl, hg, fun k => ⟨.inl, ?_⟩⟩
    rintro (hk | rfl)
    · exact hk
    · exact hkey

end Growing

end Registry

/-! ## Going through the imports -/

section Imports

variable {g h : Registry π} {p : Parameters} {keys : List ProviderKey}
  {before rest : List (String × ImportDeclaration)} {i : ImportDeclaration}

theorem exists_fillConfig (hi : ∀ name, ¬ i.Lacks p name) :
    ∃ config, Plan.fillConfig p i.config = .ok config := by
  cases hc : Plan.fillConfig p i.config with
  | ok config => exact ⟨config, rfl⟩
  | error f =>
    obtain ⟨name, hname, -⟩ := fillConfig_error hc
    exact absurd hname (hi name)

/-- Planning gets past one import after the other, and builds what they name. -/
theorem resolveImports_append (hpass : ∀ e ∈ before, Passes g p e.2) (hg : g.Grows h keys)
    (rest : List (String × ImportDeclaration)) :
    ∃ imports h' keys', g.Grows h' keys' ∧
      (∀ key, key ∈ keys' ↔ key ∈ keys ∨ ∃ e ∈ before, e.2.key = key) ∧
      Plan.resolveImports p (before ++ rest) h =
        ((Plan.resolveImports p rest h').1.map (imports ++ ·),
          (Plan.resolveImports p rest h').2) := by
  induction before generalizing h keys with
  | nil =>
    refine ⟨[], h, keys, hg, fun key => by simp, ?_⟩
    rw [List.nil_append]
    rcases Plan.resolveImports p rest h with ⟨f | imports, h'⟩ <;> rfl
  | cons e before ih =>
    obtain ⟨name, i⟩ := e
    obtain ⟨hregistered, hfilled⟩ := hpass _ List.mem_cons_self
    obtain ⟨target, h₁, keys₁, hr, hg₁, hkeys₁⟩ := hg.resolve hregistered
    obtain ⟨config, hc⟩ := exists_fillConfig hfilled
    obtain ⟨imports, h', keys', hg', hkeys', heq⟩ :=
      ih (fun e he => hpass e (List.mem_cons_of_mem _ he)) hg₁
    refine ⟨(name, ⟨target, config⟩) :: imports, h', keys', hg', fun key => ?_, ?_⟩
    · rw [hkeys', hkeys₁, or_assoc, List.exists_mem_cons_iff, eq_comm]
    · rw [List.cons_append, resolveImports_of_filled hr hc, heq]
      rcases Plan.resolveImports p rest h' with ⟨f | imports', h''⟩ <;> rfl

/-- Planning that does not get past an import stops there. Of the import that it stops at an
instance is built if the provider is registered. -/
theorem resolveImports_of_not_passes {a : String} (hi : ¬ Passes g p i) (hg : g.Grows h keys) :
    ∃ f h' keys', g.Grows h' keys' ∧
      (∀ key, key ∈ keys' ↔ key ∈ keys ∨ g.contains i.key = true ∧ i.key = key) ∧
      StopsPlanning g p i f ∧ Plan.resolveImports p ((a, i) :: rest) h = (.error f, h') := by
  cases hregistered : g.contains i.key with
  | false =>
    have hr : h.resolve i.key = (.error (.notFound i.key), h) := by
      refine Registry.resolve_of_missing (Registry.contains_eq_false.1 ?_)
      exact (hg.grown.contains_eq i.key).trans hregistered
    refine ⟨_, h, keys, hg, fun key => by simp, .notFound hregistered, ?_⟩
    rw [Plan.resolveImports, hr]
  | true =>
    obtain ⟨target, h', keys', hr, hg', hkeys'⟩ := hg.resolve hregistered
    cases hc : Plan.fillConfig p i.config with
    | ok config => exact absurd ⟨hregistered, not_lacks_of_fillConfig hc⟩ hi
    | error f =>
      obtain ⟨name, hname, rfl⟩ := fillConfig_error hc
      refine ⟨_, h', keys', hg', fun key => ?_, .lacking hregistered hname,
        resolveImports_of_unfilled hr hc⟩
      rw [hkeys', eq_comm]
      simp

/-- Planning gets past all imports of the list, or there is a first one that it stops at. -/
theorem passes_or_stops (g : Registry π) (p : Parameters)
    (entries : List (String × ImportDeclaration)) :
    (∀ e ∈ entries, Passes g p e.2) ∨
      ∃ before a i rest, entries = before ++ (a, i) :: rest ∧ (∀ e ∈ before, Passes g p e.2) ∧
        ¬ Passes g p i := by
  classical
  cases hf : entries.find? fun e => decide (¬ Passes g p e.2) with
  | none => exact .inl fun e he => by simpa using List.find?_eq_none.1 hf e he
  | some e =>
    obtain ⟨hno, before, rest, heq, hpass⟩ := List.find?_eq_some_iff_append.1 hf
    exact .inr ⟨before, e.1, e.2, rest, heq, fun e he => by simpa using hpass e he,
      of_decide_eq_true hno⟩

theorem resolveImports_through {entries : List (String × ImportDeclaration)} (hg : g.Fresh)
    (hpass : ∀ e ∈ entries, Passes g p e.2) :
    ∃ imports h keys, g.Grows h keys ∧ (∀ key, key ∈ keys ↔ ∃ e ∈ entries, e.2.key = key) ∧
      Plan.resolveImports p entries g = (.ok imports, h) := by
  obtain ⟨imports, h, keys, hgrows, hkeys, heq⟩ := resolveImports_append hpass hg.grows []
  rw [List.append_nil] at heq
  exact ⟨_, h, keys, hgrows, fun key => by simpa using hkeys key, heq⟩

theorem resolveImports_stopped {entries : List (String × ImportDeclaration)} {a : String}
    (hg : g.Fresh) (hentries : entries = before ++ (a, i) :: rest)
    (hpass : ∀ e ∈ before, Passes g p e.2) (hi : ¬ Passes g p i) :
    ∃ f h keys, g.Grows h keys ∧
      (∀ key, key ∈ keys ↔
        (∃ e ∈ before, e.2.key = key) ∨ g.contains i.key = true ∧ i.key = key) ∧
      StopsPlanning g p i f ∧ Plan.resolveImports p entries g = (.error f, h) := by
  obtain ⟨imports, h₁, keys₁, hgrows₁, hkeys₁, heq₁⟩ :=
    resolveImports_append hpass hg.grows ((a, i) :: rest)
  obtain ⟨f, h, keys, hgrows, hkeys, hstops, heq⟩ := resolveImports_of_not_passes hi hgrows₁
  refine ⟨f, h, keys, hgrows, fun key => ?_, hstops, ?_⟩
  · rw [hkeys, hkeys₁]
    simp
  · rw [hentries, heq₁, heq]
    rfl

/-- However planning goes through the imports, the registry grows. -/
theorem exists_grows (hg : g.Fresh) (p : Parameters)
    (entries : List (String × ImportDeclaration)) :
    ∃ keys, g.Grows (Plan.resolveImports p entries g).2 keys := by
  rcases passes_or_stops g p entries with hpass | ⟨before, a, i, rest, hentries, hpass, hno⟩
  · obtain ⟨imports, h, keys, hgrows, -, heq⟩ := resolveImports_through hg hpass
    rw [heq]
    exact ⟨keys, hgrows⟩
  · obtain ⟨f, h, keys, hgrows, -, -, heq⟩ := resolveImports_stopped hg hentries hpass hno
    rw [heq]
    exact ⟨keys, hgrows⟩

end Imports

/-! ## Deployments -/

/-- A deployment and the registry that it leaves. Planning resolves the keys of the imports; a run
has the instances that it was given and resolves none. -/
def Engine.deployKeeping {σ : Type} (mode : Mode) (g : Registry (Provider σ))
    (template parameters : String) (token : Cancellation) :
    StateM σ (Deployment σ × Registry (Provider σ)) :=
  match Plan.make mode template parameters g with
  | (.error f, h) => pure (.instantly token (.error f), h)
  | (.ok plan, h) => do
    let r ← Engine.run plan.steps token 0
    pure (.ofRun token plan.outputs r, h)

/-- What a deployment of a template builds. -/
structure Builds {σ : Type} (mode : Mode) (t : Template) (p : Parameters)
    (g h : Registry (Provider σ)) (d : Deployment σ) (keys : List ProviderKey) : Prop where
  /-- If planning gets past every import, an instance is built for each key that some import
  names, whether a resource uses the import or not. -/
  through : (∀ a i, t.imports.get? a = some i → Passes g p i) →
    (∀ key, key ∈ keys ↔ ∃ a i, t.imports.get? a = some i ∧ i.key = key) ∧
      ∃ imports, Plan.resolveImports p t.imports.entries g = (.ok imports, h) ∧
        Equips t p h imports
  /-- If planning stops at an import, instances are built for the aliases before it, and for its
  own key if this is registered. -/
  stopped : ∀ a i, t.imports.get? a = some i →
    (∀ b j, t.imports.get? b = some j → Text.encode b < Text.encode a → Passes g p j) →
    ¬ Passes g p i →
      (∀ key, key ∈ keys ↔
        (∃ b j, t.imports.get? b = some j ∧ Text.encode b < Text.encode a ∧ j.key = key) ∨
          g.contains i.key = true ∧ i.key = key) ∧
        d.calls = [] ∧ ∃ f, StopsPlanning g p i f ∧ d.result = .error f
  /-- Every call goes to the instance that its import has in the registry that is left. -/
  calls : ∀ c ∈ d.calls, ∃ r ∈ t.resources, StepFor mode t p h r c.step

section Deployments

variable {σ : Type} {mode : Mode} {g h : Registry (Provider σ)} {template parameters : String}
  {token : Cancellation} {s s' : σ} {d : Deployment σ} {t : Template} {p : Parameters}

theorem deployKeeping_eq : (Engine.deployKeeping mode g template parameters token).run s =
    ((((Engine.deploy mode g template parameters token).run s).1,
        (Plan.make mode template parameters g).2),
      ((Engine.deploy mode g template parameters token).run s).2) := by
  unfold Engine.deployKeeping
  rcases hm : Plan.make mode template parameters g with ⟨f | plan, h⟩
  · have hm' : (Plan.make mode template parameters g).1 = .error f := by rw [hm]
    rw [Engine.deploy_of_error hm']
    rfl
  · have hm' : (Plan.make mode template parameters g).1 = .ok plan := by rw [hm]
    rw [Engine.deploy_of_plan hm']
    rfl

/-- The fault of an import is that of the plan. -/
theorem make_of_unresolved {f : DeployFault}
    (hread : Plan.readDocuments template parameters = .ok (t, p))
    (hr : Plan.resolveImports p t.imports.entries g = (.error f, h)) :
    Plan.make mode template parameters g = (.error f, h) := by
  unfold Plan.make
  rw [hread]
  dsimp only
  rw [hr]

/-- Planning leaves the registry that going through the imports leaves. -/
theorem make_snd (hread : Plan.readDocuments template parameters = .ok (t, p)) :
    (Plan.make mode template parameters g).2 = (Plan.resolveImports p t.imports.entries g).2 := by
  unfold Plan.make
  rw [hread]
  dsimp only
  rcases Plan.resolveImports p t.imports.entries g with ⟨f | imports, h⟩ <;> rfl

theorem equips_of_resolveImports {imports : List (String × ResolvedImport (Provider σ))}
    (hr : Plan.resolveImports p t.imports.entries g = (.ok imports, h)) :
    Equips t p h imports := by
  obtain ⟨-, hall⟩ := resolveImports_ok hr
  have hown : ∀ a i, t.imports.get? a = some i →
      ∃ x, findValue? a imports = some x ∧ Resolved p h i x := by
    intro a i hi
    have hrel := findValue?_rel hall a
    rw [show findValue? a t.imports.entries = some i from hi] at hrel
    generalize findValue? a imports = found at hrel
    cases hrel with
    | some hx => exact ⟨_, rfl, hx⟩
  refine ⟨hown, fun a b i j x y hi hj hkey hx hy => ?_⟩
  obtain ⟨x', hx', hresolved⟩ := hown a i hi
  obtain ⟨y', hy', hresolved'⟩ := hown b j hj
  obtain rfl : x' = x := Option.some.inj (hx'.symm.trans hx)
  obtain rfl : y' = y := Option.some.inj (hy'.symm.trans hy)
  have htarget := hresolved.target
  rw [hkey, hresolved'.target] at htarget
  exact (Option.some.inj htarget).symm

/-- Every call of a deployment carries out a step of its plan. -/
theorem stepFor_of_mem_calls (hread : Plan.readDocuments template parameters = .ok (t, p))
    (hd : (Engine.deploy mode g template parameters token).run s = (d, s'))
    {c : StartedCall σ} (hc : c ∈ d.calls) :
    ∃ r ∈ t.resources, StepFor mode t p (Plan.make mode template parameters g).2 r c.step := by
  cases hm : (Plan.make mode template parameters g).1 with
  | error f =>
    rw [Engine.deploy_of_error hm] at hd
    obtain ⟨rfl, -⟩ := Prod.mk.inj hd
    cases hc
  | ok plan =>
    obtain ⟨t', p', hread', -, hsteps, -⟩ := make_ok hm
    obtain ⟨rfl, rfl⟩ := Prod.mk.inj (Except.ok.inj (hread'.symm.trans hread))
    rw [Engine.deploy_of_plan hm] at hd
    obtain ⟨rfl, -⟩ := Prod.mk.inj hd
    obtain ⟨later, heq⟩ := (Engine.runs_run plan.steps token 0 s).steps_eq
    refine exists_of_mem_of_forall₂ hsteps ?_
    rw [heq]
    exact List.mem_append_left _ (List.mem_map_of_mem hc)

theorem Registry.Grows.mem_congr {keys keys' : List ProviderKey} {key : ProviderKey}
    (hg : g.Grows h keys) (hg' : g.Grows h keys') : key ∈ keys ↔ key ∈ keys' :=
  (hg.mem_iff key).trans (hg'.mem_iff key).symm

/-- The instances that a deployment of a template builds. -/
theorem builds_of_grows {keys : List ProviderKey} (hg : g.Fresh)
    (hread : Plan.readDocuments template parameters = .ok (t, p))
    (hd : (Engine.deploy mode g template parameters token).run s = (d, s'))
    (hkeys : g.Grows (Plan.make mode template parameters g).2 keys) :
    Builds mode t p g (Plan.make mode template parameters g).2 d keys := by
  refine
    { through := fun hpass => ?_
      stopped := fun a i hi hpass hno => ?_
      calls := fun c hc => stepFor_of_mem_calls hread hd hc }
  · obtain ⟨imports, h, keys', hgrows, hkeys', hr⟩ := resolveImports_through hg
      fun e he => hpass e.1 e.2 (Table.get?_eq_some.2 he)
    have hm : (Plan.make mode template parameters g).2 = h := by rw [make_snd hread, hr]
    rw [hm] at hkeys ⊢
    refine ⟨fun key => ?_, imports, hr, equips_of_resolveImports hr⟩
    rw [hkeys.mem_congr hgrows, hkeys', Prod.exists]
    simp only [Table.get?_eq_some]
  · obtain ⟨before, after, hentries, hbefore⟩ := Table.exists_split hi
    have hpass' : ∀ e ∈ before, Passes g p e.2 := by
      intro e he
      obtain ⟨hj, hlt⟩ := (hbefore e.1 e.2).1 he
      exact hpass e.1 e.2 hj hlt
    obtain ⟨f, h, keys', hgrows, hkeys', hstops, hr⟩ :=
      resolveImports_stopped hg hentries hpass' hno
    have hm : Plan.make mode template parameters g = (.error f, h) := make_of_unresolved hread hr
    rw [Engine.deploy_of_error (congrArg Prod.fst hm)] at hd
    obtain ⟨rfl, -⟩ := Prod.mk.inj hd
    refine ⟨fun key => ?_, rfl, f, hstops, rfl⟩
    rw [hm] at hkeys
    rw [hkeys.mem_congr hgrows, hkeys', Prod.exists]
    simp only [hbefore, and_assoc]

/-- **The instances that a deployment builds.** However its run ends, a deployment calls no factory
of a registry twice in which nothing was built before (`Registry.Grows`), and it calls the factories
that `Builds` says; if its documents cannot be read it calls none. -/
theorem deploy_builds (hg : g.Fresh)
    (hd : (Engine.deployKeeping mode g template parameters token).run s = ((d, h), s')) :
    (Engine.deploy mode g template parameters token).run s = (d, s') ∧
      ∃ keys, g.Grows h keys ∧
        (∀ f, Plan.readDocuments template parameters = .error f → keys = [] ∧ h = g) ∧
        ∀ t p, Plan.readDocuments template parameters = .ok (t, p) →
          Builds mode t p g h d keys := by
  rw [deployKeeping_eq] at hd
  obtain ⟨hdh, rfl⟩ := Prod.mk.inj hd
  obtain ⟨rfl, rfl⟩ := Prod.mk.inj hdh
  refine ⟨rfl, ?_⟩
  cases hread : Plan.readDocuments template parameters with
  | error f =>
    have hm : Plan.make mode template parameters g = (.error f, g) := by
      unfold Plan.make
      rw [hread]
    rw [hm]
    exact ⟨[], hg.grows, fun _ _ => ⟨rfl, rfl⟩, fun _ _ h => nomatch h⟩
  | ok documents =>
    obtain ⟨t, p⟩ := documents
    obtain ⟨keys, hkeys⟩ := exists_grows hg p t.imports.entries
    rw [← make_snd hread] at hkeys
    refine ⟨keys, hkeys, nofun, fun t' p' h => ?_⟩
    obtain ⟨rfl, rfl⟩ := Prod.mk.inj (Except.ok.inj h)
    exact builds_of_grows hg hread rfl hkeys

end Deployments

/-- Three imports, of which two name one key and one is used by no resource. -/
def sharing : String :=
  "\x7b\"imports\":\x7b\"a\":\x7b\"provider\":\"P\",\"version\":\"1\"\x7d," ++
    "\"b\":\x7b\"provider\":\"P\",\"version\":\"1\",\"config\":\x7b\"k\":1\x7d\x7d," ++
    "\"c\":\x7b\"provider\":\"Q\",\"version\":\"1\"\x7d\x7d,\"resources\":[" ++
    "\x7b\"name\":\"x\",\"import\":\"a\",\"type\":\"T\"\x7d," ++
    "\x7b\"name\":\"y\",\"import\":\"b\",\"type\":\"T\"\x7d]\x7d"

/-- The registry of two providers that only read. -/
def twoReaders : Registry (Provider Unit) := readers.register ⟨"Q", "1"⟩ fun _ => .readOnly "Q"

/-- Both calls go to one instance, and there is one of the import that is not used. -/
theorem deploy_builds_sharing :
    twoReaders.Fresh ∧ ∃ d h s',
      (Engine.deployKeeping .normal twoReaders sharing "" .never).run () = ((d, h), s') ∧
        h.built = [⟨"P", "1"⟩, ⟨"Q", "1"⟩] ∧ d.calls.map (·.step.target.serial) = [1, 1] ∧
        ∃ t p keys, Plan.readDocuments sharing "" = .ok (t, p) ∧ twoReaders.Grows h keys ∧
          Builds .normal t p twoReaders h d keys := by
  have hfresh : twoReaders.Fresh := (Registry.fresh_empty.register _ _).register _ _
  have hrun : (Plan.readDocuments sharing "").isOk = true ∧
      ((Engine.deployKeeping .normal twoReaders sharing "" .never).run ()).1.2.built =
        [⟨"P", "1"⟩, ⟨"Q", "1"⟩] ∧
      ((Engine.deployKeeping .normal twoReaders sharing "" .never).run ()).1.1.calls.map
        (·.step.target.serial) = [1, 1] := by
    decide +kernel
  obtain ⟨hok, hbuilt, hserials⟩ := hrun
  rcases hd : (Engine.deployKeeping .normal twoReaders sharing "" .never).run () with ⟨⟨d, h⟩, s'⟩
  rw [hd] at hbuilt hserials
  obtain ⟨-, keys, hgrows, -, hbuilds⟩ := deploy_builds hfresh hd
  cases hread : Plan.readDocuments sharing "" with
  | error f =>
    rw [hread] at hok
    cases hok
  | ok documents =>
    obtain ⟨t, p⟩ := documents
    exact ⟨hfresh, d, h, s', rfl, hbuilt, hserials, t, p, keys, rfl, hgrows, hbuilds t p hread⟩

end Provision
