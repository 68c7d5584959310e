import Provision.Proofs.Orders

/-!
# Deployments in any order

A deployment does the same whatever the order of its dictionaries. Its plan is the same
(`makeIn_agree`), and with providers that look their settings up the runs of two plans that are the
same do the same (`Engine.run_reorders`). The one exception is the fault of an import whose settings
are missing several parameters: any of them may be reported, because any setting may come first
(`exists_makeIn_of_mayReport`).
-/

namespace Provision

/-! ## Providers in another order -/

section Targets

variable {σ : Type} {g : Registry (Provider σ)} {mode : Mode} {template parameters : String}

/-- The steps of a plan are asked of providers that look their settings up. -/
theorem orderless_of_makeIn (hg : g.Orderless) (o : Orders (Provider σ)) {plan : Plan (Provider σ)}
    (hm : (Plan.makeIn o mode template parameters g).1 = .ok plan) :
    ∀ x ∈ plan.steps, x.target.provider.Orderless := by
  rw [Plan.makeIn_fst] at hm
  obtain ⟨⟨t, p⟩, -, hm⟩ := bind_eq_ok.1 hm
  obtain ⟨imports, hr, hm⟩ := bind_eq_ok.1 hm
  obtain ⟨hext, hresolved⟩ := resolveImports_ok (Prod.ext hr rfl)
  obtain ⟨planned, hplanned, rfl⟩ := map_eq_ok.1 hm
  unfold Plan.ofImports at hplanned
  obtain ⟨steps, hsteps, hplanned⟩ := bind_eq_ok.1 hplanned
  obtain ⟨outputs, -, hplanned⟩ := bind_eq_ok.1 hplanned
  obtain rfl : ⟨steps, outputs⟩ = planned := Except.ok.inj hplanned
  have himports : ∀ i ∈ imports, i.2.target.provider.Orderless := by
    intro i hi
    obtain ⟨e, -, -, hres⟩ := exists_of_mem_of_forall₂ hresolved hi
    refine hext.of_instance? (fun registration hreg => ?_) hres.target
    rw [(o.registry_reorders g).registrations.get?] at hreg
    exact hg _ registration hreg
  intro x hx
  obtain ⟨y, hy, rfl⟩ := List.mem_map.1 hx
  obtain ⟨r, -, hr⟩ := exists_of_mem_of_forall₂ (mapM_eq_ok_iff.1 hsteps) hy
  rw [(o.step_reorders y).target]
  unfold Plan.step at hr
  cases hfind : findValue? r.importAlias (o.imports imports) with
  | none => simp [hfind] at hr
  | some i =>
    rw [hfind] at hr
    obtain ⟨properties, -, hr⟩ := bind_eq_ok.1 hr
    obtain rfl := Except.ok.inj hr
    obtain ⟨js, hperm, hall⟩ := o.imports_reorders imports
    obtain ⟨j, hj, -, hij⟩ := exists_of_mem_of_forall₂ hall (mem_of_findValue? hfind)
    show i.target.provider.Orderless
    rw [hij.target]
    exact himports j (hperm.mem_iff.2 hj)

end Targets

/-! ## Runs in another order -/

/-- The calls differ in nothing but the order of the settings in the request. -/
structure StartedCall.Reorders {σ : Type} (c c' : StartedCall σ) : Prop where
  step : c.step.Reorders c'.step
  start : c'.start = c.start
  call : c'.call = c.call

/-- The runs differ in nothing but the order of the settings in requests. -/
structure Run.Reorders {σ : Type} (r r' : Run σ) : Prop where
  calls : List.Forall₂ StartedCall.Reorders r.calls r'.calls
  ending : r'.ending = r.ending
  instant : r'.instant = r.instant
  tripped : r'.tripped = r.tripped

/-- The deployments differ in nothing but the order of the settings in requests. -/
structure Deployment.Reorders {σ : Type} (d d' : Deployment σ) : Prop where
  result : d'.result = d.result
  calls : List.Forall₂ StartedCall.Reorders d.calls d'.calls
  instant : d'.instant = d.instant
  cancelled : d'.cancelled = d.cancelled

section Running

variable {σ : Type} {x x' : Step (Provider σ)} {steps steps' : List (Step (Provider σ))}
  {r r' : Run σ}

/-- A provider that looks its settings up does the same for both steps. -/
theorem Step.Reorders.invoke (h : x.Reorders x') (ho : x.target.provider.Orderless) :
    x'.invoke = x.invoke := by
  unfold Step.invoke
  rw [h.operation, h.target]
  exact ho _ _ _ h.request

theorem Run.Reorders.after (h : r.Reorders r') (hx : x.Reorders x') (now : Nat) (call : Call)
    (record : Option OperationRecord) :
    (r.after ⟨x, now, call⟩ record).Reorders (r'.after ⟨x', now, call⟩ record) where
  calls := .cons ⟨hx, rfl, rfl⟩ h.calls
  ending := by
    unfold Run.after
    dsimp only
    rw [h.ending]
  instant := h.instant
  tripped := by
    unfold Run.after
    dsimp only
    rw [h.tripped]

/-- Two runs whose steps are the same but for the order of settings do the same in the same
world. -/
theorem Engine.run_reorders (h : List.Forall₂ Step.Reorders steps steps')
    (ho : ∀ x ∈ steps, x.target.provider.Orderless) :
    ∀ (token : Cancellation) (now : Nat) (s : σ),
      ((run steps token now).run s).1.Reorders ((run steps' token now).run s).1 ∧
        ((run steps' token now).run s).2 = ((run steps token now).run s).2 := by
  induction h with
  | nil => exact fun token now s => ⟨⟨.nil, rfl, rfl, rfl⟩, rfl⟩
  | @cons x x' steps steps' hx _ ih =>
    have ih := ih fun y hy => ho y (List.mem_cons_of_mem _ hy)
    intro token now s
    cases hh : token.holds now with
    | true =>
      rw [run_of_holds hh, run_of_holds hh]
      exact ⟨⟨.nil, rfl, rfl, rfl⟩, rfl⟩
    | false =>
      rcases hi : x.invoke.run s with ⟨call, s'⟩
      have hi' : x'.invoke.run s = (call, s') := by
        rw [hx.invoke (ho x List.mem_cons_self), hi]
      have hcall : StartedCall.Reorders ⟨x, now, call⟩ ⟨x', now, call⟩ := ⟨hx, rfl, rfl⟩
      rw [run_of_invoke hh hi, run_of_invoke hh hi', hx.name]
      cases givesUpAt call token now with
      | some instant => exact ⟨⟨.cons hcall .nil, rfl, rfl, rfl⟩, rfl⟩
      | none =>
        cases call.stop now with
        | none => exact ⟨⟨.cons hcall .nil, rfl, rfl, rfl⟩, rfl⟩
        | some stop =>
          cases record? x.name call.result with
          | none => exact ⟨⟨.cons hcall .nil, rfl, rfl, rfl⟩, rfl⟩
          | some record =>
            obtain ⟨hr, hs⟩ := ih (if call.trips then .already else token) stop s'
            exact ⟨hr.after hx now call (some record), hs⟩

theorem Run.Reorders.ofRun (h : r.Reorders r') (token : Cancellation)
    (outputs : Table DeploymentOutput) :
    (Deployment.ofRun token outputs r).Reorders (Deployment.ofRun token outputs r') where
  result := by
    unfold Deployment.ofRun
    dsimp only
    rw [h.ending]
  calls := h.calls
  instant := h.instant
  cancelled := by
    unfold Deployment.ofRun
    dsimp only
    rw [h.tripped, h.instant]

end Running

/-! ## Every missing parameter may be the one reported -/

section Fronts

variable {p : Parameters} {key name : String} {value : Json} {d : Dictionary String Json}

/-- The dictionary with the entry of a key before all others. -/
def Dictionary.front (key : String) (d : Dictionary String Json) : Dictionary String Json where
  entries := d.entries.filter (·.1 = key) ++ d.entries.filter (fun e => !decide (e.1 = key))
  distinct := ((List.filter_append_perm _ _).map Prod.fst).nodup_iff.2 d.distinct

theorem Dictionary.reorders_front (key : String) (d : Dictionary String Json) :
    d.Reorders (d.front key) := (List.filter_append_perm _ _).symm

theorem Dictionary.entries_front (h : (key, value) ∈ d.entries) :
    ∃ rest, (d.front key).entries = (key, value) :: rest := by
  have hget : (d.entries.filter (·.1 = key)).head?.map Prod.snd = some value := by
    rw [← findValue?_eq_filter]
    exact get?_eq_some.2 h
  show ∃ rest, d.entries.filter (·.1 = key) ++ d.entries.filter (fun e => !decide (e.1 = key)) = _
  cases hown : d.entries.filter (·.1 = key) with
  | nil => simp [hown] at hget
  | cons e rest =>
    have he : e ∈ d.entries.filter (·.1 = key) := hown ▸ List.mem_cons_self
    have hkey : e.1 = key := by simpa using (List.mem_filter.1 he).2
    have hvalue : e.2 = value := by simpa [hown] using hget
    exact ⟨_, by rw [← hkey, ← hvalue]; rfl⟩

/-- The import with the setting of a key before all others. -/
def ImportDeclaration.front (key : String) (i : ImportDeclaration) : ImportDeclaration :=
  { i with config := i.config.front key }

theorem ImportDeclaration.reorders_front (key : String) (i : ImportDeclaration) :
    i.Reorders (i.front key) := ⟨rfl, rfl, i.config.reorders_front key⟩

theorem fillConfig_front {i : ImportDeclaration} (h : (key, value) ∈ i.config.entries)
    (hname : p.firstUnknown? value = some name) :
    Plan.fillConfig p (i.front key).config = .error (.unknown name) := by
  obtain ⟨rest, hentries⟩ := Dictionary.entries_front h
  unfold Plan.fillConfig
  show ((i.config.front key).entries.mapM _ >>= _) = _
  rw [hentries, List.mapM_cons, fill_of_firstUnknown? hname]
  rfl

/-- An import at which planning stops is stopped at when one of its settings is moved, and the
parameter that this setting is missing is reported. -/
theorem resolveImports_front {π : Type} {g₀ : Registry π} {i : ImportDeclaration}
    {entries : List (String × ImportDeclaration)} (hstops : StopsAt p g₀ entries i)
    (h : (key, value) ∈ i.config.entries) (hname : p.firstUnknown? value = some name) :
    ∀ g : Registry π, (∀ k, g.contains k = g₀.contains k) →
      (Plan.resolveImports p (entries.map fun e => (e.1, e.2.front key)) g).1 =
        .error (.unknown name) := by
  induction hstops with
  | @here own _ i rest hkey _ =>
    intro g hg
    obtain ⟨target, k, hr⟩ : ∃ target k, g.resolve (i.front key).key = (.ok target, k) :=
      Registry.resolve_of_contains (by rw [(i.reorders_front key).key, hg, hkey])
    rw [List.map_cons, resolveImports_cons_fst _ _ _ hr, fillConfig_front h hname]
    rfl
  | @later own i j rest hkey hfilled _ ih =>
    intro g hg
    obtain ⟨target, k, hr⟩ : ∃ target k, g.resolve (i.front key).key = (.ok target, k) :=
      Registry.resolve_of_contains (by rw [(i.reorders_front key).key, hg, hkey])
    obtain ⟨hext, -, -⟩ := Registry.resolve_ok hr
    rw [List.map_cons, resolveImports_cons_fst _ _ _ hr]
    cases hf : Plan.fillConfig p (i.front key).config with
    | error f =>
      obtain ⟨missing, hm, -⟩ := fillConfig_error hf
      exact absurd ((i.reorders_front key).lacks_iff.1 hm) (hfilled missing)
    | ok config =>
      rw [ih h k fun key => (hext.contains_eq key).trans (hg key)]
      rfl

/-- The orders in which the setting of a key comes before all others. -/
def Orders.front (key : String) {π : Type} : Orders π :=
  { Orders.asBuilt with
    template := fun t => { t with imports := t.imports.map (ImportDeclaration.front key) }
    template_reorders := fun t => by
      refine ⟨?_, rfl, rfl, rfl⟩
      show List.Forall₂ _ t.imports.entries (t.imports.entries.map _)
      rw [List.forall₂_map_right_iff, List.forall₂_same]
      exact fun e _ => ⟨rfl, e.2.reorders_front key⟩ }

/-- Every parameter that may be reported is reported in some order. -/
theorem exists_makeIn_of_mayReport {π : Type} {g : Registry π} {template parameters : String}
    {i : ImportDeclaration} (h : Plan.MayReport template parameters g i name) (mode : Mode) :
    ∃ o, (Plan.makeIn o mode template parameters g).1 = .error (.unknown name) := by
  obtain ⟨t, p, hd, hstops, ⟨key, value⟩, he, hname⟩ := h
  have hresolve := resolveImports_front hstops he hname g fun _ => rfl
  refine ⟨.front key, ?_⟩
  rw [Plan.makeIn_fst, hd]
  show ((Plan.resolveImports p (t.imports.entries.map _) g).1 >>= _) = _
  rw [hresolve]
  rfl

end Fronts

/-! ## Deployments in another order -/

section Deploying

variable {σ : Type} {o : Orders (Provider σ)} {mode : Mode} {g : Registry (Provider σ)}
  {template parameters : String} {token : Cancellation}

/-- What is told of a deployment does not depend on the order of settings. -/
theorem Deployment.Reorders.report {d d' : Deployment σ} (h : d.Reorders d') :
    d'.report = d.report := by
  unfold Deployment.report
  rw [h.result]

theorem Engine.deployIn_of_error {f : DeployFault}
    (h : (Plan.makeIn o mode template parameters g).1 = .error f) (s : σ) :
    (deployIn o mode g template parameters token).run s = (.instantly token (.error f), s) := by
  unfold deployIn
  rw [h]
  rfl

theorem Engine.deployIn_of_plan {plan : Plan (Provider σ)}
    (h : (Plan.makeIn o mode template parameters g).1 = .ok plan) (s : σ) :
    (deployIn o mode g template parameters token).run s =
      (.ofRun token plan.outputs ((run plan.steps token 0).run s).1,
        ((run plan.steps token 0).run s).2) := by
  unfold deployIn
  rw [h]
  rfl

/-- The order of dictionaries cannot be told from a deployment, except by which of the parameters
that one import is missing is reported. -/
structure Engine.Orderless (mode : Mode) (g : Registry (Provider σ))
    (template parameters : String) (token : Cancellation) : Prop where
  asBuilt : deployIn .asBuilt mode g template parameters token =
    deploy mode g template parameters token
  /-- Plans and the instances that are built for them are the same, and so are faults. -/
  plans : ∀ o o', Agree (Plan.SameFault template parameters g) Plan.Reorders
      (Plan.makeIn o mode template parameters g).1 (Plan.makeIn o' mode template parameters g).1 ∧
    (Plan.makeIn o mode template parameters g).2.Reorders
      (Plan.makeIn o' mode template parameters g).2
  /-- With providers that look settings up, so are calls, results, reports and what becomes of the
  world. -/
  deployments : g.Orderless → ∀ o o' s,
    ((deployIn o' mode g template parameters token).run s).2 =
        ((deployIn o mode g template parameters token).run s).2 ∧
      (((deployIn o mode g template parameters token).run s).1.Reorders
            ((deployIn o' mode g template parameters token).run s).1 ∧
          ((deployIn o' mode g template parameters token).run s).1.report =
            ((deployIn o mode g template parameters token).run s).1.report ∨
        ∃ i n n', n ≠ n' ∧ Plan.MayReport template parameters g i n ∧
          Plan.MayReport template parameters g i n' ∧
          ((deployIn o mode g template parameters token).run s).1 =
            .instantly token (.error (.unknown n)) ∧
          ((deployIn o' mode g template parameters token).run s).1 =
            .instantly token (.error (.unknown n')))
  /-- Each of the parameters that may be reported is reported in some order. -/
  each : ∀ i n, Plan.MayReport template parameters g i n → ∃ o, ∀ s,
    (deployIn o mode g template parameters token).run s =
      (.instantly token (.error (.unknown n)), s)

theorem Engine.deployIn_reorders (hg : g.Orderless) (o o' : Orders (Provider σ)) (s : σ) :
    ((deployIn o' mode g template parameters token).run s).2 =
        ((deployIn o mode g template parameters token).run s).2 ∧
      (((deployIn o mode g template parameters token).run s).1.Reorders
          ((deployIn o' mode g template parameters token).run s).1 ∨
        ∃ i n n', n ≠ n' ∧ Plan.MayReport template parameters g i n ∧
          Plan.MayReport template parameters g i n' ∧
          ((deployIn o mode g template parameters token).run s).1 =
            .instantly token (.error (.unknown n)) ∧
          ((deployIn o' mode g template parameters token).run s).1 =
            .instantly token (.error (.unknown n'))) := by
  obtain ⟨hagree, -⟩ := makeIn_agree o o' mode template parameters g
  rcases hm : (Plan.makeIn o mode template parameters g).1 with f | plan <;>
    rcases hm' : (Plan.makeIn o' mode template parameters g).1 with f' | plan' <;>
    rw [hm, hm'] at hagree <;> cases hagree
  · rename_i hf
    rw [deployIn_of_error hm, deployIn_of_error hm']
    refine ⟨rfl, ?_⟩
    rcases hf with rfl | ⟨i, n, n', hn, hn', rfl, rfl⟩
    · exact .inl ⟨rfl, .nil, rfl, rfl⟩
    · by_cases hne : n = n'
      · subst hne
        exact .inl ⟨rfl, .nil, rfl, rfl⟩
      · exact .inr ⟨i, n, n', hne, hn, hn', rfl, rfl⟩
  · rename_i hplans
    rw [deployIn_of_plan hm, deployIn_of_plan hm', hplans.outputs]
    obtain ⟨hr, hs⟩ := run_reorders hplans.steps (orderless_of_makeIn hg o hm) token 0 s
    exact ⟨hs, .inl (hr.ofRun token plan.outputs)⟩

/-- **The order of a dictionary cannot be observed.** Diagnostics and listings are the same in all
orders, and so are plans, calls, results, reports and faults of a deployment with providers that
look their settings up, as those of the settings do. Only where an import has settings that are
missing different parameters does the order decide which of them is reported, and then it may be
any. -/
theorem deploy_orderless (mode : Mode) (g : Registry (Provider σ)) (template parameters : String)
    (token : Cancellation) :
    Diagnostics.Orderless ∧ Engine.Orderless mode g template parameters token ∧
      ∀ (s : Settings) (runner : String → Utility.Runner) (carry : Carrier σ),
        (s.registry runner carry).Orderless := by
  refine ⟨Diagnostics.orderless, ?_, fun s runner carry => s.orderless_registry runner carry⟩
  refine
    { asBuilt := by rw [Engine.deployIn_asBuilt]
      plans := fun o o' => makeIn_agree o o' mode template parameters g
      deployments := fun hg o o' s => ?_
      each := fun i n h => ?_ }
  · obtain ⟨hs, hd⟩ := Engine.deployIn_reorders hg o o' s
    exact ⟨hs, hd.imp_left fun h => ⟨h, h.report⟩⟩
  · obtain ⟨o, hm⟩ := exists_makeIn_of_mayReport h mode
    exact ⟨o, Engine.deployIn_of_error hm⟩

/-- A template with an import whose two settings are missing two parameters. -/
def twoMissing : String :=
  "\x7b\"imports\":\x7b\"a\":\x7b\"provider\":\"P\",\"version\":\"1\",\"config\":" ++
    "\x7b\"k\":\"[parameters('x')]\",\"l\":\"[parameters('y')]\"\x7d\x7d\x7d\x7d"

/-- One order reports the one parameter, and another order the other one. -/
theorem deploy_orderless_twoMissing :
    ∃ o o' : Orders (Provider Unit),
      ((Engine.deployIn o .normal readers twoMissing "" .never).run ()).1.result =
          .error (.unknown "x") ∧
        ((Engine.deployIn o' .normal readers twoMissing "" .never).run ()).1.result =
          .error (.unknown "y") := by
  have heval : (Plan.readDocuments twoMissing "").toOption.map (fun d =>
      d.1.imports.entries.map fun e => (readers.contains e.2.key,
        e.2.config.entries.map fun s => d.2.firstUnknown? s.2)) =
      some [(true, [some "x", some "y"])] := by
    decide +kernel
  have hmay : ∃ i, Plan.MayReport twoMissing "" readers i "x" ∧
      Plan.MayReport twoMissing "" readers i "y" := by
    cases hd : Plan.readDocuments twoMissing "" with
    | error f =>
      rw [hd] at heval
      cases heval
    | ok d =>
      obtain ⟨t, p⟩ := d
      rw [hd] at heval
      obtain ⟨⟨name, i⟩, rest, hentries, hhead, -⟩ :=
        List.map_eq_cons_iff.1 (Option.some.inj heval)
      obtain ⟨hkey, hconfig⟩ := Prod.mk.inj hhead
      have hlacks (missing : String) (h : some missing ∈ [some "x", some "y"]) :
          i.Lacks p missing := by
        rw [← hconfig] at h
        exact List.mem_map.1 h
      have hstops : StopsAt p readers t.imports.entries i := by
        rw [hentries]
        exact .here hkey (hlacks "x" (by simp))
      exact ⟨i, ⟨t, p, hd, hstops, hlacks "x" (by simp)⟩, t, p, hd, hstops, hlacks "y" (by simp)⟩
  obtain ⟨i, hx, hy⟩ := hmay
  obtain ⟨-, horders, -⟩ := deploy_orderless .normal readers twoMissing "" .never
  obtain ⟨o, ho⟩ := horders.each i "x" hx
  obtain ⟨o', ho'⟩ := horders.each i "y" hy
  exact ⟨o, o', by rw [ho]; rfl, by rw [ho']; rfl⟩

end Deploying

end Provision
