import Provision.Proofs.Parameters

/-!
# Reading the documents of a deployment

`documentChecks` lists what must hold of the texts of a template and its parameters, in the order in
which faults count, and reading them reports exactly these checks (`readDocuments_settles`). In a
template that was read the resources have names of their own and declared imports
(`resources_of_parse`).
-/

namespace Provision

/-! ## The checks -/

/-- The text of a template can be read. -/
def templateReads (text : String) : Check := fun f =>
  ∃ e, Template.shape.ofText text = .error e ∧ f = .ofTemplate (.unreadable e)

/-- No resource before has the name. -/
def nameIsNew (before : List ResourceDeclaration) (r : ResourceDeclaration) : Check := fun f =>
  r.name ∈ before.map ResourceDeclaration.name ∧ f = .ofTemplate (.duplicateResource r.name)

/-- The import of a resource is declared. -/
def importIsDeclared (imports : Table ImportDeclaration) (r : ResourceDeclaration) : Check :=
  fun f => imports.contains r.importAlias = false ∧
    f = .ofTemplate (.undefinedImport r.name r.importAlias)

/-- The checks of the resource at a place. -/
def resourceChecks (imports : Table ImportDeclaration) (all : List ResourceDeclaration)
    (e : ResourceDeclaration × Nat) : List Check :=
  [nameIsNew (all.take e.2) e.1, importIsDeclared imports e.1]

/-- The text of the parameters is blank or can be read. -/
def parametersRead (text : String) : Check := fun f =>
  Text.isBlankText text = false ∧
    ∃ e, ParametersFile.shape.ofText text = .error e ∧ f = .ofParameters (.unreadable e)

/-- The documents themselves: the template, the parameters, and that they fit together. -/
def documentChecks (template parameters : String) : List Check :=
  templateReads template ::
    match Template.shape.ofText template with
    | .error _ => []
    | .ok t =>
      t.resources.zipIdx.flatMap (resourceChecks t.imports t.resources) ++
        parametersRead parameters ::
          match ParametersFile.parse parameters with
          | .error _ => []
          | .ok supplied => bindingChecks t supplied

/-! ## Reading the documents -/

theorem checkResources_settles (imports : Table ImportDeclaration) :
    ∀ (rest before : List ResourceDeclaration) (seen : List String),
      (∀ name, name ∈ seen ↔ name ∈ before.map ResourceDeclaration.name) →
        Settles .ofTemplate
          ((rest.zipIdx before.length).flatMap (resourceChecks imports (before ++ rest)))
          (Template.checkResources imports seen rest)
  | [], _, _, _ => .ok
  | r :: rest, before, seen, hseen => by
    rw [List.zipIdx_cons, List.flatMap_cons]
    unfold resourceChecks Template.checkResources
    rw [List.take_left]
    by_cases hs : r.name ∈ seen
    · rw [if_pos (by simpa using hs)]
      exact .here ⟨(hseen _).1 hs, rfl⟩
    · rw [if_neg (by simpa using hs)]
      have hnew : (nameIsNew before r).Passes := fun f hf => hs ((hseen _).2 hf.1)
      cases hi : imports.contains r.importAlias with
      | false => exact .later hnew (.here ⟨hi, rfl⟩)
      | true =>
        have hdeclared : (importIsDeclared imports r).Passes := fun f hf => by
          rw [hf.1] at hi
          cases hi
        have hpass : ∀ c ∈ [nameIsNew before r, importIsDeclared imports r], c.Passes := by
          simp [hnew, hdeclared]
        have ih := checkResources_settles imports rest (before ++ [r]) (r.name :: seen)
          fun name => by simp [hseen, or_comm]
        rw [List.append_assoc, List.length_append] at ih
        exact .after hpass ih

theorem checkResources_of_nodup {imports : Table ImportDeclaration} {seen : List String}
    {rs : List ResourceDeclaration}
    (hn : (rs.map ResourceDeclaration.name).Nodup) (hseen : ∀ r ∈ rs, r.name ∉ seen)
    (hi : ∀ r ∈ rs, imports.contains r.importAlias = true) :
    Template.checkResources imports seen rs = .ok () := by
  induction rs generalizing seen with
  | nil => rfl
  | cons r rs ih =>
    obtain ⟨hr, hn⟩ := List.nodup_cons.1 hn
    have hnew : seen.contains r.name = false := by simpa using hseen r List.mem_cons_self
    unfold Template.checkResources
    rw [hnew, if_neg Bool.false_ne_true, hi r List.mem_cons_self, if_pos rfl]
    refine ih hn (fun q hq hmem => ?_) fun q hq => hi q (List.mem_cons_of_mem _ hq)
    rcases List.mem_cons.1 hmem with heq | hmem
    · exact hr (heq ▸ List.mem_map_of_mem hq)
    · exact hseen q (List.mem_cons_of_mem _ hq) hmem

theorem parse_settles {text : String} {t : Template} (ht : Template.shape.ofText text = .ok t) :
    Settles .ofTemplate (t.resources.zipIdx.flatMap (resourceChecks t.imports t.resources))
      (Template.parse text) := by
  unfold Template.parse
  rw [ht, ← List.append_nil (List.flatMap _ _)]
  exact (checkResources_settles t.imports t.resources [] [] (by simp)).bind fun _ _ => .ok

theorem eq_of_parse {text : String} {t t' : Template} (ht : Template.shape.ofText text = .ok t)
    (h : Template.parse text = .ok t') : t' = t := by
  unfold Template.parse at h
  obtain ⟨t'', hread, h⟩ := bind_eq_ok.1 h
  obtain ⟨_, _, h⟩ := bind_eq_ok.1 h
  rw [mapError_eq_ok, ht] at hread
  exact (Except.ok.inj h).symm.trans (Except.ok.inj hread).symm

theorem ofText_of_parse {text : String} {t : Template} (h : Template.parse text = .ok t) :
    Template.shape.ofText text = .ok t := by
  cases hr : Template.shape.ofText text with
  | error e =>
    unfold Template.parse at h
    rw [hr] at h
    cases h
  | ok t' => rw [eq_of_parse hr h]

theorem parametersParse_settles (text : String) :
    Settles .ofParameters [parametersRead text] (ParametersFile.parse text) := by
  unfold ParametersFile.parse
  cases hb : Text.isBlankText text with
  | true =>
    refine .check_ok fun f hf => ?_
    rw [hf.1] at hb
    cases hb
  | false =>
    cases hr : ParametersFile.shape.ofText text with
    | error e => exact .check_error ⟨hb, e, hr, rfl⟩
    | ok supplied =>
      refine .check_ok fun f hf => ?_
      obtain ⟨-, e, he, -⟩ := hf
      rw [hr] at he
      cases he

theorem readDocuments_settles (template parameters : String) :
    Settles id (documentChecks template parameters) (Plan.readDocuments template parameters) := by
  unfold documentChecks Plan.readDocuments
  cases ht : Template.shape.ofText template with
  | error e =>
    have hparse : Template.parse template = .error (.unreadable e) := by
      unfold Template.parse
      rw [ht]
      rfl
    rw [hparse]
    exact .here ⟨e, ht, rfl⟩
  | ok t =>
    have hreads : ∀ c ∈ [templateReads template], c.Passes := by
      intro c hc f hf
      rw [List.mem_singleton.1 hc] at hf
      obtain ⟨e, he, -⟩ := hf
      rw [ht] at he
      cases he
    refine .after hreads ((parse_settles ht).mapError.bind fun t' hparse => ?_)
    obtain rfl : t' = t := eq_of_parse ht (mapError_eq_ok.1 hparse)
    cases hs : ParametersFile.parse parameters with
    | error f =>
      have h := parametersParse_settles parameters
      rw [hs] at h
      exact h
    | ok supplied =>
      show Settles id ([parametersRead parameters] ++ bindingChecks t' supplied)
        ((t'.bind supplied).mapError .ofParameters >>= fun p => .ok (t', p))
      rw [← List.append_nil (bindingChecks t' supplied)]
      exact .after ((parametersParse_settles parameters).passes hs)
        ((bind_settles t' supplied).mapError.bind fun _ _ => .ok)

/-- Documents that can be read: the template, and values for exactly its parameters. -/
theorem readDocuments_ok {template parameters : String} {t : Template} {p : Parameters}
    (h : Plan.readDocuments template parameters = .ok (t, p)) :
    Template.parse template = .ok t ∧ Template.shape.ofText template = .ok t ∧
      p.Binds t.parameters.contains := by
  unfold Plan.readDocuments at h
  obtain ⟨t', ht, h⟩ := bind_eq_ok.1 h
  obtain ⟨supplied, _, h⟩ := bind_eq_ok.1 h
  obtain ⟨p', hp, h⟩ := bind_eq_ok.1 h
  obtain ⟨rfl, rfl⟩ : t' = t ∧ p' = p := by simpa using h
  have hparse := mapError_eq_ok.1 ht
  exact ⟨hparse, ofText_of_parse hparse, binds_of_bind (mapError_eq_ok.1 hp)⟩

/-- The resources of a template have names of their own and declared imports. -/
theorem resources_of_parse {text : String} {t : Template} (h : Template.parse text = .ok t)
    (ht : Template.shape.ofText text = .ok t) :
    (t.resources.map ResourceDeclaration.name).Nodup ∧
      ∀ r ∈ t.resources, t.imports.contains r.importAlias = true := by
  have hpass : ∀ (i : ℕ) (hi : i < t.resources.length),
      ∀ c ∈ resourceChecks t.imports t.resources (t.resources[i], i), c.Passes := fun i hi c hc =>
    (parse_settles ht).passes h c
      (List.mem_flatMap.2 ⟨_, List.mem_zipIdx_iff_getElem?.2 (List.getElem?_eq_getElem hi), hc⟩)
  constructor
  · refine List.pairwise_iff_getElem.2 fun i j hi hj hij he => ?_
    rw [List.length_map] at hi hj
    rw [List.getElem_map, List.getElem_map] at he
    have hnew := hpass j hj (nameIsNew (t.resources.take j) t.resources[j])
      (by simp [resourceChecks])
    refine hnew _ ⟨?_, rfl⟩
    rw [← he]
    exact List.mem_map_of_mem (List.mem_take_iff_getElem.2 ⟨i, by omega, rfl⟩)
  · intro r hr
    obtain ⟨i, hi, rfl⟩ := List.mem_iff_getElem.1 hr
    have hdeclared := hpass i hi (importIsDeclared t.imports t.resources[i])
      (by simp [resourceChecks])
    cases hc : t.imports.contains t.resources[i].importAlias with
    | true => rfl
    | false => exact absurd ⟨hc, rfl⟩ (hdeclared _)

end Provision
