import Provision.Deployment.Plan
import Provision.Proofs.Checks
import Provision.Proofs.Entries

/-!
# References and bound parameters

`Json.references` lists the parameters that a value refers to in the order in which it is
traversed. Replacing references fails with the first of them that has no value
(`substitute_settles`), and binding gives a value to exactly the parameters that the template
declares (`binds_of_bind`), or fails with the first supplied name that is not declared and
then with the first declared one that has no value (`bind_settles`).
-/

namespace Provision

namespace Json

mutual

/-- The parameters that a value refers to, in the order of its items and members, depth first. -/
def references : Json → List String
  | .string s => (reference? s).toList
  | .array items => itemReferences items
  | .object members => memberReferences members
  | _ => []

/-- `references` of all items. -/
def itemReferences : List Json → List String
  | [] => []
  | j :: js => references j ++ itemReferences js

/-- `references` of the values of all members. -/
def memberReferences : List (String × Json) → List String
  | [] => []
  | (_, j) :: rest => references j ++ memberReferences rest

end

end Json

/-- The parameter of a reference is known. -/
def isKnown (known : String → Bool) (name : String) : Check := fun f =>
  known name = false ∧ f = .ofTemplate (.unknownParameter name)

/-- All references of a value are known, in the order of the traversal. -/
def refersToKnown (known : String → Bool) (j : Json) : List Check :=
  j.references.map (isKnown known)

/-! ## Replacing references -/

/-- The parameters that have a value are the known ones. -/
def Parameters.Binds (p : Parameters) (known : String → Bool) : Prop :=
  ∀ name, (p.get? name).isSome = known name

theorem Parameters.binds_isSome (p : Parameters) : p.Binds fun name => (p.get? name).isSome :=
  fun _ => rfl

section Substitution

variable {p : Parameters} {known : String → Bool}

theorem resolve_settles (hp : p.Binds known) (s : String) :
    Settles .ofTemplate ((reference? s).toList.map (isKnown known)) (p.resolve s) := by
  unfold Parameters.resolve
  cases reference? s with
  | none => exact .ok
  | some name =>
    have hn := hp name
    simp only [Option.toList_some, List.map_singleton]
    cases hv : p.get? name with
    | none =>
      rw [hv] at hn
      exact .check_error ⟨hn.symm, rfl⟩
    | some value =>
      rw [hv] at hn
      refine .check_ok fun f hf => ?_
      rw [hf.1] at hn
      cases hn

mutual

theorem substitute_settles (hp : p.Binds known) :
    ∀ j : Json, Settles .ofTemplate (refersToKnown known j) (p.substitute j)
  | .string s => by
    unfold refersToKnown Json.references Parameters.substitute
    exact resolve_settles hp s
  | .array items => by
    unfold refersToKnown Json.references Parameters.substitute
    exact (substituteItems_settles hp items).map _
  | .object members => by
    unfold refersToKnown Json.references Parameters.substitute
    exact (substituteMembers_settles hp members).map _
  | .null | .bool _ | .number _ => by
    unfold refersToKnown Json.references Parameters.substitute
    exact .ok

theorem substituteItems_settles (hp : p.Binds known) : ∀ js : List Json,
    Settles .ofTemplate ((Json.itemReferences js).map (isKnown known)) (p.substituteItems js)
  | [] => .ok
  | j :: js => by
    unfold Json.itemReferences Parameters.substituteItems
    rw [List.map_append, ← List.append_nil ((Json.itemReferences js).map _)]
    exact (substitute_settles hp j).bind fun _ _ =>
      (substituteItems_settles hp js).bind fun _ _ => .ok

theorem substituteMembers_settles (hp : p.Binds known) : ∀ ms : List (String × Json),
    Settles .ofTemplate ((Json.memberReferences ms).map (isKnown known)) (p.substituteMembers ms)
  | [] => .ok
  | (_, j) :: ms => by
    unfold Json.memberReferences Parameters.substituteMembers
    rw [List.map_append, ← List.append_nil ((Json.memberReferences ms).map _)]
    exact (substitute_settles hp j).bind fun _ _ =>
      (substituteMembers_settles hp ms).bind fun _ _ => .ok

end

theorem fill_settles (hp : p.Binds known) (j : Json) :
    Settles id (refersToKnown known j) (Plan.fill p j) :=
  (substitute_settles hp j).mapError

end Substitution

/-! ## Binding -/

/-- A supplied name is declared. -/
def isDeclared (t : Template) (name : String) : Check := fun f =>
  t.parameters.contains name = false ∧ f = .ofParameters (.undeclared name)

/-- A declared parameter has a supplied value or a default. -/
def hasValue (supplied : ParametersFile) (e : String × ParameterDeclaration) : Check := fun f =>
  supplied.values.get? e.1 = none ∧ e.2.defaultValue = none ∧ f = .ofParameters (.missing e.1)

/-- The supplied values fit the template. -/
def bindingChecks (t : Template) (supplied : ParametersFile) : List Check :=
  supplied.values.keys.map (isDeclared t) ++ t.parameters.entries.map (hasValue supplied)

theorem valueOf_settles (supplied : ParametersFile) (e : String × ParameterDeclaration) :
    Settles .ofParameters [hasValue supplied e] (supplied.valueOf e.1 e.2) := by
  unfold ParametersFile.valueOf
  cases hs : supplied.values.get? e.1 with
  | some value =>
    refine .check_ok fun f hf => ?_
    rw [hf.1] at hs
    cases hs
  | none =>
    cases hd : e.2.defaultValue with
    | some value =>
      refine .check_ok fun f hf => ?_
      rw [hf.2.1] at hd
      cases hd
    | none => exact .check_error ⟨hs, hd, rfl⟩

/-- The first name that is not declared is the first that fails its check. -/
theorem firstFault_of_undeclared {t : Template} {name : String} {names : List String}
    (h : names.find? (fun name => !t.parameters.contains name) = some name) :
    FirstFault (names.map (isDeclared t)) (.ofParameters (.undeclared name)) := by
  induction names with
  | nil => simp at h
  | cons n names ih =>
    rw [List.find?_cons] at h
    cases hn : t.parameters.contains n with
    | false =>
      obtain rfl : n = name := by simpa [hn] using h
      exact .here ⟨hn, rfl⟩
    | true =>
      refine .later (fun f hf => ?_) (ih (by simpa [hn] using h))
      rw [hf.1] at hn
      cases hn

theorem bind_settles (t : Template) (supplied : ParametersFile) :
    Settles .ofParameters (bindingChecks t supplied) (t.bind supplied) := by
  unfold bindingChecks Template.bind
  cases hu : t.undeclared? supplied with
  | some name => exact (firstFault_of_undeclared hu).append_right
  | none =>
    have hdeclared : ∀ c ∈ supplied.values.keys.map (isDeclared t), c.Passes := by
      intro c hc f hf
      obtain ⟨name, hname, rfl⟩ := List.mem_map.1 hc
      have hall := List.find?_eq_none.1 hu name hname
      rw [hf.1] at hall
      exact hall rfl
    have hvalues : Settles .ofParameters (t.parameters.entries.map (hasValue supplied))
        (t.parameters.entries.mapM fun e => (supplied.valueOf e.1 e.2).map fun v => (e.1, v)) := by
      rw [List.map_eq_flatMap]
      exact .mapM fun e _ => (valueOf_settles supplied e).map _
    rw [← List.append_nil (t.parameters.entries.map _)]
    exact .after hdeclared (hvalues.bind fun _ _ => .ok)

/-- Values for declared names only are taken up one by one. -/
theorem bind_of_declared {t : Template} {supplied : ParametersFile}
    (hu : t.undeclared? supplied = none) :
    t.bind supplied = (t.parameters.entries.mapM fun e =>
      (supplied.valueOf e.1 e.2).map fun value => (e.1, value)).map fun values =>
        ⟨Table.ofList values⟩ := by
  unfold Template.bind
  rw [hu]
  rfl

/-- Parameters are bound one by one, in the order of their declarations. -/
theorem forall₂_of_bind {t : Template} {supplied : ParametersFile} {p : Parameters}
    (h : t.bind supplied = .ok p) :
    List.Forall₂ (fun e e' => e'.1 = e.1 ∧ supplied.valueOf e.1 e.2 = .ok e'.2)
      t.parameters.entries p.values.entries := by
  cases hu : t.undeclared? supplied with
  | some name => simp [Template.bind, hu] at h
  | none =>
    rw [bind_of_declared hu] at h
    obtain ⟨values, hm, rfl⟩ := map_eq_ok.1 h
    have hall := mapM_keyed_eq_ok.1 hm
    have hascending := ascending_of_forall₂ t.parameters.ascending (hall.imp fun _ _ => And.left)
    rwa [Table.entries_ofList hascending]

/-- Exactly the declared parameters are bound. -/
theorem keys_of_bind {t : Template} {supplied : ParametersFile} {p : Parameters}
    (h : t.bind supplied = .ok p) : p.values.keys = t.parameters.keys :=
  keys_eq_of_forall₂ ((forall₂_of_bind h).imp fun _ _ => And.left)

theorem binds_of_bind {t : Template} {supplied : ParametersFile} {p : Parameters}
    (h : t.bind supplied = .ok p) : p.Binds t.parameters.contains := by
  intro name
  rw [Bool.eq_iff_iff, Table.contains_iff, ← keys_of_bind h]
  exact Table.contains_iff

end Provision
