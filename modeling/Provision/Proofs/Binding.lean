import Provision.Proofs.Documents
import Provision.Proofs.RecordParts
import Provision.Proofs.Utf8

/-!
# Binding parameters

Values fit a template if every supplied name is declared and every declared name has a value, its
supplied one or else its default. Then exactly the declared names are bound, each by what stands
under its own name (`get?_of_bind`); else the least name that is in the way is reported, and a
supplied one before a declared one (`bind_eq_error`).

In the documents null means two things: as a default it is the same as no default, as a supplied
value it is a value (`Node.GivesDefault`, `Node.GivesValue`).
-/

namespace Provision

/-! ## The least name -/

/-- Of the names with the property this one has the least bytes. -/
structure Least (P : String → Prop) (name : String) : Prop where
  holds : P name
  least : ∀ other, P other → other = name ∨ Text.encode name < Text.encode other

variable {P : String → Prop} {name : String}

theorem Least.unique {name' : String} (h : Least P name) (h' : Least P name') : name = name' := by
  rcases h'.least name h.holds with heq | hlt
  · exact heq
  · rcases h.least name' h'.holds with heq' | hlt'
    · exact heq'.symm
    · exact absurd hlt' (List.lt_asymm hlt)

/-- The first of ascending names that has the property is the least. -/
theorem least_of_ascending {before after : List String}
    (hascending : (before ++ name :: after).Pairwise (· < ·)) (h : P name)
    (hbefore : ∀ other ∈ before, ¬ P other)
    (hall : ∀ other, P other → other ∈ before ++ name :: after) : Least P name := by
  refine ⟨h, fun other hother => ?_⟩
  rcases List.mem_append.1 (hall other hother) with hmem | hmem
  · exact absurd hother (hbefore other hmem)
  · rcases List.mem_cons.1 hmem with heq | hafter
    · exact .inl heq
    · have hlt := (List.pairwise_cons.1 (List.pairwise_append.1 hascending).2.1).1 other hafter
      exact .inr (Text.lt_iff_encode_lt.1 hlt)

theorem Table.keys_ascending {α : Type} (t : Table α) : t.keys.Pairwise (· < ·) :=
  ascending_iff_keys.1 t.ascending

/-! ## Binding -/

namespace Template

section Binding

variable {t : Template} {supplied : ParametersFile} {p : Parameters}

/-- A supplied name that the template does not declare. -/
def Undeclared (t : Template) (supplied : ParametersFile) (name : String) : Prop :=
  name ∈ supplied.values.keys ∧ name ∉ t.parameters.keys

/-- A declared name that is not supplied and has no default. -/
def Missing (t : Template) (supplied : ParametersFile) (name : String) : Prop :=
  ∃ d, t.parameters.get? name = some d ∧ supplied.values.get? name = none ∧ d.defaultValue = none

theorem least_of_undeclared? (h : t.undeclared? supplied = some name) :
    Least (t.Undeclared supplied) name := by
  obtain ⟨hname, before, after, hkeys, hbefore⟩ := List.find?_eq_some_iff_append.1 h
  have hiff (other : String) :
      (!t.parameters.contains other) = true ↔ other ∉ t.parameters.keys := by
    rw [Bool.not_eq_true', ← Table.contains_iff, Bool.not_eq_true]
  have hmem : name ∈ supplied.values.keys := by simp [hkeys]
  refine least_of_ascending (hkeys ▸ supplied.values.keys_ascending) ⟨hmem, (hiff name).1 hname⟩
    (fun other hother hu => ?_) fun other hu => hkeys ▸ hu.1
  have hdeclared := hbefore other hother
  rw [(hiff other).2 hu.2] at hdeclared
  cases hdeclared

theorem undeclared?_eq_none (h : t.undeclared? supplied = none) : ¬ t.Undeclared supplied name := by
  rintro ⟨hmem, hnot⟩
  have hdeclared := List.find?_eq_none.1 h name hmem
  rw [Bool.not_eq_true', Bool.not_eq_false, Table.contains_iff] at hdeclared
  exact hnot hdeclared

theorem valueOf_eq_ok {d : ParameterDeclaration} {value : Json} :
    supplied.valueOf name d = .ok value ↔
      (supplied.values.get? name).or d.defaultValue = some value := by
  unfold ParametersFile.valueOf
  cases (supplied.values.get? name).or d.defaultValue with
  | none => simp
  | some value' => simp

theorem valueOf_eq_error {d : ParameterDeclaration} {f : ParametersFault} :
    supplied.valueOf name d = .error f ↔
      supplied.values.get? name = none ∧ d.defaultValue = none ∧ f = .missing name := by
  unfold ParametersFile.valueOf
  cases supplied.values.get? name with
  | some value => simp
  | none =>
    cases d.defaultValue with
    | some value => simp
    | none => simp [eq_comm]

/-- What is bound to a name depends on its own declaration and its own supplied value. -/
theorem get?_of_bind (h : t.bind supplied = .ok p) (name : String) :
    p.get? name = (t.parameters.get? name).bind fun d =>
      (supplied.values.get? name).or d.defaultValue := by
  cases hd : t.parameters.get? name with
  | none =>
    have hnone := binds_of_bind h name
    unfold Table.contains at hnone
    rw [hd] at hnone
    exact Option.isNone_iff_eq_none.1 (by simpa using hnone)
  | some d =>
    obtain ⟨⟨_, value⟩, he, rfl, hvalue⟩ :=
      exists_of_mem_of_forall₂ (forall₂_of_bind h).flip (mem_of_findValue? hd)
    rw [Option.bind_some, valueOf_eq_ok.1 hvalue]
    exact findValue?_of_mem p.values.nodup_keys he

/-- The reasons for which values do not fit a template. -/
inductive Unfit (t : Template) (supplied : ParametersFile) : ParametersFault → Prop
  | undeclared {name : String} (h : Least (t.Undeclared supplied) name) :
    Unfit t supplied (.undeclared name)
  | missing {name : String} (hdeclared : ∀ other, ¬ t.Undeclared supplied other)
    (h : Least (t.Missing supplied) name) : Unfit t supplied (.missing name)

theorem Unfit.unique {f f' : ParametersFault} (h : t.Unfit supplied f) (h' : t.Unfit supplied f') :
    f = f' := by
  cases h with
  | undeclared h =>
    cases h' with
    | undeclared h' => rw [h.unique h']
    | missing hdeclared _ => exact absurd h.holds (hdeclared _)
  | missing hdeclared h =>
    cases h' with
    | undeclared h' => exact absurd h'.holds (hdeclared _)
    | missing _ h' => rw [h.unique h']

theorem unfit_of_bind {f : ParametersFault} (h : t.bind supplied = .error f) :
    t.Unfit supplied f := by
  cases hu : t.undeclared? supplied with
  | some name =>
    obtain rfl : .undeclared name = f := by simpa [Template.bind, hu] using h
    exact .undeclared (least_of_undeclared? hu)
  | none =>
    rw [bind_of_declared hu, map_eq_error] at h
    obtain ⟨before, ⟨name, d⟩, after, hentries, hf, hbefore⟩ := mapM_eq_error h
    obtain ⟨hsupplied, hdefault, rfl⟩ := valueOf_eq_error.1 (map_eq_error.1 hf)
    have hget : t.parameters.get? name = some d :=
      findValue?_of_mem t.parameters.nodup_keys (hentries ▸ by simp)
    have hkeys : t.parameters.keys = before.map Prod.fst ++ name :: after.map Prod.fst := by
      unfold Table.keys
      rw [hentries]
      simp
    refine .missing (fun _ => undeclared?_eq_none hu) (least_of_ascending
      (hkeys ▸ t.parameters.keys_ascending) ⟨d, hget, hsupplied, hdefault⟩ ?_ ?_)
    · -- the declarations before have values
      rintro other hother ⟨d', hd', hsupplied', hdefault'⟩
      obtain ⟨⟨_, d''⟩, hmem, rfl⟩ := List.mem_map.1 hother
      obtain ⟨_, hvalue⟩ := hbefore _ hmem
      obtain rfl : d'' = d' := by
        have hget' := findValue?_of_mem t.parameters.nodup_keys
          (hentries ▸ List.mem_append_left _ hmem)
        exact Option.some.inj (hget'.symm.trans hd')
      obtain ⟨value, hown, -⟩ := map_eq_ok.1 hvalue
      have hsome := valueOf_eq_ok.1 hown
      rw [hsupplied', hdefault'] at hsome
      cases hsome
    · rintro other ⟨d', hd', -⟩
      exact hkeys ▸ Table.mem_keys_of_get? hd'

theorem not_undeclared_of_bind (h : t.bind supplied = .ok p) : ¬ t.Undeclared supplied name := by
  cases hu : t.undeclared? supplied with
  | none => exact undeclared?_eq_none hu
  | some name' => simp [Template.bind, hu] at h

theorem not_missing_of_bind (h : t.bind supplied = .ok p) : ¬ t.Missing supplied name := by
  rintro ⟨d, hd, hsupplied, hdefault⟩
  have hsome := binds_of_bind h name
  unfold Table.contains at hsome
  rw [get?_of_bind h, hd, Option.bind_some, hsupplied, hdefault] at hsome
  cases hsome

/-- Values that do not fit are refused, for the one reason that counts. -/
theorem bind_eq_error {f : ParametersFault} :
    t.bind supplied = .error f ↔ t.Unfit supplied f := by
  refine ⟨unfit_of_bind, fun h => ?_⟩
  cases hb : t.bind supplied with
  | error f' => rw [(unfit_of_bind hb).unique h]
  | ok p =>
    cases h with
    | undeclared h => exact absurd h.holds (not_undeclared_of_bind hb)
    | missing _ h => exact absurd h.holds (not_missing_of_bind hb)

end Binding

/-- Binding takes what is supplied before what is declared as the default, name by name. -/
structure BindsExactly (t : Template) (supplied : ParametersFile) : Prop where
  /-- It succeeds exactly if every supplied name is declared, and every declared name is supplied or
  has a default. -/
  succeeds : (∃ p, t.bind supplied = .ok p) ↔
    (∀ name ∈ supplied.values.keys, name ∈ t.parameters.keys) ∧
      ∀ name d, t.parameters.get? name = some d →
        (supplied.values.get? name).isSome ∨ d.defaultValue.isSome
  /-- The bound names are the declared ones. -/
  names : ∀ p, t.bind supplied = .ok p → p.values.keys = t.parameters.keys
  /-- A supplied value wins, null like any other. -/
  wins : ∀ p, t.bind supplied = .ok p → ∀ name value,
    supplied.values.get? name = some value → p.get? name = some value
  /-- A name that is not supplied has its own default. -/
  defaults : ∀ p, t.bind supplied = .ok p → ∀ name d, t.parameters.get? name = some d →
    supplied.values.get? name = none → p.get? name = d.defaultValue
  /-- Other declarations and other supplied values make no difference to a name. -/
  apart : ∀ (t' : Template) (supplied' : ParametersFile) p p', t.bind supplied = .ok p →
    t'.bind supplied' = .ok p' → ∀ name, t'.parameters.get? name = t.parameters.get? name →
      supplied'.values.get? name = supplied.values.get? name → p'.get? name = p.get? name
  /-- A deployment says which name is in the way: the least that is supplied and not declared, and
  if there is none the least that is declared and has no value. -/
  refuses : ∀ f, (t.bind supplied).mapError DeployFault.ofParameters = .error f ↔
    (∃ name, Least (t.Undeclared supplied) name ∧
      f = .invalidParameters ("parameter '" ++ name ++ "' is not declared by the template")) ∨
    (∀ name, ¬ t.Undeclared supplied name) ∧ ∃ name, Least (t.Missing supplied) name ∧
      f = .invalidParameters ("missing value for parameter '" ++ name ++ "'")

theorem bindsExactly (t : Template) (supplied : ParametersFile) : t.BindsExactly supplied where
  succeeds := by
    constructor
    · rintro ⟨p, hp⟩
      refine ⟨fun name hname => by_contra fun hnot => not_undeclared_of_bind hp ⟨hname, hnot⟩,
        fun name d hd => ?_⟩
      by_contra hnone
      rw [not_or, Option.not_isSome_iff_eq_none, Option.not_isSome_iff_eq_none] at hnone
      exact not_missing_of_bind hp ⟨d, hd, hnone⟩
    · rintro ⟨hdeclared, hvalue⟩
      cases hb : t.bind supplied with
      | ok p => exact ⟨p, rfl⟩
      | error f =>
        cases unfit_of_bind hb with
        | undeclared h => exact absurd (hdeclared _ h.holds.1) h.holds.2
        | @missing name _ h =>
          obtain ⟨d, hd, hsupplied, hdefault⟩ := h.holds
          rcases hvalue name d hd with hsome | hsome
          · simp [hsupplied] at hsome
          · simp [hdefault] at hsome
  names _ := keys_of_bind
  wins p hp name value hvalue := by
    have hdeclared : name ∈ t.parameters.keys := by
      by_contra hnot
      exact not_undeclared_of_bind hp ⟨Table.mem_keys_of_get? hvalue, hnot⟩
    obtain ⟨d, hd⟩ := Option.isSome_iff_exists.1 (findValue?_isSome.2 hdeclared)
    have hd : t.parameters.get? name = some d := hd
    rw [get?_of_bind hp, hd, Option.bind_some, hvalue, Option.some_or]
  defaults p hp name d hd hnone := by
    rw [get?_of_bind hp, hd, Option.bind_some, hnone, Option.none_or]
  apart t' supplied' p p' hp hp' name hd hsupplied := by
    rw [get?_of_bind hp, get?_of_bind hp', hd, hsupplied]
  refuses f := by
    constructor
    · intro h
      obtain ⟨f', hb, rfl⟩ := mapError_eq_error.1 h
      cases unfit_of_bind hb with
      | undeclared hleast => exact .inl ⟨_, hleast, rfl⟩
      | missing hdeclared hleast => exact .inr ⟨hdeclared, _, hleast, rfl⟩
    · rintro (⟨name, h, rfl⟩ | ⟨hdeclared, name, h, rfl⟩)
      · rw [bind_eq_error.2 (.undeclared h)]
        rfl
      · rw [bind_eq_error.2 (.missing hdeclared h)]
        rfl

end Template

/-! ## Null in the documents -/

section Documents

open Json

/-- What a declaration gives as the default: its `defaultValue`, where null is the same as none. -/
def Json.Node.GivesDefault (declaration : Node) : Option Json → Prop
  | none => declaration.part? "defaultValue" 0 = none ∨
    ∃ span, declaration.part? "defaultValue" 0 = some (.null span)
  | some value => value ≠ .null ∧
    ∃ n, declaration.part? "defaultValue" 0 = some n ∧ n.toJson = .ok value

/-- What an entry gives as the value: its `value`, null like any other. -/
def Json.Node.GivesValue (entry : Node) (value : Json) : Prop :=
  ∃ n, entry.part? "value" 0 = some n ∧ n.toJson = .ok value

/-- The declaration of a parameter in the text of a template. -/
def Template.declarationIn? (text name : String) : Option Node :=
  ((Document.read text).root.part? "parameters" 1).bind fun n => n.entry? name

/-- The entry of a parameter in the text of supplied values. -/
def ParametersFile.entryIn? (text name : String) : Option Node :=
  if Text.isBlankText text then none
  else ((Document.read text).root.part? "parameters" 0).bind fun n => n.entry? name

theorem Json.Node.toJson_ne_null {n : Node} {j : Json} (hn : ∀ span, n ≠ .null span)
    (h : n.toJson = .ok j) : j ≠ .null := by
  rintro rfl
  cases n with
  | null span => exact hn span rfl
  | bool _ _ | number _ _ | string _ _ | broken _ _ => cases h
  | array _ items ending =>
    rw [toJson] at h
    obtain ⟨js, _, h⟩ := bind_eq_ok.1 h
    cases ending <;> cases h
  | object _ members ending =>
    rw [toJson] at h
    obtain ⟨ms, _, h⟩ := bind_eq_ok.1 h
    cases ending <;> cases h

theorem givesDefault_of_decode {n : Node} {d : ParameterDeclaration}
    (h : ParameterDeclaration.shape.decode n = .ok d) : n.GivesDefault d.defaultValue := by
  obtain ⟨⟨value, _⟩, hbuild, hread, -⟩ := Shape.readFrom_of_decode (by decide) h
  obtain rfl : (⟨value⟩ : ParameterDeclaration) = d := Except.ok.inj hbuild
  show n.GivesDefault value
  unfold Shape.ReadFrom at hread
  cases hpart : n.part? "defaultValue" 0 with
  | none =>
    rw [hpart] at hread
    obtain rfl := Option.some.inj hread
    exact .inl hpart
  | some m =>
    rw [hpart] at hread
    by_cases hnull : ∃ span, m = .null span
    · obtain ⟨span, rfl⟩ := hnull
      obtain rfl : none = value := Except.ok.inj hread
      exact .inr ⟨span, hpart⟩
    · have hne : ∀ span, m ≠ .null span := fun span h => hnull ⟨span, h⟩
      have hsome : (Shape.optional .any).decode m = (Shape.any.decode m).map some := by
        cases m with
        | null span => exact absurd rfl (hne span)
        | _ => rfl
      obtain ⟨j, hj, rfl⟩ := map_eq_ok.1 (hsome.symm.trans hread)
      have hvalue : m.toJson = .ok j := mapError_eq_ok.1 hj
      exact ⟨Node.toJson_ne_null hne hvalue, m, hpart, hvalue⟩

theorem givesValue_of_decode {n : Node} {value : Json}
    (h : ParametersFile.valueShape.decode n = .ok value) : n.GivesValue value := by
  obtain ⟨⟨value, _⟩, hbuild, hread, -⟩ := Shape.readFrom_of_decode (by decide) h
  obtain rfl := Except.ok.inj hbuild
  unfold Shape.ReadFrom at hread
  cases hpart : n.part? "value" 0 with
  | none =>
    rw [hpart] at hread
    cases hread
  | some m =>
    rw [hpart] at hread
    exact ⟨m, hpart, mapError_eq_ok.1 hread⟩

/-- The parameters of a template that was read give their defaults. -/
theorem Template.givesDefault_of_ofText {text : String} {t : Template}
    (h : Template.shape.ofText text = .ok t) (name : String) :
    Option.Rel (fun n d => n.GivesDefault d.defaultValue) (declarationIn? text name)
      (t.parameters.get? name) := by
  obtain ⟨⟨imports, parameters, resources, outputs, _⟩, hbuild, -, hread, -⟩ :=
    Shape.readFrom_of_decode (by decide) (Shape.decode_of_ofText h)
  obtain rfl : (⟨imports, parameters, resources, outputs⟩ : Template) = t := Except.ok.inj hbuild
  exact rel_imp (fun _ _ => givesDefault_of_decode) (hread.rel name)

/-- The entries of supplied values that were read give the values. -/
theorem ParametersFile.givesValue_of_parse {text : String} {supplied : ParametersFile}
    (h : ParametersFile.parse text = .ok supplied) (name : String) :
    Option.Rel Node.GivesValue (entryIn? text name) (supplied.values.get? name) := by
  unfold ParametersFile.parse at h
  unfold entryIn?
  split_ifs at h ⊢ with hb
  · obtain rfl := Except.ok.inj h
    exact .none
  · obtain ⟨⟨values, _⟩, hbuild, hread, -⟩ :=
      Shape.readFrom_of_decode (by decide) (Shape.decode_of_ofText (mapError_eq_ok.1 h))
    obtain rfl : (⟨values⟩ : ParametersFile) = supplied := Except.ok.inj hbuild
    exact rel_imp (fun _ _ => givesValue_of_decode) (hread.rel name)

/-- **Binding is exact.** It succeeds exactly if all that is supplied is declared and all that is
declared has a value; then it binds the declared names, a supplied value before a default, and else
it names the least name that is in the way. In the text of a template a default of null is no
default, in the text of supplied values null is a value. -/
theorem Template.bind_exact (t : Template) (supplied : ParametersFile) :
    t.BindsExactly supplied ∧
      (∀ text, Template.shape.ofText text = .ok t → ∀ name,
        Option.Rel (fun n d => n.GivesDefault d.defaultValue) (Template.declarationIn? text name)
          (t.parameters.get? name)) ∧
      ∀ text, ParametersFile.parse text = .ok supplied → ∀ name,
        Option.Rel Node.GivesValue (ParametersFile.entryIn? text name)
          (supplied.values.get? name) :=
  ⟨t.bindsExactly supplied, fun _ => Template.givesDefault_of_ofText,
    fun _ => ParametersFile.givesValue_of_parse⟩

/-- A template with a default of null, and one of a value. -/
def nullDefault : String :=
  "\x7b\"parameters\":\x7b\"a\":\x7b\"defaultValue\":null\x7d," ++
    "\"b\":\x7b\"defaultValue\":[]\x7d\x7d\x7d"

/-- Values that give null for the first parameter. -/
def nullSupplied : String := "\x7b\"parameters\":\x7b\"a\":\x7b\"value\":null\x7d\x7d\x7d"

/-- The supplied null is bound. The null default is none, so that nothing can be bound without
it. -/
theorem Template.bind_exact_null :
    ∃ t supplied p, Template.shape.ofText nullDefault = .ok t ∧
      ParametersFile.parse nullSupplied = .ok supplied ∧ t.bind supplied = .ok p ∧
      p.get? "a" = some .null ∧ ¬ ∃ q, t.bind ⟨∅⟩ = .ok q := by
  have heval : (Template.shape.ofText nullDefault).toOption.map (fun t =>
        ((t.parameters.get? "a").map ParameterDeclaration.defaultValue,
          (ParametersFile.parse nullSupplied).toOption.map fun s =>
            (s.values.get? "a", (t.bind s).toOption.isSome))) =
      some (some none, some (some .null, true)) := by
    decide +kernel
  cases ht : Template.shape.ofText nullDefault with
  | error e => simp [ht, Except.toOption] at heval
  | ok t =>
    cases hs : ParametersFile.parse nullSupplied with
    | error f => simp [ht, hs, Except.toOption] at heval
    | ok supplied =>
      cases hp : t.bind supplied with
      | error f => simp [ht, hs, hp, Except.toOption] at heval
      | ok p =>
        obtain ⟨⟨d, hd, hnone⟩, hnull⟩ :
            (∃ d, t.parameters.get? "a" = some d ∧ d.defaultValue = none) ∧
              supplied.values.get? "a" = some .null := by
          simpa [ht, hs, hp, Except.toOption] using heval
        refine ⟨t, supplied, p, rfl, rfl, hp,
          (Template.bind_exact t supplied).1.wins p hp _ _ hnull, fun hq => ?_⟩
        rcases ((Template.bind_exact t ⟨∅⟩).1.succeeds.1 hq).2 "a" d hd with hsome | hsome
        · cases hsome
        · rw [hnone] at hsome
          cases hsome

end Documents

end Provision
