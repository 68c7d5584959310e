import Provision.Deployment.Plan
import Provision.Proofs.Places

/-!
# Replacing references

`Parameters.Becomes` tells for one place of a value what stands there once references are replaced:
the bound value in place of a reference, and the same as before for everything else, of a container
as far as its length or its names go. `Parameters.Fills` says this of all places, and thereby what
the whole value becomes; it does not say how to compute it.

Replacing the references of a value gives exactly the value that fills it (`substitute_eq_ok_iff`).
It is refused exactly if some reference has no value, and then because of the first of these in the
order of the paths (`firstUnknown_of_substitute`).
-/

namespace Provision

/-! ## Strings that refer to a parameter -/

theorem afterStart?_eq_some {start cs rest : List Char} :
    afterStart? start cs = some rest ↔ cs = start ++ rest := by
  fun_induction afterStart? start cs with
  | case1 cs => simp
  | case2 start c cs ih => simp [ih]
  | case3 d start c cs hne =>
    have hne' : c ≠ d := fun h => hne h.symm
    simp [hne']
  | case4 d start => simp

/-- The string that refers to a parameter. -/
def referenceTo (name : String) : String := "[parameters('" ++ name ++ "')]"

/-- The parts of a reference share no characters: what stands between them is the name. -/
theorem reference?_eq_some {s name : String} : reference? s = some name ↔ s = referenceTo name := by
  have htext : s = referenceTo name ↔
      s.toList = referenceStart ++ (name.toList ++ referenceEnd) := by
    rw [← String.toList_inj, referenceTo, String.toList_append, String.toList_append,
      List.append_assoc]
    rfl
  rw [htext]
  unfold reference?
  constructor
  · intro h
    obtain ⟨rest, hrest, h⟩ := Option.bind_eq_some_iff.1 h
    obtain ⟨own, hown, h⟩ := Option.bind_eq_some_iff.1 h
    obtain rfl : String.ofList own.reverse = name := Option.some.inj h
    have hback : rest = own.reverse ++ referenceEnd := by
      rw [← List.reverse_reverse rest, afterStart?_eq_some.1 hown, List.reverse_append,
        List.reverse_reverse]
    rw [afterStart?_eq_some.1 hrest, hback, String.toList_ofList]
  · intro h
    have hrest : afterStart? referenceStart s.toList = some (name.toList ++ referenceEnd) :=
      afterStart?_eq_some.2 h
    have hown : afterStart? referenceEnd.reverse (name.toList ++ referenceEnd).reverse =
        some name.toList.reverse := afterStart?_eq_some.2 List.reverse_append
    rw [hrest, Option.bind_eq_bind, Option.bind_some, hown, Option.bind_some, List.reverse_reverse,
      String.ofList_toList]

theorem reference?_eq_none {s : String} : reference? s = none ↔ ∀ name, s ≠ referenceTo name := by
  rw [Option.eq_none_iff_forall_ne_some]
  exact forall_congr' fun name => not_congr reference?_eq_some

theorem reference?_referenceTo (name : String) : reference? (referenceTo name) = some name :=
  reference?_eq_some.2 rfl

theorem referenceTo_injective {name name' : String} (h : referenceTo name = referenceTo name') :
    name = name' := by
  have heq := reference?_referenceTo name
  rw [h, reference?_referenceTo] at heq
  exact (Option.some.inj heq).symm

namespace Parameters

variable {p : Parameters} {v w : Json}

/-! ## Item by item and member by member -/

theorem substituteItems_eq_mapM (js : List Json) :
    p.substituteItems js = js.mapM p.substitute := by
  induction js with
  | nil => rfl
  | cons j js ih =>
    rw [substituteItems, List.mapM_cons, ih]
    rfl

theorem substituteMembers_eq_mapM (ms : List (String × Json)) : p.substituteMembers ms =
    ms.mapM fun m => (p.substitute m.2).map fun j => (m.1, j) := by
  induction ms with
  | nil => rfl
  | cons m ms ih =>
    obtain ⟨name, j⟩ := m
    rw [substituteMembers, List.mapM_cons, ih]
    cases p.substitute j <;> rfl

theorem substitute_array_eq_ok {items : List Json} :
    p.substitute (.array items) = .ok w ↔
      ∃ items', w = .array items' ∧
        List.Forall₂ (fun j k => p.substitute j = .ok k) items items' := by
  rw [substitute, substituteItems_eq_mapM, map_eq_ok]
  simp only [mapM_eq_ok_iff]
  exact exists_congr fun items' => by rw [and_comm, eq_comm]

theorem substitute_object_eq_ok {members : List (String × Json)} :
    p.substitute (.object members) = .ok w ↔
      ∃ members', w = .object members' ∧
        List.Forall₂ (fun m m' => m'.1 = m.1 ∧ p.substitute m.2 = .ok m'.2) members members' := by
  rw [substitute, substituteMembers_eq_mapM, map_eq_ok]
  simp only [mapM_keyed_eq_ok]
  exact exists_congr fun members' => by rw [and_comm, eq_comm]

theorem substitute_array_error {items : List Json} {f : TemplateFault}
    (h : p.substitute (.array items) = .error f) :
    ∃ before j after, items = before ++ j :: after ∧ p.substitute j = .error f ∧
      ∀ k ∈ before, ∃ w, p.substitute k = .ok w := by
  rw [substitute, substituteItems_eq_mapM, map_eq_error] at h
  exact mapM_eq_error h

theorem substitute_object_error {members : List (String × Json)} {f : TemplateFault}
    (h : p.substitute (.object members) = .error f) :
    ∃ before m after, members = before ++ m :: after ∧ p.substitute m.2 = .error f ∧
      ∀ m' ∈ before, ∃ w, p.substitute m'.2 = .ok w := by
  rw [substitute, substituteMembers_eq_mapM, map_eq_error] at h
  obtain ⟨before, m, after, rfl, hf, hbefore⟩ := mapM_eq_error h
  refine ⟨before, m, after, rfl, map_eq_error.1 hf, fun m' hm' => ?_⟩
  obtain ⟨_, hm'⟩ := hbefore m' hm'
  obtain ⟨w, hw, -⟩ := map_eq_ok.1 hm'
  exact ⟨w, hw⟩

/-! ## What a value becomes -/

/-- What stands at a place, and what stands there once references are replaced, as far as it can be
told without going further down. -/
inductive Becomes (p : Parameters) : Json → Json → Prop
  /-- A reference becomes the bound value, whatever that is. -/
  | bound {name : String} {value : Json} (h : p.get? name = some value) :
    Becomes p (.string (referenceTo name)) value
  | text {s : String} (h : ∀ name, s ≠ referenceTo name) : Becomes p (.string s) (.string s)
  | null : Becomes p .null .null
  | bool (b : Bool) : Becomes p (.bool b) (.bool b)
  | number (n : Json.Number) : Becomes p (.number n) (.number n)
  | array {items items' : List Json} (h : items'.length = items.length) :
    Becomes p (.array items) (.array items')
  | object {members members' : List (String × Json)}
    (h : members'.map Prod.fst = members.map Prod.fst) :
    Becomes p (.object members) (.object members')

/-- The one value is the other one with its references replaced: at every place stands what becomes
of the value there. -/
def Fills (p : Parameters) (v w : Json) : Prop :=
  ∀ path j, v.at? path = some j → ∃ k, w.at? path = some k ∧ p.Becomes j k

/-- What becomes of a value can be told at its root and one step down. -/
theorem fills_iff : p.Fills v w ↔
    p.Becomes v w ∧ ∀ place j, v.child? place = some j →
      ∃ k, w.child? place = some k ∧ p.Fills j k := by
  constructor
  · intro h
    obtain ⟨k, hk, hroot⟩ := h [] v rfl
    obtain rfl := Option.some.inj hk
    refine ⟨hroot, fun place j hj => ?_⟩
    have hdown (path : List Json.Place) : v.at? (place :: path) = j.at? path := by
      rw [Json.at?_cons, hj, Option.bind_some]
    obtain ⟨k, hk, -⟩ := h [place] j (hdown [])
    obtain ⟨k', hchild, -⟩ := Option.bind_eq_some_iff.1 hk
    refine ⟨k', hchild, fun path x hx => ?_⟩
    obtain ⟨y, hy, hxy⟩ := h (place :: path) x ((hdown path).trans hx)
    rw [Json.at?_cons, hchild, Option.bind_some] at hy
    exact ⟨y, hy, hxy⟩
  · rintro ⟨hroot, hdown⟩ path j hj
    cases path with
    | nil =>
      obtain rfl := Option.some.inj hj
      exact ⟨w, rfl, hroot⟩
    | cons place path =>
      obtain ⟨x, hx, hj⟩ := Option.bind_eq_some_iff.1 hj
      obtain ⟨y, hy, hxy⟩ := hdown place x hx
      obtain ⟨k, hk, hjk⟩ := hxy path j hj
      exact ⟨k, by rw [Json.at?_cons, hy, Option.bind_some, hk], hjk⟩

/-- What becomes of a value in which nothing stands further down. -/
theorem fills_of_leaf (h : ∀ place, v.child? place = none) : p.Fills v w ↔ p.Becomes v w := by
  rw [fills_iff]
  refine and_iff_left fun place j hj => ?_
  rw [h place] at hj
  cases hj

theorem fills_array {items : List Json} :
    p.Fills (.array items) w ↔
      ∃ items', w = .array items' ∧ List.Forall₂ p.Fills items items' := by
  rw [fills_iff]
  constructor
  · rintro ⟨hroot, hdown⟩
    cases hroot with
    | array hlength =>
      refine ⟨_, rfl, List.forall₂_iff_get.2 ⟨hlength.symm, fun i hi hi' => ?_⟩⟩
      obtain ⟨k, hk, hfills⟩ := hdown (.item i) _ (List.getElem?_eq_getElem hi)
      obtain rfl := Option.some.inj ((List.getElem?_eq_getElem hi').symm.trans hk)
      exact hfills
  · rintro ⟨items', rfl, h⟩
    refine ⟨.array h.length_eq.symm, fun place j hj => ?_⟩
    cases place with
    | member name => cases hj
    | item i =>
      obtain ⟨hi, rfl⟩ := List.getElem?_eq_some_iff.1 hj
      have hi' : i < items'.length := h.length_eq ▸ hi
      exact ⟨items'[i], List.getElem?_eq_getElem hi', h.get hi hi'⟩

theorem fills_object {members : List (String × Json)} (hn : (members.map Prod.fst).Nodup) :
    p.Fills (.object members) w ↔
      ∃ members', w = .object members' ∧
        List.Forall₂ (fun m m' => m'.1 = m.1 ∧ p.Fills m.2 m'.2) members members' := by
  rw [fills_iff]
  simp only [forall₂_iff_findValue? hn]
  constructor
  · rintro ⟨hroot, hdown⟩
    cases hroot with
    | object hnames => exact ⟨_, rfl, hnames, fun name j hj => hdown (.member name) j hj⟩
  · rintro ⟨members', rfl, hnames, hfound⟩
    refine ⟨.object hnames, fun place j hj => ?_⟩
    cases place with
    | item i => cases hj
    | member name => exact hfound name j hj

/-! ## Replacing references gives what a value becomes -/

theorem resolve_eq_ok {s : String} : p.resolve s = .ok w ↔ p.Becomes (.string s) w := by
  unfold resolve
  cases hs : reference? s with
  | none =>
    have htext := reference?_eq_none.1 hs
    constructor
    · intro h
      obtain rfl := Except.ok.inj h
      exact .text htext
    · intro h
      cases h with
      | bound _ => exact absurd rfl (htext _)
      | text _ => rfl
  | some name =>
    obtain rfl := reference?_eq_some.1 hs
    constructor
    · intro h
      cases hv : p.get? name with
      | none => simp [hv] at h
      | some value =>
        obtain rfl : value = w := by simpa [hv] using h
        exact .bound hv
    · generalize hs' : referenceTo name = s
      intro h
      cases h with
      | bound hv =>
        obtain rfl := referenceTo_injective hs'
        simp [hv]
      | text htext => exact absurd hs'.symm (htext name)

/-- Replacing the references of a value gives what the value becomes, and succeeds whenever there is
something that it becomes. -/
theorem substitute_eq_ok_iff (hv : v.Canonical) : p.substitute v = .ok w ↔ p.Fills v w := by
  induction v using Json.induction generalizing w with
  | null | bool b | number n =>
    rw [fills_of_leaf fun _ => rfl]
    constructor
    · intro h
      obtain rfl := Except.ok.inj h
      constructor
    · intro h
      cases h
      rfl
  | string s => rw [fills_of_leaf fun _ => rfl, substitute, resolve_eq_ok]
  | array items ih =>
    have hitems := Json.canonicalItems_iff.1 hv
    rw [substitute_array_eq_ok, fills_array]
    refine exists_congr fun items' => and_congr_right fun _ => ?_
    exact forall₂_congr_of_mem fun j hj k => ih j hj (hitems j hj)
  | object members ih =>
    obtain ⟨hascending, hmembers⟩ := hv
    have hmembers := Json.canonicalMembers_iff.1 hmembers
    rw [substitute_object_eq_ok, fills_object hascending.nodup_keys]
    refine exists_congr fun members' => and_congr_right fun _ => ?_
    exact forall₂_congr_of_mem fun m hm m' => and_congr_right fun _ => ih m hm (hmembers m hm)

/-! ## References without a value -/

/-- At the end of the path stands a reference to a parameter that has no value. -/
structure Unknown (p : Parameters) (v : Json) (path : List Json.Place) (name : String) : Prop where
  stands : v.at? path = some (.string (referenceTo name))
  unbound : p.get? name = none

/-- The first parameter without a value that a traversal comes by: items by index, members by
the bytes of their names, all of a value before what comes after it. -/
def FirstUnknown (p : Parameters) (v : Json) (name : String) : Prop :=
  ∃ path, p.Unknown v path name ∧
    ∀ path' name', p.Unknown v path' name' → path' = path ∨ Json.Before path path'

theorem FirstUnknown.unique {name name' : String} (h : p.FirstUnknown v name)
    (h' : p.FirstUnknown v name') : name = name' := by
  obtain ⟨path, hu, hfirst⟩ := h
  obtain ⟨path', hu', hfirst'⟩ := h'
  have hpath : path' = path := by
    rcases hfirst path' name' hu' with heq | hbefore
    · exact heq
    · rcases hfirst' path name hu with heq | hbefore'
      · exact heq.symm
      · exact absurd hbefore' hbefore.asymm
  have hstands := hu'.stands
  rw [hpath, hu.stands] at hstands
  exact referenceTo_injective (Json.string.inj (Option.some.inj hstands))

/-- In a value that is filled every reference has a value. -/
theorem Fills.known (h : p.Fills v w) {path : List Json.Place} {name : String} :
    ¬ p.Unknown v path name := by
  rintro ⟨hstands, hunbound⟩
  obtain ⟨k, -, hbecomes⟩ := h path _ hstands
  generalize hs : referenceTo name = s at hbecomes
  cases hbecomes with
  | bound hvalue =>
    rw [← referenceTo_injective hs, hunbound] at hvalue
    cases hvalue
  | text htext => exact htext name hs.symm

theorem Unknown.of_child {place : Json.Place} {path : List Json.Place} {name : String} {j : Json}
    (hj : v.child? place = some j) : p.Unknown v (place :: path) name ↔ p.Unknown j path name := by
  have hdown : v.at? (place :: path) = j.at? path := by rw [Json.at?_cons, hj, Option.bind_some]
  constructor
  · rintro ⟨hstands, hunbound⟩
    exact ⟨hdown.symm.trans hstands, hunbound⟩
  · rintro ⟨hstands, hunbound⟩
    exact ⟨hdown.trans hstands, hunbound⟩

/-- What comes first in one of the values further down comes first in all, if the values before that
one are filled. -/
theorem FirstUnknown.of_child {place : Json.Place} {j : Json} {name : String}
    (hj : v.child? place = some j) (hv : ∀ s, v ≠ .string s)
    (hbefore : ∀ place' k, v.child? place' = some k →
      (∃ w, p.Fills k w) ∨ place' = place ∨
        ∀ path path', Json.Before (place :: path) (place' :: path'))
    (h : p.FirstUnknown j name) : p.FirstUnknown v name := by
  obtain ⟨path, hu, hfirst⟩ := h
  refine ⟨place :: path, (Unknown.of_child hj).2 hu, fun path' name' hu' => ?_⟩
  cases path' with
  | nil => exact absurd (Option.some.inj hu'.stands) (hv _)
  | cons place' rest =>
    obtain ⟨k, hk, -⟩ := Option.bind_eq_some_iff.1 hu'.stands
    rcases hbefore place' k hk with ⟨w, hfills⟩ | rfl | hbefore
    · exact absurd ((Unknown.of_child hk).1 hu') hfills.known
    · refine (hfirst rest name' ((Unknown.of_child hj).1 hu')).imp ?_ .within
      rintro rfl
      rfl
    · exact .inr (hbefore path rest)

/-- A value is refused because of the first reference in it that has no value. -/
theorem firstUnknown_of_substitute (hv : v.Canonical) {f : TemplateFault}
    (h : p.substitute v = .error f) :
    ∃ name, p.FirstUnknown v name ∧ f = .unknownParameter name := by
  induction v using Json.induction with
  | null | bool b | number n => cases h
  | string s =>
    rw [substitute] at h
    unfold resolve at h
    cases hs : reference? s with
    | none => simp [hs] at h
    | some name =>
      obtain rfl := reference?_eq_some.1 hs
      cases hvalue : p.get? name with
      | some value => simp [hs, hvalue] at h
      | none =>
        obtain rfl : .unknownParameter name = f := by simpa [hs, hvalue] using h
        refine ⟨name, ⟨[], ⟨rfl, hvalue⟩, fun path' name' hu => ?_⟩, rfl⟩
        cases path' with
        | nil => exact .inl rfl
        | cons place rest => cases hu.stands
  | array items ih =>
    have hitems := Json.canonicalItems_iff.1 hv
    obtain ⟨before, j, after, rfl, hf, hbefore⟩ := substitute_array_error h
    have hj : j ∈ before ++ j :: after := by simp
    obtain ⟨name, hfirst, rfl⟩ := ih j hj (hitems j hj) hf
    have hchild : (Json.array (before ++ j :: after)).child? (.item before.length) = some j := by
      simp [Json.child?]
    refine ⟨name, hfirst.of_child hchild (by simp) fun place' k hk => ?_, rfl⟩
    cases place' with
    | member name' => cases hk
    | item i =>
      have hk : (before ++ j :: after)[i]? = some k := hk
      rcases Nat.lt_trichotomy i before.length with hi | rfl | hi
      · rw [List.getElem?_append_left hi] at hk
        have hmem := List.mem_of_getElem? hk
        obtain ⟨w, hw⟩ := hbefore k hmem
        exact .inl ⟨w, (substitute_eq_ok_iff (hitems k (List.mem_append_left _ hmem))).1 hw⟩
      · exact .inr (.inl rfl)
      · exact .inr (.inr fun _ _ => .item hi)
  | object members ih =>
    obtain ⟨hascending, hmembers⟩ := hv
    have hmembers := Json.canonicalMembers_iff.1 hmembers
    obtain ⟨before, ⟨own, j⟩, after, rfl, hf, hbefore⟩ := substitute_object_error h
    have hj : (own, j) ∈ before ++ (own, j) :: after := by simp
    obtain ⟨name, hfirst, rfl⟩ := ih _ hj (hmembers _ hj) hf
    have hchild : (Json.object (before ++ (own, j) :: after)).child? (.member own) = some j :=
      findValue?_of_mem hascending.nodup_keys hj
    refine ⟨name, hfirst.of_child hchild (by simp) fun place' k hk => ?_, rfl⟩
    cases place' with
    | item i => cases hk
    | member name' =>
      have hmem : (name', k) ∈ before ++ (own, j) :: after := mem_of_findValue? hk
      have hlater := (List.pairwise_append.1 hascending).2.1
      rcases List.mem_append.1 hmem with hearlier | hmem
      · obtain ⟨w, hw⟩ := hbefore _ hearlier
        exact .inl ⟨w, (substitute_eq_ok_iff (hmembers _ (List.mem_append_left _ hearlier))).1 hw⟩
      · rcases List.mem_cons.1 hmem with heq | hafter
        · obtain ⟨rfl, -⟩ := Prod.mk.inj heq
          exact .inr (.inl rfl)
        · have hlt : own < name' := (List.pairwise_cons.1 hlater).1 _ hafter
          exact .inr (.inr fun _ _ => .member (Text.lt_iff_encode_lt.1 hlt))

/-- Replacing the references of a value does what the references say, and no more. -/
structure SubstitutesExactly (p : Parameters) (v : Json) : Prop where
  /-- It succeeds exactly if all references, at any depth, are to parameters with a value. -/
  succeeds : (∃ w, p.substitute v = .ok w) ↔
    ∀ path name, v.at? path = some (.string (referenceTo name)) → (p.get? name).isSome
  /-- Then the references are replaced by the bound values as they are, and nothing else changes. -/
  fills : ∀ w, p.substitute v = .ok w ↔ p.Fills v w
  /-- Else the first parameter without a value is named. -/
  refuses : ∀ f, p.substitute v = .error f ↔
    ∃ name, p.FirstUnknown v name ∧ f = .unknownParameter name
  /-- A deployment says that its template is invalid. -/
  reports : ∀ name, p.FirstUnknown v name → Plan.fill p v =
    .error (.invalidTemplate ("reference to unknown parameter '" ++ name ++ "'"))

/-- **Substitution is exact.** A string is a reference exactly if the name stands between the two
parts of a reference, and replacing the references of a value fills it: it succeeds if all of them
have a value, changes nothing else, and otherwise names the first that has none. -/
theorem substitute_exact (p : Parameters) {v : Json} (hv : v.Canonical) :
    (∀ s name, reference? s = some name ↔ s = "[parameters('" ++ name ++ "')]") ∧
      p.SubstitutesExactly v := by
  have hrefuses : ∀ f, p.substitute v = .error f ↔
      ∃ name, p.FirstUnknown v name ∧ f = .unknownParameter name := by
    intro f
    constructor
    · exact firstUnknown_of_substitute hv
    · rintro ⟨name, hfirst, rfl⟩
      cases hs : p.substitute v with
      | ok w =>
        obtain ⟨path, hu, -⟩ := hfirst
        exact absurd hu ((substitute_eq_ok_iff hv).1 hs).known
      | error f =>
        obtain ⟨name', hfirst', rfl⟩ := firstUnknown_of_substitute hv hs
        rw [hfirst.unique hfirst']
  refine ⟨fun s name => reference?_eq_some, ?_, fun w => substitute_eq_ok_iff hv, hrefuses,
    fun name hfirst => ?_⟩
  · constructor
    · rintro ⟨w, hw⟩ path name hstands
      rw [Option.isSome_iff_ne_none]
      intro hunbound
      exact ((substitute_eq_ok_iff hv).1 hw).known ⟨hstands, hunbound⟩
    · intro hknown
      cases hs : p.substitute v with
      | ok w => exact ⟨w, rfl⟩
      | error f =>
        obtain ⟨name, ⟨path, hu, -⟩, -⟩ := firstUnknown_of_substitute hv hs
        have hsome := hknown path name hu.stands
        rw [hu.unbound] at hsome
        cases hsome
  · unfold Plan.fill
    rw [(hrefuses _).2 ⟨name, hfirst, rfl⟩]
    rfl

/-- A parameter whose value reads like a reference to another one. -/
def chained : Parameters :=
  ⟨Table.ofList [("a", .string "[parameters('b')]"), ("b", .bool true)]⟩

/-- A value with two references, a member that is named like a reference, and a string in which the
two parts of a reference overlap. -/
def referring : Json :=
  .object [("[parameters('a')]", .array [.string "[parameters('a')]", .string "[parameters('b')]",
    .string "[parameters(')]"])]

/-- The text of this value. -/
def referringText : String :=
  "\x7b\"[parameters('a')]\":[\"[parameters('a')]\",\"[parameters('b')]\",\"[parameters(')]\"]\x7d"

/-- The bound value is not looked at again; the name and the overlapping string stay. Without
parameters the first reference is the one that is reported. -/
theorem substitute_exact_chained :
    chained.Fills referring (.object [("[parameters('a')]", .array [.string "[parameters('b')]",
        .bool true, .string "[parameters(')]"])]) ∧
      (⟨∅⟩ : Parameters).FirstUnknown referring "a" := by
  have hread : Json.parse referringText = .ok referring := by decide +kernel
  have hv : referring.Canonical := Json.canonical_of_parse hread
  refine ⟨((substitute_exact chained hv).2.fills _).1 (by decide +kernel), ?_⟩
  obtain ⟨name, hfirst, hname⟩ := ((substitute_exact ⟨∅⟩ hv).2.refuses (.unknownParameter "a")).1
    (by decide +kernel)
  rwa [TemplateFault.unknownParameter.inj hname]

end Parameters

end Provision
