import Mathlib.Data.List.Induction
import Provision.Proofs.Bundled
import Provision.Proofs.Reordering
import Provision.Proofs.Utf8

/-!
# Histories of a dispatch table

A history lists the handlers that were put into a dispatch table, first things first, each with the
resource type that it was put there for. A table finds for a type the handler that is last for it in
the history (`get?_after`), and everything that a table says follows from what it finds
(`remembers_assignments`).

To tell which handlers are run, each handler of a history is made to note its number and its request
in the world (`watched`). A request then leaves one note, that of the handler that is last for its
type, or no note at all.
-/

namespace Provision.DispatchTable

variable {σ : Type}

/-- A handler that is put into a table for a resource type. -/
structure Assignment (σ : Type) where
  type : String
  handler : Handler σ

/-- The table after a handler was put into it. -/
def assign (t : DispatchTable σ) (a : Assignment σ) : DispatchTable σ := t.on a.type a.handler

/-- The table after a history, which starts without handlers. -/
def after (operation : Operation) (h : List (Assignment σ)) : DispatchTable σ :=
  h.foldl assign (new operation)

theorem after_append (operation : Operation) (h : List (Assignment σ)) (a : Assignment σ) :
    after operation (h ++ [a]) = (after operation h).assign a := by
  unfold after
  rw [List.foldl_append, List.foldl_cons, List.foldl_nil]

/-! ## What a history says -/

/-- The handler is put there for the type, to the byte. -/
def Assignment.IsFor (a : Assignment σ) (type : String) : Prop :=
  Text.encode a.type = Text.encode type

instance (a : Assignment σ) (type : String) : Decidable (a.IsFor type) :=
  inferInstanceAs (Decidable (Text.encode a.type = Text.encode type))

theorem Assignment.isFor_iff {a : Assignment σ} {type : String} :
    a.IsFor type ↔ a.type = type := Text.encode_inj

/-- There is no handler for the type. -/
def NoneFor (h : List (Assignment σ)) (type : String) : Prop := ∀ a ∈ h, ¬ a.IsFor type

/-- The handler is the last one for the type, and `n` others were put into the table before it. -/
def LastFor (h : List (Assignment σ)) (type : String) (n : Nat) (a : Assignment σ) : Prop :=
  ∃ before since, h = before ++ a :: since ∧ before.length = n ∧ a.IsFor type ∧
    NoneFor since type

/-- The handlers for each type were put into the table in the same order, so that the histories
differ in nothing but the order between handlers for different types. -/
def Rearranges (h h' : List (Assignment σ)) : Prop :=
  ∀ type, h'.filter (·.IsFor type) = h.filter (·.IsFor type)

section History

variable {h h' : List (Assignment σ)} {type : String} {n : Nat} {a b : Assignment σ}

theorem noneFor_nil (type : String) : NoneFor ([] : List (Assignment σ)) type :=
  fun _ ha => absurd ha List.not_mem_nil

theorem NoneFor.append (hn : NoneFor h type) (hb : ¬ b.IsFor type) :
    NoneFor (h ++ [b]) type := by
  intro c hc
  rcases List.mem_append.1 hc with hc | hc
  · exact hn c hc
  · rwa [List.mem_singleton.1 hc]

theorem lastFor_append (ha : a.IsFor type) : LastFor (h ++ [a]) type h.length a :=
  ⟨h, [], rfl, rfl, ha, noneFor_nil type⟩

theorem LastFor.append (hl : LastFor h type n a) (hb : ¬ b.IsFor type) :
    LastFor (h ++ [b]) type n a := by
  obtain ⟨before, since, rfl, hn, ha, hs⟩ := hl
  exact ⟨before, since ++ [b], by simp, hn, ha, hs.append hb⟩

/-- Some handler is the last one for a type, if there is any. -/
theorem lastFor_or_noneFor (h : List (Assignment σ)) (type : String) :
    (∃ n a, LastFor h type n a) ∨ NoneFor h type := by
  induction h using List.reverseRecOn with
  | nil => exact .inr (noneFor_nil type)
  | append_singleton h b ih =>
    by_cases hb : b.IsFor type
    · exact .inl ⟨_, _, lastFor_append hb⟩
    · rcases ih with ⟨n, a, hl⟩ | hn
      · exact .inl ⟨n, a, hl.append hb⟩
      · exact .inr (hn.append hb)

theorem NoneFor.filter_eq_nil (hn : NoneFor h type) : h.filter (·.IsFor type) = [] := by
  rw [List.filter_eq_nil_iff]
  intro a ha
  simpa using hn a ha

theorem LastFor.getLast?_filter (hl : LastFor h type n a) :
    (h.filter (·.IsFor type)).getLast? = some a := by
  obtain ⟨before, since, rfl, -, ha, hs⟩ := hl
  rw [List.filter_append, List.filter_cons_of_pos (by simpa using ha), hs.filter_eq_nil,
    List.getLast?_concat]

theorem Rearranges.append (hr : Rearranges h h') (later : List (Assignment σ)) :
    Rearranges (h ++ later) (h' ++ later) := by
  intro type
  rw [List.filter_append, List.filter_append, hr type]

/-- Two handlers for different types, one put there right after the other, may change places. -/
theorem rearranges_swap (hab : ¬ b.IsFor a.type) (before since : List (Assignment σ)) :
    Rearranges (before ++ a :: b :: since) (before ++ b :: a :: since) := by
  intro type
  have hboth : ¬ (a.IsFor type ∧ b.IsFor type) := by
    rintro ⟨ha, hb⟩
    exact hab (hb.trans ha.symm)
  rw [List.filter_append, List.filter_append]
  by_cases ha : a.IsFor type
  · have hb : ¬ b.IsFor type := fun hb => hboth ⟨ha, hb⟩
    simp [ha, hb]
  · simp [List.filter_cons, ha]

end History

/-! ## What a table finds -/

section Finding

variable {operation : Operation} {h h' : List (Assignment σ)} {type : String} {n : Nat}
  {a : Assignment σ} {r : OperationRequest}

theorem operation_after (operation : Operation) (h : List (Assignment σ)) :
    (after operation h).operation = operation := by
  induction h using List.reverseRecOn with
  | nil => rfl
  | append_singleton h a ih =>
    rw [after_append]
    exact ih

/-- For a type a table finds the last handler of its history for the type. -/
theorem get?_after (operation : Operation) (h : List (Assignment σ)) (type : String) :
    (after operation h).handlers.get? type =
      ((h.filter (·.IsFor type)).getLast?).map Assignment.handler := by
  induction h using List.reverseRecOn with
  | nil => rfl
  | append_singleton h a ih =>
    have hstep : ((after operation h).assign a).handlers.get? type =
        if type = a.type then some a.handler else (after operation h).handlers.get? type :=
      Dictionary.get?_insert _ _ _ _
    rw [after_append, hstep, List.filter_append]
    by_cases ha : a.IsFor type
    · rw [if_pos (Assignment.isFor_iff.1 ha).symm, List.filter_cons_of_pos (by simpa using ha),
        List.filter_nil, List.getLast?_concat]
      rfl
    · have hne : type ≠ a.type := fun heq => ha (Assignment.isFor_iff.2 heq.symm)
      rw [if_neg hne, List.filter_cons_of_neg (by simpa using ha), List.filter_nil,
        List.append_nil, ih]

theorem dispatch_of_lastFor (hl : LastFor h r.resourceType n a) (provider : String) :
    (after operation h).dispatch provider r = a.handler r := by
  unfold dispatch
  rw [get?_after, hl.getLast?_filter]
  rfl

theorem dispatch_of_noneFor (hn : NoneFor h r.resourceType) (provider : String) :
    (after operation h).dispatch provider r = Provider.refusing provider operation r := by
  unfold dispatch
  rw [get?_after, hn.filter_eq_nil, operation_after]
  rfl

theorem supports_after : (after operation h).supports type = true ↔ ∃ a ∈ h, a.IsFor type := by
  unfold supports Dictionary.contains
  rw [get?_after, Option.isSome_map, List.getLast?_isSome]
  simp

theorem mem_resourceTypes {t : DispatchTable σ} :
    type ∈ t.resourceTypes ↔ t.supports type = true := by
  unfold resourceTypes
  rw [List.mem_mergeSort]
  exact findValue?_isSome.symm

/-- The types ascend, and each stands there once. -/
theorem ascending_resourceTypes (t : DispatchTable σ) :
    t.resourceTypes.Pairwise fun s s' => Text.encode s < Text.encode s' := by
  have hdistinct : t.resourceTypes.Nodup :=
    (List.mergeSort_perm _ _).nodup_iff.2 t.handlers.distinct
  refine ((sorted_resourceTypes t).and hdistinct).imp fun {s s'} hs => ?_
  obtain ⟨hle, hne⟩ := hs
  rw [← Text.lt_iff_encode_lt]
  by_cases hlt : s < s'
  · exact hlt
  · exact absurd (String.le_antisymm hle (String.not_lt.1 hlt)) hne

/-- Histories that only differ between types make tables that only differ in order. -/
theorem reorders_after (hr : Rearranges h h') :
    (after operation h).Reorders (after operation h') where
  operation := by rw [operation_after, operation_after]
  handlers := Dictionary.reorders_iff.2 fun type => by rw [get?_after, get?_after, hr type]

end Finding

/-! ## Handlers that are watched -/

/-- The world, and notes of the handlers that were run: the number of each and its request. -/
abbrev Noted (σ : Type) := σ × List (Nat × OperationRequest)

/-- The handler, which also notes its number and its request. -/
def noting (n : Nat) (handler : Handler σ) : Handler (Noted σ) := fun r => do
  let (world, notes) ← get
  let (call, world) := (handler r).run world
  set (world, notes ++ [(n, r)])
  return call

/-- The handler, put there for the same type, which notes a number and its request. -/
def Assignment.noted (n : Nat) (a : Assignment σ) : Assignment (Noted σ) :=
  ⟨a.type, noting n a.handler⟩

/-- The history with handlers that note, each under its place, that they are run. -/
def watched (h : List (Assignment σ)) : List (Assignment (Noted σ)) := h.mapIdx Assignment.noted

section Watching

variable {h : List (Assignment σ)} {type : String} {n : Nat} {a : Assignment σ}

theorem NoneFor.mapIdx_noted (hn : NoneFor h type) (place : Nat → Nat) :
    NoneFor (h.mapIdx fun n a => a.noted (place n)) type := by
  intro a ha
  obtain ⟨n, hlt, rfl⟩ := List.mem_mapIdx.1 ha
  exact hn h[n] (List.getElem_mem hlt)

theorem NoneFor.watched (hn : NoneFor h type) : NoneFor (watched h) type := hn.mapIdx_noted id

theorem LastFor.watched (hl : LastFor h type n a) : LastFor (watched h) type n (a.noted n) := by
  obtain ⟨before, since, rfl, rfl, ha, hs⟩ := hl
  have heq : DispatchTable.watched (before ++ a :: since) =
      DispatchTable.watched before ++ a.noted before.length ::
        since.mapIdx fun n b => b.noted (n + 1 + before.length) := by
    unfold DispatchTable.watched
    rw [List.mapIdx_append, List.mapIdx_cons, Nat.zero_add]
  exact ⟨_, _, heq, List.length_mapIdx, ha, hs.mapIdx_noted fun n => n + 1 + before.length⟩

end Watching

/-! ## What a table says -/

/-- Nobody can tell the tables apart. -/
structure Indistinct (t t' : DispatchTable σ) : Prop where
  operation : t'.operation = t.operation
  dispatch : ∀ provider, t'.dispatch provider = t.dispatch provider
  supports : ∀ type, t'.supports type = t.supports type
  resourceTypes : t'.resourceTypes = t.resourceTypes
  inspect : t'.inspect = t.inspect

theorem Reorders.indistinct {t t' : DispatchTable σ} (h : t.Reorders t') : t.Indistinct t' where
  operation := h.operation
  dispatch := h.dispatch
  supports type := by
    unfold DispatchTable.supports Dictionary.contains
    rw [h.handlers.get?]
  resourceTypes := h.resourceTypes
  inspect := h.inspect

/-- What a table for an operation says is what its history says. -/
structure Remembers (operation : Operation) (h : List (Assignment σ)) : Prop where
  /-- For every type there is a last handler, or none. -/
  decided : ∀ type, (∃ n a, LastFor h type n a) ∨ NoneFor h type
  /-- The last handler for the type of a request answers it. -/
  last : ∀ provider r n a, LastFor h r.resourceType n a →
    (after operation h).dispatch provider r = a.handler r
  /-- It is run once and with the request as it is, and no other handler is run. -/
  alone : ∀ provider r n a, LastFor h r.resourceType n a → ∀ world notes,
    ((after operation (watched h)).dispatch provider r).run (world, notes) =
      (((a.handler r).run world).1, ((a.handler r).run world).2, notes ++ [(n, r)])
  /-- Where there is none, the provider does not support the operation for the type. -/
  refused : ∀ provider r, NoneFor h r.resourceType →
    (after operation h).dispatch provider r =
      pure (.fault (.notSupported provider operation r.resourceType))
  /-- Then no handler is run. -/
  idle : ∀ provider r, NoneFor h r.resourceType → ∀ world notes,
    ((after operation (watched h)).dispatch provider r).run (world, notes) =
      (.fault (.notSupported provider operation r.resourceType), world, notes)
  supports : ∀ type, (after operation h).supports type = true ↔ ∃ a ∈ h, a.IsFor type
  types : ∀ type, type ∈ (after operation h).resourceTypes ↔ ∃ a ∈ h, a.IsFor type
  ascending : (after operation h).resourceTypes.Pairwise fun s s' => Text.encode s < Text.encode s'
  /-- The order between handlers for different types cannot be told, whatever is put into the table
  later on. -/
  rearranged : ∀ h' later, Rearranges h h' →
    Indistinct (after operation (h ++ later)) (after operation (h' ++ later))

/-- **A dispatch table says what its history says.** After every history a request is answered by
the one handler that was put there last for its type, or refused if there is none. -/
theorem remembers_assignments (operation : Operation) (h : List (Assignment σ)) :
    Remembers operation h where
  decided := lastFor_or_noneFor h
  last provider r n a hl := dispatch_of_lastFor hl provider
  alone provider r n a hl world notes := by
    rw [dispatch_of_lastFor hl.watched]
    rfl
  refused provider r hn := dispatch_of_noneFor hn provider
  idle provider r hn world notes := by
    rw [dispatch_of_noneFor hn.watched]
    rfl
  supports type := supports_after
  types type := mem_resourceTypes.trans supports_after
  ascending := ascending_resourceTypes _
  rearranged h' later hr := (reorders_after (hr.append later)).indistinct

/-- The handler that succeeds at once with an empty resource of a given type. -/
def making (type : String) : Handler Unit := fun _ =>
  pure (.answer (.ok (.succeeded (.bare type))))

/-- A handler is replaced; in between, another one is put there for a type that differs in case. -/
def respelled : List (Assignment Unit) :=
  [⟨"Echo", making "first"⟩, ⟨"echo", making "second"⟩, ⟨"Echo", making "third"⟩]

theorem remembers_assignments_respelled :
    LastFor respelled "Echo" 2 ⟨"Echo", making "third"⟩ ∧
      ((after .save (watched respelled)).dispatch "p" (.new "Echo" .null)).run ((), []) =
        (.answer (.ok (.succeeded (.bare "third"))), (), [(2, .new "Echo" .null)]) ∧
      NoneFor respelled "ECHO" ∧
      (after .save respelled).dispatch "p" (.new "ECHO" .null) =
        pure (.fault (.notSupported "p" .save "ECHO")) ∧
      Indistinct (after .save respelled)
        (after .save [⟨"Echo", making "first"⟩, ⟨"Echo", making "third"⟩,
          ⟨"echo", making "second"⟩]) := by
  have h := remembers_assignments .save respelled
  have hlast : LastFor respelled "Echo" 2 ⟨"Echo", making "third"⟩ :=
    ⟨[_, _], [], rfl, rfl, rfl, noneFor_nil _⟩
  have hnone : NoneFor respelled "ECHO" := by
    simp [NoneFor, respelled, Assignment.isFor_iff]
  have hcase : ¬ (⟨"Echo", making "third"⟩ : Assignment Unit).IsFor "echo" := by
    simp [Assignment.isFor_iff]
  exact ⟨hlast, h.alone "p" (.new "Echo" .null) 2 _ hlast () [], hnone, h.refused "p" _ hnone,
    h.rearranged _ [] (rearranges_swap hcase [⟨"Echo", making "first"⟩] [])⟩

end Provision.DispatchTable
