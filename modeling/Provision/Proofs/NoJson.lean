import Provision.Json.Shape
import Provision.Provider.Fault
import Provision.Repository.Service
import Provision.Utility.Provider
import Mathlib.Tactic.SplitIfs

/-!
# Texts that are no Json

What a text starts with may tell that it is no Json (`unreadable_append`): the reader looks for a
value and finds none. The messages of all faults start with such words, whatever they embed, and so
do those of the repository provider; only what a service says may be Json.
-/

namespace Provision.Json

/-! ## Starts -/

/-- Whether no value can start with these characters. -/
def barsValue : List Char → Bool
  | 'f' :: 'a' :: x :: _ => x ≠ 'l'
  | x :: _ => !(Cursor.isJsonBlank x || x ∈ ['[', '{', 'n', 't', 'f', '"', '-'] || x.isDigit)
  | [] => false

/-- The text is no Json. -/
def Unreadable (text : String) : Prop := ∀ j, parse text ≠ .ok j

theorem skipBlank_cons {x : Char} (h : Cursor.isJsonBlank x = false) (xs : List Char) (pos : Nat) :
    Cursor.skipBlank ⟨x :: xs, pos⟩ = ⟨x :: xs, pos⟩ := by
  unfold Cursor.skipBlank Cursor.skipBlank.go
  dsimp only
  rw [h]
  rfl

/-- No value is read where none can start. -/
theorem readValue_of_barsValue {cs : List Char} (h : barsValue cs = true)
    (nested : Option (Cursor → Outcome)) (pos : Nat) :
    ∃ m, (readValue nested ⟨cs, pos⟩).1 = .broken pos m := by
  unfold barsValue at h
  split at h
  · rename_i x xs
    have hx : x ≠ 'l' := of_decide_eq_true h
    have hvalue : readValue nested ⟨'f' :: 'a' :: x :: xs, pos⟩ =
        scalar ⟨'f' :: 'a' :: x :: xs, pos⟩
          ((Cursor.word ['l', 's', 'e'] ⟨x :: xs, pos + 1 + 1⟩).map (false, ·)) .bool := rfl
    have hword : Cursor.word ['l', 's', 'e'] ⟨x :: xs, pos + 1 + 1⟩ =
        .error (Cursor.ahead ⟨x :: xs, pos + 1 + 1⟩ .expectedIdent) := if_neg hx
    rw [hvalue, hword]
    exact ⟨_, rfl⟩
  · rename_i x xs _
    simp only [Bool.not_eq_true', Bool.or_eq_false_iff, decide_eq_false_iff_not, List.mem_cons,
      List.not_mem_nil, or_false, not_or] at h
    obtain ⟨⟨hblank, hlist, hobject, hn, ht, hf, hquote, hminus⟩, hdigit⟩ := h
    have hnumber : (x = '-' || x.isDigit) = false := by simp [hminus, hdigit]
    unfold readValue
    rw [skipBlank_cons hblank]
    dsimp only
    split <;> rename_i heq
    · cases heq
    · cases heq; exact absurd rfl hlist
    · cases heq; exact absurd rfl hobject
    · cases heq; exact absurd rfl hn
    · cases heq; exact absurd rfl ht
    · cases heq; exact absurd rfl hf
    · cases heq; exact absurd rfl hquote
    · cases heq
      rw [if_neg (by simp [hnumber])]
      exact ⟨_, rfl⟩
  · cases h

/-- A text that starts with what no value starts with is no Json. -/
theorem unreadable_of_barsValue {text : String} (h : barsValue text.toList = true) :
    Unreadable text := by
  obtain ⟨m, hm⟩ : ∃ m, (Document.read text).root = .broken 0 m := by
    obtain ⟨m, hm⟩ := readValue_of_barsValue h (some (readNode 126)) 0
    refine ⟨m, ?_⟩
    have hnode : (readNode nesting (Cursor.ofString text)).1 = .broken 0 m := hm
    unfold Document.read
    generalize readNode nesting (Cursor.ofString text) = o at hnode
    rcases o with ⟨n, _ | c⟩
    · exact hnode
    · exact hnode
  intro j hj
  unfold parse Shape.ofText at hj
  dsimp only at hj
  rw [hm] at hj
  cases hj

theorem barsValue_append {cs : List Char} (h : barsValue cs = true) (ds : List Char) :
    barsValue (cs ++ ds) = true := by
  unfold barsValue at h
  split at h
  · exact h
  · rename_i x xs _
    have hx : x ≠ 'f' := by
      rintro rfl
      cases h
    rw [List.cons_append, barsValue]
    · exact h
    · exact fun y ys heq => absurd heq hx
  · cases h

theorem barsValue_toList_append {start : String} (h : barsValue start.toList = true)
    (text : String) : barsValue (start ++ text).toList = true := by
  rw [String.toList_append]
  exact barsValue_append h _

/-- A text that starts with what no value starts with is no Json, whatever follows. -/
theorem unreadable_append {start : String} (h : barsValue start.toList = true) (text : String) :
    Unreadable (start ++ text) :=
  unreadable_of_barsValue (barsValue_toList_append h text)

end Provision.Json

/-! ## Messages -/

namespace Provision

open Json

theorem ProviderFault.unreadable_message (f : ProviderFault) : Unreadable f.message := by
  cases f with
  | cancelled => exact unreadable_of_barsValue (by decide +kernel)
  | notFound _ | configuration _ | executionFailed _ =>
    exact unreadable_append (by decide +kernel) _
  | invalidProperties type why =>
    have hstart : barsValue "invalid properties for resource type '".toList = true := by
      decide +kernel
    exact unreadable_append (barsValue_toList_append (barsValue_toList_append hstart type) _) why
  | notSupported provider operation type =>
    have hstart : barsValue ("operation " ++ operation.name).toList = true :=
      barsValue_toList_append (by decide +kernel) _
    have hprovider := barsValue_toList_append
      (barsValue_toList_append hstart " is not supported by provider ") provider
    exact unreadable_append (barsValue_toList_append (barsValue_toList_append hprovider _) type) _

theorem Repository.TransportFault.unreadable_message (f : TransportFault) :
    Unreadable f.message := by
  cases f with
  | header => exact unreadable_of_barsValue (by decide +kernel)
  | target url =>
    have hstart : barsValue "builder error for url (".toList = true := by decide +kernel
    exact unreadable_append (barsValue_toList_append hstart url.text) _
  | sending url =>
    have hstart : barsValue "error sending request for url (".toList = true := by decide +kernel
    exact unreadable_append (barsValue_toList_append hstart url.text) _

/-- Only the message of a service may be Json. -/
theorem Repository.RepositoryFault.unreadable_message {f : RepositoryFault}
    (h : ∀ code message, f ≠ .status code message) : Unreadable f.message := by
  cases f with
  | status code message => exact absurd rfl (h code message)
  | transport f => exact f.unreadable_message
  | client _ | invalidRepository _ | invalidBody _ => exact unreadable_append (by decide +kernel) _

end Provision
