import Mathlib.Order.Monotone.Basic
import Provision.Proofs.CompactText
import Provision.Proofs.Envelopes
import Provision.Proofs.Reports

/-!
# Errors inside errors

An engine that passes on an error puts its text into the message of an error of its own, and the
next engine does the same with that one. However the texts are escaped on the way, an operation
tells the error one layer down, and nothing below it (`peels_once`): the outer error may be sent in
an envelope or bare, and so may the inner one, with blanks around its text. The error of an envelope
that is not one of an operation is the outermost, with its message as it stands.
-/

namespace Provision.Envelope

open Json

/-! ## Layers -/

/-- How an error is sent: in an envelope, or bare. -/
inductive Sends (e : OperationError) : Json → Prop
  | wrapped : Sends e (Engine.envelope (OperationError.shape.write e))
  | bare : Sends e (OperationError.shape.write e)

/-- What an operation tells of its error: the one in its message, if there is one. -/
def peel (outer : OperationError) : OperationError := (inner? outer.message).getD outer

/-- An error inside `n` others, each with a code and a target of its own and, for its message, the
text of an envelope with all that is inside. -/
def chain (e : OperationError) (codes targets : Nat → String) : Nat → OperationError
  | 0 => e
  | n + 1 =>
    ⟨codes n, (Engine.envelope (OperationError.shape.write (chain e codes targets n))).compact,
      targets n⟩

/-- An operation tells one layer less than there are, whatever the texts are. -/
structure PeelsOnce (e : OperationError) : Prop where
  /-- The text of an error in a message is told, with any blanks around it. -/
  layer : ∀ {code before after target : String} {inner outer : Json}, Blank before → Blank after →
    Sends e inner → Sends ⟨code, before ++ inner.compact ++ after, target⟩ outer →
    operationError? outer = .ok (some e)
  /-- Of many layers the outermost is taken off. -/
  layers : ∀ codes targets n {outer : Json}, Sends (chain e codes targets (n + 1)) outer →
    operationError? outer = .ok (some (chain e codes targets n))
  /-- Without taking any off, the error is found as it was sent. -/
  whole : ∀ codes targets n {outer : Json}, Sends (chain e codes targets n) outer →
    error? outer = .ok (some (chain e codes targets n))
  /-- The errors of a chain can be told apart, so one layer less is not two layers less. -/
  distinct : ∀ codes targets, Function.Injective (chain e codes targets)
  /-- Layer by layer, the error inside all of them is reached. -/
  inside : ∀ codes targets n, peel^[n] (chain e codes targets n) = e

/-! ## Reading a layer -/

section Reading

variable {e : OperationError} {j : Json} {before after : String}

theorem write_error (e : OperationError) :
    OperationError.shape.write e = .object
      [("code", .string e.code), ("message", .string e.message), ("target", .string e.target)] :=
  rfl

/-- An error is found as it was sent. -/
theorem error?_of_sends (h : Sends e j) : error? j = .ok (some e) := by
  cases h with
  | wrapped => exact error?_envelope (errorShape_ofJson e)
  | bare => rfl

/-- The text of an error is read as what was sent. -/
theorem parse_of_sends (h : Sends e j) (hb : Blank before) (ha : Blank after) :
    Json.parse (before ++ j.compact ++ after) = .ok j := by
  obtain ⟨ms, rfl, hdepth, hintegral, hcanonical⟩ : ∃ ms, j = .object ms ∧
      (Json.object ms).depth ≤ nesting ∧ Integral (.object ms) ∧
      (Json.object ms).canonical = .object ms := by
    cases h with
    | wrapped =>
      refine ⟨_, rfl, ?_, ?_, rfl⟩ <;>
        simp [write_error, depth, depthMembers, nesting, Integral, IntegralMembers]
    | bare =>
      refine ⟨_, write_error e, ?_, ?_, rfl⟩ <;>
        simp [depth, depthMembers, nesting, Integral, IntegralMembers]
  obtain ⟨n, hread, hholds⟩ := Document.read_object hb ha hdepth hintegral
  rw [Json.parse, Shape.ofText_eq_ok hread hholds, Shape.Means, hcanonical]

/-- The error in a message is found behind its text. -/
theorem inner?_of_sends (h : Sends e j) (hb : Blank before) (ha : Blank after) :
    inner? (before ++ j.compact ++ after) = some e := by
  unfold inner?
  rw [parse_of_sends h hb ha]
  dsimp only
  rw [error?_of_sends h]

/-- Whatever error is sent, an operation tells it with a layer off. -/
theorem operationError?_of_sends (h : Sends e j) : operationError? j = .ok (some (peel e)) := by
  unfold operationError?
  rw [error?_of_sends h]
  rfl

end Reading

/-! ## Many layers -/

section Layers

variable (e : OperationError) (codes targets : Nat → String)

theorem peel_chain (n : Nat) : peel (chain e codes targets (n + 1)) = chain e codes targets n := by
  have hinner : inner? (chain e codes targets (n + 1)).message =
      some (chain e codes targets n) := by
    have h := inner?_of_sends (Sends.wrapped (e := chain e codes targets n)) blank_empty blank_empty
    rwa [String.empty_append, String.append_empty] at h
  unfold peel
  rw [hinner]
  rfl

theorem iterate_peel_chain (n : Nat) : peel^[n] (chain e codes targets n) = e := by
  induction n with
  | zero => rfl
  | succ n ih => rw [Function.iterate_succ_apply, peel_chain, ih]

/-- A message is shorter than the text of its error. -/
theorem length_message_lt (e : OperationError) :
    e.message.length < (Engine.envelope (OperationError.shape.write e)).compact.length := by
  have hmessage := length_le_length_flatMap_escape e.message.toList
  have hchars : (Engine.envelope (OperationError.shape.write e)).chars =
      ('{' :: (stringChars "error" ++ ':' :: '{' :: (stringChars "code" ++ ':' ::
        (stringChars e.code ++ ',' :: (stringChars "message" ++ [':', '"'])))) ++
        e.message.toList.flatMap escape) ++
        '"' :: (membersChars [("target", .string e.target)] ++ ['}']) := by
    simp [write_error, Engine.envelope, chars, membersChars, stringChars]
  rw [compact, String.length_ofList, hchars, ← String.length_toList]
  simp only [List.length_append, List.length_cons]
  omega

theorem chain_injective : Function.Injective (chain e codes targets) := by
  have hgrows : StrictMono fun n => (chain e codes targets n).message.length :=
    strictMono_nat_of_lt_succ fun n => length_message_lt (chain e codes targets n)
  intro m n h
  exact hgrows.injective (congrArg (fun e => e.message.length) h)

end Layers

/-- **One layer is taken off.** An operation tells the error whose text the message of its own error
is, whichever of the two is bare; of an error inside many others it tells all but the outermost. -/
theorem peels_once (e : OperationError) : PeelsOnce e where
  layer hb ha hinner houter := by
    rw [operationError?_of_sends houter]
    show Except.ok (some ((inner? _).getD _)) = _
    rw [inner?_of_sends hinner hb ha]
    rfl
  layers codes targets n _ houter := by
    rw [operationError?_of_sends houter, peel_chain]
  whole codes targets n _ houter := error?_of_sends houter
  distinct := chain_injective e
  inside := iterate_peel_chain e

/-- An error with quotes and a line break in it, inside two others. -/
theorem peels_once_quoted :
    (Engine.envelope (OperationError.shape.write ⟨"A", "not \"x\"\n", ""⟩)).compact =
      "\x7b\"error\":\x7b\"code\":\"A\",\"message\":\"not \\\"x\\\"\\n\",\"target\":\"\"\x7d\x7d" ∧
    Blank "\n" ∧ Blank "\t " ∧
    operationError? (OperationError.shape.write ⟨"B", "\n" ++ (Engine.envelope
      (OperationError.shape.write ⟨"A", "not \"x\"\n", ""⟩)).compact ++ "\t ", "b"⟩) =
      .ok (some ⟨"A", "not \"x\"\n", ""⟩) ∧
    operationError? (Engine.envelope (OperationError.shape.write
      (chain ⟨"A", "not \"x\"\n", ""⟩ (fun _ => "B") (fun _ => "b") 2))) =
      .ok (some (chain ⟨"A", "not \"x\"\n", ""⟩ (fun _ => "B") (fun _ => "b") 1)) := by
  have hb : Blank "\n" := by decide +kernel
  have ha : Blank "\t " := by decide +kernel
  have h := peels_once ⟨"A", "not \"x\"\n", ""⟩
  exact ⟨by decide +kernel, hb, ha, h.layer hb ha .wrapped .bare, h.layers _ _ 1 .wrapped⟩

end Provision.Envelope
