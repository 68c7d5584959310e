import Mathlib.Data.List.Forall2
import Mathlib.Tactic.SplitIfs
import Provision.Deployment.Summary
import Provision.Proofs.Entries
import Provision.Proofs.Utf8

/-!
# The lines of a summary

A summary is cut at its line breaks into the lines that it was put together from, if the texts of
the report hold no line breaks themselves (`lines_summary`). The values of the outputs may hold any,
for in compact text a line break is escaped (`Json.unbroken_compact`). So the lines account for the
report: they tell how many operations there are and which of them failed, and their number is known
from the report (`summary_accounts`).
-/

namespace Provision

/-! ## Texts on one line -/

namespace Text

/-- The text holds no line break. -/
def Unbroken (s : String) : Prop := '\n' ∉ s.toList

instance (s : String) : Decidable (Unbroken s) :=
  inferInstanceAs (Decidable ('\n' ∉ s.toList))

/-- The parts of a text between its line breaks. -/
def lines (s : String) : List String := (s.split '\n').toList.map String.Slice.copy

/-- Lines that are joined are found again. -/
theorem lines_intercalate {ls : List String} (hne : ls ≠ []) (h : ∀ l ∈ ls, Unbroken l) :
    lines ("\n".intercalate ls) = ls :=
  (String.toList_split_intercalate h).trans (if_neg hne)

@[simp] theorem unbroken_append {s t : String} :
    Unbroken (s ++ t) ↔ Unbroken s ∧ Unbroken t := by
  unfold Unbroken
  rw [String.toList_append, List.mem_append, not_or]

@[simp] theorem unbroken_ofList {cs : List Char} : Unbroken (String.ofList cs) ↔ '\n' ∉ cs := by
  unfold Unbroken
  rw [String.toList_ofList]

theorem newline_notMem_toDigits (n : Nat) : '\n' ∉ Nat.toDigits 10 n := fun h =>
  absurd (Nat.isDigit_of_mem_toDigits (by omega) (by omega) h) (by decide)

@[simp] theorem unbroken_toString (n : Nat) : Unbroken (toString n) := by
  rw [Nat.toString_eq_ofList_toDigits, unbroken_ofList]
  exact newline_notMem_toDigits n

end Text

/-! ## Compact text is on one line -/

namespace Json

theorem newline_notMem_escape (c : Char) : '\n' ∉ escape c := by
  have hdigit : ∀ n, '\n' ≠ hexDigit n := by
    intro n
    have hall : ∀ n : Fin 16, '\n' ≠ Nat.digitChar n := by decide
    exact hall ⟨n % 16, Nat.mod_lt _ (by omega)⟩
  unfold escape
  split_ifs with hquote hslash hb hf hn
  · decide
  · decide
  · decide
  · decide
  · decide
  · decide
  · decide
  · simp [hdigit]
  · simpa using Ne.symm hn

theorem newline_notMem_stringChars (s : String) : '\n' ∉ stringChars s := by
  have hbody : '\n' ∉ s.toList.flatMap escape := by
    rw [List.mem_flatMap]
    rintro ⟨c, -, hc⟩
    exact newline_notMem_escape c hc
  simp [stringChars, hbody]

/-- A decimal is written in digits, with a point, an exponent and signs. -/
theorem newline_notMem_write (l : Binary64.Layout) (d : Decimal) : '\n' ∉ l.write d := by
  have hds := Text.newline_notMem_toDigits d.digits
  unfold Binary64.Layout.write Binary64.digits
  generalize Nat.toDigits 10 d.digits = ds at hds ⊢
  dsimp only
  split
  · -- with an exponent
    simp only [List.mem_append, List.mem_cons, not_or]
    refine ⟨?_, by decide, ?_, Text.newline_notMem_toDigits _⟩
    · split
      · exact hds
      · simpa using hds
      · exact List.not_mem_nil
    · split <;> decide
  · split_ifs with hwhole hpoint
    · simp [hds]
    · have htake (n : Nat) : '\n' ∉ ds.take n := fun h => hds (List.mem_of_mem_take h)
      have hdrop (n : Nat) : '\n' ∉ ds.drop n := fun h => hds (List.mem_of_mem_drop h)
      simp [htake, hdrop]
    · simp [hds]

theorem newline_notMem_numberChars (n : Number) : '\n' ∉ n.chars := by
  cases n with
  | natural n => exact Text.newline_notMem_toDigits _
  | negative n => simp [Number.chars, Text.newline_notMem_toDigits]
  | double x =>
    unfold Number.chars Binary64.chars Binary64.write
    rw [List.mem_append, not_or]
    constructor
    · split_ifs <;> decide
    · split_ifs
      · decide
      · exact newline_notMem_write _ _

mutual

theorem newline_notMem_chars : ∀ j : Json, '\n' ∉ j.chars
  | .null => by decide
  | .bool true => by decide
  | .bool false => by decide
  | .number n => newline_notMem_numberChars n
  | .string s => newline_notMem_stringChars s
  | .array [] => by decide
  | .array (j :: js) => by
    simp [chars, newline_notMem_chars j, newline_notMem_itemsChars js]
  | .object [] => by decide
  | .object ((k, j) :: rest) => by
    simp [chars, newline_notMem_stringChars k, newline_notMem_chars j,
      newline_notMem_membersChars rest]

theorem newline_notMem_itemsChars : ∀ js : List Json, '\n' ∉ itemsChars js
  | [] => by decide
  | j :: js => by simp [itemsChars, newline_notMem_chars j, newline_notMem_itemsChars js]

theorem newline_notMem_membersChars : ∀ members : List (String × Json), '\n' ∉ membersChars members
  | [] => by decide
  | (k, j) :: rest => by
    simp [membersChars, newline_notMem_stringChars k, newline_notMem_chars j,
      newline_notMem_membersChars rest]

end

theorem unbroken_compact (j : Json) : Text.Unbroken j.compact :=
  Text.unbroken_ofList.2 (newline_notMem_chars j)

end Json

/-! ## Reports without line breaks -/

/-- No text of the error holds a line break. -/
structure OperationError.Unbroken (e : OperationError) : Prop where
  code : Text.Unbroken e.code
  message : Text.Unbroken e.message
  target : Text.Unbroken e.target

/-- No text of the operation holds a line break. -/
structure OperationReport.Unbroken (o : OperationReport) : Prop where
  resourceName : Text.Unbroken o.resourceName
  provisioningState : Text.Unbroken o.provisioningState
  error : ∀ e ∈ o.error, e.Unbroken

/-- No text of the report holds a line break, the values of outputs apart. -/
structure Report.Unbroken (r : Report) : Prop where
  provisioningState : Text.Unbroken r.deployment.provisioningState
  error : ∀ e ∈ r.deployment.error, e.Unbroken
  outputs : ∀ name ∈ r.deployment.outputs.keys, Text.Unbroken name
  operations : ∀ o ∈ r.operations, o.Unbroken

section Unbroken

variable {l : String}

theorem OperationError.Unbroken.summary {e : OperationError} (h : e.Unbroken) :
    Text.Unbroken e.summary := by
  have htarget : Text.Unbroken (if e.target.isEmpty then "" else " (target: " ++ e.target ++ ")") := by
    split
    · decide
    · rw [Text.unbroken_append, Text.unbroken_append]
      exact ⟨⟨by decide, h.target⟩, by decide⟩
  unfold OperationError.summary
  rw [Text.unbroken_append, Text.unbroken_append, Text.unbroken_append]
  exact ⟨⟨⟨h.code, by decide⟩, h.message⟩, htarget⟩

theorem unbroken_errorLine {error : Option OperationError} {indent : String}
    (hindent : Text.Unbroken indent) (h : ∀ e ∈ error, e.Unbroken)
    (hl : l ∈ error.toList.map fun e => indent ++ e.summary) : Text.Unbroken l := by
  obtain ⟨e, he, rfl⟩ := List.mem_map.1 hl
  exact Text.unbroken_append.2 ⟨hindent, (h e (Option.mem_toList.1 he)).summary⟩

theorem OperationReport.Unbroken.summaryLine {o : OperationReport} (h : o.Unbroken)
    (hl : l ∈ o.summaryLines) : Text.Unbroken l := by
  have hmark : Text.Unbroken o.mark := by
    unfold mark
    split <;> decide
  rcases List.mem_cons.1 hl with rfl | hl
  · simp only [Text.unbroken_append]
    exact ⟨⟨⟨⟨⟨by decide, hmark⟩, by decide⟩, h.resourceName⟩, by decide⟩, h.provisioningState⟩
  · exact unbroken_errorLine (by decide) h.error hl

theorem DeploymentReport.unbroken_outputLine {d : DeploymentReport}
    (h : ∀ name ∈ d.outputs.keys, Text.Unbroken name) (hl : l ∈ d.outputLines) :
    Text.Unbroken l := by
  unfold outputLines at hl
  split at hl
  · cases hl
  · rcases List.mem_cons.1 hl with rfl | hl
    · decide
    · obtain ⟨o, ho, rfl⟩ := List.mem_map.1 hl
      simp only [Text.unbroken_append]
      exact ⟨⟨⟨by decide, h o.1 (List.mem_map_of_mem ho)⟩, by decide⟩, o.2.unbroken_compact⟩

theorem Report.Unbroken.summaryLine {r : Report} (h : r.Unbroken) (hl : l ∈ r.summaryLines) :
    Text.Unbroken l := by
  unfold summaryLines at hl
  rcases List.mem_append.1 hl with hl | hl
  · rcases List.mem_append.1 hl with hl | hl
    · rcases List.mem_cons.1 hl with rfl | hl
      · exact Text.unbroken_append.2 ⟨by decide, h.provisioningState⟩
      · exact unbroken_errorLine (by decide) h.error hl
    · exact DeploymentReport.unbroken_outputLine h.outputs hl
  · rcases List.mem_cons.1 hl with rfl | hl
    · simp only [Text.unbroken_append]
      exact ⟨⟨by decide, Text.unbroken_toString _⟩, by decide⟩
    · obtain ⟨o, ho, hl⟩ := List.mem_flatMap.1 hl
      exact (h.operations o ho).summaryLine hl

/-- A summary is cut into the lines that it was put together from. -/
theorem Report.lines_summary {r : Report} (h : r.Unbroken) :
    Text.lines r.summary = r.summaryLines := by
  refine Text.lines_intercalate ?_ fun l hl => h.summaryLine hl
  unfold summaryLines
  simp

end Unbroken

/-! ## What the lines tell -/

namespace Report

/-- The line of an error, if there is one. -/
inductive ErrorLines (indent : String) : Option OperationError → List String → Prop where
  | none : ErrorLines indent none []
  | some (e : OperationError) : ErrorLines indent (some e) [indent ++ e.summary]

/-- The lines of outputs: nothing if there are none, else a heading, and a line for each in the
order of the bytes of the names. -/
inductive OutputLines (outputs : Table Json) : List String → Prop where
  | none (h : outputs.entries = []) : OutputLines outputs []
  | some (named : List (String × Json)) (h : named ≠ [])
      (mem_iff : ∀ name value, (name, value) ∈ named ↔ outputs.get? name = some value)
      (ascending : named.Pairwise fun a b => Text.encode a.1 < Text.encode b.1) :
      OutputLines outputs
        ("Outputs:" :: named.map fun o => "  " ++ o.1 ++ " = " ++ o.2.compact)

/-- The lines of an operation of a report: one if it is not among those that failed, else one for
the operation and one for its error. -/
inductive OperationLines (r : Report) (o : OperationReport) : List String → Prop where
  | ok (h : o ∉ r.failedOperations) :
      OperationLines r o ["  [OK ] " ++ o.resourceName ++ " | " ++ o.provisioningState]
  | failed (e : OperationError) (h : o ∈ r.failedOperations) (he : o.error = some e) :
      OperationLines r o
        ["  [ERR] " ++ o.resourceName ++ " | " ++ o.provisioningState, "        " ++ e.summary]

/-- The lines account for everything in the report. -/
structure Accounts (r : Report) (lines : List String) : Prop where
  sections : ∃ error outputs operations,
    lines = ("Deployment: " ++ r.deployment.provisioningState) :: error ++ outputs ++
        ("Operations (" ++ toString r.operations.length ++ "):") :: operations.flatten ∧
      ErrorLines "  error: " r.deployment.error error ∧
      OutputLines r.deployment.outputs outputs ∧
      List.Forall₂ (OperationLines r) r.operations operations
  length : lines.length =
    2 + (if r.deployment.error.isSome then 1 else 0) +
      (if 0 < r.deployment.outputs.entries.length then r.deployment.outputs.entries.length + 1
        else 0) +
      r.operations.length + r.failedOperations.length

section Accounting

variable {r : Report} {o : OperationReport}

theorem errorLines_map (indent : String) (error : Option OperationError) :
    ErrorLines indent error (error.toList.map fun e => indent ++ e.summary) := by
  cases error with
  | none => exact .none
  | some e => exact .some e

theorem outputLines_outputLines (d : DeploymentReport) : OutputLines d.outputs d.outputLines := by
  unfold DeploymentReport.outputLines
  by_cases h : d.outputs.entries = []
  · have hempty : d.outputs.isEmpty = true := List.isEmpty_iff.2 h
    rw [if_pos hempty]
    exact .none h
  · have hempty : ¬ d.outputs.isEmpty = true := fun he => h (List.isEmpty_iff.1 he)
    rw [if_neg hempty]
    refine .some d.outputs.entries h (fun name value => Table.get?_eq_some.symm) ?_
    exact d.outputs.ascending.imp fun hlt => Text.lt_iff_encode_lt.1 hlt

theorem mem_failedOperations (ho : o ∈ r.operations) :
    o ∈ r.failedOperations ↔ o.error.isSome = true := by
  unfold failedOperations
  rw [List.mem_filter]
  exact and_iff_right ho

theorem operationLines_summaryLines (ho : o ∈ r.operations) : OperationLines r o o.summaryLines := by
  have hfailed := mem_failedOperations ho
  have hmark : o.mark = if o.error.isSome then "ERR" else "OK " := rfl
  unfold OperationReport.summaryLines
  rw [hmark]
  cases he : o.error with
  | none =>
    rw [he] at hfailed
    exact .ok fun h => absurd (hfailed.1 h) Bool.false_ne_true
  | some e =>
    rw [he] at hfailed
    exact .failed e (hfailed.2 rfl) he

theorem length_outputLines (d : DeploymentReport) : d.outputLines.length =
    if 0 < d.outputs.entries.length then d.outputs.entries.length + 1 else 0 := by
  unfold DeploymentReport.outputLines Table.isEmpty
  cases d.outputs.entries with
  | nil => rfl
  | cons o os => simp

theorem length_operationLines (os : List OperationReport) :
    (os.flatMap OperationReport.summaryLines).length =
      os.length + (os.filter OperationReport.failed).length := by
  induction os with
  | nil => rfl
  | cons o os ih =>
    rw [List.flatMap_cons, List.length_append, ih, List.filter_cons]
    unfold OperationReport.summaryLines OperationReport.failed
    cases o.error with
    | none => simp; omega
    | some e => simp; omega

theorem length_summaryLines (r : Report) : r.summaryLines.length =
    2 + (if r.deployment.error.isSome then 1 else 0) +
      (if 0 < r.deployment.outputs.entries.length then r.deployment.outputs.entries.length + 1
        else 0) +
      r.operations.length + r.failedOperations.length := by
  have herror : (r.deployment.error.toList.map fun e => "  error: " ++ e.summary).length =
      if r.deployment.error.isSome then 1 else 0 := by
    cases r.deployment.error <;> rfl
  unfold summaryLines DeploymentReport.summaryLines failedOperations
  rw [List.length_append, List.length_append, List.length_cons, List.length_cons, herror,
    length_outputLines, length_operationLines]
  omega

/-- **The lines of a summary account for the report.** Cut at its line breaks, a summary has one
line for the deployment, for each output and for each operation, one more for each error, and the
two headings; the operations that are marked are those that failed. -/
theorem summary_accounts (h : r.Unbroken) : r.Accounts (Text.lines r.summary) := by
  rw [lines_summary h]
  refine ⟨⟨_, _, r.operations.map OperationReport.summaryLines, ?_, errorLines_map _ _,
    outputLines_outputLines _, ?_⟩, length_summaryLines r⟩
  · unfold summaryLines
    rw [List.flatMap_def]
    rfl
  · rw [List.forall₂_map_right_iff, List.forall₂_same]
    intro o ho
    exact operationLines_summaryLines ho

/-- An operation of two failed, and an output holds a line break. -/
def halfFailed : Report where
  deployment :=
    { provisioningState := "Failed"
      outputs := Table.ofList [("text", .string "a\nb"), ("count", .number (.natural 2))]
      error := some ⟨"DeploymentFailed", "1 of 2 resource operations failed", ""⟩ }
  operations :=
    [⟨"repo", "Failed", some ⟨"Repository", "Not Found", "octo/missing"⟩⟩,
      ⟨"pause", "Succeeded", none⟩]

theorem summary_accounts_halfFailed :
    halfFailed.Unbroken ∧ halfFailed.Accounts (Text.lines halfFailed.summary) ∧
      (Text.lines halfFailed.summary).length = 9 := by
  have h : halfFailed.Unbroken :=
    { provisioningState := by decide
      error := by
        rintro e ⟨⟩
        exact ⟨by decide, by decide, by decide⟩
      outputs := by decide
      operations := by
        intro o ho
        rcases List.mem_cons.1 ho with rfl | ho
        · refine ⟨by decide, by decide, ?_⟩
          rintro e ⟨⟩
          exact ⟨by decide, by decide, by decide⟩
        · obtain rfl := List.mem_singleton.1 ho
          exact ⟨by decide, by decide, fun e he => nomatch he⟩ }
  have haccounts := summary_accounts h
  exact ⟨h, haccounts, haccounts.length⟩

end Accounting

end Report

end Provision
