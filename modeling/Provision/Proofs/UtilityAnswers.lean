import Provision.Proofs.Bundled
import Provision.Proofs.LoneCalls

/-!
# The answers of the utility provider

`Answers` says all that the utility provider does with a request, next to a token that may be
cancelled: what it refuses before it looks at the properties, what it refuses because of them, and
how waits, assertions and scripts end. A wait takes as long as it is told to, unless that is longer
than its timer can run (`wait_shortened`). A condition that does not hold is an error of the
resource, and the only one; a script that ends with a code other than zero is a success.
-/

namespace Provision.Utility

/-- What is offered: three types can be saved, two of them previewed. -/
inductive Offers : Operation → String → Prop
  | previewWait : Offers .previewSave "Wait"
  | previewAssert : Offers .previewSave "Assert"
  | saveWait : Offers .save "Wait"
  | saveAssert : Offers .save "Assert"
  | saveScript : Offers .save "BashScript"

/-- The properties of a request do not have the shape that its type asks for. -/
inductive Misfit (r : OperationRequest) (e : Json.ReadError) : Prop
  | wait (ht : r.resourceType = "Wait") (h : r.read WaitRequest.shape = .error e)
  | assert (ht : r.resourceType = "Assert") (h : r.read AssertRequest.shape = .error e)
  | script (ht : r.resourceType = "BashScript") (h : r.read RunScriptRequest.shape = .error e)

/-- How a script that a runner starts at an instant ends: a runner that heeds the token stops it
when the token is cancelled. -/
inductive ScriptRun.Ends (run : ScriptRun) (token : Cancellation) (start : Nat) :
    Option Nat → Except ScriptFault RunScriptResponse → Prop
  | stopped {instant : Nat} (hh : run.heeds = true)
    (h : token.Catches start (run.duration.map (start + ·)) instant) :
    Ends run token start (some instant) (.error .cancelled)
  | missed (h : token.Misses (run.duration.map (start + ·))) :
    Ends run token start (run.duration.map (start + ·)) run.result
  | deaf (hh : run.heeds = false) : Ends run token start (run.duration.map (start + ·)) run.result

/-- What is answered when a script has ended: its end and its output are data, whatever its code
is. -/
inductive Relays (r : OperationRequest) : Except ScriptFault RunScriptResponse → CallResult → Prop
  | finished (code : Int32) (out err : String) : Relays r (.ok ⟨code, out, err⟩)
      (.ok (.succeeded ⟨r.resourceType, .object
        [("exitCode", .ofInt32 code), ("stderr", .string err), ("stdout", .string out)]⟩))
  | cancelled : Relays r (.error .cancelled) (.error .cancelled)
  | spawn (shell why : String) : Relays r (.error (.spawn shell why))
      (.error (.executionFailed ("failed to start '" ++ shell ++ "': " ++ why)))
  | wait (why : String) : Relays r (.error (.wait why))
      (.error (.executionFailed ("failed to collect script output: " ++ why)))

/-- What the provider does with a request. -/
structure Answers (runner : Runner) (o : Operation) (r : OperationRequest) (c : Call) : Prop where
  /-- What is not offered is refused, whatever the properties are. -/
  refused : ¬ Offers o r.resourceType →
    c.AtOnce (.error (.notSupported "Utils" o r.resourceType))
  /-- Nothing else is refused like that. -/
  notSupported : ∀ token start name o' type,
    c.outcomeFrom token start = .error (.notSupported name o' type) →
      ¬ Offers o r.resourceType ∧ name = "Utils" ∧ o' = o ∧ type = r.resourceType
  /-- A preview looks at no properties. -/
  previewed : o = .previewSave → Offers o r.resourceType →
    c.AtOnce (.ok (.succeeded ⟨r.resourceType, .object []⟩))
  misfit : ∀ e, o = .save → Misfit r e →
    c.AtOnce (.error (.invalidProperties r.resourceType e.message))
  /-- A wait does nothing but wait, for as long as it is told to, if its timer can run for so
  long. -/
  waits : ∀ body, o = .save → r.resourceType = "Wait" → r.read WaitRequest.shape = .ok body →
    body.milliseconds.toNat ≤ longestTimer →
      c.effects = [] ∧ ∀ token start, c.Yields token start
        (some (start + body.milliseconds.toNat)) (.ok (.succeeded ⟨r.resourceType, .object []⟩))
  holds : ∀ body, o = .save → r.resourceType = "Assert" →
    r.read AssertRequest.shape = .ok body → body.condition = true →
      c.AtOnce (.ok (.succeeded ⟨r.resourceType, .object []⟩))
  /-- A condition that does not hold is the only error of a resource. -/
  failed : ∀ errors, (∃ token start, c.outcomeFrom token start = .ok (.failed errors)) ↔
    ∃ body, o = .save ∧ r.resourceType = "Assert" ∧ r.read AssertRequest.shape = .ok body ∧
      body.condition = false ∧
      errors = .one ⟨"AssertionFailed", "Assertion '" ++ body.name ++ "' failed!", ""⟩
  failedAtOnce : ∀ errors token start, c.outcomeFrom token start = .ok (.failed errors) →
    c.AtOnce (.ok (.failed errors))
  /-- The runner is handed the script, once, and the answer tells how the script ended. -/
  scripts : ∀ body, o = .save → r.resourceType = "BashScript" →
    r.read RunScriptRequest.shape = .ok body →
      c.effects = [.script body.script] ∧
      (∀ token start stop? result, (runner body.script).Ends token start stop? result →
        c.endsAt token start = stop? ∧ Relays r result (c.outcomeFrom token start)) ∧
      ∀ token start, token.Apart start ((runner body.script).duration.map (start + ·)) →
        ∃ stop? result, (runner body.script).Ends token start stop? result
  /-- Nothing else is handed to the runner. -/
  effects : c.effects ≠ [] →
    o = .save ∧ r.resourceType = "BashScript" ∧ ∃ body, r.read RunScriptRequest.shape = .ok body

/-! ## What each operation does with each type -/

section Calls

variable {σ : Type} {runner : Runner} {o : Operation} {r : OperationRequest} {s : σ}

theorem offers_save {type : String} :
    Offers .save type ↔ type = scriptType ∨ type = assertType ∨ type = waitType := by
  constructor
  · rintro (_ | _ | _)
    · exact .inr (.inr rfl)
    · exact .inr (.inl rfl)
    · exact .inl rfl
  · rintro (rfl | rfl | rfl)
    · exact .saveScript
    · exact .saveAssert
    · exact .saveWait

theorem offers_previewSave {type : String} :
    Offers .previewSave type ↔ type = assertType ∨ type = waitType := by
  constructor
  · rintro (_ | _)
    · exact .inr rfl
    · exact .inl rfl
  · rintro (rfl | rfl)
    · exact .previewAssert
    · exact .previewWait

/-- Whatever is not offered is refused. -/
theorem run_of_not_offers (h : ¬ Offers o r.resourceType) :
    ((provider runner : Provider σ).invoke o r).run s =
      (.fault (.notSupported "Utils" o r.resourceType), s) := by
  cases o with
  | save =>
    rw [offers_save, not_or, not_or] at h
    obtain ⟨hscript, hassert, hwait⟩ := h
    rw [invoke_save, if_neg hscript, if_neg hassert, if_neg hwait]
    rfl
  | previewSave =>
    rw [offers_previewSave, not_or] at h
    obtain ⟨hassert, hwait⟩ := h
    rw [invoke_previewSave, if_neg hassert, if_neg hwait]
    rfl
  | get | delete => rfl

theorem run_preview (h : Offers .previewSave r.resourceType) :
    ((provider runner : Provider σ).invoke .previewSave r).run s = (preview r, s) := by
  rw [invoke_previewSave]
  rcases offers_previewSave.1 h with hassert | hwait
  · rw [if_pos hassert]
    rfl
  · rw [if_pos hwait, ite_self]
    rfl

theorem run_wait (ht : r.resourceType = waitType) :
    ((provider runner : Provider σ).invoke .save r).run s = (wait r, s) := by
  rw [invoke_save_wait ht]
  rfl

theorem run_assert (ht : r.resourceType = assertType) :
    ((provider runner : Provider σ).invoke .save r).run s = (assert r, s) := by
  have hscript : assertType ≠ scriptType := by decide
  rw [invoke_save, ht, if_neg hscript, if_pos rfl]
  rfl

theorem run_runScript (ht : r.resourceType = scriptType) :
    ((provider runner : Provider σ).invoke .save r).run s = (runScript runner r, s) := by
  rw [invoke_save, ht, if_pos rfl]
  rfl

theorem run_of_misfit {e : Json.ReadError} (h : Misfit r e) :
    ((provider runner : Provider σ).invoke .save r).run s =
      (.fault (.invalidProperties r.resourceType e.message), s) := by
  cases h with
  | wait ht hb => rw [run_wait ht, wait, withProperties_of_error hb]
  | assert ht hb => rw [run_assert ht, assert, withProperties_of_error hb]
  | script ht hb => rw [run_runScript ht, runScript, withProperties_of_error hb]

/-- The calls that the provider makes of requests. -/
inductive Handles (runner : Runner) (o : Operation) (r : OperationRequest) : Call → Prop
  | refused (h : ¬ Offers o r.resourceType) :
    Handles runner o r (.fault (.notSupported "Utils" o r.resourceType))
  | previewed (ho : o = .previewSave) : Handles runner o r (.answer (plainSuccess r))
  | misfit {e : Json.ReadError} (ho : o = .save) (h : Misfit r e) :
    Handles runner o r (.fault (.invalidProperties r.resourceType e.message))
  | waits {time : Nat} (ho : o = .save) :
    Handles runner o r ⟨some time, plainSuccess r, true, false, []⟩
  | asserts {body : AssertRequest} (ho : o = .save) (ht : r.resourceType = "Assert")
    (hb : r.read AssertRequest.shape = .ok body) : Handles runner o r (.answer (assertion r body))
  | scripts {body : RunScriptRequest} (ho : o = .save) (ht : r.resourceType = "BashScript")
    (hb : r.read RunScriptRequest.shape = .ok body) :
    Handles runner o r ⟨(runner body.script).duration, scriptResult r (runner body.script).result,
      (runner body.script).heeds, false, [.script body.script]⟩

/-- Every request is handled by one of the calls, and the world is left as it is. -/
theorem handles_invoke (runner : Runner) (o : Operation) (r : OperationRequest) (s : σ) :
    ∃ c, ((provider runner : Provider σ).invoke o r).run s = (c, s) ∧ Handles runner o r c := by
  by_cases h : Offers o r.resourceType
  · obtain ⟨type, ht⟩ : ∃ type, r.resourceType = type := ⟨_, rfl⟩
    have hoffers := h
    rw [ht] at h
    cases h with
    | previewWait | previewAssert => exact ⟨_, run_preview hoffers, .previewed rfl⟩
    | saveWait =>
      cases hb : r.read WaitRequest.shape with
      | error e => exact ⟨_, run_of_misfit (.wait ht hb), .misfit rfl (.wait ht hb)⟩
      | ok body =>
        refine ⟨_, run_wait ht, ?_⟩
        rw [wait_eq hb]
        exact .waits rfl
    | saveAssert =>
      cases hb : r.read AssertRequest.shape with
      | error e => exact ⟨_, run_of_misfit (.assert ht hb), .misfit rfl (.assert ht hb)⟩
      | ok body =>
        refine ⟨_, run_assert ht, ?_⟩
        rw [assert, withProperties_of_ok hb]
        exact .asserts rfl ht hb
    | saveScript =>
      cases hb : r.read RunScriptRequest.shape with
      | error e => exact ⟨_, run_of_misfit (.script ht hb), .misfit rfl (.script ht hb)⟩
      | ok body =>
        refine ⟨_, run_runScript ht, ?_⟩
        rw [runScript, withProperties_of_ok hb]
        exact .scripts rfl ht hb
  · exact ⟨_, run_of_not_offers h, .refused h⟩

end Calls

/-! ## How the calls end -/

section Endings

variable {runner : Runner} {o : Operation} {r : OperationRequest} {c : Call}
  {token : Cancellation} {start : Nat}

/-- How a script ends is decided, unless the token is cancelled just when the script is over. -/
theorem ScriptRun.exists_ends {run : ScriptRun}
    (h : token.Apart start (run.duration.map (start + ·))) :
    ∃ stop? result, run.Ends token start stop? result := by
  cases hh : run.heeds with
  | false => exact ⟨_, _, .deaf hh⟩
  | true =>
    rcases Cancellation.catches_or_misses Call.start_le_of_mem_map h with
      ⟨instant, hcaught⟩ | hmissed
    · exact ⟨_, _, .stopped hh hcaught⟩
    · exact ⟨_, _, .missed hmissed⟩

theorem toJson_runScriptResponse (code : Int32) (out err : String) :
    RunScriptResponse.shape.toJson ⟨code, out, err⟩ = .object
      [("exitCode", .ofInt32 code), ("stderr", .string err), ("stdout", .string out)] := by
  have hcode : (Json.ofInt32 code).canonical = .ofInt32 code := by
    unfold Json.ofInt32
    split <;> rfl
  show Json.object [("exitCode", (Json.ofInt32 code).canonical), _, _] = _
  rw [hcode]
  rfl

theorem relays_scriptResult (r : OperationRequest) (result : Except ScriptFault RunScriptResponse) :
    Relays r result (scriptResult r result) := by
  match result with
  | .ok ⟨code, out, err⟩ =>
    rw [scriptResult, toJson_runScriptResponse]
    exact .finished code out err
  | .error .cancelled => exact .cancelled
  | .error (.spawn shell why) => exact .spawn shell why
  | .error (.wait why) => exact .wait why

/-- A call that hands a script to the runner ends as the script does. -/
theorem relays_of_ends {run : ScriptRun} {stop? : Option Nat}
    {result : Except ScriptFault RunScriptResponse} (h : run.Ends token start stop? result)
    (hduration : c.duration = run.duration) (hresult : c.result = scriptResult r run.result)
    (hheeds : c.heeds = run.heeds) :
    c.endsAt token start = stop? ∧ Relays r result (c.outcomeFrom token start) := by
  have hstop : c.stop start = run.duration.map (start + ·) := by rw [Call.stop, hduration]
  cases h with
  | stopped hh hcaught =>
    obtain ⟨hends, houtcome⟩ := Call.ends_of_catches (hheeds.trans hh) (hstop ▸ hcaught)
    rw [hends, houtcome]
    exact ⟨rfl, .cancelled⟩
  | missed hmissed =>
    rw [← hstop] at hmissed ⊢
    obtain ⟨hends, houtcome⟩ := Call.ends_of_misses hmissed
    rw [hends, houtcome, hresult]
    exact ⟨rfl, relays_scriptResult r run.result⟩
  | deaf hh =>
    have hends : c.endsAt token start = c.stop start ∧ c.outcomeFrom token start = c.result :=
      Call.ends_of_deaf (hheeds.trans hh)
    rw [hends.1, hends.2, hresult]
    exact ⟨hstop, relays_scriptResult r run.result⟩

theorem notSupported_of_handles (h : Handles runner o r c) {name type : String} {o' : Operation}
    (hc : c.result = .error (.notSupported name o' type)) :
    ¬ Offers o r.resourceType ∧ name = "Utils" ∧ o' = o ∧ type = r.resourceType := by
  cases h with
  | refused hn =>
    cases hc
    exact ⟨hn, rfl, rfl, rfl⟩
  | previewed _ | misfit _ _ | waits _ => cases hc
  | @asserts body _ _ _ =>
    have hassertion : assertion r body = .error (.notSupported name o' type) := hc
    unfold assertion at hassertion
    split_ifs at hassertion
    cases hassertion
  | @scripts body _ _ _ =>
    have hrelays := relays_scriptResult r (runner body.script).result
    have hresult : scriptResult r (runner body.script).result =
      .error (.notSupported name o' type) := hc
    rw [hresult] at hrelays
    generalize (runner body.script).result = ran at hrelays
    cases hrelays

theorem failed_of_handles (h : Handles runner o r c) {errors : OperationErrors}
    (hc : c.result = .ok (.failed errors)) :
    c.AtOnce (.ok (.failed errors)) ∧
      ∃ body, o = .save ∧ r.resourceType = "Assert" ∧ r.read AssertRequest.shape = .ok body ∧
        body.condition = false ∧
        errors = .one ⟨"AssertionFailed", "Assertion '" ++ body.name ++ "' failed!", ""⟩ := by
  cases h with
  | refused _ | previewed _ | misfit _ _ | waits _ => cases hc
  | @asserts body ho ht hb =>
    refine ⟨hc ▸ Call.atOnce_answer _, body, ho, ht, hb, ?_⟩
    have hassertion : assertion r body = .ok (.failed errors) := hc
    unfold assertion at hassertion
    split_ifs at hassertion with hcondition
    · cases hassertion
    · cases hassertion
      exact ⟨eq_false_of_ne_true hcondition, rfl⟩
  | @scripts body _ _ _ =>
    have hrelays := relays_scriptResult r (runner body.script).result
    have hresult : scriptResult r (runner body.script).result = .ok (.failed errors) := hc
    rw [hresult] at hrelays
    generalize (runner body.script).result = ran at hrelays
    cases hrelays

theorem effects_of_handles (h : Handles runner o r c) (hc : c.effects ≠ []) :
    o = .save ∧ r.resourceType = "BashScript" ∧
      ∃ body, r.read RunScriptRequest.shape = .ok body := by
  cases h with
  | refused _ | previewed _ | misfit _ _ | waits _ | asserts _ _ _ => exact absurd rfl hc
  | scripts ho ht hb => exact ⟨ho, ht, _, hb⟩

end Endings

/-! ## The provider -/

section Provider

variable {σ : Type}

/-- **The answers of the utility provider.** It handles every request, leaves the world outside as
it is but for the scripts that it hands to the runner, and does just what `Answers` says. -/
theorem provider_answers (runner : Runner) (o : Operation) (r : OperationRequest) (s : σ) :
    ∃ c, ((provider runner : Provider σ).invoke o r).run s = (c, s) ∧ Answers runner o r c := by
  obtain ⟨c, hrun, hc⟩ := handles_invoke runner o r s
  have heq : ∀ {c'}, ((provider runner : Provider σ).invoke o r).run s = (c', s) → c = c' :=
    fun h => (Prod.mk.inj (hrun.symm.trans h)).1
  have hasserts : ∀ body, o = .save → r.resourceType = "Assert" →
      r.read AssertRequest.shape = .ok body → c = .answer (assertion r body) := by
    rintro body rfl ht hb
    rw [heq (run_assert ht), assert, withProperties_of_ok hb]
  have hfailed : ∀ {errors token start}, c.outcomeFrom token start = .ok (.failed errors) →
      c.result = .ok (.failed errors) := by
    intro errors token start h
    rcases c.outcomeFrom_cases token start with hcut | hresult
    · rw [hcut] at h
      cases h
    · exact hresult.symm.trans h
  refine ⟨c, hrun,
    { refused := fun hn => heq (run_of_not_offers hn) ▸ Call.atOnce_answer _
      notSupported := fun token start name o' type h => ?_
      previewed := fun ho hoffers => ?_
      misfit := fun e ho hm => ?_
      waits := fun body ho ht hb hlongest => ?_
      holds := fun body ho ht hb hcondition => ?_
      failed := fun errors => ⟨fun ⟨_, _, h⟩ => (failed_of_handles hc (hfailed h)).2,
        fun ⟨body, ho, ht, hb, hcondition, he⟩ => ⟨.never, 0, ?_⟩⟩
      failedAtOnce := fun errors _ _ h => (failed_of_handles hc (hfailed h)).1
      scripts := fun body ho ht hb => ?_
      effects := effects_of_handles hc }⟩
  · rcases c.outcomeFrom_cases token start with hcut | hresult
    · rw [hcut] at h
      cases h
    · exact notSupported_of_handles hc (hresult.symm.trans h)
  · subst ho
    exact heq (run_preview hoffers) ▸ Call.atOnce_answer _
  · subst ho
    exact heq (run_of_misfit hm) ▸ Call.atOnce_answer _
  · subst ho
    obtain rfl := heq (run_wait ht)
    rw [wait_of_le hb hlongest]
    exact ⟨rfl, fun token start => Call.yields_of_heeds rfl⟩
  · rw [hasserts body ho ht hb, assertion, if_pos hcondition]
    exact Call.atOnce_answer _
  · rw [hasserts body ho ht hb, assertion, if_neg (by rw [hcondition]; exact Bool.false_ne_true),
      he]
    rfl
  · subst ho
    rw [heq (run_runScript ht), runScript, withProperties_of_ok hb]
    exact ⟨rfl, fun token start stop? result h => relays_of_ends h rfl rfl rfl,
      fun token start h => ScriptRun.exists_ends h⟩

/-- A request to wait for some milliseconds. -/
def waitFor (milliseconds : UInt64) : OperationRequest :=
  .new "Wait" (.object [("durationMs", .ofNat milliseconds)])

/-- A wait of half a second goes on for half a second, or until its token is cancelled. -/
theorem provider_answers_halfSecond :
    ∃ c, ((provider (.fixed (.error .cancelled)) : Provider Unit).invoke .save (waitFor 500)).run
          () = (c, ()) ∧
        c.endsAt .never 0 = some 500 ∧ c.endsAt (.after 200) 0 = some 200 ∧
        c.outcomeFrom (.after 200) 0 = .error .cancelled := by
  obtain ⟨c, hrun, hc⟩ := provider_answers (.fixed (.error .cancelled)) .save (waitFor 500) ()
  obtain ⟨-, hyields⟩ := hc.waits ⟨500⟩ rfl rfl rfl (by decide)
  obtain ⟨hends, -⟩ := (hyields .never 0).missed (.never rfl)
  obtain ⟨hends', houtcome⟩ := (hyields (.after 200) 0).caught 200
    (.meanwhile rfl (by decide) fun stop h => by obtain rfl := Option.some.inj h; decide)
  exact ⟨c, hrun, hends, hends', houtcome⟩

/-- A request to wait for more than thirty years. -/
def longWait : OperationRequest := waitFor 1000000000000

/-- A wait of `10 ^ 12` milliseconds ends before its time, and before a token that should catch it
is cancelled: the timer of a wait runs for thirty years at most. -/
theorem wait_shortened :
    longWait.resourceType = "Wait" ∧ longWait.read WaitRequest.shape = .ok ⟨1000000000000⟩ ∧
      ∃ c, ((provider (.fixed (.error .cancelled)) : Provider Unit).invoke .save longWait).run () =
          (c, ()) ∧
        c.endsAt .never 0 = some 946080000000 ∧ 946080000000 ≠ 1000000000000 ∧
        990000000000 < 1000000000000 ∧
        c.endsAt (.after 990000000000) 0 = some 946080000000 ∧
        c.outcomeFrom (.after 990000000000) 0 = .ok (.succeeded ⟨"Wait", .object []⟩) := by
  have hread : longWait.read WaitRequest.shape = .ok ⟨1000000000000⟩ := rfl
  have hyields (token : Cancellation) : (wait longWait).Yields token 0 (some 946080000000)
      (.ok (.succeeded ⟨"Wait", .object []⟩)) := by
    rw [wait_eq hread]
    exact Call.yields_of_heeds rfl
  obtain ⟨hends, -⟩ := (hyields .never).missed (.never rfl)
  obtain ⟨hends', houtcome⟩ := (hyields (.after 990000000000)).missed
    (.afterwards rfl rfl (by decide))
  exact ⟨rfl, hread, wait longWait, run_wait rfl, hends, by decide, by decide, hends', houtcome⟩

end Provider

end Provision.Utility
