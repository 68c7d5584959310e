import Provision.Shell.Regex
import Provision.Shell.Test
import Provision.Shell.Trace

/-!
# Conditions between double brackets

What the operators between double brackets ask of words, which are not split into fields. Only as
much of a condition is asked as is needed to answer it.
-/

namespace Provision.Shell

namespace Condition

/-- A word as a trace tells it. -/
def tracedOperand (t : Bytes) : Bytes := if t.isEmpty then ['\'', '\''] else t

/-- A pattern as a trace tells it, with backslashes where it was quoted. -/
def tracedPattern (gs : Glyphs) : Bytes :=
  if gs.isEmpty then ['\'', '\''] else gs.flatMap fun g => if g.quoted then ['\\', g.byte] else [g.byte]

/-- Tells a condition. -/
def tell (sub : Substitution) (negated : Bool) (text : Bytes) : Act Unit :=
  trace sub ("[[ ".toList ++ (if negated then ['!', ' '] else []) ++ text ++ " ]]".toList)

/-- The answer of a test of words, or none after a diagnostic. -/
def answer (a : Test.Asked Bool) : Act (Option Bool) := do
  match ← a.run with
  | .ok b => return some b
  | .error message =>
    complain ("[[: " ++ message)
    return none

/-- The order of the values of two words that are expressions; none after a diagnostic. -/
def compare (p : Int → Int → Bool) (a b : Bytes) : Act (Option Bool) := do
  match ← calculate "[[: " a with
  | none => return some false
  | some m =>
    match ← calculate "[[: " b with
    | none => return some false
    | some n => return some (p m n)

/-- The groups that a text was found to have become elements of a list. -/
def keepGroups (s : Subject) (groups : Nat) (found : Option (Nat × Found)) : Act Unit :=
  modify fun st =>
    let texts :=
      match found with
      | none => []
      | some (first, f) =>
        s.between first f.position :: (List.range groups).map fun i =>
          match f.groups.lookup (i + 1) with
          | some (a, b) => s.between a b
          | none => []
    st.put "BASH_REMATCH".toList ⟨.ofTexts texts, .none⟩

/-- Whether a regular expression is found in a text; none if it is no expression. -/
def search (gs : Glyphs) (t : Bytes) : Act (Option Bool) := do
  let s ← get
  match regexOf Regex.conditional gs with
  | .error _ => return none
  | .ok (p, groups) =>
    let subject : Subject := ⟨t.toArray, s.allows "nocasematch"⟩
    let found := subject.search p 0
    keepGroups subject groups found
    return some found.isSome

/-- Whether a condition holds; none if it means nothing. -/
def holds (sub : Substitution) (negated : Bool) : Condition → Act (Option Bool)
  | .word w => do
    let t ← textOf sub w
    tell sub negated ("-n ".toList ++ tracedOperand t)
    return some (!t.isEmpty)
  | .unary op w => do
    let t ← textOf sub w
    tell sub negated (op ++ ' ' :: tracedOperand t)
    answer (Test.ofWord (shown op) t)
  | .binary op shownOp a b => do
    let t ← textOf sub a
    let told (u : Bytes) : Act Unit :=
      tell sub negated (tracedOperand t ++ ' ' :: shownOp ++ ' ' :: u)
    match op with
    | .matches | .differs =>
      let gs ← patternWord sub b
      told (tracedPattern gs)
      let s ← get
      let fits := (glob true gs).fits (s.allows "nocasematch") t
      return some (fits == (op == .matches))
    | .isMatchedBy =>
      let gs ← patternWord sub b
      told (tracedOperand gs.bytes)
      search gs t
    | .before =>
      let u ← textOf sub b
      told (tracedOperand u)
      return some (t < u)
    | .after =>
      let u ← textOf sub b
      told (tracedOperand u)
      return some (u < t)
    | .named name =>
      let u ← textOf sub b
      told (tracedOperand u)
      match shown name with
      | "-eq" => compare (· == ·) t u
      | "-ne" => compare (· != ·) t u
      | "-lt" => compare (fun m n => m < n) t u
      | "-le" => compare (fun m n => m ≤ n) t u
      | "-gt" => compare (fun m n => m > n) t u
      | "-ge" => compare (fun m n => m ≥ n) t u
      | name => answer (Test.ofWords name t u)
  | .not c => do
    let r ← holds sub (!negated) c
    return r.map (!·)
  | .and a b => do
    match ← holds sub false a with
    | some true => holds sub false b
    | r => return r
  | .or a b => do
    match ← holds sub false a with
    | some true => return some true
    | some false => holds sub false b
    | none => return none
  | .grouped c => holds sub false c

/-- The status of a condition. -/
def status (sub : Substitution) (c : Condition) : Act Nat := do
  match ← holds sub false c with
  | some true => return 0
  | some false => return 1
  | none => return 2

end Condition

end Provision.Shell
