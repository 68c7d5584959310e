import Provision.Shell.Written

/-!
# Listings of commands

The form in which commands are shown: one command a line, what is inside another command indented.
-/

namespace Provision.Shell.Listing

/-- A line break, and the blanks before what is so deep. -/
def newline (depth : Nat) : Bytes := '\n' :: List.replicate (4 * depth) ' '

/-- Words one after the other. -/
def spaced (words : List Bytes) : Bytes := [' '].intercalate words

/-- An assignment. -/
def assignment : Assignment → Bytes
  | .text name index append word =>
    name ++ ((index.map fun i => '[' :: written i ++ [']']).getD []) ++
      (if append then ['+', '='] else ['=']) ++ written word
  | .list name append items =>
    let item (i : Item) : Bytes :=
      match i with
      | .word parts => written parts
      | .at index append parts =>
        '[' :: written index ++ [']'] ++ (if append then ['+', '='] else ['=']) ++ written parts
    name ++ (if append then ['+', '='] else ['=']) ++ '(' :: spaced (items.map item) ++ [')']

/-- A word of a command. -/
def argument : Argument → Bytes
  | .word raw _ => raw
  | .assignment raw _ _ => raw

/-- The operator of a redirection, and the descriptor that it has without one. -/
def operator : Direction → String × Nat
  | .read => ("<", 0)
  | .write => (">", 1)
  | .clobber => (">|", 1)
  | .append => (">>", 1)
  | .readWrite => ("<>", 0)
  | .duplicateIn => ("<&", 0)
  | .duplicateOut => (">&", 1)
  | .text => ("<<<", 0)
  | .document _ => ("<<EOF", 0)

/-- A redirection. -/
def redirection : Redirection → Bytes
  | .mk fd d word =>
    let (op, standard) := operator d
    let close : Bool :=
      match d with
      | .duplicateIn | .duplicateOut => true
      | _ => false
    (if fd = standard && !close then []
      else (toString fd).toList) ++ op.toList ++ (if close then [] else [' ']) ++ written word
  | .kept name d word =>
    '{' :: name ++ '}' :: (operator d).1.toList ++ written word
  | .both append word => (if append then "&>> " else "&> ").toList ++ written word

/-- Redirections after a command. -/
def redirections (rs : List Redirection) : Bytes := rs.flatMap fun r => ' ' :: redirection r

/-- A condition between double brackets. -/
def condition : Condition → Bytes
  | .word parts => written parts
  | .unary op word => op ++ ' ' :: written word
  | .binary _ shown a b => written a ++ ' ' :: shown ++ ' ' :: written b
  | .not c => '!' :: ' ' :: condition c
  | .and a b => condition a ++ " && ".toList ++ condition b
  | .or a b => condition a ++ " || ".toList ++ condition b
  | .grouped c => "( ".toList ++ condition c ++ " )".toList

mutual

/-- A command. -/
def command : Nat → Nat → Command → Bytes
  | 0, _, _ => []
  | fuel + 1, depth, c =>
    let inner (c : Command) : Bytes := newline (depth + 1) ++ command fuel (depth + 1) c
    let body (word : String) (c : Command) : Bytes :=
      newline depth ++ "do".toList ++ inner c ++ ';' :: newline depth ++ word.toList
    let words (ws : Option (List (List Part))) : Bytes :=
      " in ".toList ++
        (match ws with
          | some ws => spaced (ws.map written)
          | none => "\"$@\"".toList)
    match c with
    | .simple _ as ws rs =>
      spaced (as.map assignment ++ ws.map argument) ++
        (if as.isEmpty && ws.isEmpty then (redirections rs).drop 1 else redirections rs)
    | .pipeline negated timed cs =>
      (if timed then "time ".toList else []) ++ (if negated then "! ".toList else []) ++
        " | ".toList.intercalate (commands fuel depth cs)
    | .both a b => command fuel depth a ++ " && ".toList ++ command fuel depth b
    | .either a b => command fuel depth a ++ " || ".toList ++ command fuel depth b
    | .sequence cs => sequence fuel depth cs
    | .background c => command fuel depth c ++ " &".toList
    | .subshell c => "( ".toList ++ command fuel depth c ++ " )".toList
    | .group c => "\x7b ".toList ++ inner c ++ newline depth ++ ['}']
    | .redirected c rs => command fuel depth c ++ redirections rs
    | .branch branches otherwise => branch fuel depth branches otherwise
    | .repeated isUntil condition c =>
      (if isUntil then "until " else "while ").toList ++ command fuel depth condition ++
        "; do".toList ++ inner c ++ ';' :: newline depth ++ "done".toList
    | .each _ name ws c => "for ".toList ++ name ++ words ws ++ ';' :: body "done" c
    | .menu _ name ws c => "select ".toList ++ name ++ words ws ++ ';' :: body "done" c
    | .count _ a b next c =>
      "for ((".toList ++ written a ++ ';' :: written b ++ ';' :: written next ++ "))".toList ++
        body "done" c
    | .select _ word cs =>
      "case ".toList ++ written word ++ " in ".toList ++ clauses fuel (depth + 1) cs ++
        newline depth ++ "esac".toList
    | .condition _ c => "[[ ".toList ++ condition c ++ " ]]".toList
    | .calculation _ parts => "((".toList ++ written parts ++ "))".toList
    | .function name c => "function ".toList ++ definition fuel depth name c

/-- Several commands, each by itself. -/
def commands : Nat → Nat → List Command → List Bytes
  | 0, _, _ => []
  | _ + 1, _, [] => []
  | fuel + 1, depth, c :: cs => command fuel depth c :: commands fuel depth cs

/-- Commands one after the other. -/
def sequence : Nat → Nat → List Command → Bytes
  | 0, _, _ => []
  | _ + 1, _, [] => []
  | fuel + 1, depth, [c] => command fuel depth c
  | fuel + 1, depth, c :: cs =>
    let joint : Bytes :=
      match c with
      | .background _ => [' ']
      | _ => ';' :: newline depth
    command fuel depth c ++ joint ++ sequence fuel depth cs

/-- A conditional command. -/
def branch : Nat → Nat → List (Command × Command) → Option Command → Bytes
  | 0, _, _, _ => []
  | _ + 1, _, [], _ => []
  | fuel + 1, depth, (condition, c) :: rest, otherwise =>
    let inner (text : Bytes) : Bytes := newline (depth + 1) ++ text ++ ';' :: newline depth
    let tail : Bytes :=
      match rest, otherwise with
      | [], none => []
      | [], some c => "else".toList ++ inner (command fuel (depth + 1) c)
      | rest, otherwise => "else".toList ++ inner (branch fuel (depth + 1) rest otherwise)
    "if ".toList ++ command fuel depth condition ++ "; then".toList ++
      inner (command fuel (depth + 1) c) ++ tail ++ "fi".toList

/-- The clauses of a selection. -/
def clauses : Nat → Nat → List Clause → Bytes
  | 0, _, _ => []
  | _ + 1, _, [] => []
  | fuel + 1, depth, .mk patterns c ending :: rest =>
    let mark :=
      match ending with
      | .stop => ";;"
      | .fallThrough => ";&"
      | .test => ";;&"
    let body : Bytes :=
      match c with
      | .sequence [] => ['\n']
      | c => newline (depth + 1) ++ command fuel (depth + 1) c
    newline depth ++ " | ".toList.intercalate (patterns.map written) ++ ')' :: body ++
      newline depth ++ mark.toList ++ clauses fuel depth rest

/-- A function. -/
def definition : Nat → Nat → Bytes → Command → Bytes
  | 0, _, _, _ => []
  | fuel + 1, depth, name, c =>
    let (c, rs) : Command × List Redirection :=
      match c with
      | .redirected c rs => (c, rs)
      | c => (c, [])
    let c : Command :=
      match c with
      | .group c => c
      | c => c
    name ++ " () ".toList ++ newline depth ++ "\x7b ".toList ++ newline (depth + 1) ++
      command fuel (depth + 1) c ++ newline depth ++ '}' :: redirections rs

end

/-- The listing of a function. -/
def function (name : Bytes) (c : Command) : Bytes := definition 10000 0 name c ++ ['\n']

/-- The listing of a command. -/
def ofCommand (c : Command) : Bytes := command 10000 0 c

end Provision.Shell.Listing
