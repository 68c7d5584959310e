import Provision.Deployment.Plan

/-!
# Arguments

The words of a command line. Options stand before or after the name of the command, but those of one
command only after it. A value follows its option as the next word or, after an equals sign, in the
same word; after the letter of an option the equals sign may be left out. An option is given once
before the command and once after it at most, and then the later one counts.
-/

namespace Provision.CommandLine

/-- How results are written. -/
inductive OutputFormat where
  | text
  | json
  deriving DecidableEq, Repr

/-- The format of that name. -/
def OutputFormat.ofName? : String → Option OutputFormat
  | "text" => some text
  | "json" => some json
  | _ => none

/-- The options of a command line. -/
inductive Flag where
  | config
  | format
  | template
  | parameters
  | preview
  deriving DecidableEq, Repr

namespace Flag

/-- The options that stand on either side of the command. -/
def shared : List Flag := [config, format]

/-- The options of a deployment. -/
def ofDeploy : List Flag := shared ++ [template, parameters, preview]

/-- The name of an option, after two dashes. -/
def name : Flag → String
  | config => "config"
  | format => "format"
  | template => "template"
  | parameters => "parameters"
  | preview => "preview"

/-- The letter of an option, after one dash. -/
def letter? : Flag → Option Char
  | config => some 'c'
  | template => some 't'
  | parameters => some 'p'
  | format | preview => none

/-- Whether an option has a value. -/
def hasValue : Flag → Bool
  | preview => false
  | config | format | template | parameters => true

end Flag

/-- Why a command line is not understood. -/
inductive UsageFault where
  | unexpected (word : String)
  | missingCommand
  | missingValue (flag : Flag)
  | needlessValue (flag : Flag)
  | repeated (flag : Flag)
  | missing (flag : Flag)
  | unknownFormat (name : String)
  deriving DecidableEq, Repr

/-- The text of a fault. -/
def UsageFault.message : UsageFault → String
  | unexpected word => "unexpected argument '" ++ word ++ "'"
  | missingCommand => "a command is required: deploy or providers"
  | missingValue flag => "a value is required for '--" ++ flag.name ++ "'"
  | needlessValue flag => "'--" ++ flag.name ++ "' takes no value"
  | repeated flag => "'--" ++ flag.name ++ "' cannot be used more than once"
  | missing flag => "'--" ++ flag.name ++ "' is required"
  | unknownFormat name => "unknown format '" ++ name ++ "': text or json"

/-- What a word of a command line is. -/
inductive Word where
  /-- Two dashes: no options follow. -/
  | separator
  /-- An option, with the value in the same word if there is one. -/
  | flag (flag : Flag) (value : Option String)
  /-- A word that looks like an option and is none. -/
  | unknown
  | plain
  deriving DecidableEq, Repr

namespace Word

/-- The value after an equals sign that may be left out. -/
def attached : List Char → Option String
  | [] => none
  | '=' :: value => some (String.ofList value)
  | value => some (String.ofList value)

/-- The option of a name, with the value after an equals sign. -/
def ofName (known : List Flag) (cs : List Char) : Word :=
  let name := String.ofList (cs.takeWhile (· ≠ '='))
  match known.find? (·.name = name), cs.dropWhile (· ≠ '=') with
  | none, _ => unknown
  | some f, [] => flag f none
  | some f, _ :: value => flag f (some (String.ofList value))

/-- What a word is where some options are known. -/
def read (known : List Flag) (word : String) : Word :=
  match word.toList with
  | ['-', '-'] => separator
  | '-' :: '-' :: cs => ofName known cs
  | ['-'] => plain
  | '-' :: c :: cs =>
    match known.find? (·.letter? = some c) with
    | none => unknown
    | some f => flag f (attached cs)
  | _ => plain

end Word

/-- Whether a word can be a value on its own: it does not look like an option. -/
def isValueWord (word : String) : Bool := word = "-" || !word.startsWith "-"

/-- Options with their values. -/
abbrev Given := List (Flag × String)

/-- The options given, with one more. -/
def give (given : Given) (f : Flag) (value : String) : Except UsageFault Given :=
  if (findValue? f given).isSome then .error (.repeated f)
  else if f.hasValue && value.isEmpty then .error (.missingValue f)
  else .ok (given ++ [(f, value)])

/-- The options up to the first word that is none, and the words from there on. -/
def readFlags (known : List Flag) (given : Given) :
    List String → Except UsageFault (Given × List String)
  | [] => .ok (given, [])
  | word :: rest =>
    match Word.read known word, rest with
    | .plain, _ => .ok (given, word :: rest)
    | .unknown, _ => .error (.unexpected word)
    | .separator, [] => .ok (given, [])
    | .separator, next :: _ => .error (.unexpected next)
    | .flag f (some value), rest =>
      if f.hasValue then do
        let given ← give given f value
        readFlags known given rest
      else .error (.needlessValue f)
    | .flag f none, [] =>
      if f.hasValue then .error (.missingValue f)
      else do
        let given ← give given f ""
        .ok (given, [])
    | .flag f none, value :: rest =>
      if f.hasValue then
        if isValueWord value then do
          let given ← give given f value
          readFlags known given rest
        else .error (.missingValue f)
      else do
        let given ← give given f ""
        readFlags known given (value :: rest)
termination_by words => words.length

/-- What is to be deployed, by the paths of the documents. -/
structure DeployArguments where
  template : String
  parameters : Option String
  mode : Mode
  deriving DecidableEq, Repr

/-- A command. -/
inductive Command where
  /-- Deploy a template. -/
  | deploy (arguments : DeployArguments)
  /-- List the providers that templates may use. -/
  | providers
  deriving DecidableEq, Repr

/-- A command with what all commands are told. -/
structure Invocation where
  /-- The path of the settings. -/
  config : String
  format : OutputFormat
  command : Command
  deriving DecidableEq, Repr

/-- The path of the settings unless another is named. -/
def defaultConfig : String := "localdeploy.toml"

/-- The path of the settings by the options before and after the command, then by what is preset. -/
def configPath (before after : Given) (preset : Option String) : Except UsageFault String :=
  match findValue? .config before, findValue? .config after with
  | some _, some path => .ok path
  | given, other =>
    if preset = some "" then .error (.missingValue .config)
    else .ok (((other.or given).or preset).getD defaultConfig)

/-- The format by the options. -/
def outputFormat (given : Given) : Except UsageFault (Option OutputFormat) :=
  match findValue? .format given with
  | none => .ok none
  | some name =>
    match OutputFormat.ofName? name with
    | some format => .ok (some format)
    | none => .error (.unknownFormat name)

/-- The command of a name, with the options after it. -/
def readCommand (name : String) (words : List String) : Except UsageFault (Command × Given) := do
  let finish (known : List Flag) (command : Given → Except UsageFault Command) :
      Except UsageFault (Command × Given) := do
    match ← readFlags known [] words with
    | (given, []) =>
      let command ← command given
      .ok (command, given)
    | (_, word :: _) => .error (.unexpected word)
  match name with
  | "deploy" =>
    finish Flag.ofDeploy fun given =>
      match findValue? .template given with
      | none => .error (.missing .template)
      | some template =>
        let mode := if (findValue? .preview given).isSome then .preview else .normal
        .ok (.deploy ⟨template, findValue? .parameters given, mode⟩)
  | "providers" => finish Flag.shared fun _ => .ok .providers
  | word => .error (.unexpected word)

/-- What a command line asks for, when the path of the settings may be preset. -/
def readInvocation (preset : Option String) (words : List String) :
    Except UsageFault Invocation := do
  match ← readFlags Flag.shared [] words with
  | (_, []) => .error .missingCommand
  | (before, name :: rest) =>
    let (command, after) ← readCommand name rest
    let config ← configPath before after preset
    let earlier ← outputFormat before
    let later ← outputFormat after
    .ok ⟨config, (later.or earlier).getD .text, command⟩

end Provision.CommandLine
