import Provision.Shell.Tool.Character
import Provision.Shell.Tool.Column
import Provision.Shell.Tool.Compare
import Provision.Shell.Tool.Digest
import Provision.Shell.Tool.Dump
import Provision.Shell.Tool.Identity
import Provision.Shell.Tool.Number
import Provision.Shell.Tool.Order
import Provision.Shell.Tool.Passing
import Provision.Shell.Tool.Search

/-!
# The programs that are there

Programs by their names. Some start others.
-/

namespace Provision.Shell.Tool

/-- Ends with a status, whatever it is given. -/
def constant (status : Nat) : Tool := fun _ _ => ends status

/-- Gives files to others, of whom there are none. -/
def changeNothing : Tool := fun who args =>
  withWords who 1
    [flag 'c' "changes", flag 'f' "silent", flag 'h' "no-dereference", flag 'R' "recursive",
      flag 'v' "verbose", longOnly "reference" .argument] false args fun w => do
    match w.operands with
    | [] => missesOperand who 1
    | [owner] => misused who 1 ("missing operand after " ++ quotedText owner)
    | _ :: paths =>
      let results ← paths.mapM fun p => do
        match (← get).find p with
        | .ok _ => return true
        | .error f =>
          complain who ("cannot access " ++ quoted p ++ ": " ++ f.reason)
          return false
      ends (statusOf (results.all fun b => b))

/-- Writes who logged in, which nobody did. -/
def noLogin : Tool := fun who _ => fail who 1 "no login name"

/-- The programs and their names. -/
def all (start : Starter) : List (String × Tool) :=
  [("[", testTool true), ("arch", fixedLine "x86_64" 0), ("base32", lettered lettering32),
    ("base64", lettered lettering64), ("basename", basename), ("cat", cat),
    ("chgrp", changeNothing), ("chmod", chmod), ("chown", changeNothing), ("cksum", cksum),
    ("cmp", cmp), ("comm", comm), ("cp", cp), ("cut", cut), ("date", date), ("diff", diff),
    ("dirname", dirname), ("echo", echoTool), ("egrep", grepIn .extended), ("env", env start),
    ("expand", expand), ("expr", expr), ("factor", factor), ("false", constant 1),
    ("fgrep", grepIn .fixed), ("find", find start), ("fold", fold), ("grep", grepIn .basic),
    ("groups", groups), ("head", head), ("hostname", fixedLine "localhost" 0), ("id", Tool.id),
    ("join", join), ("kill", killTool), ("ln", ln), ("logname", noLogin), ("ls", ls),
    ("md5sum", digestTool "MD5" md5), ("mkdir", mkdir), ("mktemp", mktemp), ("mv", mv),
    ("nice", nice start), ("nl", nl), ("nohup", nohup start), ("nproc", nproc), ("od", od),
    ("paste", paste), ("printenv", printenv), ("printf", printfTool), ("pwd", pwdTool),
    ("readlink", readlink), ("realpath", realpath), ("rev", rev), ("rm", rm), ("rmdir", rmdir),
    ("seq", seq), ("setsid", setsid start), ("sha1sum", digestTool "SHA1" sha1),
    ("sha224sum", digestTool "SHA224" sha224), ("sha256sum", digestTool "SHA256" sha256),
    ("sha384sum", digestTool "SHA384" sha384), ("sha512sum", digestTool "SHA512" sha512),
    ("sleep", sleep), ("sort", sort), ("stat", stat), ("stdbuf", stdbuf start), ("sum", sum),
    ("sync", constant 0), ("tac", tac), ("tail", tail), ("tee", tee), ("test", testTool false),
    ("timeout", timeout start), ("touch", touch), ("tr", tr), ("true", constant 0),
    ("truncate", truncate), ("tty", tty), ("uname", uname), ("unexpand", unexpand),
    ("uniq", uniq), ("unlink", unlink), ("wc", wc), ("which", which),
    ("whoami", fixedLine "root" 0), ("xargs", xargs start), ("yes", yes)]

/-- The program of a name. -/
def find? (start : Starter) (name : String) : Option Tool := (all start).lookup name

/-- The names of the programs. -/
def names : List String := (all fun _ => pure none).map Prod.fst

end Provision.Shell.Tool
