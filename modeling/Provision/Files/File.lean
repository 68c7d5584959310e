import Provision.Files.Fault
import Provision.Text.Bytes

/-!
# Files

What is found under a path, and its text. A file that cannot be read as text has a reason, in the
words of the operating system where it is its reason.
-/

namespace Provision

/-- What is found under a path. -/
inductive File where
  /-- Nothing, or the path leads nowhere. -/
  | missing (why : FileFault)
  | directory
  | content (bytes : List UInt8)
  /-- It is there and cannot be read. -/
  | unreadable (why : String)
  deriving DecidableEq, Repr

namespace File

/-- The file that holds a text. -/
def ofText (s : String) : File := content (Text.encode s)

/-- Whether anything is there. -/
def isPresent : File → Bool
  | missing _ => false
  | _ => true

/-- The text of a file, or why it has none. -/
def text : File → Except String String
  | missing why => .error why.message
  | directory => .error FileFault.isDirectory.message
  | unreadable why => .error why
  | content bytes =>
    match Text.decode? bytes with
    | some s => .ok s
    | none => .error "stream did not contain valid UTF-8"

end File

end Provision
