import Provision.Text.Quoted
import Provision.Json.Printer
import Provision.Json.Reader

/-!
# Shapes

A shape says how the values of a type stand in Json, once for writing (`write`) and reading
(`decode`). A record is written as an object with its fields in declaration order; it is read from
such an object, its members in any order and unknown ones passed over, or from an array of its
fields in declaration order.

Reading goes through a document, so that a text and a value already read (`ofText`, `ofJson`) share
one decoder. A document is read in its own order and the first refusal counts.
-/

namespace Provision.Json

mutual

/-- How the values of a type stand in Json. -/
inductive Shape : Type → Type 1 where
  | string : Shape String
  | bool : Shape Bool
  | natural64 : Shape UInt64
  | int32 : Shape Int32
  /-- Any value at all. -/
  | any : Shape Json
  /-- A value or null. -/
  | optional (s : Shape α) : Shape (Option α)
  | list (s : Shape α) : Shape (List α)
  /-- An object with any names. -/
  | entries (s : Shape α) : Shape (List (String × α))
  /-- Another type with the shape of `s`. -/
  | view (s : Shape α) (into : α → β) (back : β → α) : Shape β
  /-- An object or array with the given fields; `build` may refuse a combination of them. -/
  | record (name : String) (fields : Fields α) (build : α → Except String β) (parts : β → α) :
    Shape β

/-- The fields of a record in declaration order. -/
inductive Fields : Type → Type 1 where
  | done : Fields Unit
  /-- A field with the value that it has when it is absent, if it may be; `hidden` values are not
  written. -/
  | field (name : String) (shape : Shape α) (absent : Option α) (hidden : α → Bool)
    (rest : Fields β) : Fields (α × β)

end

/-- A field that must be there. -/
def Fields.required (name : String) (shape : Shape α) (rest : Fields β) : Fields (α × β) :=
  .field name shape none (fun _ => false) rest

/-- A field that may be absent. -/
def Fields.defaulted (name : String) (shape : Shape α) (absent : α) (rest : Fields β) :
    Fields (α × β) :=
  .field name shape (some absent) (fun _ => false) rest

/-- An optional field that is written only when it has a value. -/
def Fields.sparse (name : String) (shape : Shape α) (rest : Fields β) : Fields (Option α × β) :=
  .field name (.optional shape) (some none) Option.isNone rest

/-- A table stands as an object. -/
def Shape.table (s : Shape α) : Shape (Table α) := .view (.entries s) Table.ofList Table.entries

/-! ## Writing -/

mutual

/-- The value as Json, the fields of records in declaration order. -/
def Shape.write : {α : Type} → Shape α → α → Json
  | _, .string, s => .string s
  | _, .bool, b => .bool b
  | _, .natural64, n => .ofNat n
  | _, .int32, i => .ofInt32 i
  | _, .any, j => j
  | _, .optional _, none => .null
  | _, .optional s, some a => s.write a
  | _, .list s, as => .array (as.map s.write)
  | _, .entries s, as => .object (as.map fun e => (e.1, s.write e.2))
  | _, .view s _ back, b => s.write (back b)
  | _, .record _ fields _ parts, b => .object (fields.write (parts b))
termination_by structural _ s => s

/-- The fields as members. -/
def Fields.write : {α : Type} → Fields α → α → List (String × Json)
  | _, .done, _ => []
  | _, .field name s _ hidden rest, (a, b) =>
    if hidden a then rest.write b else (name, s.write a) :: rest.write b
termination_by structural _ fields => fields

end

/-- The value as Json with sorted members. -/
def Shape.toJson (s : Shape α) (a : α) : Json := (s.write a).canonical

/-- The compact text of a value, the fields of records in declaration order. -/
def Shape.text (s : Shape α) (a : α) : String := (s.write a).compact

/-! ## Refusals -/

/-- What was found where something else was expected. -/
inductive Found where
  | null
  | bool (b : Bool)
  | number (n : Number)
  | string (s : String)
  | sequence
  | map
  deriving DecidableEq

/-- The text of what was found. -/
def Found.describe : Found → String
  | null => "null"
  | bool b => "boolean `" ++ toString b ++ "`"
  | number (.double x) => "floating point `" ++ String.ofList x.chars ++ "`"
  | number n => "integer `" ++ String.ofList n.chars ++ "`"
  | string s => "string " ++ Text.quoted s
  | sequence => "sequence"
  | map => "map"

/-- Why a value does not have a shape. -/
inductive Complaint where
  | invalidType (found : Found) (expected : String)
  | invalidValue (found : Found) (expected : String)
  | invalidLength (length : Nat) (expected : String)
  | missingField (name : String)
  | duplicateField (name : String)
  | unknownVariant (name : String) (known : List String)
  /-- The fields are there but do not go together. -/
  | refused (why : String)
  deriving DecidableEq

/-- The text of a complaint. -/
def Complaint.message : Complaint → String
  | invalidType found expected => "invalid type: " ++ found.describe ++ ", expected " ++ expected
  | invalidValue found expected => "invalid value: " ++ found.describe ++ ", expected " ++ expected
  | invalidLength n expected => "invalid length " ++ toString n ++ ", expected " ++ expected
  | missingField name => "missing field `" ++ name ++ "`"
  | duplicateField name => "duplicate field `" ++ name ++ "`"
  | unknownVariant name known =>
    "unknown variant `" ++ name ++ "`, expected one of " ++
      ", ".intercalate (known.map fun k => "`" ++ k ++ "`")
  | refused why => why

/-- Why a document is refused. -/
inductive Refusal where
  /-- It is no Json. -/
  | mishap (m : Mishap)
  /-- It is Json of another shape; the place is missing where the whole is refused. -/
  | complaint (c : Complaint) (place : Option Nat)
  /-- An array of `length` items holds more than the record has fields. -/
  | surplus (m : Mishap) (length : Nat)
  deriving DecidableEq

/-! ## Reading -/

/-- What a document holds. -/
def Node.found? : Node → Except Mishap Found
  | .null _ => .ok .null
  | .bool _ b => .ok (.bool b)
  | .number _ n => .ok (.number n)
  | .string _ s => .ok (.string s)
  | .array _ _ _ => .ok .sequence
  | .object _ _ _ => .ok .map
  | .broken _ m => .error m

/-- The place of a complaint about a value: after a scalar, before a bracket. -/
def Node.place : Node → Nat
  | .null s | .bool s _ | .number s _ | .string s _ => s.stop
  | .array n _ _ | .object n _ _ | .broken n _ => n

/-- The refusal of a value that is not what is expected. -/
def Node.unexpected (n : Node) (expected : String) : Refusal :=
  match n.found? with
  | .ok found => .complaint (.invalidType found expected) (some n.place)
  | .error m => .mishap m

/-- Where a container that was read to its end ends. -/
def Ending.stop : Ending → Except Mishap Nat
  | .closed stop => .ok stop
  | .cut m => .error m
  | .inside => .error ⟨.eofValue, 0⟩

/-- The mishap that a record meets when it has all its fields and looks for the closing bracket. -/
def Mishap.asSurplus (m : Mishap) : Mishap :=
  match m.fault with
  | .expectedCommaOrBracket | .eofValue => ⟨.trailingCharacters, m.place⟩
  | _ => m

/-- The number of fields. -/
def Fields.count : {α : Type} → Fields α → Nat
  | _, .done => 0
  | _, .field _ _ _ _ rest => rest.count + 1

/-- How a record announces itself. -/
def recordName (name : String) : String := "struct " ++ name

/-- How a record announces its length. -/
def recordLength (name : String) (count : Nat) : String :=
  recordName name ++ " with " ++ toString count ++ (if count = 1 then " element" else " elements")

/-- The fields read so far. -/
def Fields.Slots : {α : Type} → Fields α → Type
  | _, .done => Unit
  | _, .field (α := α) _ _ _ _ rest => Option α × rest.Slots

/-- No field read yet. -/
def Fields.noSlots : {α : Type} → (fields : Fields α) → fields.Slots
  | _, .done => ()
  | _, .field _ _ _ _ rest => (none, rest.noSlots)

/-- The record of the fields read, or the first field that is missing. -/
def Fields.complete : {α : Type} → (fields : Fields α) → fields.Slots → Except Complaint α
  | _, .done, _ => .ok ()
  | _, .field (α := α) name _ absent _ rest, slots => do
    let (slot, others) : Option α × rest.Slots := slots
    match slot.or absent with
    | none => .error (.missingField name)
    | some a =>
      let b ← rest.complete others
      .ok (a, b)

/-- A value that is no array, object or null where a scalar is expected. -/
def readScalar (expected : String) (read : Node → Option α) (n : Node) : Except Refusal α :=
  match read n with
  | some a => .ok a
  | none => .error (n.unexpected expected)

/-- A natural number of 64 bits. -/
def readNatural64 (n : Node) : Except Refusal UInt64 :=
  match n with
  | .number _ (.natural k) => .ok k
  | .number s (.negative k) =>
    .error (.complaint (.invalidValue (.number (.negative k)) "u64") (some s.stop))
  | n => .error (n.unexpected "u64")

/-- An integer of 32 bits. -/
def readInt32 (n : Node) : Except Refusal Int32 :=
  match n with
  | .number s (.natural k) =>
    if k.toNat < 0x80000000 then .ok (Int32.ofNat k.toNat)
    else .error (.complaint (.invalidValue (.number (.natural k)) "i32") (some s.stop))
  | .number s (.negative k) =>
    if k.val < 0x80000000 then .ok (Int32.ofInt (Int.negSucc k.val))
    else .error (.complaint (.invalidValue (.number (.negative k)) "i32") (some s.stop))
  | n => .error (n.unexpected "i32")

/-- A mishap as a refusal. -/
def orMishap (r : Except Mishap α) : Except Refusal α := r.mapError .mishap

/-- The array is over after the fields of a record: nothing is left and the bracket closes. -/
def noSurplus (length : Nat) (left : List Node) (ending : Ending) : Except Refusal Unit :=
  match left with
  | n :: _ => .error (.surplus ⟨.trailingCharacters, n.start + 1⟩ length)
  | [] =>
    match ending.stop with
    | .ok _ => .ok ()
    | .error m => .error (.mishap m.asSurplus)

mutual

/-- The value of a document, or the first refusal in it. -/
def Shape.decode : {α : Type} → Shape α → Node → Except Refusal α
  | _, .string, n =>
    readScalar "a string" (fun | .string _ s => some s | _ => none) n
  | _, .bool, n =>
    readScalar "a boolean" (fun | .bool _ b => some b | _ => none) n
  | _, .natural64, n => readNatural64 n
  | _, .int32, n => readInt32 n
  | _, .any, n => orMishap n.toJson
  | _, .optional s, n =>
    match n with
    | .null _ => .ok none
    | n => (s.decode n).map some
  | _, .list s, n =>
    match n with
    | .array _ items ending => do
      let as ← items.mapM s.decode
      let _ ← orMishap ending.stop
      .ok as
    | n => .error (n.unexpected "a sequence")
  | _, .entries s, n =>
    match n with
    | .object _ members ending => do
      let as ← members.mapM fun m => (s.decode m.value).map fun a => (m.name, a)
      let _ ← orMishap ending.stop
      .ok as
    | n => .error (n.unexpected "a map")
  | _, .view s into _, n => (s.decode n).map into
  | _, .record name fields build _, n => do
    let a ←
      match n with
      | .array _ items ending => do
        let (a, left) ← fields.inOrder (recordLength name fields.count) 0 items ending
        let _ ← noSurplus items.length left ending
        .ok a
      | .object _ members ending => do
        let slots ← members.foldlM fields.fill fields.noSlots
        let stop ← orMishap ending.stop
        (fields.complete slots).mapError fun c => .complaint c (some stop)
      | n => .error (n.unexpected (recordName name))
    (build a).mapError fun why => .complaint (.refused why) none
termination_by structural _ s => s

/-- The fields with one member more. -/
def Fields.fill : {α : Type} → (fields : Fields α) → fields.Slots → Member Node →
    Except Refusal fields.Slots
  | _, .done, u, m =>
    match m.unskippable with
    | some why => .error (.mishap why)
    | none => .ok u
  | _, .field (α := α) name s _ _ rest, slots, m =>
    let (slot, others) : Option α × rest.Slots := slots
    if name = m.name then
      match slot with
      | some _ => .error (.complaint (.duplicateField name) (some m.place))
      | none => (s.decode m.value).map fun a => (some a, others)
    else (rest.fill others m).map fun others => (slot, others)
termination_by structural _ fields => fields

/-- The fields from the items of an array, after `taken` of them, and the items left over. -/
def Fields.inOrder : {α : Type} → Fields α → String → Nat → List Node → Ending →
    Except Refusal (α × List Node)
  | _, .done, _, _, items, _ => .ok ((), items)
  | _, .field _ s _ _ rest, expected, taken, n :: items, ending => do
    let a ← s.decode n
    let (b, left) ← rest.inOrder expected (taken + 1) items ending
    .ok ((a, b), left)
  | _, .field _ _ absent _ rest, expected, taken, [], ending => do
    let stop ← orMishap ending.stop
    match absent with
    | none => .error (.complaint (.invalidLength taken expected) (some stop))
    | some a =>
      let (b, left) ← rest.inOrder expected (taken + 1) [] ending
      .ok ((a, b), left)
termination_by structural _ fields => fields

end

/-! ## Reading a text or a value -/

/-- Why a reader gave up. -/
inductive Cause where
  | fault (f : Fault)
  | complaint (c : Complaint)
  deriving DecidableEq

/-- Why a text or a value could not be read, and at which line and column of a text. -/
structure ReadError where
  cause : Cause
  place : Option (Nat × Nat)
  deriving DecidableEq

/-- The kinds of failed readings. -/
inductive ReadError.Kind where
  /-- The text is no Json. -/
  | faulty
  /-- It is Json of another shape. -/
  | misshapen
  /-- The text ended too early. -/
  | cutShort
  deriving DecidableEq

/-- The kind of a failed reading. -/
def ReadError.kind (e : ReadError) : ReadError.Kind :=
  match e.cause with
  | .complaint _ => .misshapen
  | .fault f => if f.isEnd then .cutShort else .faulty

/-- The text of a failed reading. -/
def ReadError.message (e : ReadError) : String :=
  let text :=
    match e.cause with
    | .complaint c => c.message
    | .fault f => f.message
  match e.place with
  | none => text
  | some (line, column) => text ++ " at line " ++ toString line ++ " column " ++ toString column

/-- A refusal of a text. -/
def Refusal.inText (text : String) : Refusal → ReadError
  | .mishap m | .surplus m _ => ⟨.fault m.fault, some (lineColumn text m.place)⟩
  | .complaint c place => ⟨.complaint c, place.map (lineColumn text)⟩

/-- A refusal of a value, which has no places. -/
def Refusal.inValue : Refusal → ReadError
  | .mishap m => ⟨.fault m.fault, none⟩
  | .surplus _ length =>
    ⟨.complaint (.invalidLength length "fewer elements in array"), none⟩
  | .complaint c _ => ⟨.complaint c, none⟩

/-- The value of a text. -/
def Shape.ofText (s : Shape α) (text : String) : Except ReadError α :=
  let doc := Document.read text
  match s.decode doc.root with
  | .error r => .error (r.inText text)
  | .ok a =>
    match doc.leftover with
    | some m => .error ((Refusal.mishap m).inText text)
    | none => .ok a

/-- The value of a Json value. -/
def Shape.ofJson (s : Shape α) (j : Json) : Except ReadError α :=
  (s.decode (Node.ofJson j)).mapError Refusal.inValue

/-- The Json value of a text. -/
def parse (text : String) : Except ReadError Json := Shape.any.ofText text

end Provision.Json
