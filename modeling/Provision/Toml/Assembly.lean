import Provision.Toml.Document

/-!
# Assembling tables

The sections of a document are put together to one table. A table may be defined by one header only
and a name be assigned only once; a dotted key may add to a table that dotted keys made and to no
other; what is written between braces or brackets is complete.
-/

namespace Provision.Toml

/-- The origin of tables that a path makes on its way. -/
def pathOrigin (dotted : Bool) : Origin := if dotted then .dotted else .passed

/-- Whether a dotted key may go through a table. -/
def Origin.isImplicit (o : Origin) : Bool := o = .passed || o = .dotted

/-- The last of a list replaced by its image, if it has one. -/
def mapLast? (f : α → Option α) : List α → Option (List α)
  | [] => none
  | [a] => (f a).map fun b => [b]
  | a :: rest => (mapLast? f rest).map (a :: ·)

/-- A table changed at the end of a path; tables that are not there yet are made. `change` is told
how the table at the end came about. -/
def changeAt (dotted : Bool) (change : Origin → Entries → Option Entries) :
    List Key → Origin → Entries → Option Entries
  | [], origin, es => change origin es
  | k :: path, _, es =>
    let inTable (span : Option Span) (origin : Origin) (inner : Entries) : Option Value :=
      if origin = .braces || (dotted && !origin.isImplicit) then none
      else (changeAt dotted change path origin inner).map (.table span origin)
    match valueOf? k.name es with
    | none => do
      let inner ← changeAt dotted change path (pathOrigin dotted) []
      some (es ++ [(k, .table none (pathOrigin dotted) inner)])
    | some (.table span origin inner) =>
      (inTable span origin inner).map fun v => replaceValue k.name v es
    | some (.tables span items) => do
      let items ← mapLast? (fun
        | .table span origin inner => (changeAt dotted change path origin inner).map
            (.table span origin)
        | _ => none) items
      some (replaceValue k.name (.tables span items) es)
    | some _ => none

/-- A new name in a table. A dotted key ends in a table that dotted keys made, and only such a key
does. -/
def addEntry (a : Assignment) (origin : Origin) (es : Entries) : Option Entries :=
  if (origin = .dotted) = a.path.isEmpty || (valueOf? a.key.name es).isSome then none
  else some (es ++ [(a.key, a.value)])

/-- The entries with an assignment. -/
def assign (origin : Origin) (es : Entries) (a : Assignment) : Option Entries :=
  changeAt true (addEntry a) a.path origin es

/-- The span from the start of one to the stop of the other. -/
def Span.join (a b : Span) : Span := ⟨a.start, b.stop⟩

/-- The table of a header with what is assigned under it, which may be in part there already. -/
def sectionTable (span : Span) (before : Entries) (as : List Assignment) : Option Value := do
  let es ← as.foldlM (assign .header) before
  let stop := as.foldl (fun s a => (a.value.span?.map (Span.join s)).getD s) span
  some (.table (some stop) .header es)

/-- A section put into the document. -/
def addSection (root : Entries) (s : Section) : Option Entries :=
  match s.header with
  | .root => s.assignments.foldlM (assign .header) root
  | .single span path last =>
    changeAt false (fun _ es =>
      match valueOf? last.name es with
      | none => do
        let t ← sectionTable span [] s.assignments
        some (es ++ [(last, t)])
      | some (.table _ .passed before) => do
        let t ← sectionTable span before s.assignments
        some (eraseName last.name es ++ [(last, t)])
      | some _ => none) path .header root
  | .item span path last =>
    changeAt false (fun _ es =>
      match valueOf? last.name es with
      | none => do
        let t ← sectionTable span [] s.assignments
        some (es ++ [(last, .tables t.span? [t])])
      | some (.tables all items) => do
        let t ← sectionTable span [] s.assignments
        let span := (all.bind fun a => t.span?.map (Span.join a))
        some (replaceValue last.name (.tables span (items ++ [t])) es)
      | some _ => none) path .header root

/-- The document of some sections. -/
def assemble (sections : List Section) : Option Value :=
  (sections.foldlM addSection []).map (.table none .header)

/-- The table between braces. -/
def braces (span : Span) (as : List Assignment) : Option Value :=
  (as.foldlM (assign .braces) []).map (.table (some span) .braces)

end Provision.Toml
