import Provision.Files.Tree
import Provision.Shell.Syntax

/-!
# What programs share

Programs that run on one machine share its files, the clock, and the streams that were opened. A
stream is opened once and read or written by all that hold it; what is written to a pipe is kept with
the instant and the process that wrote it.
-/

namespace Provision.Shell

/-- Files that are no text. -/
inductive Device where
  | null
  | zero
  | full
  | random
  | terminal
  /-- What a descriptor of whoever asks leads to. -/
  | descriptor (number : Nat)
  deriving DecidableEq, Repr

/-- What a name in a directory leads to. -/
inductive FileRef where
  | regular (node : Nat)
  | device (d : Device)
  | program (name : String)
  | link (target : Bytes)
  deriving DecidableEq, Repr

/-- A regular file. -/
structure Node where
  /-- What was written, latest first. -/
  chunks : List Bytes
  size : Nat
  mode : Nat
  /-- A number that grows with every change. -/
  changed : Nat
  /-- When it was changed, in seconds from the start of the clock. -/
  stamp : Int

/-- The content of a file. -/
def Node.content (n : Node) : Bytes := n.chunks.reverse.flatten

/-- Some bytes that were written at once. -/
structure Chunk where
  instant : Nat
  process : Nat
  bytes : Bytes

/-- An open stream. -/
inductive Stream where
  /-- What is written is kept, latest first. -/
  | kept (chunks : List Chunk)
  /-- What is left to be read. -/
  | text (rest : Bytes)
  | file (node position : Nat) (reads writes appends : Bool)
  | device (d : Device)
  | directory
  deriving Inhabited

/-- The instant of what never happens. -/
def never : Nat := 1000000000000

/-- A signal that was sent to a process. -/
structure Mail where
  instant : Nat
  process : Nat
  signal : Nat

/-- A process that could still write to some streams. -/
structure Holder where
  process : Nat
  streams : List Nat
  finish : Nat

/-- What programs share. -/
structure Machine where
  files : FileTree FileRef
  nodes : Array Node
  streams : Array Stream
  /-- Milliseconds that have passed. -/
  clock : Nat
  /-- How many commands may still run. -/
  budget : Nat
  lastProcess : Nat
  /-- How many changes were made to files. -/
  changes : Nat
  /-- The signals that were not received yet, latest first. -/
  mail : List Mail
  /-- Which streams are held by processes in the background, and until when. -/
  holders : List Holder
  /-- Whether somebody asked for all of what has no end. -/
  asksTooMuch : Bool
  /-- The modes of directories that are not the usual one. -/
  modes : List (Place × Nat)

namespace Machine

/-- How many links are followed on one way. -/
def mostLinks : Nat := 40

/-- The place that some names lead to from another one. What is left behind must be a directory; a
link is followed, the last one only if it is asked for. -/
def walk (t : FileTree FileRef) (follow : Bool) : Nat → Nat → Place → List Bytes →
    Except FileFault Place
  | 0, _, _, _ => .error .nameTooLong
  | _ + 1, _, place, [] => .ok place
  | fuel + 1, links, place, name :: rest =>
    match t.entryAt place with
    | none => .error .absent
    | some (.file _) => .error .notDirectory
    | some .directory =>
      if FileTree.longestName < name.length then .error .nameTooLong
      else if name = [] || name = ['.'] then walk t follow fuel links place rest
      else if name = ['.', '.'] then walk t follow fuel links place.dropLast rest
      else
        let next := place ++ [name]
        match t.entryAt next with
        | some (.file (.link target)) =>
          let isLast := rest.all fun n => n.isEmpty
          if isLast && !follow && rest.isEmpty then .ok next
          else
            match links with
            | 0 => .error .tooManyLinks
            | links + 1 =>
              let start := if target.head? = some '/' then [] else place
              walk t follow fuel links start (pathNames target ++ rest)
        | _ => walk t follow fuel links next rest

/-- The place of a path, where there may be nothing, for those who are at a place. -/
def locate (m : Machine) (here : Place) (follow : Bool) (path : Bytes) : Except FileFault Place :=
  if path.isEmpty then .error .absent
  else if FileTree.longestPath < path.length then .error .nameTooLong
  else
    let start := if path.head? = some '/' then [] else here
    walk m.files follow (path.length + 10000) mostLinks start (pathNames path)

/-- What is at a path. -/
def find (m : Machine) (here : Place) (follow : Bool) (path : Bytes) :
    Except FileFault (Entry FileRef) := do
  match m.files.entryAt (← m.locate here follow path) with
  | some e => .ok e
  | none => .error .absent

/-- The machine with one more open stream, and its number. -/
def opened (m : Machine) (s : Stream) : Nat × Machine :=
  (m.streams.size, { m with streams := m.streams.push s })

/-- What was written to a stream that keeps it. -/
def written (m : Machine) (stream : Nat) : Bytes :=
  match m.streams[stream]? with
  | some (.kept chunks) =>
    let chunks := chunks.reverse
    let sorted :=
      if (chunks.zip (chunks.drop 1)).all fun (a, b) => a.instant ≤ b.instant then chunks
      else chunks.mergeSort fun a b => a.instant ≤ b.instant
    sorted.flatMap Chunk.bytes
  | _ => []

/-- The machine at an instant, if it is not later. -/
def passTo (m : Machine) (instant : Nat) : Machine := { m with clock := max m.clock instant }

/-- The instant from which on nobody holds a stream. -/
def freeAt (m : Machine) (stream : Nat) : Nat :=
  m.holders.foldl (fun t h => if h.streams.contains stream then max t h.finish else t) m.clock

/-- The seconds that have passed. -/
def seconds (m : Machine) : Int := (m.clock / 1000 : Nat)

/-- The content of a file. -/
def content (m : Machine) (node : Nat) : Bytes := ((m.nodes[node]?).map Node.content).getD []

/-- The machine with a changed file. -/
def setContent (m : Machine) (node : Nat) (content : Bytes) : Machine :=
  { m with
    nodes := m.nodes.modify node fun n =>
      { n with
        chunks := [content], size := content.length, changed := m.changes + 1, stamp := m.seconds }
    changes := m.changes + 1 }

/-- The machine after some bytes were written into a file at a position. -/
def writeAt (m : Machine) (node position : Nat) (bytes : Bytes) : Machine :=
  let nodes := m.nodes.modify node fun n =>
    if position = n.size then
      { n with
        chunks := bytes :: n.chunks, size := n.size + bytes.length, changed := m.changes + 1
        stamp := m.seconds }
    else
      let before := n.content.take position
      let gap := List.replicate (position - n.size) '\x00'
      let content := before ++ gap ++ bytes ++ n.content.drop (position + bytes.length)
      { n with
        chunks := [content], size := content.length, changed := m.changes + 1, stamp := m.seconds }
  { m with nodes, changes := m.changes + 1 }

/-- The machine after a process wrote to a stream. -/
def write (m : Machine) (stream process : Nat) (bytes : Bytes) : Except FileFault Machine :=
  match m.streams[stream]? with
  | some (.kept _) =>
    .ok { m with
      streams := m.streams.modify stream fun s =>
        match s with
        | .kept chunks => .kept (⟨m.clock, process, bytes⟩ :: chunks)
        | s => s }
  | some (.file node position reads true appends) =>
    let position := if appends then ((m.nodes[node]?).map Node.size).getD 0 else position
    let m := m.writeAt node position bytes
    .ok { m with
      streams := m.streams.setIfInBounds stream
        (.file node (position + bytes.length) reads true appends) }
  | some (.device .full) => if bytes.isEmpty then .ok m else .error .noSpace
  | some (.device _) => .ok m
  | _ => .error .badDescriptor

/-- How many bytes of an endless device are read at once. -/
def endless : Nat := 65536

/-- What can be read from a stream. -/
def available (m : Machine) (stream : Nat) : Except FileFault Bytes :=
  match m.streams[stream]? with
  | some (.text rest) => .ok rest
  | some (.file node position true _ _) => .ok ((m.content node).drop position)
  | some (.device .null) => .ok []
  | some (.device .random) =>
    .ok ((List.range 4096).map fun i => Char.ofNat ((i * 2654435761 + m.clock * 97) / 65536 % 256))
  | some (.device _) => .ok (List.replicate endless '\x00')
  | some .directory => .error .isDirectory
  | _ => .error .badDescriptor

/-- Whether there is no end of what can be read from a stream. -/
def isEndless (m : Machine) (stream : Nat) : Bool :=
  match m.streams[stream]? with
  | some (.device .zero) | some (.device .full) | some (.device .random) => true
  | _ => false

/-- The machine after so many bytes were read from a stream. -/
def consume (m : Machine) (stream count : Nat) : Machine :=
  { m with
    streams := m.streams.modify stream fun s =>
      match s with
      | .text rest => .text (rest.drop count)
      | .file node position reads writes appends =>
        .file node (position + count) reads writes appends
      | s => s }

/-- The machine with a new file at a place, and the number of the file. -/
def create (m : Machine) (place : Place) (mode : Nat) : Nat × Machine :=
  let node := m.nodes.size
  (node,
    { m with
      nodes := m.nodes.push ⟨[], 0, mode, m.changes + 1, m.seconds⟩
      files := m.files.put place (.file (.regular node))
      changes := m.changes + 1 })

/-- The mode of what is at a place. -/
def modeOf (m : Machine) (place : Place) : Entry FileRef → Nat
  | .directory => (m.modes.lookup place).getD (if place = [['t', 'm', 'p']] then 0o1777 else 0o755)
  | .file (.regular n) => ((m.nodes[n]?).map Node.mode).getD 0
  | .file (.device _) => 0o666
  | .file (.program _) => 0o755
  | .file (.link _) => 0o777

/-- The machine with a directory at a place. -/
def createDirectory (m : Machine) (place : Place) (mode : Nat) : Machine :=
  { m with
    files := m.files.put place .directory
    modes := (place, mode) :: m.modes.filter (·.1 ≠ place)
    changes := m.changes + 1 }

/-- The machine with another mode of what is at a place. -/
def setMode (m : Machine) (place : Place) (mode : Nat) : Machine :=
  match m.files.entryAt place with
  | some .directory => { m with modes := (place, mode) :: m.modes.filter (·.1 ≠ place) }
  | some (.file (.regular n)) =>
    { m with nodes := m.nodes.modify n fun node => { node with mode } }
  | _ => m

/-- The machine with a whole tree at another place. -/
def move (m : Machine) (old new : Place) : Machine :=
  let moved (place : Place) : Place :=
    if old.isPrefixOf place then new ++ place.drop old.length else place
  let cleared := m.files.remove new
  { m with
    files := { cleared with entries := cleared.entries.map fun e => (moved e.1, e.2) }
    modes := m.modes.map fun e => (moved e.1, e.2)
    changes := m.changes + 1 }

/-- What is at a place and below it. -/
def tree (m : Machine) (place : Place) : List (Place × Entry FileRef) :=
  m.files.entries.reverse.filter fun e => place.isPrefixOf e.1

/-- How many names a file has. -/
def namesOf (m : Machine) (node : Nat) : Nat :=
  m.files.entries.countP fun e =>
    match e.2 with
    | .file (.regular n) => n = node
    | _ => false

end Machine

end Provision.Shell
