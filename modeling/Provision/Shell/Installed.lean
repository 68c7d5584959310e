import Provision.Shell.Invocation

/-!
# What is there before a script runs

The directories, devices and programs of a machine on which nothing has happened yet, and what whoever
starts a script there has in its environment.
-/

namespace Provision.Shell

/-- The place of a path from the root. -/
def placeOf (path : String) : Place :=
  (pathNames path.toList).filter (!·.isEmpty)

/-- The directories. -/
def installedDirectories : List String :=
  ["/boot", "/dev", "/dev/fd", "/dev/pts", "/dev/shm", "/etc", "/home", "/media", "/mnt", "/opt",
    "/proc", "/root", "/run", "/srv", "/sys", "/tmp", "/usr", "/usr/bin", "/usr/include", "/usr/lib",
    "/usr/local", "/usr/local/bin", "/usr/local/lib", "/usr/local/sbin", "/usr/sbin", "/usr/share",
    "/usr/share/doc", "/usr/src", "/var", "/var/cache", "/var/lib", "/var/log", "/var/spool",
    "/var/tmp"]

/-- The links and what they lead to. -/
def installedLinks : List (String × String) :=
  [("/bin", "usr/bin"), ("/sbin", "usr/sbin"), ("/lib", "usr/lib"), ("/usr/bin/sh", "dash"),
    ("/var/run", "/run")]

/-- The devices. -/
def installedDevices : List (String × Device) :=
  [("/dev/null", .null), ("/dev/zero", .zero), ("/dev/full", .full), ("/dev/random", .random),
    ("/dev/urandom", .random), ("/dev/tty", .terminal), ("/dev/stdin", .descriptor 0),
    ("/dev/stdout", .descriptor 1), ("/dev/stderr", .descriptor 2)]

/-- The files that hold texts. -/
def installedTexts : List (String × String) :=
  [("/etc/group", "root:x:0:\ndaemon:x:1:\nbin:x:2:\nsys:x:3:\nnogroup:x:65534:\n"),
    ("/etc/hostname", "localhost\n"),
    ("/etc/hosts", "127.0.0.1\tlocalhost\n"),
    ("/etc/passwd",
      "root:x:0:0:root:/root:/bin/bash\ndaemon:x:1:1:daemon:/usr/sbin:/usr/sbin/nologin\n" ++
        "bin:x:2:2:bin:/bin:/usr/sbin/nologin\nsys:x:3:3:sys:/dev:/usr/sbin/nologin\n" ++
        "nobody:x:65534:65534:nobody:/nonexistent:/usr/sbin/nologin\n")]

/-- The names of the programs that are shells. -/
def shellNames : List String := ["bash", "dash"]

/-- The tree of what is there but for texts. -/
def installedTree : FileTree FileRef :=
  let directories := installedDirectories.map fun p => (placeOf p, Entry.directory)
  let links := installedLinks.map fun (p, target) =>
    (placeOf p, Entry.file (FileRef.link target.toList))
  let devices := installedDevices.map fun (p, d) => (placeOf p, Entry.file (FileRef.device d))
  let programs := (shellNames ++ Tool.names).map fun n =>
    (placeOf ("/usr/bin/" ++ n), Entry.file (FileRef.program n))
  ⟨directories ++ links ++ devices ++ programs, []⟩

/-- How many commands may run before a script counts as one that never ends. -/
def mostSteps : Nat := 400000

/-- A machine on which nothing has happened yet. The streams are an empty input and two outputs. -/
def Machine.installed : Machine :=
  let m : Machine :=
    { files := installedTree, nodes := #[]
      streams := #[.device .null, .kept [], .kept []]
      clock := 0, budget := mostSteps, lastProcess := 100, changes := 0, mail := [], holders := []
      asksTooMuch := false, modes := [(placeOf "/root", 0o700)] }
  installedTexts.foldl (fun m (path, text) =>
    let (node, m) := m.create (placeOf path) 0o644
    m.setContent node text.toList) m

/-- Where scripts are started. -/
def installedPlace : Place := placeOf "/tmp"

/-- The variables that are exported to scripts. -/
def installedEnvironment : Frame :=
  [("HOME", "/root"), ("PATH", standardPath)].map fun (n, t) =>
    (n.toList, ⟨.text t.toList, { Attributes.none with exported := true }⟩)

/-- Whoever starts a script. -/
def State.installed : State :=
  .outside .installed [(0, 0), (1, 1), (2, 2)] installedPlace installedEnvironment

end Provision.Shell
