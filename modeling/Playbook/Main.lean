/-
  The outermost layer: it loads what the program may see of the machine, executes the program, and
  carries out what it changed and printed.
-/
import Std.Time.DateTime.Timestamp
import Playbook.Program.Execution

namespace Playbook.Outside

open Playbook.Text Playbook.Program

/-- The place of an absolute path. -/
def placeOf (path : String) : Place := (Path.segments path).filter (!Path.isFiller ·)

/-- The path of a place. -/
def pathOf (at_ : Place) : String := "/" ++ Path.ofSegments at_

/-- The place and all places above it as directories. -/
def directoriesTo (at_ : Place) : List (Place × Node) :=
  (List.range (at_.length + 1)).tail.map fun n => (at_.take n, .directory)

/-- The bytes of a file as its content. -/
def contentOf (bytes : List UInt8) : Content :=
  match Utf8.decode bytes with
  | .ok s => .text s
  | .error _ => .binary bytes

/-- Everything in a directory. What cannot be read is left out, and so are hidden directories. -/
partial def gather (directory : String) : IO (List (Place × Node)) := do
  let entries ← try (← IO.FS.realPath directory).readDir catch _ => pure #[]
  let mut nodes := directoriesTo (placeOf directory)
  for e in entries do
    let path := e.path.toString
    if ← e.path.isDir then
      if !e.fileName.startsWith "." then nodes := nodes ++ (← gather path)
    else
      try
        let bytes ← IO.FS.readBinFile path
        nodes := nodes ++ [(placeOf path, .file (contentOf bytes.toList))]
      catch _ => pure ()
  return nodes

/-- The directory that a word of the command line leads to, or that its file is in. -/
def directoryOfWord? (word : String) : IO (Option String) := do
  try
    let path ← IO.FS.realPath word
    if ← path.isDir then return some path.toString
    else return Path.parent? path.toString
  catch _ => return none

/-- The names that texts may refer to. -/
def namesIn (nodes : List (Place × Node)) : List String :=
  nodes.flatMap fun (_, node) =>
    match node with
    | .file (.text s) => (s.splitToList fun c => !(c.isAlphanum || c == '_')).filter (· ≠ "")
    | _ => []

/-- The variables of the environment that have one of the names. -/
def environmentOf (names : List String) : IO (Table String) := do
  let found ← names.eraseDups.mapM fun name => do
    return (← IO.getEnv name).map fun value => (name, value)
  return Table.ofList (found.filterMap id)

/-- The present moment. -/
def present : IO Moment := do
  let t ← Std.Time.Timestamp.now
  return ⟨t.toNanosecondsSinceUnixEpoch.val / 1000⟩

/-- The world of the program on this machine. -/
def load (words : List String) : IO (World Desk) := do
  let here := (← IO.currentDir).toString
  let named ← words.mapM directoryOfWord?
  let outer := (named.filterMap id).eraseDups.filter (· ≠ here)
  let gathered ← (here :: outer).mapM gather
  let nodes := gathered.flatten
  let shells := [["bin", "sh"], ["usr", "bin", "sh"]].map fun at_ => (at_, Node.shell)
  let names := [filterName, homeName] ++ Settings.names ++ namesIn nodes
  let environment ← environmentOf names
  let home := (environment.get? homeName).map placeOf
  let base := directoriesTo ["usr", "bin"] ++ directoriesTo ["bin"] ++ shells ++
    directoriesTo ["dev"] ++ [(["dev", "null"], .device)] ++ (home.map directoriesTo).getD []
  let disk : Disk := { here := placeOf here, nodes := nodes ++ base }
  let input ← (← IO.getStdin).readBinToEnd
  let console := Console.ofBytes input.toList
  return { disk, environment, now := ← present, rest := { console } }

/-- Carries out the change of one place. -/
def store (before : Disk) (at_ : Place) (node : Node) : IO Unit :=
  if before.node? at_ == some node then pure ()
  else
    match node with
    | .directory => IO.FS.createDirAll (pathOf at_)
    | .file (.text s) => IO.FS.writeFile (pathOf at_) s
    | .file (.binary bytes) => IO.FS.writeBinFile (pathOf at_) ⟨bytes.toArray⟩
    | _ => pure ()

/-- Removes the files that are gone. -/
def remove (before after : Disk) : IO Unit := do
  for (at_, node) in before.nodes do
    match node, after.node? at_ with
    | .file _, none => IO.FS.removeFile (pathOf at_)
    | _, _ => pure ()

/-- Executes the program with ever more turns, until its run ends. -/
partial def execute (turns : Nat) (words : List String) (w : World Desk) : IO Ending :=
  match Program.execute turns words w with
  | some e => return e
  | none => execute (turns * 2) words w

end Playbook.Outside

open Playbook Playbook.Outside

/-- The program on this machine. -/
def main (words : List String) : IO UInt32 := do
  let w ← load words
  let e ← execute 100000 words w
  for (at_, node) in e.world.disk.nodes do
    store w.disk at_ node
  remove w.disk e.world.disk
  IO.eprint e.errors
  IO.print e.output
  return e.exitCode.toUInt32
