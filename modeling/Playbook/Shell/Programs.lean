/-
  The programs of this machine by their names, and where a shell finds them.
-/
import Playbook.Shell.Tool.Lines
import Playbook.Shell.Tool.Sorting
import Playbook.Shell.Tool.Columns
import Playbook.Shell.Tool.Numbers
import Playbook.Shell.Tool.System
import Playbook.Shell.Tool.Matching
import Playbook.Shell.Tool.Editing
import Playbook.Shell.Tool.Finding
import Playbook.Shell.Tool.Comparing
import Playbook.Shell.Tool.Dumping
import Playbook.Shell.Tool.Digests
import Playbook.Shell.Tool.Parting
import Playbook.Shell.Tool.Records

namespace Playbook.Shell

open Playbook.Text

namespace Programs

/-- The programs that look at texts. -/
def ofTexts : List (String × Tool) :=
  [("cat", Tool.cat), ("tac", Tool.tac), ("rev", Tool.rev), ("tee", Tool.tee), ("head", Tool.head),
    ("tail", Tool.tail), ("wc", Tool.wc), ("nl", Tool.nl), ("fold", Tool.fold),
    ("expand", Tool.expand), ("unexpand", Tool.unexpand), ("sort", Tool.sort), ("uniq", Tool.uniq),
    ("comm", Tool.comm), ("join", Tool.join), ("cut", Tool.cut), ("paste", Tool.paste),
    ("tr", Tool.tr),
    ("grep", Tool.grep .basic), ("egrep", Tool.grep .extended), ("fgrep", Tool.grep .fixed),
    ("sed", Tool.sed), ("od", Tool.od), ("base64", Tool.encoded "base64" Tool.Encoded.base64),
    ("base32", Tool.encoded "base32" Tool.Encoded.base32), ("cksum", Tool.cksum),
    ("sum", Tool.sum), ("tsort", Tool.tsort), ("shuf", Tool.shuf)] ++ Tool.digestTools

/-- The programs that look after files. -/
def ofFiles : List (String × Tool) :=
  [("ls", Tool.ls), ("mkdir", Tool.mkdir), ("rmdir", Tool.rmdir), ("touch", Tool.touch),
    ("rm", Tool.rm), ("cp", Tool.cp), ("mv", Tool.mv), ("ln", Tool.ln),
    ("readlink", Tool.readlink), ("realpath", Tool.realpath), ("basename", Tool.basename),
    ("dirname", Tool.dirname), ("chmod", Tool.chmod), ("stat", Tool.stat),
    ("mktemp", Tool.mktemp), ("truncate", Tool.truncate), ("link", Tool.link),
    ("unlink", Tool.unlink), ("cmp", Tool.cmp), ("diff", Tool.diff), ("split", Tool.split),
    ("dd", Tool.dd)]

/-- The programs that compute, print and tell about the machine. -/
def ofMachine : List (String × Tool) :=
  [("seq", Tool.seq), ("factor", Tool.factor), ("expr", Tool.expr), ("true", fun _ => return 0),
    ("false", fun _ => return 1), ("echo", Tool.echo), ("printf", Tool.printf),
    ("test", Tool.test "test"), ("[", Tool.test "["), ("yes", Tool.yes),
    ("printenv", Tool.printenv), ("whoami", Tool.whoami), ("id", Tool.id),
    ("groups", Tool.groups), ("uname", Tool.uname), ("arch", Tool.always "arch" "x86_64"),
    ("hostname", Tool.always "hostname" "localhost"), ("nproc", Tool.always "nproc" "1"),
    ("tty", Tool.tty), ("sleep", Tool.sleep), ("date", Tool.date), ("sync", fun _ => return 0)]

/-- All programs that need nothing but their arguments. -/
def simple : List (String × Tool) := ofTexts ++ ofFiles ++ ofMachine

/-- The programs that run others or are scripts themselves. -/
def running : List String := ["sh", "dash", "bash", "env", "xargs", "nohup", "nice", "timeout",
  "setsid", "which", "pwd", "find", "awk", "mawk"]

/-- Whether there is a program with a name. -/
def exists_ (name : String) : Bool := (simple.lookup name).isSome || running.contains name

/-- The directories in which the programs are. -/
def directories : List String := ["/usr/bin", "/bin"]

/-- The directories in which programs are looked for. -/
def searchPath (m : Machine) : List String :=
  match m.value? "PATH" with
  | some text => (pieces ':' text.toList).map String.ofList
  | none => []

/-- Whether a path leads to a program of this machine, and to which. -/
def ofPath? (d : Disk) (path : String) : Option String :=
  match Files.locate d path with
  | .ok at_ =>
    let name := inward (at_.getLastD "")
    if directories.contains (Tool.pathOf at_.dropLast) && exists_ name && (d.node? at_).isNone then
      some name
    else none
  | .error _ => none

/-- Whether something at a path can be started. -/
def isRunnable (d : Disk) (path : String) : Bool :=
  (ofPath? d path).isSome ||
    (match Files.locate d path with
      | .ok at_ => Files.isProgram d at_
      | .error _ => false)

/-- The path that a name leads to on the search path. -/
def find? (g : Going) (name : String) : Option String :=
  (searchPath g.machine).findSome? fun dir =>
    let path := if dir.isEmpty then name else Tool.below dir name
    if isRunnable g.disk path then some path else none

/-- The path that a name leads to for a program that starts another one: it only knows the
variables that programs see. -/
def findFor? (g : Going) (name : String) : Option String :=
  let path := (g.machine.environment.lookup "PATH").getD "/bin:/usr/bin"
  find? { g with machine := g.machine.setVar "PATH" path } name

end Programs

end Playbook.Shell
