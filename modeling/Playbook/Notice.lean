/-
  Notices: what a run tells about itself while it goes on.
-/

namespace Playbook

/-- How important a notice is. -/
inductive Level where
  | error
  | warn
  | info
  | debug
  | trace
  deriving Repr, DecidableEq

namespace Level

/-- The more detailed the level, the larger its rank. -/
def rank : Level → Nat
  | error => 1
  | warn => 2
  | info => 3
  | debug => 4
  | trace => 5

/-- The level in five columns. -/
def label : Level → String
  | error => "ERROR"
  | warn => " WARN"
  | info => " INFO"
  | debug => "DEBUG"
  | trace => "TRACE"

end Level

/-- The part of the program that a notice is about; filters name these. -/
inductive Area where
  | console
  | commands
  | extraction
  | localShell
  | remoteShell
  | reading
  | context
  | walking
  | history
  | catalogue
  | reports
  deriving Repr, DecidableEq

/-- The name that filters use. -/
def Area.path : Area → String
  | console => "codementor::agent::console"
  | commands => "codementor::commands"
  | extraction => "codementor::commands::parser"
  | localShell => "codementor::commands::shell"
  | remoteShell => "codementor::commands::ssh"
  | reading => "codementor::workflow::reader"
  | context => "codementor::workflow::context"
  | walking => "codementor::workflow::interpreter"
  | history => "codementor::workflow::history"
  | catalogue => "codementor::workflow::loader"
  | reports => "codementor::workflow::cli"

/-- Something that a run tells about itself. -/
structure Notice where
  level : Level
  area : Area
  text : String
  deriving Repr, DecidableEq

/-- The notice as a line. -/
def Notice.line (n : Notice) : String := n.level.label ++ " " ++ n.text ++ "\n"

end Playbook
