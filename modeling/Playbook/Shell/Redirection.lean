/-
  Redirections: where the streams of a command go, and where its input comes from.
-/
import Playbook.Shell.Expansion

namespace Playbook.Shell

open Playbook.Text

/-- Why a file cannot be opened. -/
def openFault (creating : Bool) (f : Fault) : String :=
  match f with
  | .noEntry | .notDirectory => if creating then "Directory nonexistent" else "No such file"
  | f => faultText f

/-- The stream that a path stands for. -/
def streamOfPath? (path : String) : Option Nat :=
  match path with
  | "/dev/stdin" => some 0
  | "/dev/stdout" => some 1
  | "/dev/stderr" => some 2
  | _ =>
    if path.startsWith "/dev/fd/" then Number.digits? (path.toList.drop "/dev/fd/".length)
    else none

/-- Opens a file for a stream; the number of the channel, or why there is none. -/
def openFile (g : Going) (kind : RedirectKind) (path : String) : Except Fault (Going × Nat) :=
  match streamOfPath? path with
  | some n =>
    match g.machine.stream? n with
    | some i => .ok (g, i)
    | none => .error .noEntry
  | none =>
    match Files.locate g.disk path with
    | .error f => .error f
    | .ok at_ =>
      let writes := kind != .read
      match g.disk.node? at_ with
      | some .device => .ok (g.open_ ⟨.nothing, 0, []⟩)
      | some .directory =>
        if writes then .error .isDirectory else .ok (g.open_ ⟨.file at_ false, 0, []⟩)
      | some _ =>
        if kind == .write && g.machine.has 'C' then .error .exists_
        else
          let cleared := if kind == .write || kind == .overwrite then g.rewrite at_ [] else g
          .ok (cleared.open_ ⟨.file at_ (kind == .append), 0, []⟩)
      | none =>
        if writes then .ok ((g.created at_).open_ ⟨.file at_ (kind == .append), 0, []⟩)
        else .error .noEntry

/-- A redirection with its words expanded. -/
inductive Directed where
  | path (stream : Nat) (kind : RedirectKind) (path : String)
  | same (stream other : Nat)
  | close (stream : Nat)
  | text (stream : Nat) (cs : List Char)

/-- Expands the words of a redirection. -/
def direct (taking : Taking) (steps : Nat) (r : Redirect) : Run Directed := do
  match r.target with
  | .document number =>
    let doc := ((← get).machine.documents.lookup number).getD []
    let items ← expandWord taking steps false false doc
    return .text r.stream (textOf items).toList
  | .word w =>
    let text ← expandText taking steps false w
    if r.kind != .same then return .path r.stream r.kind text
    match text.toList with
    | ['-'] => return .close r.stream
    | [d] =>
      if d.isDigit then return .same r.stream (d.toNat - '0'.toNat)
      else badStream
    | _ => badStream
where
  badStream : Run Directed := do
    modify fun g => { g with line := g.line + 1 }
    fail "Syntax error: Bad fd number"

/-- Makes a redirection. -/
def redirectOne (d : Directed) : Run Unit := do
  let g ← get
  let lead := fun (g : Going) (stream index : Nat) =>
    set { g with machine := g.machine.withStream stream index }
  match d with
  | .close stream => set { g with machine := g.machine.closeStream stream }
  | .text stream cs =>
    let (g, i) := g.open_ ⟨.text, 0, cs⟩
    lead g stream i
  | .same stream other =>
    match g.machine.stream? other with
    | some i => lead g stream i
    | none => fail s!"{other}: Bad file descriptor"
  | .path stream kind path =>
    match openFile g kind path with
    | .ok (g, i) => lead g stream i
    | .error f =>
      let creating := kind != .read
      let verb := if creating then "create" else "open"
      fail s!"cannot {verb} {path}: {openFault creating f}"

/-- Expands the words of redirections. -/
def directAll (taking : Taking) (steps : Nat) (rs : List Redirect) : Run (List Directed) :=
  rs.mapM (direct taking steps)

/-- Makes redirections in order; tells whether that was possible. -/
def redirectAll : List Directed → Run Bool
  | [] => return true
  | d :: ds => do
    tryCatch (redirectOne d *> redirectAll ds) fun
      | .failed => return false
      | s => throw s

/-- Leads the streams to where they went before. -/
def restoreStreams (streams : Streams) : Run Unit :=
  modify fun g => { g with machine := { g.machine with streams } }

end Playbook.Shell
