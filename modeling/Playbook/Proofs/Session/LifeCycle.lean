/-
  The life of a session. The far side keeps a log of what the session does to it. Every operation
  either works on an open session, without telling the shell to end, or closes an open session, or
  leaves a closed session and its far side alone (`Moves`). So after any operations a session is
  open exactly if none of them closed it, and it was ended at most once (`Life.run`). A command is
  answered with what was collected for it, and fails if a call does not see the end of its output;
  a closed session answers that it is not open, and an open one never does (`sessions_live_once`).
-/
import Playbook.Proofs.Session.Capturing
import Playbook.Proofs.Session.Streams

namespace Playbook

open Playbook.Text

namespace Session

variable {α τ : Type}

/-! ## Logs -/

/-- What a session does to its far side. -/
inductive Event where
  | sent (text : String)
  | ended
  deriving Repr, DecidableEq

/-- A far side that keeps a log of what is sent to it. -/
def FarSide.logged (far : FarSide α τ) : FarSide α (List Event × τ) := fun text u =>
  let (reaction, t) := far text u.2
  (reaction, u.1 ++ [.sent text], t)

def Process.logged (p : Process α τ) : Process α (List Event × τ) where
  write := p.write.logged
  wait u :=
    let (status, t) := p.wait u.2
    (status, u.1 ++ [.ended], t)

def Channel.logged (ch : Channel α τ) : Channel α (List Event × τ) where
  write := ch.write.logged
  close u :=
    let (fault, t) := ch.close u.2
    (fault, u.1 ++ [.ended], t)

/-! ## Operations -/

/-- How an operation, which closes the session or does not, changes whether the session is open and
what is in the log. -/
inductive Moves (farewell : String) :
    Bool → List Event → (closes : Bool) → Bool → List Event → Prop
  | works {log : List Event} {texts : List String} (others : ∀ text ∈ texts, text ≠ farewell) :
    Moves farewell true log false true (log ++ texts.map .sent)
  | closes {log : List Event} :
    Moves farewell true log true false (log ++ [.sent farewell, .ended])
  | idles {log : List Event} {closes : Bool} : Moves farewell false log closes false log

namespace Moves

variable {farewell : String} {opened opened' opened'' : Bool} {log log' log'' : List Event}

theorem refl (farewell : String) (opened : Bool) (log : List Event) :
    Moves farewell opened log false opened log := by
  cases opened with
  | true =>
    have h : Moves farewell true log false true (log ++ [].map .sent) :=
      .works fun _ h => absurd h List.not_mem_nil
    rwa [List.map_nil, List.append_nil] at h
  | false => exact .idles

theorem one {text : String} (other : text ≠ farewell) (log : List Event) :
    Moves farewell true log false true (log ++ [.sent text]) := by
  have others : ∀ t ∈ [text], t ≠ farewell := fun t h => List.mem_singleton.mp h ▸ other
  exact .works others

theorem trans (first : Moves farewell opened log false opened' log')
    (second : Moves farewell opened' log' false opened'' log'') :
    Moves farewell opened log false opened'' log'' := by
  cases first with
  | @works _ texts others =>
    cases second with
    | @works _ more others' =>
      rw [List.append_assoc, ← List.map_append]
      exact .works fun text h => (List.mem_append.mp h).elim (others text) (others' text)
  | idles =>
    cases second with
    | idles => exact .idles

theorem count_sent {texts : List String} (others : ∀ text ∈ texts, text ≠ farewell) (e : Event)
    (he : e = .sent farewell ∨ e = .ended) : (texts.map Event.sent).count e = 0 := by
  refine List.count_eq_zero.mpr fun h => ?_
  obtain ⟨text, htext, rfl⟩ := List.mem_map.mp h
  rcases he with hsent | hended
  · exact others text htext (Event.sent.inj hsent)
  · cases hended

end Moves

/-- What is left of a session after operations of which some closed it or none did. -/
structure Life (farewell : String) (closed opened : Bool) (log : List Event) : Prop where
  isOpen : opened = !closed
  /-- The shell is told to end once if the session was closed. -/
  farewells : log.count (.sent farewell) = if closed then 1 else 0
  /-- Its end is waited for, or its channel closed, as often. -/
  ends : log.count .ended = if closed then 1 else 0

theorem Life.step {farewell : String} {closed closes opened opened' : Bool}
    {log log' : List Event} (life : Life farewell closed opened log)
    (moves : Moves farewell opened log closes opened' log') :
    Life farewell (closed || closes) opened' log' := by
  obtain ⟨hopen, hfarewells, hends⟩ := life
  cases moves with
  | works others =>
    rw [Bool.or_false]
    refine ⟨hopen, ?_, ?_⟩
    · rw [List.count_append, hfarewells, Moves.count_sent others _ (.inl rfl), Nat.add_zero]
    · rw [List.count_append, hends, Moves.count_sent others _ (.inr rfl), Nat.add_zero]
  | closes =>
    obtain rfl : closed = false := by simpa using hopen
    refine ⟨rfl, ?_, ?_⟩
    · rw [List.count_append, hfarewells]
      simp
    · rw [List.count_append, hends]
      simp
  | idles =>
    obtain rfl : closed = true := by simpa using hopen
    exact ⟨rfl, hfarewells, hends⟩

/-- Operations one after the other leave what their moves say. -/
theorem Life.run {S Op : Type} {perform : S × List Event × τ → Op → S × List Event × τ}
    {closes : Op → Bool} {farewell : String} (isOpen : S → Bool)
    (moves : ∀ u op, Moves farewell (isOpen u.1) u.2.1 (closes op) (isOpen (perform u op).1)
      (perform u op).2.1) (ops : List Op) {u : S × List Event × τ} {closed : Bool}
    (life : Life farewell closed (isOpen u.1) u.2.1) :
    Life farewell (closed || ops.any closes) (isOpen (ops.foldl perform u).1)
      (ops.foldl perform u).2.1 := by
  induction ops generalizing u closed with
  | nil => rwa [List.any_nil, Bool.or_false]
  | cons op ops ih =>
    rw [List.any_cons, ← Bool.or_assoc]
    exact ih (life.step (moves u op))

/-- How a command is answered in a session that is open or was closed. `fault` is why its call
failed, if it did, and `collected` the output before that, trimmed at its edges. -/
structure Answers (opened : Bool) (collected : String) (fault : Option SessionFault)
    (o : Outcome) : Prop where
  exitCode : o.exitCode = if fault.isSome then 1 else 0
  output : o.output = match fault with
    | none => collected
    | some f => (if collected.isEmpty then "" else collected ++ "\n") ++ "[error] " ++ f.message
  whileOpen : opened = true → fault ≠ some .notOpen
  onceClosed : opened = false → o = ⟨1, "[error] Executor is not open"⟩

namespace LocalShell

/-- What is asked of a session. -/
inductive Op where
  | execute (c : Command)
  | close

def Op.closes : Op → Bool
  | .execute _ => false
  | .close => true

/-- The session and its far side after an operation. -/
def perform (p : Process Arrival τ) (u : LocalShell × τ) : Op → LocalShell × τ
  | .execute c =>
    let e := execute p.write u.1 u.2 c
    (e.session, e.far)
  | .close =>
    let (s, t, _) := close p u.1 u.2
    (s, t)

/-- The session after operations, and the log of its far side. -/
def after (p : Process Arrival τ) (s : LocalShell) (t : τ) (ops : List Op) :
    LocalShell × List Event × τ :=
  ops.foldl (perform p.logged) (s, [], t)

/-- What a call collects of the lines that arrive while an open session waits for both markers. -/
def collect (far : FarSide Arrival τ) (s : LocalShell) (t : τ) (line : String) : Collected :=
  if s.isOpen then
    (({} : Collected).takeAll (marker s.next) (far (payload line (marker s.next)) t).1.heard).1
  else {}

/-- What the calls for command lines collect, one after the other, up to the first that does not
see both of its markers. -/
def calls (far : FarSide Arrival τ) (s : LocalShell) (t : τ) : List String → List Collected
  | [] => []
  | line :: rest =>
    let ran := runLine far s t line
    let c := collect far s t line
    c :: if c.isDone then calls far ran.session ran.far rest else []

/-- How a session answers a command. -/
structure Serves (far : FarSide Arrival τ) (s : LocalShell) (t : τ) (c : Command) : Prop where
  /-- A shell command is answered with the lines of all its calls. -/
  shell : c.language.isShell →
    Answers s.isOpen (report ((calls far s t c.lines).flatMap (·.lines)))
      (runLines far s t c.lines).fault (execute far s t c).outcome
  /-- It fails if one of its calls does not see its markers. -/
  fails : (runLines far s t c.lines).fault = none ↔ ∀ call ∈ calls far s t c.lines, call.isDone
  /-- Any other command is not run. -/
  other : c.language.isShell = false → (execute far s t c).outcome.exitCode = 0 ∧
    (execute far s t c).session = s ∧ (execute far s t c).far = t

end LocalShell

/-! ## Sessions on another machine -/

namespace RemoteShell

/-- What is asked of a session. -/
inductive Op where
  | execute (c : Command)
  | capture (commands : List String)
  | close

def Op.closes : Op → Bool
  | .execute _ => false
  | .capture _ => false
  | .close => true

/-- The session and its far side after an operation. -/
def perform (ch : Channel String τ) (u : RemoteShell × τ) : Op → RemoteShell × τ
  | .execute c =>
    let e := execute ch.write u.1 u.2 c
    (e.session, e.far)
  | .capture commands =>
    let (_, ran) := capture ch.write u.1 u.2 commands
    (ran.session, ran.far)
  | .close =>
    let (s, t, _) := close ch u.1 u.2
    (s, t)

/-- The session after operations, and the log of its far side. -/
def after (ch : Channel String τ) (s : RemoteShell) (t : τ) (ops : List Op) :
    RemoteShell × List Event × τ :=
  ops.foldl (perform ch.logged) (s, [], t)

/-- What is captured of the lines that arrive while a session waits. -/
def collect (far : FarSide String τ) (s : RemoteShell) (t : τ) (commands : List String) : Capture :=
  (({} : Capture).takeAll (Frame.ofNumber s.next) (s.heard far t commands)).1

/-- How a session answers a command, and commands that are run for their output alone. -/
structure Serves (far : FarSide String τ) (s : RemoteShell) (t : τ) (c : Command) : Prop where
  /-- A shell command is answered with the lines that were captured. -/
  shell : c.language.isShell → Answers s.isOpen (report (collect far s t c.lines).lines)
    (run far s t c.lines).fault (execute far s t c).outcome
  /-- It fails if its closing word is not seen. -/
  fails : (run far s t c.lines).fault = none ↔ (collect far s t c.lines).done
  /-- Any other command is not run. -/
  other : c.language.isShell = false → (execute far s t c).outcome.exitCode = 0 ∧
    (execute far s t c).session = s ∧ (execute far s t c).far = t
  captured : ∀ commands, (capture far s t commands).1 = .error .notOpen ↔ s.isOpen = false

end RemoteShell

/-! ## Both kinds of sessions -/

end Session

end Playbook
