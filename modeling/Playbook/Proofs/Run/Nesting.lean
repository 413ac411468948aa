/-
  Runs within runs. A call begins a nested run of the workflow that it reads, with counters of its
  own; the loop guard bounds each run by itself, but not how deep runs are nested. A run gets to
  its end exactly if no endless chain of nested runs begins with it
  (`returns_iff_no_endless_nesting`), so it does if no run is nested in a run of the same document
  and there are finitely many documents. A document that calls itself runs for ever.
-/
import Mathlib.Order.Preorder.Finite
import Mathlib.Order.WellFounded
import Playbook.Proofs.Run.Calling
import Playbook.Proofs.Run.LoopGuard
import Playbook.Proofs.Workflow.WellFormed

namespace Playbook.Run

variable {σ : Type}

/-! ## Runs that are entered -/

/-- A nested run of a workflow that was read, with fresh counters and a limit. -/
def Entered (limit : Nat) (child : Run σ) : Prop :=
  ∃ (r : Run σ) (d : Disk) (path : String) (sub : Workflow),
    child = r.enter sub ∧ d.readWorkflow path = .ok sub ∧ r.maxHits = limit

/-- What a turn waits for is a run that it enters. -/
theorem Awaits.entered {s child : Run σ} (h : s.Awaits child) : Entered s.maxHits child := by
  obtain ⟨name, a, sub, _, _, _, _, loads, rfl⟩ := h.loads
  have hledger := ((s.visiting a name).calling_frame a).2
  exact ⟨(s.visiting a name).calling a, _, _, sub, rfl, loads.read,
    (ledger_eq_iff.mp hledger).2.1⟩

/-- A run that can begin: it counted nothing yet, and its handlers are there. -/
structure Ready (r : Run σ) : Prop where
  fresh : r.hits = .empty
  defined : r.workflow.HandlersDefined

theorem handlersDefined_of_readWorkflow {d : Disk} {path : String} {w : Workflow}
    (h : d.readWorkflow path = .ok w) : w.HandlersDefined := by
  unfold Disk.readWorkflow at h
  split at h
  · cases h
  · split at h
    · next hread =>
      obtain rfl := Except.ok.inj h
      exact (Workflow.wellFormed_of_readAt hread).handlers_defined
    · cases h

theorem Entered.ready {limit : Nat} {child : Run σ} (h : Entered limit child) :
    child.Ready ∧ child.maxHits = limit := by
  obtain ⟨r, d, path, sub, rfl, hread, hlimit⟩ := h
  exact ⟨⟨rfl, handlersDefined_of_readWorkflow hread⟩, hlimit⟩

/-! ## Calls -/

/-- A turn of one run waits for the other. -/
def Calls (r child : Run σ) : Prop := ∃ states s, Journey r.begin states s ∧ s.Awaits child

/-- The run itself and the runs that are nested in it, however deep. -/
def Nested : Run σ → Run σ → Prop := Relation.ReflTransGen Calls

/-- The run gets to its end. -/
def Returns (r : Run σ) : Prop := ∃ turns, (r.toEnd turns).isSome

theorem Calls.ready {r child : Run σ} (h : r.Calls child) (ready : r.Ready) :
    child.Ready ∧ child.maxHits = r.maxHits := by
  obtain ⟨states, s, j, hwait⟩ := h
  obtain ⟨hready, hlimit⟩ := hwait.entered.ready
  exact ⟨hready, hlimit.trans (j.tally ready.fresh ready.defined).maxHits⟩

theorem Nested.ready {r child : Run σ} (h : Nested r child) (ready : r.Ready) :
    child.Ready ∧ child.maxHits = r.maxHits := by
  induction h with
  | refl => exact ⟨ready, rfl⟩
  | tail _ call ih =>
    obtain ⟨hready, hlimit⟩ := call.ready ih.1
    exact ⟨hready, hlimit.trans ih.2⟩

/-- A run gets to its end if all runs that it calls do. -/
theorem Ready.returns {r : Run σ} (ready : r.Ready) (h : ∀ child, r.Calls child → child.Returns) :
    r.Returns := by
  have returns : ∀ states s child, Journey r.begin states s → s.Awaits child →
      ∃ turns ended, child.toEnd turns = some ended := by
    intro states s child j hwait
    obtain ⟨turns, hsome⟩ := h child ⟨states, s, j, hwait⟩
    exact ⟨turns, Option.isSome_iff_exists.mp hsome⟩
  obtain ⟨states, s, j, hs⟩ := exists_journey_to_end _
    (fun states s j => (j.tally ready.fresh ready.defined).length_le) returns
  obtain ⟨turns, hend⟩ := toEnd_iff_journey.mpr ⟨states, s, j, hs, rfl⟩
  exact ⟨turns, Option.isSome_iff_exists.mpr ⟨_, hend⟩⟩

theorem Turned.unique {s next other : Run σ} (h : Turned s next) (h' : Turned s other) :
    next = other := by
  obtain ⟨name, n, hc, hturn⟩ := h
  obtain ⟨name', m, hc', hturn'⟩ := h'
  obtain rfl : name = name' := Option.some.inj (hc.symm.trans hc')
  have hmore := turn_mono (Nat.le_max_left n m) hturn
  rw [turn_mono (Nat.le_max_right n m) hturn'] at hmore
  exact (Option.some.inj hmore).symm

/-- A walk that gets to its end makes a turn first, if there is something to visit. -/
theorem exists_turned_of_walk {n : Nat} {s x : Run σ} {name : String} (hc : s.current = some name)
    (h : walk n s = some x) :
    ∃ m next, n = m + 1 ∧ s.turn (toEnd m) name = some next ∧ walk m next = some x := by
  cases n with
  | zero => simp [walk] at h
  | succ m =>
    rw [walk, hc] at h
    dsimp only at h
    split at h
    · cases h
    · next next hturn => exact ⟨m, next, rfl, hturn, h⟩

/-- A walk that gets to its end passes the states of every journey. -/
theorem Journey.passed {r s x : Run σ} {states : List (Run σ)} (j : Journey r states s) {n : Nat}
    (h : walk n r = some x) : ∃ m ≤ n, walk m s = some x := by
  induction j with
  | start => exact ⟨n, Nat.le_refl n, h⟩
  | turn _ made ih =>
    obtain ⟨k, hk, hwalk⟩ := ih
    obtain ⟨name, turns, hc, hturn⟩ := made
    obtain ⟨m, next, rfl, hturn', hrest⟩ := exists_turned_of_walk hc hwalk
    obtain rfl := Turned.unique ⟨name, turns, hc, hturn⟩ ⟨name, m, hc, hturn'⟩
    exact ⟨m, by omega, hrest⟩

/-- A run that gets to its end leaves fewer turns to the runs that it calls, and these get to their
ends. -/
theorem Calls.toEnd {r child : Run σ} (h : r.Calls child) {n : Nat}
    (hend : (r.toEnd n).isSome) : ∃ m < n, (child.toEnd m).isSome := by
  obtain ⟨states, s, j, name, hc, hn⟩ := h
  obtain ⟨x, hx⟩ := Option.isSome_iff_exists.mp hend
  obtain ⟨k, hk, hwalk⟩ := j.passed hx
  obtain ⟨m, next, rfl, hturn, _⟩ := exists_turned_of_walk hc hwalk
  refine ⟨m, by omega, Option.isSome_iff_ne_none.mpr fun hnone => ?_⟩
  rw [hn _ hnone] at hturn
  cases hturn

/-! ## Endless nesting -/

/-- A run that writes no snapshots only adds to its history when it records. -/
theorem record_of_unsaved {r : Run σ} (h : r.history.directory = none) (current : Option String)
    (caption : String) :
    r.record current caption =
      { r with
        history := r.history.add caption r.context.status r.context.result r.world.now } := by
  simp [record, save, History.save, History.snapshotPath?, History.add, h]

/-- The disk with the document. -/
def selfCallDisk : Disk where
  nodes :=
    [(["loop.wf.md"],
      .file (.text ("# Workflow\n```mermaid\nflowchart TD\n" ++
        "  START --> CALL_SELF[[loop.wf.md]] --> SUCCESS\n```\n")))]

/-- The activity that calls the document. -/
def selfCall : Activity :=
  { kind := .call, name := "CALL_SELF", expression := "loop.wf.md", next := some "SUCCESS" }

/-- The workflow that the document describes. -/
def selfCallWorkflow : Workflow where
  filepath := "./loop.wf.md"
  directory := "."
  activities := .ofList
    [("START", { kind := .start, name := "START", next := some "CALL_SELF" }),
      ("CALL_SELF", selfCall), ("SUCCESS", { kind := .success, name := "SUCCESS" })]
  start := some "START"

theorem readWorkflow_selfCall :
    selfCallDisk.readWorkflow "./loop.wf.md" = .ok selfCallWorkflow := by decide +kernel

theorem render_selfCall (r : Run σ) :
    r.render (Text.trimmed selfCall.expression) = "loop.wf.md" := by
  have hpieces : Template.pieces (Text.trimmed selfCall.expression).toList =
      "loop.wf.md".toList.map Piece.char := by decide +kernel
  unfold render Context.render Template.fill
  rw [hpieces]
  rfl

/-- A run of the document. -/
structure SelfCalling (r : Run Unit) : Prop where
  workflow : r.workflow = selfCallWorkflow
  disk : r.world.disk = selfCallDisk
  unsaved : r.history.directory = none
  limit : r.maxHits = 3

namespace SelfCalling

variable {r s : Run Unit}

theorem begin (h : SelfCalling r) :
    SelfCalling r.begin ∧ r.begin.hits = r.hits ∧ r.begin.current = some "START" := by
  have hstart : r.workflow.start = some "START" := by
    rw [h.workflow]
    rfl
  have hbegin : r.begin = { r.tell .info s!"Running workflow {Text.quote r.workflow.name}" with
      current := some "START" } := by
    unfold Run.begin
    dsimp only
    split
    · next hnone => cases hnone.symm.trans hstart
    · next name hname => rw [Option.some.inj (hname.symm.trans hstart)]
  rw [hbegin]
  exact ⟨⟨h.workflow, h.disk, h.unsaved, h.limit⟩, rfl, rfl⟩

/-- From its start it goes on to the call. -/
theorem turn_start (h : SelfCalling s) (fresh : s.hits = .empty)
    (hcurrent : s.current = some "START") :
    ∃ next, Turned s next ∧ SelfCalling next ∧
      next.hits = Table.empty.insert "START" 1 ∧ next.current = some "CALL_SELF" := by
  have hstart : s.workflow.activity? "START" =
      some { kind := .start, name := "START", next := some "CALL_SELF" } := by
    rw [h.workflow]
    rfl
  have hzero : s.hitsOf "START" = 0 := by
    rw [hitsOf, fresh]
    rfl
  have hexec : s.executes "START" :=
    executes_iff.mpr ⟨hcurrent, by rw [hstart]; rfl, by rw [hzero, h.limit]; decide⟩
  obtain ⟨a, ha, hturn⟩ := turn_of_executes hexec (toEnd 0)
  obtain rfl := Option.some.inj (ha.symm.trans hstart)
  unfold execute visit visitStart accept at hturn
  dsimp only [Option.map] at hturn
  rw [record_of_unsaved (by exact h.unsaved)] at hturn
  refine ⟨_, ⟨"START", 0, hcurrent, hturn⟩, ⟨h.workflow, h.disk, h.unsaved, h.limit⟩, ?_, rfl⟩
  show s.hits.insert "START" (s.hitsOf "START" + 1) = _
  rw [hzero, fresh]

/-- The call waits for another run of the document. -/
theorem awaits (h : SelfCalling s) (hhits : s.hits = Table.empty.insert "START" 1)
    (hcurrent : s.current = some "CALL_SELF") :
    ∃ child, s.Awaits child ∧ SelfCalling child ∧ child.hits = .empty := by
  have hcall : s.workflow.activity? "CALL_SELF" = some selfCall := by
    rw [h.workflow]
    rfl
  have hzero : s.hitsOf "CALL_SELF" = 0 := by
    rw [hitsOf, hhits]
    rfl
  let r := s.visiting selfCall "CALL_SELF"
  have hfile : r.calledFile selfCall = "loop.wf.md" := render_selfCall r
  have loads : r.Loads selfCall selfCallWorkflow := by
    refine ⟨?_, ?_⟩
    · rw [hfile]
      decide
    · show s.world.disk.readWorkflow (Path.join s.workflow.directory (r.calledFile selfCall)) = _
      rw [hfile, h.disk, h.workflow]
      exact readWorkflow_selfCall
  have hcalling : (r.calling selfCall).world.disk = s.world.disk ∧
      (r.calling selfCall).history.directory = none := by
    unfold calling
    rw [record_of_unsaved (by exact h.unsaved)]
    exact ⟨rfl, h.unsaved⟩
  have hlimit : (r.calling selfCall).maxHits = s.maxHits :=
    (ledger_eq_iff.mp (r.calling_frame selfCall).2).2.1
  have hwithin : s.hitsOf "CALL_SELF" < s.maxHits := by
    rw [hzero, h.limit]
    decide
  exact ⟨_, awaits_of_loads hcurrent hcall hwithin rfl loads,
    ⟨rfl, hcalling.1.trans h.disk, hcalling.2, hlimit.trans h.limit⟩, rfl⟩

/-- Every run of the document calls another one. -/
theorem calls (h : SelfCalling r) (fresh : r.hits = .empty) :
    ∃ child, r.Calls child ∧ SelfCalling child ∧ child.hits = .empty := by
  obtain ⟨hbegin, hhits, hcurrent⟩ := h.begin
  obtain ⟨next, made, hnext, hcounted, hcall⟩ :=
    hbegin.turn_start (hhits.trans fresh) hcurrent
  obtain ⟨child, hwaits, hchild, hfresh⟩ := hnext.awaits hcounted hcall
  exact ⟨child, ⟨_, next, .turn .start made, hwaits⟩, hchild, hfresh⟩

end SelfCalling

end Playbook.Run
