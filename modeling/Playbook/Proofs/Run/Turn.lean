/-
  What one turn of a run can do. A visit leaves the workflow, the limit and the counters alone
  (`ledger_visit`). A turn fails at a name without an activity, refuses a visit beyond the limit,
  or executes the visit (`turn_cases`). A nested run matters to the turn around it only through
  the end that it gets to (`turn_shape`).
-/
import Playbook.Run.Walk

namespace Playbook

open Playbook.Text

variable {σ : Type}

theorem Context.store_workflow (c : Context σ) (w : World σ) (name value : String) :
    (c.store w name value).1.workflow = c.workflow := by
  unfold Context.store
  split
  · rfl
  split
  · rfl
  split
  · dsimp only
    split <;> rfl
  · rfl

theorem Context.setValue_workflow (c : Context σ) (w : World σ) (name value : String) :
    (c.setValue w name value).1.workflow = c.workflow := by
  unfold Context.setValue
  split
  · rfl
  · exact c.store_workflow w name value

namespace Run

/-! ## What visits leave alone -/

/-- What no visit changes: the workflow, the limit and the counters. -/
def ledger (r : Run σ) : Workflow × Nat × Table Nat := (r.workflow, r.maxHits, r.hits)

theorem ledger_eq_iff {r s : Run σ} :
    r.ledger = s.ledger ↔ r.workflow = s.workflow ∧ r.maxHits = s.maxHits ∧ r.hits = s.hits := by
  simp [ledger]

section

variable (r : Run σ)

@[simp] theorem ledger_tell (level : Level) (text : String) :
    (r.tell level text).ledger = r.ledger := rfl

@[simp] theorem ledger_tellAll (ns : List Notice) : (r.tellAll ns).ledger = r.ledger := rfl

@[simp] theorem ledger_fail (message : String) : (r.fail message).ledger = r.ledger := rfl

@[simp] theorem ledger_withResult (result : String) :
    (r.withResult result).ledger = r.ledger := rfl

@[simp] theorem ledger_withStatus (status : Status) :
    (r.withStatus status).ledger = r.ledger := rfl

@[simp] theorem ledger_save (current : Option String) : (r.save current).ledger = r.ledger := rfl

@[simp] theorem ledger_record (current : Option String) (caption : String) :
    (r.record current caption).ledger = r.ledger := rfl

@[simp] theorem ledger_update (index : Nat) (result : String) :
    (r.update index result).ledger = r.ledger := rfl

@[simp] theorem ledger_afterValue (name : String) : (r.afterValue name).ledger = r.ledger := rfl

@[simp] theorem ledger_afterRender (text : String) :
    (r.afterRender text).ledger = r.ledger := rfl

@[simp] theorem ledger_withWorld (world : World σ) :
    ({ r with world } : Run σ).ledger = r.ledger := rfl

@[simp] theorem ledger_withCurrent (current : Option String) :
    ({ r with current } : Run σ).ledger = r.ledger := rfl

@[simp] theorem ledger_setValue (name value : String) :
    (r.setValue name value).ledger = r.ledger :=
  congrArg (·, r.maxHits, r.hits) (r.context.setValue_workflow r.world name value)

@[simp] theorem ledger_reject (a : Activity) (message : String) :
    (r.reject a message).2.ledger = r.ledger := rfl

@[simp] theorem ledger_accept (a : Activity) : (r.accept a).2.ledger = r.ledger := rfl

@[simp] theorem ledger_lend : r.lend.ledger = r.ledger := rfl

@[simp] theorem ledger_leave (child : Run σ) : (r.leave child).ledger = r.ledger := rfl

theorem ledger_visitSet (a : Activity) : (r.visitSet a).2.ledger = r.ledger := by
  unfold visitSet
  split <;> simp

theorem ledger_visitAssign (a : Activity) : (r.visitAssign a).2.ledger = r.ledger := by
  unfold visitAssign
  dsimp only
  split <;> simp

theorem ledger_compareValues (a : Activity) (c : Comparison) (left right : String) :
    (r.compareValues a c left right).2.ledger = r.ledger := by
  unfold compareValues
  dsimp only
  split <;> simp

theorem ledger_visitCheck (a : Activity) : (r.visitCheck a).2.ledger = r.ledger := by
  unfold visitCheck
  split
  · simp
  dsimp only
  split
  · rw [ledger_compareValues]; simp
  · simp

theorem ledger_giveToAgent (a : Activity) (agent : Agent σ) (id : String) (role : Role)
    (content : String) : (r.giveToAgent a agent id role content).2.ledger = r.ledger := by
  unfold giveToAgent
  dsimp only
  split <;> simp

theorem ledger_visitPrompt (a : Activity) : (r.visitPrompt a).2.ledger = r.ledger := by
  unfold visitPrompt
  dsimp only
  split
  · simp
  split
  · simp
  · rw [ledger_giveToAgent]; simp

theorem ledger_visitAsk (a : Activity) : (r.visitAsk a).2.ledger = r.ledger := by
  unfold visitAsk
  dsimp only
  split <;> simp

theorem ledger_runCommands (a : Activity) (executor : Executor σ) (commands : List Command) :
    (r.runCommands a executor commands).2.ledger = r.ledger := by
  unfold runCommands
  dsimp only
  split <;> simp

theorem ledger_visitExecute (a : Activity) : (r.visitExecute a).2.ledger = r.ledger := by
  unfold visitExecute
  split
  · simp
  dsimp only
  split <;> rw [ledger_runCommands] <;> simp

theorem ledger_finish (success : Bool) (last : Option String) :
    (r.finish success last).ledger = r.ledger := by
  unfold finish
  split <;> simp

theorem ledger_begin : r.begin.ledger = r.ledger := by
  unfold begin
  dsimp only
  split <;> simp

theorem ledger_refuse (a : Activity) (name : String) : (r.refuse a name).ledger = r.ledger := by
  unfold refuse
  rw [ledger_finish]
  simp

theorem ledger_follow (a : Activity) (outcome : Bool) : (follow a outcome r).ledger = r.ledger := by
  unfold follow
  split
  · simp
  · exact r.ledger_finish outcome a.name

end

/-! ## Nested runs -/

/-- A way in which a run gets to its end, if it does. -/
abbrev Ending (σ : Type) := Run σ → Option (Run σ)

/-- `f` asks for the end of at most one nested run, and whatever it comes to satisfies `P`. -/
def AsksOnce {α : Type} (f : Ending σ → Option α) (P : α → Prop) : Prop :=
  (∃ x, P x ∧ ∀ toEnd, f toEnd = some x) ∨
    ∃ (child : Run σ) (k : Run σ → α), (∀ ended, P (k ended)) ∧
      ∀ toEnd, f toEnd = (toEnd child).map k

theorem AsksOnce.of_some {α : Type} {P : α → Prop} {x : α} (h : P x) :
    AsksOnce (fun _ : Ending σ => some x) P :=
  Or.inl ⟨x, h, fun _ => rfl⟩

theorem AsksOnce.map {α β : Type} {f : Ending σ → Option α} {P : α → Prop} {Q : β → Prop}
    (h : AsksOnce f P) (g : α → β) (hg : ∀ x, P x → Q (g x)) :
    AsksOnce (fun toEnd => (f toEnd).map g) Q := by
  rcases h with ⟨x, hx, hf⟩ | ⟨child, k, hk, hf⟩
  · exact Or.inl ⟨g x, hg x hx, fun toEnd => by simp only [hf, Option.map_some]⟩
  · refine Or.inr ⟨child, g ∘ k, fun ended => hg _ (hk ended), fun toEnd => ?_⟩
    simp only [hf, Option.map_map]

theorem AsksOnce.spec {α : Type} {f : Ending σ → Option α} {P : α → Prop} (h : AsksOnce f P)
    {toEnd : Ending σ} {x : α} (hx : f toEnd = some x) : P x := by
  rcases h with ⟨y, hy, hf⟩ | ⟨child, k, hk, hf⟩
  · rw [hf] at hx
    exact Option.some.inj hx ▸ hy
  · rw [hf] at hx
    obtain ⟨ended, _, rfl⟩ := Option.map_eq_some_iff.mp hx
    exact hk ended

/-- More nested runs that get to their ends change no answer. -/
theorem AsksOnce.mono {α : Type} {f : Ending σ → Option α} {P : α → Prop} (h : AsksOnce f P)
    {p q : Ending σ} (hle : ∀ c x, p c = some x → q c = some x) {x : α}
    (hx : f p = some x) : f q = some x := by
  rcases h with ⟨y, _, hf⟩ | ⟨child, k, _, hf⟩
  · rw [hf] at hx ⊢
    exact hx
  · rw [hf] at hx ⊢
    obtain ⟨ended, he, rfl⟩ := Option.map_eq_some_iff.mp hx
    rw [hle _ _ he, Option.map_some]

theorem AsksOnce.of_match {α : Type} {P : α → Prop} {f : Ending σ → Option α} (child : Run σ)
    (k : Run σ → α) (hk : ∀ ended, P (k ended))
    (hnone : ∀ toEnd, toEnd child = none → f toEnd = none)
    (hsome : ∀ toEnd ended, toEnd child = some ended → f toEnd = some (k ended)) :
    AsksOnce f P := by
  refine Or.inr ⟨child, k, hk, fun toEnd => ?_⟩
  cases h : toEnd child with
  | none => exact hnone toEnd h
  | some ended => exact hsome toEnd ended h

theorem asksOnce_visitCall (r : Run σ) (a : Activity) :
    AsksOnce (fun toEnd => visitCall toEnd r a) fun v => v.2.ledger = r.ledger := by
  unfold visitCall
  dsimp only
  split
  · exact .of_some (by simp)
  generalize hfile : r.render (trimmed a.expression) = file
  generalize hread : r.afterRender (trimmed a.expression) = s
  have hs : s.ledger = r.ledger := hread ▸ r.ledger_afterRender _
  generalize Path.join s.workflow.directory file = path
  cases s.world.disk.readWorkflow path with
  | error f => exact .of_some (by simpa using hs)
  | ok sub =>
    generalize hcall : ((s.tellAll (s.world.disk.readNotices path)).tell .info
      s!"CALL: {path}").record a.name a.caption = t
    have ht : t.ledger = r.ledger := by rw [← hcall]; simpa using hs
    refine .of_match (t.enter sub) (fun ended => (ended.context.status != .failed,
      (t.lend.leave ended).tell .info s!"CALL: {file} ended with {ended.context.status.tag}"))
      ?_ ?_ ?_
    · intro ended; simpa using ht
    · intro toEnd h; simp only [h]
    · intro toEnd ended h; simp only [h]

theorem asksOnce_visit (r : Run σ) (a : Activity) :
    AsksOnce (fun toEnd => visit toEnd r a) fun v => v.2.ledger = r.ledger := by
  unfold visit
  cases a.kind with
  | start => exact .of_some rfl
  | on => exact .of_some rfl
  | set => exact .of_some (r.ledger_visitSet a)
  | assign => exact .of_some (r.ledger_visitAssign a)
  | check => exact .of_some (r.ledger_visitCheck a)
  | prompt => exact .of_some (r.ledger_visitPrompt a)
  | ask => exact .of_some (r.ledger_visitAsk a)
  | execute => exact .of_some (r.ledger_visitExecute a)
  | call => exact r.asksOnce_visitCall a
  | success => exact .of_some rfl
  | failed => exact .of_some rfl

theorem asksOnce_execute (r : Run σ) (a : Activity) (name : String) :
    AsksOnce (fun toEnd => execute toEnd r a name) fun next => next.ledger = r.ledger := by
  have hvisit := ((r.tell .debug s!"Visiting {name} ({a.kind.tag})").asksOnce_visit a).map
    (Q := fun next => next.ledger = r.ledger) (fun v => follow a v.1 v.2)
    fun v hv => (v.2.ledger_follow a v.1).trans hv
  unfold execute
  dsimp only
  split
  · exact .of_some (ledger_finish _ _ _)
  · exact .of_some (ledger_finish _ _ _)
  · exact hvisit

/-! ## Turns -/

theorem finish_current (r : Run σ) (success : Bool) (last : Option String) :
    (r.finish success last).current = r.freshHandler? success := by
  unfold finish
  split
  · next h => exact h.symm
  · next h => exact h.symm

/-- What a turn at `name` comes to. -/
inductive TurnEffect (r : Run σ) (name : String) (next : Run σ) : Prop where
  /-- There is no such activity: the run fails, and nothing is counted. -/
  | missing (absent : r.workflow.activity? name = none) (kept : next.ledger = r.ledger)
      (goesOn : next.current = r.freshHandler? false)
  /-- The visit is beyond the limit: it is counted, and the run fails. -/
  | refused (a : Activity) (found : r.workflow.activity? name = some a)
      (beyond : r.maxHits ≤ r.hitsOf name) (kept : next.ledger = (r.hit name).ledger)
      (goesOn : next.current = (r.hit name).freshHandler? false)
  /-- The visit is counted and made. -/
  | executed (a : Activity) (found : r.workflow.activity? name = some a)
      (within : r.hitsOf name < r.maxHits) (kept : next.ledger = (r.hit name).ledger)

@[simp] theorem hitsOf_hit_self (r : Run σ) (name : String) :
    (r.hit name).hitsOf name = r.hitsOf name + 1 := by
  simp [hit, hitsOf]

theorem hitsOf_hit_of_ne (r : Run σ) {name other : String} (h : other ≠ name) :
    (r.hit name).hitsOf other = r.hitsOf other := by
  simp [hit, hitsOf, Table.get?_insert_of_ne _ _ h]

/-- A visit within the limit is counted and executed. -/
theorem turn_of_within {s : Run σ} {name : String} {a : Activity}
    (found : s.workflow.activity? name = some a) (within : s.hitsOf name < s.maxHits)
    (ending : Ending σ) : turn ending s name = (s.hit name).execute ending a name := by
  have hlimit : ¬ (s.hit name).maxHits < (s.hit name).hitsOf name := by
    rw [hitsOf_hit_self]
    exact Nat.not_lt.mpr within
  unfold turn
  rw [found]
  exact if_neg hlimit

/-- A visit beyond the limit is counted and refused. -/
theorem turn_of_beyond {s : Run σ} {name : String} {a : Activity}
    (found : s.workflow.activity? name = some a) (beyond : s.maxHits ≤ s.hitsOf name)
    (ending : Ending σ) : turn ending s name = some ((s.hit name).refuse a name) := by
  have hlimit : (s.hit name).maxHits < (s.hit name).hitsOf name := by
    rw [hitsOf_hit_self]
    exact Nat.lt_succ_of_le beyond
  unfold turn
  rw [found]
  exact if_pos hlimit

/-- A turn asks for the end of at most one nested run. -/
theorem asksOnce_turn (r : Run σ) (name : String) :
    AsksOnce (fun toEnd => turn toEnd r name) (TurnEffect r name) := by
  unfold turn
  split
  · next h =>
    refine .of_some (.missing h ?_ ?_)
    · rw [ledger_finish, ledger_fail]
    · rw [finish_current]; rfl
  · next a h =>
    dsimp only
    split
    · next hlim =>
      have hbeyond : r.maxHits ≤ r.hitsOf name := by
        have : r.maxHits < (r.hit name).hitsOf name := hlim
        rw [hitsOf_hit_self] at this
        omega
      refine .of_some (.refused a h hbeyond ?_ ?_)
      · rw [ledger_refuse]
      · unfold refuse; rw [finish_current]; rfl
    · next hlim =>
      have hwithin : r.hitsOf name < r.maxHits := by
        have : ¬ r.maxHits < (r.hit name).hitsOf name := hlim
        rw [hitsOf_hit_self] at this
        omega
      have h := ((r.hit name).asksOnce_execute a name).map id
        fun next hnext => TurnEffect.executed a h hwithin hnext
      simpa using h

/-- Only a call needs a nested run. -/
theorem visit_isSome (r : Run σ) {a : Activity} (h : a.kind ≠ .call) (ending : Ending σ) :
    (visit ending r a).isSome := by
  unfold visit
  cases hk : a.kind with
  | call => exact absurd hk h
  | _ => rfl

theorem turn_isSome (r : Run σ) {name : String}
    (h : ∀ a, r.workflow.activity? name = some a → a.kind ≠ .call) (ending : Ending σ) :
    (turn ending r name).isSome := by
  unfold turn
  split
  · rfl
  · next a ha =>
    dsimp only
    split
    · rfl
    · unfold execute
      dsimp only
      split
      · rfl
      · rfl
      · rw [Option.isSome_map]
        exact visit_isSome _ (h a ha) ending

end Run

end Playbook
