/-
  What visits are made of. A visit that is no call gets from one run to the next by few kinds of
  deeds: something outside of the run changes, the state or the result is set, a variable is
  stored, a record is added, or a record of this very visit is given another result
  (`Deeds`). Every such visit records exactly once (`deeds_visit`). What deeds leave alone, no
  visit touches.
-/
import Playbook.Proofs.History
import Playbook.Proofs.Run.Turn
import Playbook.Proofs.Table

namespace Playbook

open Playbook.Text

variable {σ : Type}

/-- The context `d` has the agent, the executor and the operator of `c`, and lacks what `c`
lacks. -/
structure Context.SameCapabilities (c d : Context σ) : Prop where
  agent : d.agent = c.agent
  executor : d.executor = c.executor
  operator : d.operator = c.operator

theorem Context.SameCapabilities.refl (c : Context σ) : SameCapabilities c c := ⟨rfl, rfl, rfl⟩

theorem Context.SameCapabilities.trans {c d e : Context σ} (first : SameCapabilities c d)
    (second : SameCapabilities d e) : SameCapabilities c e :=
  ⟨second.agent.trans first.agent, second.executor.trans first.executor,
    second.operator.trans first.operator⟩

namespace Run

/-- `Deeds r k t`: a visit that began in `r` has got to `t`, and recorded `k` times on its way. -/
inductive Deeds (r : Run σ) : Nat → Run σ → Prop
  | start : Deeds r 0 r
  | outside {k : Nat} {t : Run σ} (before : Deeds r k t) (world : World σ) :
    Deeds r k { t with world }
  | state {k : Nat} {t : Run σ} (before : Deeds r k t) (status : Status) (result : String) :
    Deeds r k { t with context := { t.context with status, result } }
  | store {k : Nat} {t : Run σ} (before : Deeds r k t) (name value : String) :
    Deeds r k { t with context := { t.context with vars := t.context.vars.insert name value } }
  | add {k : Nat} {t : Run σ} (before : Deeds r k t) (caption : String) :
    Deeds r (k + 1) { t with
      history := t.history.add caption t.context.status t.context.result t.world.now }
  | revise {k : Nat} {t : Run σ} (before : Deeds r k t) {index : Nat}
      (own : r.history.records.length ≤ index) (there : index < t.history.records.length)
      (text : String) :
    Deeds r k (t.update index text)

namespace Deeds

variable {r t : Run σ} {k : Nat}

/-! ## Deeds of single steps -/

theorem tell (d : Deeds r k t) (level : Level) (text : String) : Deeds r k (t.tell level text) :=
  d.outside _

theorem tellAll (d : Deeds r k t) (ns : List Notice) : Deeds r k (t.tellAll ns) := d.outside _

theorem afterValue (d : Deeds r k t) (name : String) : Deeds r k (t.afterValue name) :=
  d.tellAll _

theorem afterRender (d : Deeds r k t) (text : String) : Deeds r k (t.afterRender text) :=
  d.tellAll _

theorem withStatus (d : Deeds r k t) (status : Status) : Deeds r k (t.withStatus status) :=
  d.state status t.context.result

theorem withResult (d : Deeds r k t) (result : String) : Deeds r k (t.withResult result) :=
  d.state t.context.status result

theorem fail (d : Deeds r k t) (message : String) : Deeds r k (t.fail message) :=
  d.state .failed _

theorem save (d : Deeds r k t) (current : Option String) : Deeds r k (t.save current) :=
  d.outside _

theorem record (d : Deeds r k t) (current : Option String) (caption : String) :
    Deeds r (k + 1) (t.record current caption) :=
  (d.add caption).outside _

theorem setValue (d : Deeds r k t) (name value : String) : Deeds r k (t.setValue name value) := by
  show Deeds r k { t with
    context := (t.context.setValue t.world name value).1
    world := (t.context.setValue t.world name value).2 }
  unfold Context.setValue
  split
  · exact d.outside _
  unfold Context.store
  split
  · exact d.state _ _
  split
  · exact d.state _ _
  split
  · -- a file is written, or it is told why not
    dsimp only
    split
    · exact d.outside _
    · exact d.outside _
  · exact d.store name value

theorem reject (d : Deeds r k t) (a : Activity) (message : String) :
    Deeds r (k + 1) (t.reject a message).2 :=
  ((d.tell .warn _).fail message).record a.name a.caption

theorem accept (d : Deeds r k t) (a : Activity) : Deeds r (k + 1) (t.accept a).2 :=
  d.record a.name a.caption

/-! ## What deeds leave alone -/

/-- What neither a new state or result nor a stored variable changes in a context, no deed does. -/
theorem of_context {P : Context σ → Prop}
    (state : ∀ c status result, P c → P { c with status, result })
    (store : ∀ c name value, P c → P { c with vars := c.vars.insert name value })
    (d : Deeds r k t) (h : P r.context) : P t.context := by
  induction d with
  | start => exact h
  | outside _ _ ih => exact ih
  | state _ status result ih => exact state _ status result ih
  | store _ name value ih => exact store _ name value ih
  | add _ _ ih => exact ih
  | revise _ _ _ _ ih => exact ih

theorem workflow (d : Deeds r k t) : t.workflow = r.workflow :=
  d.of_context (P := fun c => c.workflow = r.workflow) (fun _ _ _ h => h) (fun _ _ _ h => h) rfl

theorem capabilities (d : Deeds r k t) : r.context.SameCapabilities t.context :=
  d.of_context (fun _ _ _ h => h.trans ⟨rfl, rfl, rfl⟩) (fun _ _ _ h => h.trans ⟨rfl, rfl, rfl⟩)
    (.refl _)

/-- No variable is ever removed. -/
theorem contains (d : Deeds r k t) {name : String} (h : r.context.vars.contains name) :
    t.context.vars.contains name :=
  d.of_context (P := fun c => c.vars.contains name) (fun _ _ _ h => h)
    (fun _ _ _ h => Table.contains_insert.mpr (Or.inr h)) h

theorem length_eq (d : Deeds r k t) :
    t.history.records.length = r.history.records.length + k := by
  induction d with
  | start => rfl
  | outside _ _ ih => exact ih
  | state _ _ _ ih => exact ih
  | store _ _ _ ih => exact ih
  | add _ _ ih => rw [History.length_add, ih, Nat.add_assoc]
  | revise _ _ _ _ ih => exact (History.length_update ..).trans ih

/-- The history is changed by edits that leave the records before the visit alone. -/
theorem edited (d : Deeds r k t) :
    History.Edited r.history.records.length r.history t.history := by
  induction d with
  | start => exact .refl
  | outside _ _ ih => exact ih
  | state _ _ _ ih => exact ih
  | store _ _ _ ih => exact ih
  | add _ caption ih => exact ih.tail (.add caption _ _ _)
  | revise _ own there text ih => exact ih.tail (.revise own there text)

end Deeds

/-! ## Visits -/

variable {r t : Run σ} {k : Nat}

theorem deeds_visitStart (r : Run σ) (a : Activity) : Deeds r 1 (r.visitStart a).2 :=
  ((Deeds.start.tell _ _).withStatus .doing).accept a

theorem deeds_visitHandler (r : Run σ) (a : Activity) : Deeds r 1 (r.visitHandler a).2 :=
  Deeds.start.record a.name a.name

theorem deeds_visitSet (r : Run σ) (a : Activity) : Deeds r 1 (r.visitSet a).2 := by
  unfold visitSet
  split
  · exact Deeds.start.reject a _
  · next name source _ =>
    have looked := (Deeds.start (r := r)).afterValue source
    exact (((looked.afterRender _).tell _ _).setValue name _).accept a

theorem deeds_visitAssign (r : Run σ) (a : Activity) : Deeds r 1 (r.visitAssign a).2 := by
  have looked := (Deeds.start (r := r)).afterValue (trimmed a.expression)
  unfold visitAssign
  dsimp only
  split
  · exact looked.reject a _
  · exact (((looked.afterRender _).withResult _).tell _ _).accept a

theorem Deeds.compareValues (d : Deeds r k t) (a : Activity) (c : Comparison)
    (left right : String) : Deeds r (k + 1) (t.compareValues a c left right).2 := by
  unfold Run.compareValues
  dsimp only
  split
  · exact ((d.tell _ _).record a.name a.caption).tell _ _
  · exact (d.tell _ _).reject a _

theorem deeds_visitCheck (r : Run σ) (a : Activity) : Deeds r 1 (r.visitCheck a).2 := by
  unfold visitCheck
  split
  · exact Deeds.start.reject a _
  · next name operator expected _ =>
    have looked := ((Deeds.start (r := r)).afterValue name).afterValue expected
    dsimp only
    split
    · exact looked.compareValues a _ _ _
    · exact looked.reject a _

/-- A visit that records before it asks for something, and goes on from there. -/
theorem Deeds.recordThen (d : Deeds r k t) (current : Option String) (caption text : String) :
    Deeds r (k + 1) ((t.record current caption).update t.history.records.length text) := by
  have recorded := d.record current caption
  have hbefore := d.length_eq
  have hafter := recorded.length_eq
  exact recorded.revise (by omega) (by omega) text

/-- The record that such a visit added is given its last result. -/
theorem Deeds.finish {s : Run σ} (d : Deeds r k s) (rest : Deeds r (k + 1) t) (text : String)
    (current : Option String) :
    Deeds r (k + 1) ((t.update s.history.records.length text).save current) := by
  have hbefore := d.length_eq
  have hafter := rest.length_eq
  exact (rest.revise (by omega) (by omega) text).save current

theorem Deeds.giveToAgent (d : Deeds r k t) (a : Activity) (agent : Agent σ) (id : String)
    (role : Role) (content : String) :
    Deeds r (k + 1) (t.giveToAgent a agent id role content).2 := by
  unfold Run.giveToAgent
  dsimp only
  have told := d.tell .info s!"PROMPT: role={role.title}, content={preview content}"
  have recorded := told.recordThen a.name a.caption (promptEntry content "...")
  split
  · next reply _ =>
    exact told.finish (((recorded.outside _).tell _ _).withResult reply) _ _
  · next f _ =>
    exact told.finish ((recorded.outside _).fail _) _ _

theorem deeds_visitPrompt (r : Run σ) (a : Activity) : Deeds r 1 (r.visitPrompt a).2 := by
  have looked := (Deeds.start (r := r)).afterValue (trimmed a.expression)
  unfold visitPrompt
  dsimp only
  split
  · exact looked.reject a _
  split
  · exact looked.reject a _
  · exact (looked.afterRender _).giveToAgent a _ _ _ _

theorem deeds_visitAsk (r : Run σ) (a : Activity) : Deeds r 1 (r.visitAsk a).2 := by
  unfold visitAsk
  dsimp only
  have told := (Deeds.start (r := r)).tell .info s!"ASK: {preview r.context.result}"
  have recorded := told.recordThen a.name a.caption "..."
  split
  · next answer _ => exact told.finish ((recorded.outside _).withResult answer) _ _
  · exact told.finish ((recorded.outside _).fail _) _ _

theorem Deeds.runCommands (d : Deeds r k t) (a : Activity) (executor : Executor σ)
    (commands : List Command) :
    Deeds r (k + 1) (t.runCommands a executor commands).2 := by
  unfold Run.runCommands
  dsimp only
  have told := d.tell .info s!"EXECUTE: {commands.length} command(s)"
  have recorded := told.recordThen a.name a.caption "..."
  split
  · exact told.finish (((recorded.outside _).tell _ _).withResult _) _ _
  · exact told.finish ((recorded.outside _).withResult _) _ _

theorem deeds_visitExecute (r : Run σ) (a : Activity) : Deeds r 1 (r.visitExecute a).2 := by
  unfold visitExecute
  split
  · exact Deeds.start.reject a _
  · dsimp only
    split
    · exact (Deeds.start.tellAll _).runCommands a _ _
    · exact (Deeds.start.afterRender _).runCommands a _ _

/-- Every visit but a call and the two ends of a run records once. -/
theorem deeds_visit {ending : Ending σ} {a : Activity} {v : Visited σ}
    (hcall : a.kind ≠ .call) (hsuccess : a.kind ≠ .success) (hfailed : a.kind ≠ .failed)
    (h : visit ending r a = some v) : Deeds r 1 v.2 := by
  unfold visit at h
  cases hk : a.kind with
  | start => rw [hk] at h; rw [← Option.some.inj h]; exact r.deeds_visitStart a
  | on => rw [hk] at h; rw [← Option.some.inj h]; exact r.deeds_visitHandler a
  | set => rw [hk] at h; rw [← Option.some.inj h]; exact r.deeds_visitSet a
  | assign => rw [hk] at h; rw [← Option.some.inj h]; exact r.deeds_visitAssign a
  | check => rw [hk] at h; rw [← Option.some.inj h]; exact r.deeds_visitCheck a
  | prompt => rw [hk] at h; rw [← Option.some.inj h]; exact r.deeds_visitPrompt a
  | ask => rw [hk] at h; rw [← Option.some.inj h]; exact r.deeds_visitAsk a
  | execute => rw [hk] at h; rw [← Option.some.inj h]; exact r.deeds_visitExecute a
  | call => exact absurd hk hcall
  | success => exact absurd hk hsuccess
  | failed => exact absurd hk hfailed

end Run

end Playbook
