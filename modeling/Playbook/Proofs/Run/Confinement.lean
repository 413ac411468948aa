/-
  What a visit may touch. A visit that cannot do its work is rejected before it does any of it
  (`visit_of_rejection`): of the run it changes the state and the result, of the world the notices
  and the snapshot, and one record is added (`Rejected`). All other visits that are no calls change
  the variables, the state and the result as their kind allows (`Confined`, `confined_visit`). Both
  together are `visit_touches_only`.
-/
import Playbook.Proofs.Context
import Playbook.Proofs.Run.Deeds
import Playbook.Proofs.Text.Lines

namespace Playbook

open Playbook.Text

variable {σ : Type}

namespace Run

open Context

/-! ## Rejected visits -/

/-- The value that an assignment stores: what its right side names, or its text, with the
placeholders filled. -/
def assigned (r : Run σ) (source : String) : String :=
  r.render (r.context.valueOr r.world source source)

/-- Why a visit is rejected, and the diagnostic. -/
inductive Rejection (r : Run σ) (a : Activity) : String → Prop
  | noAssignment (kind : a.kind = .set) (missing : '=' ∉ a.expression.toList) :
    Rejection r a s!"SET expression {a.expression} is not valid!\nSyntax: <variable>=<value>"
  | noName (kind : a.kind = .set) {left right : List Char}
      (split : splitOnce '=' a.expression.toList = some (left, right)) (blank : isAllBlank left) :
    Rejection r a s!"SET expression {a.expression} has no variable"
  | unsetValue (kind : a.kind = .assign) (unresolved : r.value? (trimmed a.expression) = none) :
    Rejection r a s!"ASSIGN value {quote a.expression} is not set!"
  | fewWords (kind : a.kind = .check) (few : (words a.expression.toList).length < 3) :
    Rejection r a (checkFault a.expression)
  | unsetLeft (kind : a.kind = .check) {name operator expected : String}
      (parts : checkParts? a.expression = some (name, operator, expected))
      (unresolved : r.value? name = none) : Rejection r a (checkFault a.expression)
  | noOperator (kind : a.kind = .check) {name operator expected : String}
      (parts : checkParts? a.expression = some (name, operator, expected))
      (unknown : Comparison.ofWord? operator = none) : Rejection r a (checkFault a.expression)
  | faultyPattern (kind : a.kind = .check) {name operator expected left right : String}
      (parts : checkParts? a.expression = some (name, operator, expected))
      (resolved : r.value? name = some left) (fits : Comparison.ofWord? operator = some .fits)
      (pattern : r.context.valueOr r.world expected expected = right) {fault : Pattern.Fault}
      (faulty : Pattern.ofText right = .error fault) :
    Rejection r a s!"CHECK pattern {quote right} is not valid: {fault.message right}"
  | unsetPrompt (kind : a.kind = .prompt) (unresolved : r.value? (trimmed a.expression) = none) :
    Rejection r a s!"PROMPT content is not set or not found! prompt_id={trimmed a.expression}"
  | noAgent (kind : a.kind = .prompt) {template : String}
      (resolved : r.value? (trimmed a.expression) = some template)
      (absent : r.context.agent = none) : Rejection r a "PROMPT needs an agent, none is set"
  | noExecutor (kind : a.kind = .execute) (absent : r.context.executor = none) :
    Rejection r a "Command executor is not set!"

/-- What a visit has told when it is rejected: what it read to look its names up, and what it was
about to compare. -/
def toldBefore (r : Run σ) (a : Activity) : List Notice :=
  match a.kind with
  | .assign | .prompt => r.context.valueNotices r.world (trimmed a.expression)
  | .check =>
    match checkParts? a.expression with
    | none => []
    | some (name, operator, expected) =>
      let looked := r.context.valueNotices r.world name ++ r.context.valueNotices r.world expected
      match r.value? name, Comparison.ofWord? operator with
      | some left, some c =>
        let right := r.context.valueOr r.world expected expected
        looked ++ [⟨.info, .walking, s!"CHECK: {preview left} {c.tag} {quote right}"⟩]
      | _, _ => looked
  | _ => []

/-- A rejected visit: the diagnostic stands in front of the result and one record is added. Of the
world, the snapshot is written and notices are told; neither the agent nor the executor nor the
operator is asked for anything. -/
structure Rejected (r : Run σ) (a : Activity) (message : String) (outcome : Bool) (t : Run σ) :
    Prop where
  outcome : outcome = false
  run : t =
    { r with
      context := r.context.fail message
      history := r.history.add a.caption .failed (withDiagnostic message r.context.result)
        r.world.now
      world := t.world }
  world : t.world = t.history.save r.workflow a.name r.context.vars
    ((r.world.tellAll (r.toldBefore a)).tell ⟨.warn, .walking, s!"{a.name}: {message}"⟩)
  /-- What is up to the capabilities is as it was. -/
  rest : t.world.rest = r.world.rest

theorem rest_save (h : History) (workflow : Workflow) (current : Option String)
    (vars : Table String) (w : World σ) : (h.save workflow current vars w).rest = w.rest := by
  unfold History.save
  split
  · rfl
  dsimp only
  split
  · rfl
  · split <;> rfl

theorem rejected_reject (r : Run σ) (a : Activity) (message : String) :
    Rejected r a message ((r.tellAll (r.toldBefore a)).reject a message).1
      ((r.tellAll (r.toldBefore a)).reject a message).2 := by
  unfold reject
  refine ⟨rfl, ?_, ?_, ?_⟩
  · rfl
  · rfl
  · unfold record save
    dsimp only
    rw [rest_save]
    rfl

theorem tellAll_tellAll (r : Run σ) (ns more : List Notice) :
    (r.tellAll ns).tellAll more = r.tellAll (ns ++ more) := by
  simp [tellAll, World.tellAll]

theorem tell_tellAll (r : Run σ) (ns : List Notice) (level : Level) (text : String) :
    (r.tellAll ns).tell level text = r.tellAll (ns ++ [⟨level, .walking, text⟩]) :=
  r.tellAll_tellAll ns [⟨level, .walking, text⟩]

/-- What looking up tells does not depend on what was told before. -/
theorem valueNotices_tellAll (c : Context σ) (w : World σ) (ns : List Notice) (name : String) :
    c.valueNotices (w.tellAll ns) name = c.valueNotices w name := by
  simp only [valueNotices, fileNotices, World.tellAll]

theorem afterValue_afterValue (r : Run σ) (name other : String) :
    (r.afterValue name).afterValue other = r.tellAll
      (r.context.valueNotices r.world name ++ r.context.valueNotices r.world other) := by
  have same := valueNotices_tellAll r.context r.world (r.context.valueNotices r.world name) other
  unfold afterValue
  rw [tellAll_tellAll]
  exact congrArg (fun more => r.tellAll (_ ++ more)) same

theorem checkParts?_eq_none_iff {expression : String} :
    checkParts? expression = none ↔ (words expression.toList).length < 3 := by
  unfold checkParts?
  rcases words expression.toList with _ | ⟨w, _ | ⟨v, _ | ⟨u, ws⟩⟩⟩ <;> simp

/-- A visit with a reason for it is rejected before anything else is done. -/
theorem visit_of_rejection {r : Run σ} {a : Activity} {message : String}
    (h : Rejection r a message) (ending : Ending σ) :
    visit ending r a = some ((r.tellAll (r.toldBefore a)).reject a message) := by
  unfold visit toldBefore
  cases h with
  | noAssignment kind missing =>
    rw [kind]
    unfold visitSet setParts
    rw [splitOnce_of_not_mem missing]
    rfl
  | noName kind split blank =>
    rw [kind]
    unfold visitSet setParts
    rw [split]
    dsimp only
    rw [trim_eq_nil_iff.mpr blank]
    rfl
  | unsetValue kind unresolved =>
    rw [kind]
    unfold visitAssign
    dsimp only
    rw [unresolved]
    rfl
  | fewWords kind few =>
    rw [kind]
    unfold visitCheck
    rw [checkParts?_eq_none_iff.mpr few]
    rfl
  | unsetLeft kind parts unresolved =>
    rw [kind]
    unfold visitCheck
    rw [parts]
    dsimp only
    rw [unresolved, afterValue_afterValue]
  | @noOperator kind name operator expected parts unknown =>
    rw [kind]
    unfold visitCheck
    rw [parts]
    dsimp only
    rw [unknown, afterValue_afterValue]
    cases r.value? name <;> rfl
  | faultyPattern kind parts resolved fits pattern faulty =>
    rw [kind]
    unfold visitCheck
    rw [parts]
    dsimp only
    rw [resolved, fits, pattern, afterValue_afterValue]
    unfold compareValues Comparison.holds
    dsimp only
    rw [faulty, tell_tellAll]
    rfl
  | unsetPrompt kind unresolved =>
    rw [kind]
    unfold visitPrompt
    dsimp only
    rw [unresolved]
    rfl
  | noAgent kind resolved absent =>
    rw [kind]
    unfold visitPrompt
    dsimp only
    rw [resolved, absent]
    rfl
  | noExecutor kind absent =>
    rw [kind]
    unfold visitExecute
    dsimp only
    rw [absent]
    rfl

/-! ## What visits change -/

/-- A visit that changed no more than its kind allows: a variable only by an assignment to it, and
no other one; the state only at the start, by an assignment to it of a valid state, or by failing
with a diagnostic. -/
structure Confined (r : Run σ) (a : Activity) (outcome : Bool) (t : Run σ) : Prop where
  workflow : t.workflow = r.workflow
  capabilities : r.context.SameCapabilities t.context
  vars : t.context.vars = r.context.vars ∨
    a.kind = .set ∧ ∃ name source, setParts a.expression = .ok (name, source) ∧
      referent name = .variable_ ∧
      t.context.vars = r.context.vars.insert name (r.assigned source) ∧
      ∀ other ≠ name, t.context.vars.get? other = r.context.vars.get? other
  status : t.context.status = r.context.status ∨
    a.kind = .start ∧ t.context.status = .doing ∨
    (a.kind = .set ∧ ∃ source, setParts a.expression = .ok (statusName, source) ∧
      Status.ofText? (r.assigned source) = some t.context.status) ∨
    outcome = false ∧ t.context.status = .failed ∧
      ∃ message, t.context.result = withDiagnostic message r.context.result ∧
        (Rejection r a message ∨ a.kind = .prompt ∨ a.kind = .ask)

variable {r t : Run σ} {a : Activity} {outcome : Bool} {message : String}

theorem Confined.of_result {result : String} (h : t.context = { r.context with result }) :
    Confined r a outcome t := by
  refine ⟨?_, ?_, Or.inl ?_, Or.inl ?_⟩
  · unfold Run.workflow
    rw [h]
  · rw [h]
    exact ⟨rfl, rfl, rfl⟩
  · rw [h]
  · rw [h]

theorem Confined.of_fail (h : t.context = r.context.fail message)
    (cause : Rejection r a message ∨ a.kind = .prompt ∨ a.kind = .ask) :
    Confined r a false t := by
  refine ⟨?_, ?_, Or.inl ?_, Or.inr (Or.inr (Or.inr ⟨rfl, ?_, message, ?_, cause⟩))⟩
  · unfold Run.workflow
    rw [h]
    rfl
  · rw [h]
    exact ⟨rfl, rfl, rfl⟩
  · rw [h]
    rfl
  · rw [h]
    rfl
  · rw [h]
    rfl

/-- A visit that is rejected after some notices. -/
theorem confined_reject (rejection : Rejection r a message) (ns : List Notice) :
    Confined r a ((r.tellAll ns).reject a message).1 ((r.tellAll ns).reject a message).2 :=
  .of_fail rfl (Or.inl rejection)

/-! ## Visit by visit -/

theorem confined_visitStart (kind : a.kind = .start) :
    Confined r a (r.visitStart a).1 (r.visitStart a).2 :=
  ⟨rfl, ⟨rfl, rfl, rfl⟩, Or.inl rfl, Or.inr (Or.inl ⟨kind, rfl⟩)⟩

theorem rejection_of_setParts (kind : a.kind = .set) (h : setParts a.expression = .error message) :
    Rejection r a message := by
  unfold setParts at h
  split at h
  · next hsplit =>
    obtain rfl := Except.error.inj h
    refine .noAssignment kind fun hmem => ?_
    obtain ⟨front, back, hback, hfront⟩ := List.eq_append_cons_of_mem hmem
    rw [hback, splitOnce_append hfront] at hsplit
    cases hsplit
  · next left right hsplit =>
    dsimp only at h
    split at h
    · next hempty =>
      obtain rfl := Except.error.inj h
      exact .noName kind hsplit (trim_eq_nil_iff.mp (by simpa using hempty))
    · cases h

theorem Confined.of_storing {source name : String} (kind : a.kind = .set)
    (parts : setParts a.expression = .ok (name, source)) {w w' : World σ} {c : Context σ}
    (storing : Storing r.context w name (r.assigned source) c w') (hcontext : t.context = c) :
    Confined r a outcome t := by
  refine ⟨?_, ?_, ?_, ?_⟩
  · unfold Run.workflow
    rw [hcontext]
    cases storing <;> rfl
  · rw [hcontext]
    cases storing <;> exact ⟨rfl, rfl, rfl⟩
  · rw [hcontext]
    cases storing with
    | variable_ named =>
      refine Or.inr ⟨kind, name, source, parts, named, rfl, fun other hne => ?_⟩
      exact Table.get?_insert_of_ne r.context.vars _ hne
    | _ => exact Or.inl rfl
  · rw [hcontext]
    cases storing with
    | status named valid =>
      refine Or.inr (Or.inr (Or.inl ⟨kind, source, ?_, valid⟩))
      rw [← name_of_referent_status named]
      exact parts
    | _ => exact Or.inl rfl

theorem confined_visitSet (kind : a.kind = .set) :
    Confined r a (r.visitSet a).1 (r.visitSet a).2 := by
  unfold visitSet
  cases hparts : setParts a.expression with
  | error message => exact confined_reject (rejection_of_setParts kind hparts) []
  | ok parts =>
    obtain ⟨name, source⟩ := parts
    exact .of_storing kind hparts (storing_setValue r.context _ name (r.assigned source)) rfl

theorem confined_visitAssign (kind : a.kind = .assign) :
    Confined r a (r.visitAssign a).1 (r.visitAssign a).2 := by
  unfold visitAssign
  dsimp only
  cases hvalue : r.value? (trimmed a.expression) with
  | none => exact confined_reject (.unsetValue kind hvalue) _
  | some template => exact .of_result rfl

/-- Only a pattern can be faulty. -/
theorem holds_eq_error {c : Comparison} {left right : String} {fault : Pattern.Fault}
    (h : c.holds left right = .error fault) :
    c = .fits ∧ Pattern.ofText right = .error fault := by
  cases c with
  | fits =>
    unfold Comparison.holds at h
    dsimp only at h
    cases hpattern : Pattern.ofText right with
    | error f =>
      rw [hpattern] at h
      exact ⟨rfl, congrArg _ (Except.error.inj h)⟩
    | ok p =>
      rw [hpattern] at h
      cases h
  | _ => cases h

theorem confined_visitCheck (kind : a.kind = .check) :
    Confined r a (r.visitCheck a).1 (r.visitCheck a).2 := by
  unfold visitCheck
  cases hparts : checkParts? a.expression with
  | none =>
    exact confined_reject (.fewWords kind (checkParts?_eq_none_iff.mp hparts)) []
  | some parts =>
    obtain ⟨name, operator, expected⟩ := parts
    dsimp only
    rw [afterValue_afterValue]
    split
    · next left c hleft hoperator =>
      unfold compareValues
      dsimp only
      split
      · exact .of_result rfl
      · next fault hfault =>
        obtain ⟨rfl, hpattern⟩ := holds_eq_error hfault
        rw [tell_tellAll]
        exact confined_reject (.faultyPattern kind hparts hleft hoperator rfl hpattern) _
    · next hmissing =>
      refine confined_reject ?_ _
      cases hleft : r.value? name with
      | none => exact .unsetLeft kind hparts hleft
      | some left =>
        cases hoperator : Comparison.ofWord? operator with
        | none => exact .noOperator kind hparts hoperator
        | some c => exact absurd hoperator (hmissing left c hleft)

theorem confined_visitPrompt (kind : a.kind = .prompt) :
    Confined r a (r.visitPrompt a).1 (r.visitPrompt a).2 := by
  unfold visitPrompt
  dsimp only
  cases hvalue : r.value? (trimmed a.expression) with
  | none => exact confined_reject (.unsetPrompt kind hvalue) _
  | some template =>
    cases hagent : r.context.agent with
    | none => exact confined_reject (.noAgent kind hvalue hagent) _
    | some agent =>
      dsimp only
      unfold giveToAgent
      dsimp only
      split
      · exact .of_result rfl
      · exact .of_fail rfl (Or.inr (Or.inl kind))

theorem confined_visitAsk (kind : a.kind = .ask) :
    Confined r a (r.visitAsk a).1 (r.visitAsk a).2 := by
  unfold visitAsk
  dsimp only
  split
  · exact .of_result rfl
  · exact .of_fail rfl (Or.inr (Or.inr kind))

theorem confined_visitExecute (kind : a.kind = .execute) :
    Confined r a (r.visitExecute a).1 (r.visitExecute a).2 := by
  unfold visitExecute
  cases hexecutor : r.context.executor with
  | none => exact confined_reject (.noExecutor kind hexecutor) []
  | some executor =>
    dsimp only
    split
    · unfold runCommands
      dsimp only
      split <;> exact .of_result rfl
    · unfold runCommands
      dsimp only
      split <;> exact .of_result rfl

theorem confined_visit {ending : Ending σ} {v : Visited σ} (hcall : a.kind ≠ .call)
    (h : visit ending r a = some v) : Confined r a v.1 v.2 := by
  unfold visit at h
  cases hk : a.kind with
  | start => rw [hk] at h; rw [← Option.some.inj h]; exact confined_visitStart hk
  | on => rw [hk] at h; rw [← Option.some.inj h]; exact .of_result rfl
  | set => rw [hk] at h; rw [← Option.some.inj h]; exact confined_visitSet hk
  | assign => rw [hk] at h; rw [← Option.some.inj h]; exact confined_visitAssign hk
  | check => rw [hk] at h; rw [← Option.some.inj h]; exact confined_visitCheck hk
  | prompt => rw [hk] at h; rw [← Option.some.inj h]; exact confined_visitPrompt hk
  | ask => rw [hk] at h; rw [← Option.some.inj h]; exact confined_visitAsk hk
  | execute => rw [hk] at h; rw [← Option.some.inj h]; exact confined_visitExecute hk
  | call => exact absurd hk hcall
  | success => rw [hk] at h; rw [← Option.some.inj h]; exact .of_result rfl
  | failed => rw [hk] at h; rw [← Option.some.inj h]; exact .of_result rfl

/-- A visit that is no call gets to its end and changes no more than its kind allows. If there is
a reason to reject it, it changes nothing but the state and the result: it fails with the
diagnostic in front of the result and adds one record, asks neither the agent nor the executor nor
the operator for anything, and writes nothing but the snapshot. -/
theorem visit_touches_only (ending : Ending σ) (r : Run σ) {a : Activity} (hcall : a.kind ≠ .call) :
    ∃ outcome t, visit ending r a = some (outcome, t) ∧ Confined r a outcome t ∧
      ∀ message, Rejection r a message → Rejected r a message outcome t := by
  obtain ⟨⟨outcome, t⟩, hvisit⟩ := Option.isSome_iff_exists.mp (r.visit_isSome hcall ending)
  refine ⟨outcome, t, hvisit, confined_visit hcall hvisit, fun message rejection => ?_⟩
  have hsame := Option.some.inj ((visit_of_rejection rejection ending).symm.trans hvisit)
  have rejected := r.rejected_reject a message
  rwa [hsame] at rejected

/-- A run with a result and nobody to ask. -/
def idleRun : Run Unit where
  context := { workflow := {}, result := "so far", operator := ⟨fun _ w => (none, w)⟩ }
  history := {}
  world := { rest := () }

/-- An assignment that is none. -/
def strayAssignment : Activity where
  kind := .set
  name := "SET_X"
  expression := "x"

theorem idleRun_rejects : ∃ t, visit some idleRun strayAssignment = some (false, t) ∧
    t.context.status = .failed ∧ t.context.vars = idleRun.context.vars ∧
    t.context.result =
      "SET expression x is not valid!\nSyntax: <variable>=<value>  \nso far" ∧
    t.history.records.length = 1 := by
  obtain ⟨outcome, t, hvisit, -, hrejected⟩ :=
    visit_touches_only some idleRun (a := strayAssignment) (by decide)
  have rejected := hrejected _ (.noAssignment rfl (by decide))
  obtain rfl := rejected.outcome
  have hcontext : t.context = idleRun.context.fail _ := congrArg Run.context rejected.run
  have hhistory := congrArg Run.history rejected.run
  refine ⟨t, hvisit, ?_, ?_, ?_, ?_⟩
  · rw [hcontext]
    rfl
  · rw [hcontext]
    rfl
  · rw [hcontext]
    decide
  · rw [hhistory]
    rfl

end Run

end Playbook
