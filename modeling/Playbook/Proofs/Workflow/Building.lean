/-
  What entries build. Every part of a workflow is a fold over the entries (`addAll_foldl`); entries
  that say nothing but what holds of a given workflow build one that agrees with it as far as it
  goes (`approximates_addAll`).
-/
import Playbook.Proofs.Workflow.WellFormed

namespace Playbook.Workflow

open Playbook.Text Playbook.Document Playbook.Flowchart

variable {w w' : Workflow} {es : List Entry}

theorem addAll_append (w : Workflow) (es fs : List Entry) :
    w.addAll (es ++ fs) = (w.addAll es).bind (·.addAll fs) := by
  induction es generalizing w with
  | nil => rfl
  | cons e es ih =>
    rw [List.cons_append, addAll, addAll]
    split
    · exact ih _
    · rfl

/-! ## Faults -/

/-- Entries without a fault can be added. -/
theorem exists_addAll (h : ∀ f, .fault f ∉ es) (w : Workflow) : ∃ w', w.addAll es = .ok w' := by
  induction es generalizing w with
  | nil => exact ⟨w, rfl⟩
  | cons e es ih =>
    have hrest : ∀ f, .fault f ∉ es := fun f hf => h f (List.mem_cons_of_mem _ hf)
    have hone : ∃ w₁, w.add e = .ok w₁ := by
      cases e with
      | fault f => exact absurd List.mem_cons_self (h f)
      | _ => exact ⟨_, rfl⟩
    obtain ⟨w₁, hw₁⟩ := hone
    rw [addAll, hw₁]
    exact ih hrest w₁

theorem no_fault_of_addAll (h : w.addAll es = .ok w') : ∀ f, .fault f ∉ es := by
  induction es generalizing w with
  | nil => exact fun _ hf => absurd hf List.not_mem_nil
  | cons e es ih =>
    obtain ⟨w₁, hone, h⟩ := addAll_cons h
    intro f hf
    rcases List.mem_cons.mp hf with rfl | hf
    · cases hone
    · exact ih h f hf

/-! ## Parts as folds -/

/-- A part of the workflow that changes with every entry as `step` says. -/
theorem addAll_foldl {β : Type} {g : Workflow → β} {step : β → Entry → β}
    (hstep : ∀ {w w' : Workflow} {e : Entry}, w.add e = .ok w' → g w' = step (g w) e)
    (h : w.addAll es = .ok w') : g w' = es.foldl step (g w) := by
  induction es generalizing w with
  | nil =>
    cases h
    rfl
  | cons e es ih =>
    obtain ⟨w₁, hone, h⟩ := addAll_cons h
    rw [ih h, hstep hone, List.foldl_cons]

theorem foldl_eq_self {β : Type} {step : β → Entry → β} (h : ∀ e ∈ es, ∀ b, step b e = b) (b : β) :
    es.foldl step b = b := by
  induction es with
  | nil => rfl
  | cons e es ih =>
    rw [List.foldl_cons, h e List.mem_cons_self]
    exact ih fun x hx => h x (List.mem_cons_of_mem _ hx)

/-- A table after an entry that may hold a pair for it. -/
def insertStep {β : Type} (pair? : Entry → Option (String × β)) (t : Table β) (e : Entry) :
    Table β :=
  match pair? e with
  | some (key, value) => t.insert key value
  | none => t

theorem insertStep_of_none {β : Type} {pair? : Entry → Option (String × β)} {e : Entry}
    (h : pair? e = none) (t : Table β) : insertStep pair? t e = t := by
  rw [insertStep, h]

/-- Entries insert the pairs that they hold. -/
theorem foldl_insertStep {β : Type} (pair? : Entry → Option (String × β)) (es : List Entry)
    (t : Table β) : es.foldl (insertStep pair?) t = t.insertAll (es.filterMap pair?) := by
  induction es generalizing t with
  | nil => rfl
  | cons e es ih =>
    rw [List.foldl_cons, ih, insertStep]
    cases hpair : pair? e with
    | none => rw [List.filterMap_cons_none hpair]
    | some p =>
      rw [List.filterMap_cons_some hpair]
      rfl

theorem foldl_insertStep_map {β : Type} {pair? : Entry → Option (String × β)}
    {entry : String × β → Entry} (h : ∀ p, pair? (entry p) = some p) (ps : List (String × β))
    (t : Table β) : (ps.map entry).foldl (insertStep pair?) t = t.insertAll ps := by
  have hpairs : pair? ∘ entry = some := funext h
  rw [foldl_insertStep, List.filterMap_map, hpairs, List.filterMap_some]

/-- What stands in the table was there before or comes from an entry. -/
theorem of_get?_foldl_insertStep {β : Type} {pair? : Entry → Option (String × β)} {t : Table β}
    {key : String} {v : β} (h : (es.foldl (insertStep pair?) t).get? key = some v) :
    t.get? key = some v ∨ ∃ e ∈ es, pair? e = some (key, v) := by
  induction es generalizing t with
  | nil => exact Or.inl h
  | cons e es ih =>
    rcases ih h with hold | ⟨d, hd, hpair⟩
    · cases hpair : pair? e with
      | none => exact Or.inl (by rwa [insertStep_of_none hpair] at hold)
      | some p =>
        obtain ⟨k, u⟩ := p
        rw [insertStep, hpair] at hold
        by_cases hkey : key = k
        · subst hkey
          rw [Table.get?_insert_self, Option.some.injEq] at hold
          exact Or.inr ⟨e, List.mem_cons_self, by rw [hpair, hold]⟩
        · rw [Table.get?_insert_of_ne _ _ hkey] at hold
          exact Or.inl hold
    · exact Or.inr ⟨d, List.mem_cons_of_mem _ hd, hpair⟩

/-- The parameter of an entry. -/
def paramOf : Entry → Option (String × String)
  | .param key value => some (key, value)
  | _ => none

/-- The prompt of an entry. -/
def promptOf : Entry → Option (String × Prompt)
  | .prompt key role content => some (key, ⟨role, content⟩)
  | _ => none

theorem eq_of_paramOf {e : Entry} {key value : String} (h : paramOf e = some (key, value)) :
    e = .param key value := by
  cases e <;> cases h
  rfl

theorem eq_of_promptOf {e : Entry} {key : String} {p : Prompt} (h : promptOf e = some (key, p)) :
    e = .prompt key p.role p.content := by
  cases e <;> cases h
  rfl

/-- The name of the workflow after an entry. -/
def nameStep (name : String) : Entry → String
  | .name heading => heading
  | _ => name

/-- The description after an entry. -/
def describeStep (description : String) : Entry → String
  | .describe line => addLine description line
  | _ => description

theorem declare_frame (w : Workflow) (k : Kind) (name e : String) :
    (w.declare k name e).params = w.params ∧ (w.declare k name e).prompts = w.prompts ∧
      (w.declare k name e).description = w.description ∧ (w.declare k name e).name = w.name := by
  unfold declare
  split <;> exact ⟨rfl, rfl, rfl, rfl⟩

/-- What an entry adds outside of the activities. -/
theorem frame_of_add {e : Entry} (h : w.add e = .ok w') :
    w'.params = insertStep paramOf w.params e ∧ w'.prompts = insertStep promptOf w.prompts e ∧
      w'.description = describeStep w.description e ∧ w'.name = nameStep w.name e := by
  cases e with
  | declare k name expression =>
    cases h
    exact declare_frame w k name expression
  | fault f => cases h
  | _ =>
    cases h
    exact ⟨rfl, rfl, rfl, rfl⟩

theorem params_addAll (h : w.addAll es = .ok w') :
    w'.params = es.foldl (insertStep paramOf) w.params :=
  addAll_foldl (fun hadd => (frame_of_add hadd).1) h

theorem prompts_addAll (h : w.addAll es = .ok w') :
    w'.prompts = es.foldl (insertStep promptOf) w.prompts :=
  addAll_foldl (fun hadd => (frame_of_add hadd).2.1) h

/-- A parameter of a workflow that is built from nothing comes from an entry. -/
theorem param_mem_of_addAll {filepath directory : String}
    (h : addAll { filepath, directory } es = .ok w') {key value : String}
    (hget : w'.params.get? key = some value) : .param key value ∈ es := by
  rw [params_addAll h] at hget
  rcases of_get?_foldl_insertStep hget with hnone | ⟨e, he, hpair⟩
  · cases hnone
  · rwa [eq_of_paramOf hpair] at he

theorem prompt_mem_of_addAll {filepath directory : String}
    (h : addAll { filepath, directory } es = .ok w') {key : String} {p : Prompt}
    (hget : w'.prompts.get? key = some p) : .prompt key p.role p.content ∈ es := by
  rw [prompts_addAll h] at hget
  rcases of_get?_foldl_insertStep hget with hnone | ⟨e, he, hpair⟩
  · cases hnone
  · rwa [eq_of_promptOf hpair] at he

theorem description_addAll (h : w.addAll es = .ok w') :
    w'.description = es.foldl describeStep w.description :=
  addAll_foldl (fun hadd => (frame_of_add hadd).2.2.1) h

theorem name_addAll (h : w.addAll es = .ok w') : w'.name = es.foldl nameStep w.name :=
  addAll_foldl (fun hadd => (frame_of_add hadd).2.2.2) h

/-- Lines that are described one by one make up the description. -/
theorem foldl_describe {ls : List String} (h : ∀ l ∈ ls, LineFits l) (pre : List String)
    (hpre : ∀ l ∈ pre, LineFits l) :
    (ls.map Entry.describe).foldl describeStep (joinStrings "\n" pre) =
      joinStrings "\n" (pre ++ ls) := by
  induction ls generalizing pre with
  | nil => rw [List.append_nil, List.map_nil, List.foldl_nil]
  | cons l ls ih =>
    have hmore : ∀ x ∈ pre ++ [l], LineFits x := by
      intro x hx
      rcases List.mem_append.mp hx with hx | hx
      · exact hpre x hx
      · exact List.mem_singleton.mp hx ▸ h l List.mem_cons_self
    rw [List.map_cons, List.foldl_cons, describeStep, addLine_joinStrings hpre,
      ih (fun x hx => h x (List.mem_cons_of_mem _ hx)) _ hmore, List.append_assoc]
    rfl

/-! ## Names of activities -/

/-- The names met so far, the last one first, after one more name. -/
def note (met : List String) (name : String) : List String :=
  if name ∈ met then met else name :: met

/-- The names met so far after an entry. -/
def noteStep (met : List String) : Entry → List String
  | .declare _ name _ => note met name
  | _ => met

theorem keys_declare (w : Workflow) (k : Kind) (name e : String) :
    (w.declare k name e).activities.keys.reverse = note w.activities.keys.reverse name := by
  unfold declare note
  by_cases h : w.activities.contains name
  · rw [if_pos h, if_pos (List.mem_reverse.mpr (Table.mem_keys_iff.mpr h)), Table.keys_alter]
  · have hkey : name ∉ w.activities.keys := fun hc => h (Table.mem_keys_iff.mp hc)
    rw [if_neg h, if_neg (fun hc => hkey (List.mem_reverse.mp hc)),
      Table.keys_insert_of_not_mem _ hkey, List.reverse_append, List.reverse_singleton,
      List.singleton_append]

/-- The activities of a workflow stand in the order in which they are first declared. -/
theorem keys_addAll (h : w.addAll es = .ok w') :
    w'.activities.keys.reverse = es.foldl noteStep w.activities.keys.reverse := by
  refine addAll_foldl (g := fun w => w.activities.keys.reverse) (fun {w w' e} hadd => ?_) h
  cases e with
  | declare k name expression =>
    cases hadd
    exact keys_declare w k name expression
  | connect source target branch =>
    cases hadd
    exact congrArg List.reverse (Table.keys_alter ..)
  | fault f => cases hadd
  | _ =>
    cases hadd
    rfl

/-! ## Where an expression comes from -/

/-- Behind an entry an expression is one from before, or the entry declares it. -/
theorem of_expression_add {e : Entry} (h : w.add e = .ok w') {key : String} {a : Activity}
    (ha : w'.activity? key = some a) :
    (∃ b, w.activity? key = some b ∧ b.expression = a.expression) ∨
      ∃ k, e = .declare k key a.expression := by
  cases e with
  | declare k name expression =>
    cases h
    rcases activity_declare_cases ha with ha | ⟨rfl, ⟨b, hb, rfl⟩ | ⟨_, rfl⟩⟩
    · exact Or.inl ⟨a, ha, rfl⟩
    · rw [redeclare_expression]
      split
      · exact Or.inl ⟨b, hb, rfl⟩
      · exact Or.inr ⟨k, rfl⟩
    · exact Or.inr ⟨k, rfl⟩
  | connect source target branch =>
    cases h
    rcases activity_connect_cases ha with ha | ⟨rfl, b, hb, rfl⟩
    · exact Or.inl ⟨a, ha, rfl⟩
    · exact Or.inl ⟨b, hb, (connect_expression ..).symm⟩
  | fault f => cases h
  | _ =>
    cases h
    exact Or.inl ⟨a, ha, rfl⟩

/-- An expression comes from a declaration. -/
theorem of_expression_addAll (h : w.addAll es = .ok w') {key : String} {a : Activity}
    (ha : w'.activity? key = some a) :
    (∃ b, w.activity? key = some b ∧ b.expression = a.expression) ∨
      ∃ k, .declare k key a.expression ∈ es := by
  induction es generalizing w with
  | nil =>
    cases h
    exact Or.inl ⟨a, ha, rfl⟩
  | cons e es ih =>
    obtain ⟨w₁, hone, h⟩ := addAll_cons h
    rcases ih h with ⟨b, hb, hsame⟩ | ⟨k, hk⟩
    · rw [← hsame]
      rcases of_expression_add hone hb with hold | ⟨k, rfl⟩
      · exact Or.inl hold
      · exact Or.inr ⟨k, List.mem_cons_self⟩
    · exact Or.inr ⟨k, List.mem_cons_of_mem _ hk⟩

/-! ## Entries that are faithful to a workflow -/

variable {v v' : Workflow}

/-- An entry that says nothing of activities but what holds of `w`. -/
def Faithful (w : Workflow) : Entry → Prop
  | .declare k name e => ∃ a, w.activity? name = some a ∧ k = a.kind ∧ (e = "" ∨ e = a.expression)
  | .connect s t b => ∃ a, w.activity? s = some a ∧ a.target b = some t
  | _ => True

/-- An activity of which `a` tells the rest. -/
structure Within (a' a : Activity) : Prop where
  kind : a'.kind = a.kind
  name : a'.name = a.name
  expression : a'.expression = "" ∨ a'.expression = a.expression
  target : ∀ b, a'.target b = none ∨ a'.target b = a.target b

/-- Every activity of `v` is within one of `w`. -/
def Approximates (v w : Workflow) : Prop :=
  ∀ key a', v.activity? key = some a' → ∃ a, w.activity? key = some a ∧ Within a' a

theorem Within.redeclare {a' a : Activity} (h : Within a' a) {e : String}
    (he : e = "" ∨ e = a.expression) : Within (redeclare e a') a where
  kind := (redeclare_kind e a').trans h.kind
  name := (redeclare_name e a').trans h.name
  expression := by
    rw [redeclare_expression]
    split
    · exact h.expression
    · exact he
  target := fun b => by
    rw [redeclare_target]
    exact h.target b

theorem Within.connect {a' a : Activity} (h : Within a' a) {t : String} {b : Branch}
    (ht : a.target b = some t) : Within (a'.connect t b) a where
  kind := (connect_kind a' t b).trans h.kind
  name := (connect_name a' t b).trans h.name
  expression := by
    rw [connect_expression]
    exact h.expression
  target := fun c => by
    rw [connect_target]
    split
    · next hc =>
      subst hc
      exact Or.inr ht.symm
    · exact h.target c

theorem approximates_add (hw : Assembled w) (h : Approximates v w) {e : Entry} (he : Faithful w e)
    (hadd : v.add e = .ok v') : Approximates v' w := by
  cases e with
  | declare k name expression =>
    cases hadd
    obtain ⟨a, ha, hk, hexpression⟩ := he
    intro key a' ha'
    rcases activity_declare_cases ha' with ha' | ⟨rfl, ⟨c, hc, rfl⟩ | ⟨_, rfl⟩⟩
    · exact h key a' ha'
    · obtain ⟨d, hd, hwithin⟩ := h key c hc
      obtain rfl := Option.some.inj (ha.symm.trans hd)
      exact ⟨a, ha, hwithin.redeclare hexpression⟩
    · exact ⟨a, ha, hk, (hw.named key a ha).1.symm, hexpression,
        fun b => by cases b <;> exact .inl rfl⟩
  | connect source target branch =>
    cases hadd
    obtain ⟨a, ha, htarget⟩ := he
    intro key a' ha'
    rcases activity_connect_cases ha' with ha' | ⟨rfl, c, hc, rfl⟩
    · exact h key a' ha'
    · obtain ⟨d, hd, hwithin⟩ := h key c hc
      obtain rfl := Option.some.inj (ha.symm.trans hd)
      exact ⟨a, ha, hwithin.connect htarget⟩
  | fault f => cases hadd
  | _ =>
    cases hadd
    exact h

/-- Faithful entries build what agrees with the workflow as far as it goes. -/
theorem approximates_addAll (hw : Assembled w) (h : Approximates v w)
    (hes : ∀ e ∈ es, Faithful w e) (hadd : v.addAll es = .ok v') : Approximates v' w :=
  addAll_keeps (P := (Approximates · w))
    (fun e he _ _ hone happrox => approximates_add hw happrox (hes e he) hone) hadd h

/-! ## Entries that tell all of a workflow -/

/-- A property that faithful entries do not take from an activity of which `a` tells the rest. -/
structure Steady (a : Activity) (q : Activity → Prop) : Prop where
  redeclare : ∀ a' e, (e = "" ∨ e = a.expression) → q a' → q (redeclare e a')
  connect : ∀ a' t b, a.target b = some t → q a' → q (a'.connect t b)

theorem steady_expression (a : Activity) : Steady a fun a' => a'.expression = a.expression where
  redeclare := fun a' e he h => by
    rw [redeclare_expression]
    split
    · exact h
    · next hne => exact he.resolve_left hne
  connect := fun a' t b _ h => (connect_expression a' t b).trans h

theorem steady_target (a : Activity) (b : Branch) :
    Steady a fun a' => a'.target b = a.target b where
  redeclare := fun a' e _ h => (redeclare_target e a' b).trans h
  connect := fun a' t c ht h => by
    rw [connect_target]
    split
    · next hb => rw [hb, ht]
    · exact h

/-- The activity of that name is there and has the property. -/
def Known (v : Workflow) (key : String) (q : Activity → Prop) : Prop :=
  ∃ a', v.activity? key = some a' ∧ q a'

section

variable {key : String} {a : Activity} {q : Activity → Prop} (ha : w.activity? key = some a)

include ha

theorem known_add (hq : Steady a q) {e : Entry} (he : Faithful w e) (hadd : v.add e = .ok v')
    (h : Known v key q) : Known v' key q := by
  obtain ⟨a', ha', hprop⟩ := h
  cases e with
  | declare k name expression =>
    cases hadd
    obtain ⟨d, hd, _, hexpression⟩ := he
    rw [Known, activity?_declare]
    split
    · next hkey =>
      subst hkey
      obtain rfl := Option.some.inj (ha.symm.trans hd)
      rw [ha', Option.map_some, Option.getD_some]
      exact ⟨_, rfl, hq.redeclare a' expression hexpression hprop⟩
    · exact ⟨a', ha', hprop⟩
  | connect source target branch =>
    cases hadd
    obtain ⟨d, hd, htarget⟩ := he
    rw [Known, activity?_connect]
    split
    · next hkey =>
      subst hkey
      obtain rfl := Option.some.inj (ha.symm.trans hd)
      rw [ha', Option.map_some]
      exact ⟨_, rfl, hq.connect a' target branch htarget hprop⟩
    · exact ⟨a', ha', hprop⟩
  | fault f => cases hadd
  | _ =>
    cases hadd
    exact ⟨a', ha', hprop⟩

theorem known_addAll (hq : Steady a q) (hes : ∀ e ∈ es, Faithful w e) (hadd : v.addAll es = .ok v')
    (h : Known v key q) : Known v' key q :=
  addAll_keeps (P := (Known · key q))
    (fun e he _ _ hone hknown => known_add ha hq (hes e he) hone hknown) hadd h

/-- A declaration with the expression makes it known. -/
theorem known_expression (hw : Assembled w) (hv : Approximates v w) (hes : ∀ e ∈ es, Faithful w e)
    (hadd : v.addAll es = .ok v') {k : Kind} (hmem : .declare k key a.expression ∈ es) :
    Known v' key fun a' => a'.expression = a.expression := by
  induction es generalizing v with
  | nil => exact absurd hmem List.not_mem_nil
  | cons e es ih =>
    obtain ⟨v₁, hone, hadd⟩ := addAll_cons hadd
    have hrest : ∀ x ∈ es, Faithful w x := fun x hx => hes x (List.mem_cons_of_mem _ hx)
    rcases List.mem_cons.mp hmem with rfl | hmem
    · refine known_addAll ha (steady_expression a) hrest hadd ?_
      cases hone
      rw [Known, activity?_declare, if_pos rfl]
      refine ⟨_, rfl, ?_⟩
      cases hold : v.activity? key with
      | none => rfl
      | some c =>
        obtain ⟨d, hd, hwithin⟩ := hv key c hold
        obtain rfl := Option.some.inj (ha.symm.trans hd)
        rw [Option.map_some, Option.getD_some, redeclare_expression]
        split
        · next hempty =>
          rw [hempty]
          exact hwithin.expression.elim id fun h => h.trans hempty
        · rfl
    · exact ih (approximates_add hw hv (hes e List.mem_cons_self) hone) hrest hadd hmem

/-- An edge makes its target known, if its source is declared before. -/
theorem known_target {known : List String} (hground : Grounded known es)
    (hknown : ∀ x ∈ known, v.activities.contains x) (hes : ∀ e ∈ es, Faithful w e)
    (hadd : v.addAll es = .ok v') {t : String} {b : Branch} (ht : a.target b = some t)
    (hmem : .connect key t b ∈ es) : Known v' key fun a' => a'.target b = a.target b := by
  induction es generalizing v known with
  | nil => exact absurd hmem List.not_mem_nil
  | cons e es ih =>
    obtain ⟨v₁, hone, hadd⟩ := addAll_cons hadd
    obtain ⟨hends, known', hground', hknown'⟩ := grounded_behind hground hknown hone
    have hrest : ∀ x ∈ es, Faithful w x := fun x hx => hes x (List.mem_cons_of_mem _ hx)
    rcases List.mem_cons.mp hmem with rfl | hlater
    · refine known_addAll ha (steady_target a b) hrest hadd ?_
      obtain ⟨c, hc⟩ := Option.isSome_iff_exists.mp (hends key t b rfl).1
      have hfound : v.activity? key = some c := hc
      cases hone
      rw [Known, activity?_connect, if_pos rfl, hfound]
      exact ⟨_, rfl, by rw [connect_target, if_pos rfl, ht]⟩
    · exact ih hground' hknown' hrest hadd hlater

end

theorem eq_of_parts {a b : Activity} (hkind : a.kind = b.kind) (hname : a.name = b.name)
    (hexpression : a.expression = b.expression) (htarget : ∀ c, a.target c = b.target c) :
    a = b := by
  have hnext : a.next = b.next := htarget .next
  have hother : a.other = b.other := htarget .other
  cases a
  cases b
  simp_all

/-- Entries that declare every activity of a workflow with its expression and edges, and say
nothing else, build its activities. -/
theorem activity?_addAll (hw : Assembled w) (hes : ∀ e ∈ es, Faithful w e)
    (hground : Grounded [] es)
    (hall : ∀ key a, w.activity? key = some a → (∃ k, .declare k key a.expression ∈ es) ∧
      ∀ b t, a.target b = some t → .connect key t b ∈ es)
    (hv : v.activities = .empty) (hadd : v.addAll es = .ok v') (key : String) :
    v'.activity? key = w.activity? key := by
  have hnone : ∀ x, v.activity? x = none := fun x => by
    rw [activity?, hv]
    rfl
  have happ : Approximates v w := fun x a' hx => by
    rw [hnone] at hx
    cases hx
  have hfinal := approximates_addAll hw happ hes hadd
  cases ha : w.activity? key with
  | none =>
    cases ha' : v'.activity? key with
    | none => rfl
    | some a' =>
      obtain ⟨a, hsome, _⟩ := hfinal key a' ha'
      rw [ha] at hsome
      cases hsome
  | some a =>
    obtain ⟨⟨k, hdeclare⟩, hedges⟩ := hall key a ha
    obtain ⟨a', ha', hexpression⟩ := known_expression ha hw happ hes hadd hdeclare
    obtain ⟨c, hc, hwithin⟩ := hfinal key a' ha'
    obtain rfl := Option.some.inj (ha.symm.trans hc)
    have htarget : ∀ b, a'.target b = a.target b := by
      intro b
      cases ht : a.target b with
      | none => exact (hwithin.target b).elim id fun h => h.trans ht
      | some t =>
        obtain ⟨c, hc, hsame⟩ := known_target ha hground (by simp) hes hadd ht (hedges b t ht)
        obtain rfl := Option.some.inj (ha'.symm.trans hc)
        rw [hsame, ht]
    rw [ha']
    exact congrArg some (eq_of_parts hwithin.kind hwithin.name hexpression htarget)

end Playbook.Workflow
