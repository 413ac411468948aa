/-
  The graph of a document as what is said last. Reading goes from line to line and changes the
  workflow in place; what comes out depends only on the declarations, edges and parameters that the
  lines hold, each part on those about it (`read_last_wins`). A declaration ahead of its shape, a
  second one and an edge drawn anew disturb nothing else.
-/
import Playbook.Proofs.Workflow.GraphLines

namespace Playbook.Document

/-! ## Last values -/

/-- The last nonempty expression with which an activity is declared, or the empty one. -/
def lastExpression (name : String) (ds : List Declaration) : String :=
  (ds.filterMap fun d =>
    if d.name = name ∧ d.expression ≠ "" then some d.expression else none).getLast?.getD ""

/-- The target of the last edge on a branch of an activity. -/
def lastTarget (name : String) (branch : Branch) (cs : List Edge) : Option String :=
  (cs.filterMap fun c =>
    if c.source = name ∧ c.branch = branch then some c.target else none).getLast?

/-- The value of the last pair with a key. -/
def lastValue (key : String) (ps : List (String × String)) : Option String :=
  (ps.filterMap fun p => if p.1 = key then some p.2 else none).getLast?

end Playbook.Document

namespace Playbook.Workflow

open Playbook.Text Playbook.Document Playbook.Flowchart

/-! ## Folds -/

/-- A value that some elements replace is that of the last of them. -/
theorem foldl_or {α β : Type} (pick : α → Option β) (xs : List α) (o : Option β) :
    xs.foldl (fun o x => (pick x).or o) o = (xs.filterMap pick).getLast?.or o := by
  induction xs generalizing o with
  | nil => rfl
  | cons x xs ih =>
    rw [List.foldl_cons, ih]
    cases hpick : pick x with
    | none => rw [List.filterMap_cons_none hpick, Option.none_or]
    | some y =>
      rw [List.filterMap_cons_some hpick, List.getLast?_cons]
      cases (xs.filterMap pick).getLast? <;> rfl

/-- Names noted one after the other stand in the order in which they come first. -/
theorem reverse_foldl_note (names met : List String) : (names.foldl note met).reverse =
    met.reverse ++ (names.filter fun name => !met.contains name).eraseDups := by
  induction names generalizing met with
  | nil => simp
  | cons name names ih =>
    rw [List.foldl_cons, ih]
    by_cases h : name ∈ met
    · rw [note, if_pos h, List.filter_cons_of_neg (by simpa using h)]
    · have hrest : (names.filter fun x => !met.contains x).filter (fun x => !x == name) =
          names.filter fun x => !(name :: met).contains x := by
        rw [List.filter_filter]
        refine List.filter_congr fun x _ => ?_
        by_cases hx : x = name <;> simp [hx]
      rw [note, if_neg h, List.filter_cons_of_pos (by simpa using h), List.eraseDups_cons, hrest,
        List.reverse_cons, List.append_assoc]
      rfl

theorem eraseDups_eq_note (names : List String) :
    names.eraseDups = (names.foldl note []).reverse := by
  have hall : (names.filter fun name => !([] : List String).contains name) = names :=
    List.filter_eq_self.mpr fun _ _ => rfl
  rw [reverse_foldl_note, hall]
  rfl

/-! ### Tables -/

theorem keys_insert {β : Type} (t : Table β) (key : String) (value : β) :
    (t.insert key value).keys.reverse = note t.keys.reverse key := by
  by_cases h : key ∈ t.keys
  · rw [Table.keys_insert_of_mem value h, note, if_pos (List.mem_reverse.mpr h)]
  · rw [Table.keys_insert_of_not_mem value h, note, if_neg fun hc => h (List.mem_reverse.mp hc),
      List.reverse_append]
    rfl

/-- The keys of pairs inserted one by one stand in the order in which they come first. -/
theorem keys_insertAll {β : Type} (t : Table β) (ps : List (String × β)) :
    (t.insertAll ps).keys.reverse = (ps.map Prod.fst).foldl note t.keys.reverse := by
  induction ps generalizing t with
  | nil => rfl
  | cons p ps ih =>
    rw [List.map_cons, List.foldl_cons, ← keys_insert t p.1 p.2]
    exact ih (t.insert p.1 p.2)

/-- Of pairs inserted one by one the last one with a key counts. -/
theorem get?_insertAll {β : Type} (t : Table β) (ps : List (String × β)) (key : String) :
    (t.insertAll ps).get? key =
      (ps.filterMap fun p => if p.1 = key then some p.2 else none).getLast?.or (t.get? key) := by
  have hfold := foldl_or (fun p : String × β => if p.1 = key then some p.2 else none) ps
    (t.get? key)
  rw [← hfold]
  clear hfold
  induction ps generalizing t with
  | nil => rfl
  | cons p ps ih =>
    have hone : (t.insert p.1 p.2).get? key =
        (if p.1 = key then some p.2 else none).or (t.get? key) := by
      by_cases h : p.1 = key
      · rw [if_pos h, ← h, Table.get?_insert_self, Option.some_or]
      · rw [if_neg h, Table.get?_insert_of_ne _ _ (Ne.symm h), Option.none_or]
    rw [List.foldl_cons, ← hone]
    exact ih (t.insert p.1 p.2)

/-! ### Entries -/

variable {w w' : Workflow} {es : List Entry}

/-- A part of the workflow that changes with every entry as `step` says, where edges join
activities that there are. -/
theorem addAll_foldl_grounded {β : Type} {g : Workflow → β} {step : β → Entry → β}
    {known : List String}
    (hstep : ∀ {w w' : Workflow} {e : Entry},
      (∀ s t b, e = .connect s t b → w.activities.contains s) → w.add e = .ok w' →
        g w' = step (g w) e)
    (hground : Grounded known es) (hknown : ∀ x ∈ known, w.activities.contains x)
    (h : w.addAll es = .ok w') : g w' = es.foldl step (g w) := by
  induction es generalizing w known with
  | nil =>
    cases h
    rfl
  | cons e es ih =>
    obtain ⟨w₁, hone, h⟩ := addAll_cons h
    obtain ⟨hends, known', hground', hknown'⟩ := grounded_behind hground hknown hone
    have hfirst : g w₁ = step (g w) e := hstep (fun s t b he => (hends s t b he).1) hone
    rw [List.foldl_cons, ← hfirst]
    exact ih hground' hknown' h

/-! ## Parts of the graph -/

/-- The expression of an activity, unless it is empty. -/
def expression? (w : Workflow) (name : String) : Option String :=
  ((w.activity? name).map (·.expression)).filter (· ≠ "")

/-- The target of an activity's branch. -/
def target? (w : Workflow) (name : String) (branch : Branch) : Option String :=
  (w.activity? name).bind (·.target branch)

theorem expression?_declare (w : Workflow) (k : Kind) (name e x : String) :
    (w.declare k name e).expression? x =
      if name = x ∧ e ≠ "" then some e else w.expression? x := by
  unfold expression?
  rw [activity?_declare]
  by_cases hname : x = name
  · subst hname
    rw [if_pos rfl]
    cases hold : w.activity? x with
    | none => by_cases he : e = "" <;> simp [he]
    | some a => by_cases he : e = "" <;> simp [redeclare_expression, he]
  · rw [if_neg hname, if_neg fun h => hname h.1.symm]

theorem target?_declare (w : Workflow) (k : Kind) (name e x : String) (b : Branch) :
    (w.declare k name e).target? x b = w.target? x b := by
  unfold target?
  rw [activity?_declare]
  by_cases hname : x = name
  · subst hname
    rw [if_pos rfl]
    cases hold : w.activity? x with
    | none => cases b <;> rfl
    | some a => simp
  · rw [if_neg hname]

theorem expression?_connect (w : Workflow) (s t x : String) (b : Branch) :
    (w.connect s t b).expression? x = w.expression? x := by
  unfold expression?
  rw [activity?_connect]
  split <;> simp [Function.comp_def]

theorem target?_connect {w : Workflow} {s : String} (hs : w.activities.contains s) (t x : String)
    (b c : Branch) : (w.connect s t b).target? x c =
      if s = x ∧ b = c then some t else w.target? x c := by
  unfold target?
  rw [activity?_connect]
  by_cases hname : x = s
  · subst hname
    obtain ⟨a, ha⟩ := Option.isSome_iff_exists.mp hs
    have hget : w.activity? x = some a := ha
    rw [if_pos rfl, hget, Option.map_some, Option.bind_some, Option.bind_some, connect_target]
    by_cases hbranch : c = b
    · rw [if_pos hbranch, if_pos ⟨rfl, hbranch.symm⟩]
    · rw [if_neg hbranch, if_neg fun h => hbranch h.2.symm]
  · rw [if_neg hname, if_neg fun h => hname h.1.symm]

/-! ## Building -/

/-- What entries with these declarations, edges and parameters build from nothing. -/
structure BuiltFrom (w : Workflow) (ds : List Declaration) (cs : List Edge)
    (ps : List (String × String)) : Prop where
  expressions : ∀ name a, w.activity? name = some a → a.expression = lastExpression name ds
  targets : ∀ name a, w.activity? name = some a →
    ∀ branch, a.target branch = lastTarget name branch cs
  params : ∀ key, w.params.get? key = lastValue key ps
  activityOrder : w.activities.keys = (ds.map (·.name)).eraseDups
  paramOrder : w.params.keys = (ps.map (·.1)).eraseDups

section

variable (h : w.addAll es = .ok w') (name : String)

include h

/-- An expression that is not empty is that of the last declaration with one. -/
theorem expression?_addAll : w'.expression? name =
    ((es.filterMap declarationOf).filterMap fun d =>
      if d.name = name ∧ d.expression ≠ "" then some d.expression else none).getLast?.or
        (w.expression? name) := by
  rw [List.filterMap_filterMap, ← foldl_or]
  refine addAll_foldl (g := fun w => w.expression? name) (fun {w w' e} hadd => ?_) h
  cases e with
  | declare k x expression =>
    cases hadd
    rw [expression?_declare]
    by_cases hpick : x = name ∧ expression ≠ ""
    · simp [declarationOf, hpick]
    · rw [if_neg hpick]
      simp only [declarationOf, Option.bind_some, if_neg hpick, Option.none_or]
  | connect source target branch =>
    cases hadd
    exact expression?_connect ..
  | fault f => cases hadd
  | _ =>
    cases hadd
    rfl

/-- The target of a branch is that of the last edge, if every edge leaves an activity. -/
theorem target?_addAll {known : List String} (hground : Grounded known es)
    (hknown : ∀ x ∈ known, w.activities.contains x) (branch : Branch) :
    w'.target? name branch = ((es.filterMap edgeOf).filterMap fun c =>
      if c.source = name ∧ c.branch = branch then some c.target else none).getLast?.or
        (w.target? name branch) := by
  rw [List.filterMap_filterMap, ← foldl_or]
  refine addAll_foldl_grounded (g := fun w => w.target? name branch) (fun {w w' e} hsource hadd => ?_)
    hground hknown h
  cases e with
  | declare k x expression =>
    cases hadd
    exact target?_declare ..
  | connect source target b =>
    cases hadd
    rw [target?_connect (hsource source target b rfl)]
    by_cases hpick : source = name ∧ b = branch
    · simp [edgeOf, hpick]
    · rw [if_neg hpick]
      simp only [edgeOf, Option.bind_some, if_neg hpick, Option.none_or]
  | fault f => cases hadd
  | _ =>
    cases hadd
    rfl

end

theorem foldl_noteStep (es : List Entry) (met : List String) :
    es.foldl noteStep met = ((es.filterMap declarationOf).map (·.name)).foldl note met := by
  induction es generalizing met with
  | nil => rfl
  | cons e es ih =>
    rw [List.foldl_cons, ih]
    cases e <;> rfl

theorem builtFrom_addAll {filepath directory : String} (hground : Grounded [] es)
    {ds : List Declaration} {cs : List Document.Edge} {ps : List (String × String)}
    (hsaid : Say es ds cs ps) (h : addAll { filepath, directory } es = .ok w) :
    BuiltFrom w ds cs ps where
  expressions := by
    intro name a ha
    have hlast := expression?_addAll h name
    rw [hsaid.declarations] at hlast
    have hnone : expression? { filepath, directory } name = none := rfl
    rw [hnone, Option.or_none, expression?, ha] at hlast
    rw [lastExpression, ← hlast]
    by_cases hempty : a.expression = "" <;> simp [hempty, Option.filter]
  targets := by
    intro name a ha branch
    have hlast := target?_addAll h name hground (by simp) branch
    have hnone : target? { filepath, directory } name branch = none := rfl
    rwa [hsaid.edges, hnone, Option.or_none, target?, ha] at hlast
  params := by
    intro key
    rw [params_addAll h, foldl_insertStep, get?_insertAll, hsaid.params]
    exact Option.or_none
  activityOrder := by
    have hkeys := keys_addAll h
    rw [foldl_noteStep, hsaid.declarations] at hkeys
    rw [eraseDups_eq_note, ← List.reverse_reverse w.activities.keys, hkeys]
    rfl
  paramOrder := by
    have hkeys := keys_insertAll (.empty : Table String) (es.filterMap paramOf)
    rw [← foldl_insertStep, hsaid.params] at hkeys
    rw [eraseDups_eq_note, ← List.reverse_reverse w.params.keys, params_addAll h]
    exact congrArg List.reverse hkeys

/-! ## Reading -/

/-- What is read from a document is what its lines say last: which activities there are and what
they carry, where their branches lead, and the parameters; each in the order in which it is first
said. -/
theorem read_last_wins {filepath directory text : String}
    (h : readAt filepath directory text = .ok w) :
    (∀ name, w.activities.contains name ↔ ∃ d ∈ declarations text, d.name = name) ∧
    (∀ name a, w.activity? name = some a →
      a.expression = lastExpression name (declarations text) ∧
      ∀ branch, a.target branch = lastTarget name branch (edges text)) ∧
    (∀ key, w.params.get? key = lastValue key (settings text)) ∧
    w.activities.keys = ((declarations text).map (·.name)).eraseDups ∧
    w.params.keys = ((settings text).map (·.1)).eraseDups := by
  obtain ⟨u, hadd, hparams, _, hactivities⟩ := exists_addAll_of_readAt h
  have hsaid := says_entries (no_fault_of_addAll hadd)
  have hbuilt := builtFrom_addAll (grounded_entries text) hsaid hadd
  have hget : ∀ name, w.activity? name = u.activity? name := fun name =>
    congrArg (Table.get? · name) hactivities
  refine ⟨fun name => ?_, fun name a ha => ?_, fun key => ?_, ?_, ?_⟩
  · rw [← Table.mem_keys_iff, hactivities, hbuilt.activityOrder, List.mem_eraseDups, List.mem_map]
  · rw [hget] at ha
    exact ⟨hbuilt.expressions name a ha, hbuilt.targets name a ha⟩
  · rw [hparams]
    exact hbuilt.params key
  · rw [hactivities]
    exact hbuilt.activityOrder
  · rw [hparams]
    exact hbuilt.paramOrder

/-- An activity declared ahead of its shape and once more behind it, and an edge that is drawn anew
in a second flowchart. -/
def interleavedText : String :=
  "# Workflow\n```mermaid\ngraph\nSTART --> SET_A\nSET_A[\"x=1\"]\n```\n" ++
  "```mermaid\ngraph\nSTART --> SUCCESS\nSET_A\n```\n"

theorem interleavedText_last_wins : ∃ w, read interleavedText = .ok w ∧
    w.activities.keys = ["START", "SET_A", "SUCCESS"] ∧
    (∃ a, w.activity? "START" = some a ∧ a.next = some "SUCCESS") ∧
    ∃ a, w.activity? "SET_A" = some a ∧ a.expression = "x=1" := by
  obtain ⟨w, hread, _⟩ := exists_of_any interleavedText (fun _ => true) (by decide +kernel)
  obtain ⟨hexists, hparts, -, horder, -⟩ := read_last_wins hread
  have hdeclarations : declarations interleavedText =
      [⟨"START", ""⟩, ⟨"SET_A", ""⟩, ⟨"SET_A", "x=1"⟩, ⟨"START", ""⟩, ⟨"SUCCESS", ""⟩,
        ⟨"SET_A", ""⟩] := by decide +kernel
  have hedges : edges interleavedText =
      [⟨"START", .next, "SET_A"⟩, ⟨"START", .next, "SUCCESS"⟩] := by decide +kernel
  have hstart : w.activities.contains "START" :=
    (hexists _).mpr ⟨⟨"START", ""⟩, by simp [hdeclarations], rfl⟩
  have hset : w.activities.contains "SET_A" :=
    (hexists _).mpr ⟨⟨"SET_A", ""⟩, by simp [hdeclarations], rfl⟩
  obtain ⟨a, ha⟩ := Option.isSome_iff_exists.mp hstart
  obtain ⟨b, hb⟩ := Option.isSome_iff_exists.mp hset
  refine ⟨w, hread, ?_, ⟨a, ha, ?_⟩, b, hb, ?_⟩
  · rw [horder, hdeclarations]
    decide
  · refine ((hparts _ a ha).2 .next).trans ?_
    rw [hedges]
    decide
  · rw [(hparts _ b hb).1, hdeclarations]
    decide

end Playbook.Workflow
