/-
  The flowchart is complete. What is written between two moments belongs to the names that became
  visited in between: the items of each of them, once (`Accounts`). One visit accounts for its name
  (`Reach.accounts`), a sequence of roots for all that they reach (`ReachAll.accounts`), and in the
  end every activity is visited. So the lines of a flowchart are the lines of the activities, each
  as often as activities have it, and lines without nodes and edges (`flowchart_complete`).
-/
import Playbook.Proofs.Workflow.Snapshots

namespace Playbook.Flowchart

open Playbook.Text Playbook.Workflow Playbook.Document Playbook.Snapshot

/-! ## Items of activities -/

/-- The node of an activity and its edges. -/
def itemsOf (a : Activity) : List Item := .node a :: edges a .next ++ edges a .other

/-- The items of the activity with that name, if there is one. -/
def itemsUnder (w : Workflow) (name : String) : List Item :=
  (w.activity? name).toList.flatMap itemsOf

theorem itemsUnder_of_some {w : Workflow} {name : String} {a : Activity}
    (ha : w.activity? name = some a) : itemsUnder w name = itemsOf a := by
  unfold itemsUnder
  rw [ha]
  simp

/-- The items under all names are those of all activities. -/
theorem flatMap_itemsUnder_keys (w : Workflow) :
    w.activities.keys.flatMap (itemsUnder w) = w.activities.values.flatMap itemsOf := by
  have hone : ∀ p ∈ w.activities.entries, itemsUnder w p.1 = itemsOf p.2 :=
    fun p hp => itemsUnder_of_some (Table.get?_of_mem_entries hp)
  rw [Table.keys, Table.values, List.flatMap_map, List.flatMap_map]
  exact List.flatMap_congr hone

/-! ## Accounts -/

/-- Some names became visited, each of them once, and what was written is their items, with some
headings in between. -/
structure Accounts (w : Workflow) (new headings vs : List String) (is : List Item)
    (vs' : List String) : Prop where
  visited : vs' = new ++ vs
  distinct : new.Nodup
  fresh : ∀ x ∈ new, x ∉ vs
  defined : ∀ x ∈ new, x ∈ w.activities.keys
  items : is.Perm (new.flatMap (itemsUnder w) ++ headings.map .heading)

namespace Accounts

variable {w : Workflow} {new new₁ new₂ headings headings₁ headings₂ vs vs₁ vs₂ : List String}
  {is js : List Item}

theorem nothing (w : Workflow) (vs : List String) : Accounts w [] [] vs [] vs where
  visited := rfl
  distinct := .nil
  fresh := by simp
  defined := by simp
  items := .nil

/-- Accounts of one piece after the other. -/
theorem append (h₁ : Accounts w new₁ headings₁ vs is vs₁)
    (h₂ : Accounts w new₂ headings₂ vs₁ js vs₂) :
    Accounts w (new₂ ++ new₁) (headings₁ ++ headings₂) vs (is ++ js) vs₂ where
  visited := by rw [h₂.visited, h₁.visited, List.append_assoc]
  distinct := by
    refine List.nodup_append.mpr ⟨h₂.distinct, h₁.distinct, fun x hx y hy hxy => ?_⟩
    refine h₂.fresh x hx ?_
    rw [h₁.visited, hxy]
    exact List.mem_append_left _ hy
  fresh := by
    intro x hx
    rcases List.mem_append.mp hx with hx | hx
    · intro hc
      refine h₂.fresh x hx ?_
      rw [h₁.visited]
      exact List.mem_append_right _ hc
    · exact h₁.fresh x hx
  defined := by
    intro x hx
    rcases List.mem_append.mp hx with hx | hx
    · exact h₂.defined x hx
    · exact h₁.defined x hx
  items := by
    classical
    refine (h₁.items.append h₂.items).trans (List.perm_iff_count.mpr fun i => ?_)
    simp only [List.flatMap_append, List.map_append, List.count_append]
    omega

/-- A heading is nobody's item. -/
theorem headed (h : Accounts w new headings vs is vs') (name : String) :
    Accounts w new (name :: headings) vs (.heading name :: is) vs' where
  visited := h.visited
  distinct := h.distinct
  fresh := h.fresh
  defined := h.defined
  items := (h.items.cons _).trans List.perm_middle.symm

/-- A name becomes visited before what its branches lead to, which stands behind their edges. -/
theorem visit {name : String} {a : Activity} (ha : w.activity? name = some a) (hname : name ∉ vs)
    (h₁ : Accounts w new₁ [] (name :: vs) is vs₁) (h₂ : Accounts w new₂ [] vs₁ js vs₂) :
    Accounts w (new₂ ++ new₁ ++ [name]) [] vs
      (.node a :: (edges a .next ++ is) ++ (edges a .other ++ js)) vs₂ := by
  have hboth := h₁.append h₂
  have hout : name ∉ new₂ ++ new₁ := fun hc => hboth.fresh name hc List.mem_cons_self
  refine ⟨?_, ?_, fun x hx => ?_, fun x hx => ?_, ?_⟩
  · rw [hboth.visited]
    simp
  · refine List.nodup_append.mpr ⟨hboth.distinct, List.pairwise_singleton .., ?_⟩
    rintro x hx y hy rfl
    exact hout (List.mem_singleton.mp hy ▸ hx)
  · rcases List.mem_append.mp hx with hx | hx
    · exact fun hc => hboth.fresh x hx (List.mem_cons_of_mem _ hc)
    · exact List.mem_singleton.mp hx ▸ hname
  · rcases List.mem_append.mp hx with hx | hx
    · exact hboth.defined x hx
    · rw [List.mem_singleton.mp hx, Table.mem_keys_iff]
      exact Option.isSome_of_mem ha
  · classical
    have hitems := hboth.items
    rw [List.flatMap_append, List.flatMap_singleton, itemsUnder_of_some ha]
    refine List.perm_iff_count.mpr fun i => ?_
    have hcount := hitems.count_eq i
    simp only [itemsOf, List.map_nil, List.append_nil, List.cons_append, List.count_append,
      List.count_cons] at hcount ⊢
    omega

end Accounts

section

variable {w : Workflow} {vs vs' names : List String} {is : List Item}

theorem Reach.accounts {o : Option String} (h : Reach w o vs is vs') :
    ∃ new, Accounts w new [] vs is vs' := by
  induction h with
  | nowhere vs => exact ⟨[], .nothing w vs⟩
  | undefined => exact ⟨[], .nothing w _⟩
  | visited => exact ⟨[], .nothing w _⟩
  | fresh ha hname _ _ ih₁ ih₂ =>
    obtain ⟨new₁, h₁⟩ := ih₁
    obtain ⟨new₂, h₂⟩ := ih₂
    exact ⟨_, h₁.visit ha hname h₂⟩

/-- Several roots without headings. -/
theorem ReachAll.accounts (h : ReachAll w (fun _ => []) names vs is vs') :
    ∃ new, Accounts w new [] vs is vs' := by
  induction names generalizing vs is with
  | nil =>
    cases h
    exact ⟨[], .nothing w _⟩
  | cons name names ih =>
    cases h with
    | skip _ hrest => exact ih hrest
    | cons _ hreach hrest =>
      obtain ⟨new₁, h₁⟩ := hreach.accounts
      obtain ⟨new₂, h₂⟩ := ih hrest
      exact ⟨_, h₁.append h₂⟩

/-- Several roots, each under its heading unless it is visited already. -/
theorem ReachAll.accounts_headed
    (h : ReachAll w (fun name => [.heading name]) names vs is vs') :
    ∃ new headings : List String, headings.Sublist names ∧ Accounts w new headings vs is vs' := by
  induction names generalizing vs is with
  | nil =>
    cases h
    exact ⟨[], [], .slnil, .nothing w _⟩
  | cons name names ih =>
    cases h with
    | skip _ hrest =>
      obtain ⟨new, headings, hsub, hrest⟩ := ih hrest
      exact ⟨new, headings, hsub.cons _, hrest⟩
    | cons _ hreach hrest =>
      obtain ⟨new₁, h₁⟩ := hreach.accounts
      obtain ⟨new₂, headings, hsub, h₂⟩ := ih hrest
      exact ⟨_, name :: headings, hsub.cons_cons _, (h₁.headed name).append h₂⟩

/-- A flowchart holds the items of all activities, and headings of handlers. -/
theorem Script.items_perm (h : Script w is vs) : ∃ headings : List String, headings.Sublist w.handlers ∧
    is.Perm (w.activities.values.flatMap itemsOf ++ headings.map .heading) := by
  have hvisits : ∀ x ∈ w.activities.keys, x ∈ vs := fun x => h.visits
  obtain ⟨is₁, vs₁, is₂, vs₂, is₃, h₁, h₂, h₃, rfl⟩ := h
  obtain ⟨new₁, hstart⟩ := h₁.accounts
  obtain ⟨new₂, headings, hsub, hhandlers⟩ := h₂.accounts_headed
  obtain ⟨new₃, hrest⟩ := h₃.accounts
  have hall := (hstart.append hhandlers).append hrest
  rw [List.nil_append, List.append_nil] at hall
  have hvs : vs = new₃ ++ (new₂ ++ new₁) := hall.visited.trans (List.append_nil _)
  -- what became visited is every name, in another order
  have hkeys : (new₃ ++ (new₂ ++ new₁)).Perm w.activities.keys := by
    refine (List.perm_ext_iff_of_nodup hall.distinct w.activities.keys_nodup).mpr fun x => ?_
    exact ⟨hall.defined x, fun hx => hvs ▸ hvisits x hx⟩
  refine ⟨headings, hsub, hall.items.trans (List.Perm.append_right _ ?_)⟩
  rw [← flatMap_itemsUnder_keys]
  exact hkeys.flatMap_right _

end

/-! ## Depth -/

/-- The recursion comes to an end from every name: what it writes has a finite derivation, and with
more levels than activities it does not matter how many there are. -/
theorem writeFrom_of_depth {w : Workflow} (hw : KeyedByName w) (name : String) (d : Draft) :
    ∃ is vs, Reach w (some name) d.visited is vs ∧ ∀ depth, w.activities.size < depth →
      writeFrom w depth name d = ⟨appendItems d.text is, vs⟩ := by
  have hle : (remaining w d.visited).length ≤ w.activities.size := by
    have hkeys : w.activities.keys.length = w.activities.size := List.length_map ..
    exact hkeys ▸ List.length_filter_le ..
  obtain ⟨is, vs, h, _⟩ := exists_reach hw (Nat.lt_succ_of_le hle) name d.text
  refine ⟨is, vs, h, fun depth hdepth => ?_⟩
  obtain ⟨js, us, h', hwrite⟩ := exists_reach hw (Nat.lt_of_le_of_lt hle hdepth) name d.text
  obtain ⟨rfl, rfl⟩ := h.unique h'
  exact hwrite

/-! ## Lines -/

/-- The lines of an activity: its node, then the edges that it has. -/
def activityLines (a : Activity) : List (List Char) :=
  (' ' :: ' ' :: nodeText a) ::
    (a.next.toList.map fun target => ' ' :: ' ' :: edgeText a .next target) ++
    (a.other.toList.map fun target => ' ' :: ' ' :: edgeText a .other target)

theorem flatMap_lines_edges (a : Activity) (branch : Branch) :
    (edges a branch).flatMap Item.lines =
      (a.target branch).toList.map fun target => ' ' :: ' ' :: edgeText a branch target := by
  unfold edges
  cases a.target branch <;> rfl

theorem flatMap_lines_itemsOf (a : Activity) : (itemsOf a).flatMap Item.lines = activityLines a := by
  rw [itemsOf, List.cons_append, List.flatMap_cons, List.flatMap_append, flatMap_lines_edges,
    flatMap_lines_edges]
  rfl

/-- A line without nodes and edges: the beginning and the end of the flowchart, and lines that a
reader passes over. -/
def IsFrame (l : List Char) : Prop :=
  l ∈ flowchartLines [] ∨ trim l = [] ∨ isIgnored (trim l)

theorem isFrame_heading (name : String) : ∀ l ∈ (Item.heading name).lines, IsFrame l := by
  intro l hl
  rcases List.mem_cons.mp hl with rfl | hl
  · exact Or.inr (Or.inl rfl)
  · have hstart : "  %% Event-handler: ".toList ++ name.toList =
        [' ', ' '] ++ ("%% Event-handler:".toList ++ ' ' :: name.toList) := rfl
    rw [List.mem_singleton.mp hl, IsFrame, hstart, trim_blank_append (by decide),
      trim_append_of_tight (by decide) (by decide)]
    exact Or.inr (Or.inr rfl)

theorem isFrame_style (current : Option String) : ∀ l ∈ styleLines current, IsFrame l := by
  intro l hl
  cases current with
  | none => cases hl
  | some name =>
    rcases List.mem_cons.mp hl with rfl | hl
    · exact Or.inr (Or.inl rfl)
    · rw [List.mem_singleton.mp hl, IsFrame, trim_indented (tight_styleText name)]
      exact Or.inr (Or.inr rfl)

/-- The lines of a flowchart around those of its parameters and activities: its beginning and end,
headings of handlers and the style of the current activity. -/
def frameLines (headings : List String) (current : Option String) : List (List Char) :=
  flowchartLines [] ++ (headings.flatMap fun name => (Item.heading name).lines) ++
    styleLines current

theorem isFrame_frameLines (headings : List String) (current : Option String) :
    ∀ l ∈ frameLines headings current, IsFrame l := by
  intro l hl
  rcases List.mem_append.mp hl with hl | hl
  · rcases List.mem_append.mp hl with hl | hl
    · exact Or.inl hl
    · obtain ⟨name, _, hl⟩ := List.mem_flatMap.mp hl
      exact isFrame_heading name l hl
  · exact isFrame_style current l hl

/-- Every activity is stored under its own name, and nothing that is written holds a line feed.
Edges, the start and the handlers may lead anywhere. -/
structure Unbroken (w : Workflow) : Prop where
  keyed : KeyedByName w
  names : ∀ a ∈ w.activities.values, '\n' ∉ a.name.toList
  expressions : ∀ a ∈ w.activities.values, '\n' ∉ a.expression.toList
  targets : ∀ a ∈ w.activities.values, ∀ b, ∀ target ∈ a.target b, '\n' ∉ target.toList
  params : ∀ p ∈ w.params.entries, '\n' ∉ p.1.toList ∧ '\n' ∉ p.2.toList
  handlers : ∀ name ∈ w.handlers, '\n' ∉ name.toList

theorem Unbroken.no_newline_itemsOf {w : Workflow} (hw : Unbroken w) {a : Activity}
    (ha : a ∈ w.activities.values) : ∀ i ∈ itemsOf a, ∀ l ∈ i.lines, '\n' ∉ l := by
  have hedges : ∀ b, ∀ i ∈ edges a b, ∀ l ∈ i.lines, '\n' ∉ l := by
    intro b i hi
    obtain ⟨target, ht, rfl⟩ := List.mem_map.mp hi
    exact no_newline_edge (hw.names a ha) (hw.targets a ha b target (by simpa using ht)) b
  intro i hi
  rcases List.mem_append.mp hi with hi | hi
  · rcases List.mem_cons.mp hi with rfl | hi
    · exact no_newline_node (hw.names a ha) (hw.expressions a ha)
    · exact hedges .next i hi
  · exact hedges .other i hi

/-- The lines of a flowchart as the writer puts them: parameters, items, style. -/
theorem Unbroken.no_newline_lines {w : Workflow} (hw : Unbroken w) {current : Option String}
    (hcurrent : ∀ name ∈ current, '\n' ∉ name.toList) {is : List Item} {headings : List String}
    (hsub : headings.Sublist w.handlers)
    (his : is.Perm (w.activities.values.flatMap itemsOf ++ headings.map .heading)) :
    ∀ l ∈ flowchartLines (drawnLines w is ++ styleLines current), '\n' ∉ l := by
  have hitems : ∀ i ∈ is, ∀ l ∈ i.lines, '\n' ∉ l := by
    intro i hi
    rcases List.mem_append.mp (his.mem_iff.mp hi) with hi | hi
    · obtain ⟨a, ha, hi⟩ := List.mem_flatMap.mp hi
      exact hw.no_newline_itemsOf ha i hi
    · obtain ⟨name, hname, rfl⟩ := List.mem_map.mp hi
      exact no_newline_heading (hw.handlers name (hsub.subset hname))
  have hstyle : ∀ l ∈ styleLines current, '\n' ∉ l := by
    intro l hl
    cases current with
    | none => cases hl
    | some name =>
      have hmark : '\n' ∉ currentStyle.toList := by decide
      rcases List.mem_cons.mp hl with rfl | hl
      · exact List.not_mem_nil
      · rw [List.mem_singleton.mp hl]
        simp [styleText_eq, hcurrent name rfl, hmark]
  have hopen : ∀ l ∈ ["# Workflow".toList, "```mermaid".toList, "flowchart TD".toList],
      '\n' ∉ l := by decide
  have hclose : ∀ l ∈ [fence], '\n' ∉ l := by decide
  intro l hl
  simp only [flowchartLines, drawnLines, List.mem_append, List.mem_flatMap] at hl
  rcases hl with (hl | (hl | ⟨i, hi, hl⟩) | hl) | hl
  · exact hopen l hl
  · exact no_newline_paramsLines hw.params l hl
  · exact hitems i hi l hl
  · exact hstyle l hl
  · exact hclose l hl

/-! ## Completeness -/

/-- The flowchart of every workflow is written to its end. Its lines are the node of every activity
and an edge for every branch that is set, as often as activities have them, the parameters, and
around them lines without nodes and edges. -/
theorem flowchart_complete {w : Workflow} (hw : Unbroken w) {current : Option String}
    (hcurrent : ∀ name ∈ current, '\n' ∉ name.toList) :
    (∀ name (d : Draft), ∃ is vs, Reach w (some name) d.visited is vs ∧
      ∀ depth, w.activities.size < depth →
        writeFrom w depth name d = ⟨appendItems d.text is, vs⟩) ∧
    ∃ ls headings, (w.flowchart current).toList = unlines ls ∧ (∀ l ∈ ls, '\n' ∉ l) ∧
      ls.Perm (paramsLines w ++ w.activities.values.flatMap activityLines ++
        frameLines headings current) ∧
      headings.Sublist w.handlers ∧ ∀ l ∈ frameLines headings current, IsFrame l := by
  refine ⟨writeFrom_of_depth hw.keyed, ?_⟩
  obtain ⟨is, vs, hscript, htext⟩ := exists_script hw.keyed
  obtain ⟨headings, hsub, his⟩ := hscript.items_perm
  have hlines : (is.flatMap Item.lines).Perm (w.activities.values.flatMap activityLines ++
      headings.flatMap fun name => (Item.heading name).lines) := by
    have hperm := his.flatMap_right Item.lines
    rw [List.flatMap_append, List.flatMap_assoc, List.flatMap_map] at hperm
    simpa only [flatMap_lines_itemsOf] using hperm
  refine ⟨_, headings, toList_flowchart htext current, hw.no_newline_lines hcurrent hsub his,
    List.perm_iff_count.mpr fun l => ?_, hsub, isFrame_frameLines headings current⟩
  have hcount := hlines.count_eq l
  simp only [frameLines, flowchartLines, drawnLines, List.count_append, List.append_nil]
    at hcount ⊢
  omega

/-- A cycle, an activity that leads to itself, one that nothing leads to, and an edge, a start and a
handler that lead nowhere. -/
def tangled : Workflow where
  params := .ofList [("topic", "loops")]
  activities := .ofList [
    ("CHECK_A", { kind := .check, name := "CHECK_A", expression := "right",
                  next := some "SET_B", other := some "CHECK_A" }),
    ("SET_B", { kind := .set, name := "SET_B", expression := "x=1",
                next := some "CHECK_A", other := some "FAILED" }),
    ("ASK_C", { kind := .ask, name := "ASK_C", next := some "CHECK_A" })]
  start := some "START"
  onSuccess := some "SET_B"
  onFailed := some "ON_FAILED"

theorem tangled_complete : (∀ name ∈ some "SET_B", '\n' ∉ name.toList) ∧ Unbroken tangled ∧
    ∃ ls headings, (tangled.flowchart (some "SET_B")).toList = unlines ls ∧
      (∀ l ∈ ls, '\n' ∉ l) ∧
      ls.Perm (paramsLines tangled ++ tangled.activities.values.flatMap activityLines ++
        frameLines headings (some "SET_B")) ∧
      headings.Sublist tangled.handlers ∧
      ∀ l ∈ frameLines headings (some "SET_B"), IsFrame l := by
  have hkeyed : ∀ p ∈ tangled.activities.entries, p.2.name = p.1 := by decide
  have htargets : ∀ a ∈ tangled.activities.values, ∀ target ∈ [a.next, a.other].filterMap id,
      '\n' ∉ target.toList := by decide
  have hw : Unbroken tangled := {
    keyed := fun key a ha => hkeyed (key, a) (Table.mem_entries_of_get? ha)
    names := by decide
    expressions := by decide
    targets := by
      intro a ha b target ht
      refine htargets a ha target (List.mem_filterMap.mpr ⟨a.target b, ?_, ht⟩)
      cases b with
      | next => exact List.mem_cons_self
      | other => exact List.mem_cons_of_mem _ List.mem_cons_self
    params := by decide
    handlers := by decide }
  have hcurrent : ∀ name ∈ some "SET_B", '\n' ∉ name.toList := by decide
  exact ⟨hcurrent, hw, (flowchart_complete hw hcurrent).2⟩

end Playbook.Flowchart
