/-
  The order in which activities are written. A flowchart is a sequence of items; which items are
  written from a name, and in which order, is a relation (`Reach`) that knows nothing of depths.
  The writer follows it (`exists_script`), and it fixes the items (`Script.unique`).
-/
import Playbook.Proofs.Workflow.Building
import Playbook.Workflow.Writing

namespace Playbook.Flowchart

open Playbook.Workflow

/-! ## Items -/

/-- A part of a written flowchart. -/
inductive Item where
  | node (a : Activity)
  | edge (a : Activity) (branch : Branch) (target : String)
  | heading (name : String)

/-- The text of an item. -/
def Item.text : Item → String
  | node a => nodeLine a
  | edge a branch target => edgeLine a branch target
  | heading name => "\n  %% Event-handler: " ++ name ++ "\n"

/-- The names that a reader of an item meets, in order. -/
def Item.names : Item → List String
  | node a => [a.name]
  | edge a _ target => [a.name, target]
  | heading _ => []

/-- The edge of a branch, if there is one. -/
def edges (a : Activity) (branch : Branch) : List Item :=
  (a.target branch).toList.map fun target => .edge a branch target

/-- A text with items behind it. -/
def appendItems (text : String) (items : List Item) : String :=
  items.foldl (fun s item => s ++ item.text) text

theorem appendItems_append (text : String) (is js : List Item) :
    appendItems text (is ++ js) = appendItems (appendItems text is) js := List.foldl_append

theorem appendItems_node (text : String) (a : Activity) (is : List Item) :
    appendItems text (.node a :: is) = appendItems (text ++ nodeLine a) is := rfl

/-- Whether an item is about activities of the workflow and their edges. -/
def Item.BelongsTo (w : Workflow) : Item → Prop
  | node a => w.activity? a.name = some a
  | edge a branch target => w.activity? a.name = some a ∧ a.target branch = some target
  | heading name => (w.activity? name).isSome

/-! ## What is written from a name -/

/-- The items that are written from a name, if there is one, when some names are visited before;
and the names that are visited afterwards. -/
inductive Reach (w : Workflow) : Option String → List String → List Item → List String → Prop
  | nowhere (vs : List String) : Reach w none vs [] vs
  | undefined {name : String} {vs : List String} :
    w.activity? name = none → Reach w (some name) vs [] vs
  | visited {name : String} {vs : List String} : name ∈ vs → Reach w (some name) vs [] vs
  | fresh {name : String} {vs vs₁ vs₂ : List String} {a : Activity} {is js : List Item} :
    w.activity? name = some a → name ∉ vs → Reach w a.next (name :: vs) is vs₁ →
    Reach w a.other vs₁ js vs₂ →
    Reach w (some name) vs (.node a :: (edges a .next ++ is) ++ (edges a .other ++ js)) vs₂

/-- The items of several names, one name after the other: each name that is not visited yet has
something in front of it. -/
inductive ReachAll (w : Workflow) (front : String → List Item) :
    List String → List String → List Item → List String → Prop
  | nil (vs : List String) : ReachAll w front [] vs [] vs
  | skip {name : String} {names vs vs' : List String} {is : List Item} :
    name ∈ vs → ReachAll w front names vs is vs' → ReachAll w front (name :: names) vs is vs'
  | cons {name : String} {names vs vs₁ vs₂ : List String} {is js : List Item} :
    name ∉ vs → Reach w (some name) vs is vs₁ → ReachAll w front names vs₁ js vs₂ →
    ReachAll w front (name :: names) vs (front name ++ is ++ js) vs₂

/-- The names of all activities that are not visited yet. -/
def remaining (w : Workflow) (vs : List String) : List String :=
  w.activities.keys.filter fun name => !vs.contains name

/-- The items of a whole flowchart, and the names in the order in which they are visited, the last
one first. -/
def Script (w : Workflow) (items : List Item) (vs : List String) : Prop :=
  ∃ is₁ vs₁ is₂ vs₂ is₃, ReachAll w (fun _ => []) w.start.toList [] is₁ vs₁ ∧
    ReachAll w (fun name => [.heading name]) w.handlers vs₁ is₂ vs₂ ∧
    ReachAll w (fun _ => []) (remaining w vs₂) vs₂ is₃ vs ∧ items = is₁ ++ is₂ ++ is₃

/-! ### Visited names -/

section

variable {w : Workflow} {o : Option String} {name x : String} {vs vs' names : List String}
  {is : List Item} {front : String → List Item}

theorem Reach.subset (h : Reach w o vs is vs') (hx : x ∈ vs) : x ∈ vs' := by
  induction h with
  | nowhere => exact hx
  | undefined => exact hx
  | visited => exact hx
  | fresh _ _ _ _ ih₁ ih₂ => exact ih₂ (ih₁ (List.mem_cons_of_mem _ hx))

theorem ReachAll.subset (h : ReachAll w front names vs is vs') (hx : x ∈ vs) : x ∈ vs' := by
  induction h with
  | nil => exact hx
  | skip _ _ ih => exact ih hx
  | cons _ hreach _ ih => exact ih (hreach.subset hx)

/-- An activity is visited once what can be reached from it is written. -/
theorem Reach.visits (h : Reach w (some name) vs is vs') (hdef : (w.activity? name).isSome) :
    name ∈ vs' := by
  cases h with
  | undefined hnone =>
    rw [hnone] at hdef
    cases hdef
  | visited hmem => exact hmem
  | fresh _ _ h₁ h₂ => exact h₂.subset (h₁.subset List.mem_cons_self)

theorem ReachAll.visits (h : ReachAll w front names vs is vs')
    (hdef : ∀ name ∈ names, (w.activity? name).isSome) : ∀ name ∈ names, name ∈ vs' := by
  induction h with
  | nil => exact fun _ h => absurd h List.not_mem_nil
  | skip hmem hrest ih =>
    intro name hname
    rcases List.mem_cons.mp hname with rfl | hname
    · exact hrest.subset hmem
    · exact ih (fun x hx => hdef x (List.mem_cons_of_mem _ hx)) name hname
  | cons _ hreach hrest ih =>
    intro name hname
    rcases List.mem_cons.mp hname with rfl | hname
    · exact hrest.subset (hreach.visits (hdef _ List.mem_cons_self))
    · exact ih (fun x hx => hdef x (List.mem_cons_of_mem _ hx)) name hname

/-- Every activity is visited in the end. -/
theorem Script.visits (h : Script w is vs) (hx : x ∈ w.activities.keys) : x ∈ vs := by
  obtain ⟨_, _, _, vs₂, _, _, _, h₃, _⟩ := h
  by_cases hmem : x ∈ vs₂
  · exact h₃.subset hmem
  · refine h₃.visits (fun name hname => ?_) x (List.mem_filter.mpr ⟨hx, by simpa using hmem⟩)
    exact Table.mem_keys_iff.mp (List.mem_filter.mp hname).1

/-! ### Items of the workflow -/

theorem belongs_edges {a : Activity} (ha : w.activity? a.name = some a) (b : Branch) :
    ∀ i ∈ edges a b, i.BelongsTo w := by
  intro i hi
  obtain ⟨target, ht, rfl⟩ := List.mem_map.mp hi
  exact ⟨ha, by simpa using ht⟩

theorem Reach.belongs (h : Reach w o vs is vs')
    (hw : KeyedByName w) : ∀ i ∈ is, i.BelongsTo w := by
  induction h with
  | nowhere => exact fun _ h => absurd h List.not_mem_nil
  | undefined => exact fun _ h => absurd h List.not_mem_nil
  | visited => exact fun _ h => absurd h List.not_mem_nil
  | fresh ha _ _ _ ih₁ ih₂ =>
    have hself := hw _ _ ha ▸ ha
    intro i hi
    rcases List.mem_cons.mp hi with rfl | hi
    · exact hself
    · rcases List.mem_append.mp hi with hi | hi <;> rcases List.mem_append.mp hi with hi | hi
      · exact belongs_edges hself .next i hi
      · exact ih₁ i hi
      · exact belongs_edges hself .other i hi
      · exact ih₂ i hi

theorem ReachAll.belongs (h : ReachAll w front names vs is vs')
    (hw : KeyedByName w)
    (hfront : ∀ name ∈ names, ∀ i ∈ front name, i.BelongsTo w) : ∀ i ∈ is, i.BelongsTo w := by
  induction h with
  | nil => exact fun _ h => absurd h List.not_mem_nil
  | skip _ _ ih => exact ih fun x hx => hfront x (List.mem_cons_of_mem _ hx)
  | cons _ hreach _ ih =>
    intro i hi
    rcases List.mem_append.mp hi with hi | hi
    · rcases List.mem_append.mp hi with hi | hi
      · exact hfront _ List.mem_cons_self i hi
      · exact hreach.belongs hw i hi
    · exact ih (fun x hx => hfront x (List.mem_cons_of_mem _ hx)) i hi

/-- Every item is about the workflow. -/
theorem Script.belongs (h : Script w is vs) (hw : WellFormed w) : ∀ i ∈ is, i.BelongsTo w := by
  obtain ⟨is₁, vs₁, is₂, vs₂, is₃, h₁, h₂, h₃, rfl⟩ := h
  have hnone : ∀ names : List String, ∀ name ∈ names, ∀ i ∈ ([] : List Item), i.BelongsTo w := by
    simp
  intro i hi
  rcases List.mem_append.mp hi with hi | hi
  · rcases List.mem_append.mp hi with hi | hi
    · exact h₁.belongs hw.keyed (hnone _) i hi
    · refine h₂.belongs hw.keyed (fun name hname i hi => ?_) i hi
      rw [List.mem_singleton.mp hi]
      exact hw.handlers_defined name hname
  · exact h₃.belongs hw.keyed (hnone _) i hi

/-! ### Every activity with its edges -/

/-- The items of an activity: its node and its edges. -/
def Shown (w : Workflow) (is : List Item) (name : String) : Prop :=
  ∀ a, w.activity? name = some a → .node a ∈ is ∧ ∀ b t, a.target b = some t → .edge a b t ∈ is

theorem Shown.mono {js : List Item} (h : Shown w is name) (hsub : ∀ i ∈ is, i ∈ js) :
    Shown w js name :=
  fun a ha => ⟨hsub _ (h a ha).1, fun b t ht => hsub _ ((h a ha).2 b t ht)⟩

theorem Reach.shows (h : Reach w o vs is vs') (hx : x ∈ vs') : x ∈ vs ∨ Shown w is x := by
  induction h with
  | nowhere => exact Or.inl hx
  | undefined => exact Or.inl hx
  | visited => exact Or.inl hx
  | @fresh name vs _ _ a is js ha _ _ _ ih₁ ih₂ =>
    rcases ih₂ hx with hx | hx
    · rcases ih₁ hx with hx | hx
      · rcases List.mem_cons.mp hx with rfl | hx
        · refine Or.inr fun a' ha' => ?_
          rw [ha, Option.some.injEq] at ha'
          subst ha'
          refine ⟨List.mem_cons_self, fun b t ht => List.mem_cons_of_mem _ ?_⟩
          have hedge : .edge a b t ∈ edges a b := List.mem_map.mpr ⟨t, by simp [ht], rfl⟩
          cases b with
          | next => exact List.mem_append_left _ (List.mem_append_left _ hedge)
          | other => exact List.mem_append_right _ (List.mem_append_left _ hedge)
        · exact Or.inl hx
      · exact Or.inr (hx.mono fun i hi => by simp [hi])
    · exact Or.inr (hx.mono fun i hi => by simp [hi])

theorem ReachAll.shows (h : ReachAll w front names vs is vs') (hx : x ∈ vs') :
    x ∈ vs ∨ Shown w is x := by
  induction h with
  | nil => exact Or.inl hx
  | skip _ _ ih => exact ih hx
  | cons _ hreach _ ih =>
    rcases ih hx with hx | hx
    · rcases hreach.shows hx with hx | hx
      · exact Or.inl hx
      · exact Or.inr (hx.mono fun i hi => by simp [hi])
    · exact Or.inr (hx.mono fun i hi => by simp [hi])

/-- The node and the edges of every activity are written. -/
theorem Script.shows (h : Script w is vs) (hx : x ∈ w.activities.keys) : Shown w is x := by
  have hvs := h.visits hx
  obtain ⟨is₁, vs₁, is₂, vs₂, is₃, h₁, h₂, h₃, rfl⟩ := h
  rcases h₃.shows hvs with hx | hx
  · rcases h₂.shows hx with hx | hx
    · rcases h₁.shows hx with hx | hx
      · exact absurd hx List.not_mem_nil
      · exact hx.mono fun i hi => by simp [hi]
    · exact hx.mono fun i hi => by simp [hi]
  · exact hx.mono fun i hi => by simp [hi]

/-! ### The order of the names -/

theorem note_of_mem (h : name ∈ vs) : note vs name = vs := if_pos h

theorem note_of_not_mem (h : name ∉ vs) : note vs name = name :: vs := if_neg h

theorem note_note (vs : List String) (name : String) : note (note vs name) name = note vs name := by
  by_cases h : name ∈ vs
  · rw [note_of_mem h, note_of_mem h]
  · rw [note_of_not_mem h, note_of_mem List.mem_cons_self]

/-- The names of items, noted behind those met so far. -/
def noteItems (met : List String) (is : List Item) : List String :=
  (is.flatMap Item.names).foldl note met

theorem noteItems_append (vs : List String) (is js : List Item) :
    noteItems vs (is ++ js) = noteItems (noteItems vs is) js := by
  simp [noteItems]

theorem noteItems_node (vs : List String) (a : Activity) (is : List Item) :
    noteItems vs (.node a :: is) = noteItems (note vs a.name) is := rfl

/-- An edge only adds its target. -/
theorem noteItems_edges {a : Activity} (ha : a.name ∈ vs) (b : Branch) :
    noteItems vs (edges a b) = (a.target b).toList.foldl note vs := by
  unfold noteItems edges
  cases a.target b with
  | none => rfl
  | some target => simp [Item.names, note_of_mem ha]

/-- The first item from a name that is not visited is its node. -/
theorem Reach.head (h : Reach w (some name) vs is vs') (hdef : (w.activity? name).isSome)
    (hname : name ∉ vs) : ∃ a js, w.activity? name = some a ∧ is = .node a :: js := by
  cases h with
  | undefined hnone =>
    rw [hnone] at hdef
    cases hdef
  | visited hmem => exact absurd hmem hname
  | fresh ha _ _ _ => exact ⟨_, _, ha, rfl⟩

/-- Names are met in the order in which they are visited: an edge meets its target just before the
target is visited. -/
theorem Reach.notes (h : Reach w o vs is vs') (hw : Assembled w)
    (hdef : ∀ name, o = some name → (w.activity? name).isSome) :
    noteItems (o.toList.foldl note vs) is = vs' := by
  induction h with
  | nowhere => rfl
  | undefined hnone =>
    have := hdef _ rfl
    rw [hnone] at this
    cases this
  | visited hmem => exact note_of_mem hmem
  | @fresh name vs vs₁ vs₂ a is js ha hname h₁ _ ih₁ ih₂ =>
    have hself := (hw.named _ _ ha).1
    have hmem : a.name ∈ name :: vs := hself ▸ List.mem_cons_self
    have htarget : ∀ b t, a.target b = some t → (w.activity? t).isSome := fun b t ht =>
      hw.targets name a b t ha ht
    have hstart : (some name).toList.foldl note vs = name :: vs := note_of_not_mem hname
    have hnext : noteItems (name :: vs) (edges a .next ++ is) = vs₁ := by
      rw [noteItems_append, noteItems_edges hmem]
      exact ih₁ (htarget .next)
    have hother : noteItems vs₁ (edges a .other ++ js) = vs₂ := by
      rw [noteItems_append, noteItems_edges (h₁.subset hmem)]
      exact ih₂ (htarget .other)
    rw [hstart, List.cons_append, noteItems_node, note_of_mem hmem, noteItems_append, hnext, hother]

theorem ReachAll.notes (h : ReachAll w front names vs is vs') (hw : Assembled w)
    (hdef : ∀ name ∈ names, (w.activity? name).isSome)
    (hfront : ∀ name met, noteItems met (front name) = met) : noteItems vs is = vs' := by
  induction h with
  | nil => rfl
  | skip _ _ ih => exact ih fun x hx => hdef x (List.mem_cons_of_mem _ hx)
  | @cons name names vs vs₁ vs₂ is js hname hreach _ ih =>
    have hdefined := hdef name List.mem_cons_self
    have hnotes := hreach.notes hw fun x hx => Option.some.inj hx ▸ hdefined
    obtain ⟨a, rest, ha, rfl⟩ := hreach.head hdefined hname
    have hself := (hw.named _ _ ha).1
    have hfirst : noteItems vs (.node a :: rest) = vs₁ := by
      rw [← hnotes, noteItems_node, noteItems_node, hself]
      change noteItems (note vs name) rest = noteItems (note (note vs name) name) rest
      rw [note_note]
    rw [noteItems_append, noteItems_append, hfront, hfirst]
    exact ih fun x hx => hdef x (List.mem_cons_of_mem _ hx)

theorem isSome_of_mem_remaining (h : name ∈ remaining w vs) : (w.activity? name).isSome :=
  Table.mem_keys_iff.mp (List.mem_filter.mp h).1

/-- The names in a flowchart are first met in the order in which the activities are visited. -/
theorem Script.notes (h : Script w is vs) (hw : WellFormed w) : noteItems [] is = vs := by
  obtain ⟨is₁, vs₁, is₂, vs₂, is₃, h₁, h₂, h₃, rfl⟩ := h
  have hfirst := h₁.notes hw.toAssembled hw.start_defined fun _ _ => rfl
  have hsecond := h₂.notes hw.toAssembled hw.handlers_defined fun _ _ => rfl
  have hthird := h₃.notes hw.toAssembled (fun _ => isSome_of_mem_remaining) fun _ _ => rfl
  rw [noteItems_append, noteItems_append, hfirst, hsecond, hthird]

/-! ### The same flowchart again -/

theorem Reach.grows (h : Reach w o vs is vs') : ∃ new, vs' = new ++ vs ∧ ∀ x ∈ new, x ∉ vs := by
  induction h with
  | nowhere => exact ⟨[], rfl, by simp⟩
  | undefined => exact ⟨[], rfl, by simp⟩
  | visited => exact ⟨[], rfl, by simp⟩
  | @fresh name vs _ _ _ _ _ _ hname _ _ ih₁ ih₂ =>
    obtain ⟨new₁, rfl, hnew₁⟩ := ih₁
    obtain ⟨new₂, rfl, hnew₂⟩ := ih₂
    refine ⟨new₂ ++ new₁ ++ [name], by simp, fun x hx => ?_⟩
    rcases List.mem_append.mp hx with hx | hx
    · rcases List.mem_append.mp hx with hx | hx
      · exact fun hc => hnew₂ x hx (by simp [hc])
      · exact fun hc => hnew₁ x hx (by simp [hc])
    · exact List.mem_singleton.mp hx ▸ hname

/-- From a name that is not visited, the name itself is visited first. -/
theorem Reach.grows_from (h : Reach w (some name) vs is vs') (hdef : (w.activity? name).isSome)
    (hname : name ∉ vs) :
    ∃ new, vs' = (name :: new).reverse ++ vs ∧ ∀ x ∈ name :: new, x ∉ vs := by
  cases h with
  | undefined hnone =>
    rw [hnone] at hdef
    cases hdef
  | visited hmem => exact absurd hmem hname
  | fresh _ _ h₁ h₂ =>
    obtain ⟨new₁, rfl, hnew₁⟩ := h₁.grows
    obtain ⟨new₂, rfl, hnew₂⟩ := h₂.grows
    refine ⟨(new₂ ++ new₁).reverse, by simp, fun x hx => ?_⟩
    rcases List.mem_cons.mp hx with rfl | hx
    · exact hname
    · rcases List.mem_append.mp (List.mem_reverse.mp hx) with hx | hx
      · exact fun hc => hnew₂ x hx (by simp [hc])
      · exact fun hc => hnew₁ x hx (by simp [hc])

theorem ReachAll.skip_all {more : List String} (hmore : ∀ x ∈ more, x ∈ vs)
    (h : ReachAll w front names vs is vs') : ReachAll w front (more ++ names) vs is vs' := by
  induction more with
  | nil => exact h
  | cons x more ih =>
    exact .skip (hmore x List.mem_cons_self) (ih fun y hy => hmore y (List.mem_cons_of_mem _ hy))

/-- The names that several names add, taken in the order of their visits, give the same items. -/
theorem ReachAll.again (h : ReachAll w front names vs is vs')
    (hdef : ∀ name ∈ names, (w.activity? name).isSome) :
    ∃ new, vs' = new.reverse ++ vs ∧ (∀ x ∈ new, x ∉ vs) ∧ ReachAll w front new vs is vs' := by
  induction h with
  | nil vs => exact ⟨[], rfl, by simp, .nil vs⟩
  | skip _ _ ih => exact ih fun x hx => hdef x (List.mem_cons_of_mem _ hx)
  | @cons name names vs vs₁ vs₂ is js hname hreach _ ih =>
    obtain ⟨new₁, rfl, hnew₁⟩ := hreach.grows_from (hdef name List.mem_cons_self) hname
    obtain ⟨new₂, rfl, hnew₂, hagain⟩ := ih fun x hx => hdef x (List.mem_cons_of_mem _ hx)
    refine ⟨name :: new₁ ++ new₂, by simp, fun x hx => ?_, ?_⟩
    · rcases List.mem_append.mp hx with hx | hx
      · exact hnew₁ x hx
      · exact fun hc => hnew₂ x hx (List.mem_append_right _ hc)
    · refine .cons hname hreach (hagain.skip_all fun x hx => ?_)
      simp [hx]

section

variable {v : Workflow} (hv : ∀ name, v.activity? name = w.activity? name)

include hv

theorem Reach.congr (h : Reach w o vs is vs') : Reach v o vs is vs' := by
  induction h with
  | nowhere vs => exact .nowhere vs
  | undefined hnone => exact .undefined ((hv _).trans hnone)
  | visited hmem => exact .visited hmem
  | fresh ha hname _ _ ih₁ ih₂ => exact .fresh ((hv _).trans ha) hname ih₁ ih₂

theorem ReachAll.congr (h : ReachAll w front names vs is vs') :
    ReachAll v front names vs is vs' := by
  induction h with
  | nil vs => exact .nil vs
  | skip hmem _ ih => exact .skip hmem ih
  | cons hname hreach _ ih => exact .cons hname (hreach.congr hv) ih

/-- A workflow with the same activities in the order of their visits has the same flowchart. -/
theorem Script.again (h : Script w is vs) (hstart : v.start = w.start)
    (hhandlers : v.handlers = w.handlers) (hkeys : v.activities.keys = vs.reverse) :
    Script v is vs := by
  obtain ⟨is₁, vs₁, is₂, vs₂, is₃, h₁, h₂, h₃, rfl⟩ := h
  obtain ⟨new, rfl, hnew, hagain⟩ := h₃.again fun _ => isSome_of_mem_remaining
  have hremaining : remaining v vs₂ = new := by
    have hout : vs₂.reverse.filter (fun name => !vs₂.contains name) = [] := by simp
    have hin : new.filter (fun name => !vs₂.contains name) = new := by
      refine List.filter_eq_self.mpr fun x hx => ?_
      simpa using hnew x hx
    rw [remaining, hkeys, List.reverse_append, List.reverse_reverse, List.filter_append, hout, hin,
      List.nil_append]
  refine ⟨is₁, vs₁, is₂, vs₂, is₃, ?_, ?_, ?_, rfl⟩
  · rw [hstart]
    exact h₁.congr hv
  · rw [hhandlers]
    exact h₂.congr hv
  · rw [hremaining]
    exact hagain.congr hv

end

/-! ## Uniqueness -/

theorem Reach.unique {js : List Item} {us : List String} (h : Reach w o vs is vs')
    (h' : Reach w o vs js us) : is = js ∧ vs' = us := by
  induction h generalizing js us with
  | nowhere =>
    cases h'
    exact ⟨rfl, rfl⟩
  | undefined hnone =>
    cases h' with
    | undefined => exact ⟨rfl, rfl⟩
    | visited => exact ⟨rfl, rfl⟩
    | fresh ha =>
      rw [hnone] at ha
      cases ha
  | visited hmem =>
    cases h' with
    | undefined => exact ⟨rfl, rfl⟩
    | visited => exact ⟨rfl, rfl⟩
    | fresh _ hname => exact absurd hmem hname
  | fresh ha hname _ _ ih₁ ih₂ =>
    cases h' with
    | undefined hnone =>
      rw [ha] at hnone
      cases hnone
    | visited hmem => exact absurd hmem hname
    | fresh ha' _ h₁ h₂ =>
      obtain rfl := Option.some.inj (ha.symm.trans ha')
      obtain ⟨rfl, rfl⟩ := ih₁ h₁
      obtain ⟨rfl, rfl⟩ := ih₂ h₂
      exact ⟨rfl, rfl⟩

theorem ReachAll.unique {js : List Item} {us : List String} (h : ReachAll w front names vs is vs')
    (h' : ReachAll w front names vs js us) : is = js ∧ vs' = us := by
  induction h generalizing js us with
  | nil =>
    cases h'
    exact ⟨rfl, rfl⟩
  | skip hmem _ ih =>
    cases h' with
    | skip _ hrest => exact ih hrest
    | cons hname => exact absurd hmem hname
  | cons hname hreach _ ih =>
    cases h' with
    | skip hmem => exact absurd hmem hname
    | cons _ hreach' hrest =>
      obtain ⟨rfl, rfl⟩ := hreach.unique hreach'
      obtain ⟨rfl, rfl⟩ := ih hrest
      exact ⟨rfl, rfl⟩

theorem Script.unique {js : List Item} {us : List String} (h : Script w is vs)
    (h' : Script w js us) : is = js ∧ vs = us := by
  obtain ⟨is₁, vs₁, is₂, vs₂, is₃, h₁, h₂, h₃, rfl⟩ := h
  obtain ⟨js₁, us₁, js₂, us₂, js₃, h₁', h₂', h₃', rfl⟩ := h'
  obtain ⟨rfl, rfl⟩ := h₁.unique h₁'
  obtain ⟨rfl, rfl⟩ := h₂.unique h₂'
  obtain ⟨rfl, rfl⟩ := h₃.unique h₃'
  exact ⟨rfl, rfl⟩

/-! ## The writer -/

theorem length_remaining_le {us : List String} (h : ∀ x ∈ vs, x ∈ us) :
    (remaining w us).length ≤ (remaining w vs).length := by
  unfold remaining
  rw [← List.countP_eq_length_filter, ← List.countP_eq_length_filter]
  refine List.countP_mono_left fun x _ hx => ?_
  simp only [Bool.not_eq_true', List.contains_eq_mem, decide_eq_false_iff_not] at hx ⊢
  exact fun hc => hx (h x hc)

/-- A visit leaves fewer activities to visit. -/
theorem length_remaining_cons_lt (hdef : (w.activity? name).isSome) (hname : name ∉ vs) :
    (remaining w (name :: vs)).length < (remaining w vs).length := by
  have hkey : name ∈ remaining w vs :=
    List.mem_filter.mpr ⟨Table.mem_keys_iff.mpr hdef, by simpa using hname⟩
  have hsub : remaining w (name :: vs) = (remaining w vs).filter (· != name) := by
    unfold remaining
    rw [List.filter_filter]
    refine List.filter_congr fun x _ => ?_
    by_cases hx : x = name <;> simp [hx]
  rw [hsub]
  exact List.length_filter_lt_length_iff_exists.mpr ⟨name, hkey, by simp⟩

/-- A draft with the edge of a branch, if there is one, and what it leads to. -/
def writeBranch (w : Workflow) (depth : Nat) (a : Activity) (branch : Branch) (d : Draft) : Draft :=
  match a.target branch with
  | some name => writeFrom w depth name (d.write (edgeLine a branch name))
  | none => d

theorem writeFrom_succ (w : Workflow) (depth : Nat) (name : String) (d : Draft) :
    writeFrom w (depth + 1) name d =
      match w.activity? name with
      | none => d
      | some a =>
        if d.visited.contains a.name then d
        else
          writeBranch w depth a .other (writeBranch w depth a .next
            (Draft.write { d with visited := a.name :: d.visited } (nodeLine a))) := rfl

/-- With enough depth, the writer follows `Reach`. -/
theorem exists_reach (hw : KeyedByName w) {depth : Nat} (hdepth : (remaining w vs).length < depth)
    (name text : String) : ∃ is vs', Reach w (some name) vs is vs' ∧
      writeFrom w depth name ⟨text, vs⟩ = ⟨appendItems text is, vs'⟩ := by
  induction depth generalizing vs name text with
  | zero => omega
  | succ depth ih =>
    have hbranch : ∀ (a : Activity) (b : Branch) (us : List String) (s : String),
        (remaining w us).length < depth → ∃ is us', Reach w (a.target b) us is us' ∧
          writeBranch w depth a b ⟨s, us⟩ = ⟨appendItems s (edges a b ++ is), us'⟩ := by
      intro a b us s hus
      unfold writeBranch edges
      cases a.target b with
      | none => exact ⟨[], us, .nowhere us, rfl⟩
      | some target => exact ih hus target (s ++ edgeLine a b target)
    rw [writeFrom_succ]
    cases ha : w.activity? name with
    | none => exact ⟨[], vs, .undefined ha, rfl⟩
    | some a =>
      have hself := hw _ _ ha
      have hdef : (w.activity? name).isSome := by rw [ha, Option.isSome_some]
      by_cases hname : name ∈ vs
      · have hin : vs.contains name = true := by simpa using hname
        refine ⟨[], vs, .visited hname, ?_⟩
        simp only [hself, hin, if_true]
        rfl
      · have hless := length_remaining_cons_lt hdef hname
        have hfirst : (remaining w (name :: vs)).length < depth := by omega
        obtain ⟨is, vs₁, h₁, hnext⟩ := hbranch a .next (name :: vs) (text ++ nodeLine a) hfirst
        have hle : (remaining w vs₁).length ≤ (remaining w (name :: vs)).length :=
          length_remaining_le fun _ => h₁.subset
        obtain ⟨js, vs₂, h₂, hother⟩ := hbranch a .other vs₁
          (appendItems (text ++ nodeLine a) (edges a .next ++ is)) (by omega)
        refine ⟨_, vs₂, .fresh ha hname h₁ h₂, ?_⟩
        have hout : vs.contains name = false := by simpa using hname
        simp only [hout, hself, Bool.false_eq_true, if_false, Draft.write]
        rw [hnext, hother]
        simp only [List.cons_append, appendItems_node, appendItems_append]

theorem exists_reachAll (hw : KeyedByName w) {step : Draft → String → Draft}
    (hstep : ∀ name vs text, step ⟨text, vs⟩ name =
      if name ∈ vs then ⟨text, vs⟩ else Draft.reach w ⟨appendItems text (front name), vs⟩ name)
    (names vs : List String) (text : String) : ∃ is vs', ReachAll w front names vs is vs' ∧
      names.foldl step ⟨text, vs⟩ = ⟨appendItems text is, vs'⟩ := by
  induction names generalizing vs text with
  | nil => exact ⟨[], vs, .nil vs, rfl⟩
  | cons name names ih =>
    rw [List.foldl_cons, hstep]
    split
    · next hmem =>
      obtain ⟨is, vs', hrest, htext⟩ := ih vs text
      exact ⟨is, vs', .skip hmem hrest, htext⟩
    · next hname =>
      have hdepth : (remaining w vs).length < w.activities.size + 1 := by
        have hkeys : w.activities.keys.length = w.activities.size := List.length_map ..
        have hle := List.length_filter_le (fun name => !vs.contains name) w.activities.keys
        unfold remaining
        omega
      obtain ⟨is, vs₁, h₁, hone⟩ := exists_reach hw hdepth name (appendItems text (front name))
      obtain ⟨js, vs₂, h₂, hrest⟩ := ih vs₁ (appendItems (appendItems text (front name)) is)
      refine ⟨_, vs₂, .cons hname h₁ h₂, ?_⟩
      rw [Draft.reach, hone, hrest, appendItems_append, appendItems_append]

/-- Nothing is written from a name that is visited. -/
theorem reach_eq (hw : KeyedByName w) (name : String) (vs : List String) (text : String) :
    Draft.reach w ⟨text, vs⟩ name =
      if name ∈ vs then ⟨text, vs⟩ else Draft.reach w ⟨appendItems text [], vs⟩ name := by
  split
  · next hmem =>
    rw [Draft.reach, writeFrom_succ]
    cases ha : w.activity? name with
    | none => rfl
    | some a => simp [hw _ _ ha, hmem]
  · rfl

theorem reachHandler_eq (w : Workflow) (name : String) (vs : List String) (text : String) :
    Draft.reachHandler w ⟨text, vs⟩ name =
      if name ∈ vs then ⟨text, vs⟩
      else Draft.reach w ⟨appendItems text [.heading name], vs⟩ name := by
  have hcontains : vs.contains name = decide (name ∈ vs) := List.contains_eq_mem ..
  unfold Draft.reachHandler
  dsimp only
  rw [hcontains]
  by_cases hmem : name ∈ vs
  · rw [if_pos hmem, if_pos (decide_eq_true hmem)]
  · rw [if_neg hmem, if_neg (by simpa using hmem)]
    rfl

theorem body_eq (w : Workflow) : body w =
    (remaining w (w.handlers.foldl (Draft.reachHandler w)
        (w.start.toList.foldl (Draft.reach w) {})).visited).foldl (Draft.reach w)
      (w.handlers.foldl (Draft.reachHandler w) (w.start.toList.foldl (Draft.reach w) {})) := by
  unfold body
  cases w.start <;> rfl

/-- The flowchart of a workflow follows a script. -/
theorem exists_script (hw : KeyedByName w) :
    ∃ is vs, Script w is vs ∧ (body w).text = appendItems "" is := by
  obtain ⟨is₁, vs₁, h₁, hstart⟩ := exists_reachAll hw (reach_eq hw) w.start.toList [] ""
  obtain ⟨is₂, vs₂, h₂, hhandlers⟩ := exists_reachAll hw (reachHandler_eq w) w.handlers vs₁
    (appendItems "" is₁)
  obtain ⟨is₃, vs₃, h₃, hrest⟩ := exists_reachAll hw (reach_eq hw) (remaining w vs₂) vs₂
    (appendItems (appendItems "" is₁) is₂)
  refine ⟨_, vs₃, ⟨is₁, vs₁, is₂, vs₂, is₃, h₁, h₂, h₃, rfl⟩, ?_⟩
  change w.start.toList.foldl (Draft.reach w) {} = _ at hstart
  rw [body_eq, hstart, hhandlers, hrest, appendItems_append, appendItems_append]

/-- The script of a workflow is its flowchart. -/
theorem Script.text (h : Script w is vs) (hw : KeyedByName w) :
    (body w).text = appendItems "" is := by
  obtain ⟨js, us, hscript, htext⟩ := exists_script hw
  obtain ⟨rfl, rfl⟩ := h.unique hscript
  exact htext

end

end Playbook.Flowchart
