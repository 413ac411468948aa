/-
  What the reader returns. Every workflow that is read is well formed (`wellFormed_of_read`): each
  activity is stored under its own name, which tells its kind; every edge leads to an activity; and
  all texts are such that they can be written in a document.
-/
import Playbook.Proofs.Table
import Playbook.Proofs.Workflow.Scanning
import Playbook.Workflow.Reading

namespace Playbook.Workflow

open Playbook.Text Playbook.Document Playbook.Flowchart

/-! ## Assembling -/

/-- What holds of a workflow while it is put together. -/
structure Assembled (w : Workflow) : Prop where
  named : ∀ key a, w.activity? key = some a → a.name = key ∧ NamesKind a.kind a.name.toList
  expressions : ∀ key a, w.activity? key = some a →
    Tight a.expression.toList ∧ '\n' ∉ a.expression.toList
  targets : ∀ key a b t, w.activity? key = some a → a.target b = some t → w.activities.contains t
  params : ∀ p ∈ w.params.entries, PairFits p
  prompts : ∀ p ∈ w.prompts.entries, PromptFits p.1 p.2
  description : ∃ ls : List String, w.description = joinStrings "\n" ls ∧ ∀ l ∈ ls, LineFits l
  name : w.name ≠ "" → HeadingFits w.name

/-- Every activity is stored under its own name. -/
def KeyedByName (w : Workflow) : Prop := ∀ key a, w.activity? key = some a → a.name = key

theorem Assembled.keyed {w : Workflow} (h : Assembled w) : KeyedByName w :=
  fun key a ha => (h.named key a ha).1

theorem Assembled.names_of_contains {w : Workflow} (h : Assembled w) {x : String}
    (hx : w.activities.contains x) : ∃ k, NamesKind k x.toList := by
  obtain ⟨a, ha⟩ := Option.isSome_iff_exists.mp hx
  obtain ⟨hname, hkind⟩ := h.named x a ha
  exact ⟨a.kind, hname ▸ hkind⟩

theorem assembled_new (filepath directory : String) : Assembled { filepath, directory } where
  named := nofun
  expressions := nofun
  targets := nofun
  params := nofun
  prompts := nofun
  description := ⟨[], rfl, by simp⟩
  name := fun h => absurd rfl h

/-! ### Activities -/

theorem contains_declare {w : Workflow} {k : Kind} {name e x : String} :
    (w.declare k name e).activities.contains x ↔ x = name ∨ w.activities.contains x := by
  unfold declare
  split
  · next h =>
    rw [Table.contains_alter]
    constructor
    · exact Or.inr
    · rintro (rfl | hx)
      · exact h
      · exact hx
  · exact Table.contains_insert

theorem contains_connect {w : Workflow} {s t x : String} {b : Branch} :
    (w.connect s t b).activities.contains x = w.activities.contains x := by
  simp [connect]

/-- The activity of a name after a declaration. -/
theorem activity?_declare (w : Workflow) (k : Kind) (name e key : String) :
    (w.declare k name e).activity? key =
      if key = name then some (((w.activity? key).map (redeclare e)).getD
        { kind := k, name, expression := e }) else w.activity? key := by
  unfold declare activity?
  split
  · next h =>
    rw [Table.get?_alter]
    split
    · next hkey =>
      subst hkey
      obtain ⟨a, ha⟩ := Option.isSome_iff_exists.mp h
      rw [ha]
      rfl
    · rfl
  · next h =>
    split
    · next hkey =>
      subst hkey
      have hnone : w.activities.get? key = none := by simpa [Table.contains] using h
      rw [Table.get?_insert_self, hnone]
      rfl
    · next hkey => exact Table.get?_insert_of_ne _ _ hkey

/-- The activity of a name after an edge. -/
theorem activity?_connect (w : Workflow) (s t key : String) (b : Branch) :
    (w.connect s t b).activity? key =
      if key = s then (w.activity? key).map (·.connect t b) else w.activity? key :=
  Table.get?_alter _ _ _ _

/-- An activity behind a declaration is as it was, or it is declared anew, or it is new. -/
theorem activity_declare_cases {w : Workflow} {k : Kind} {name e key : String} {a : Activity}
    (h : (w.declare k name e).activity? key = some a) :
    w.activity? key = some a ∨ key = name ∧
      ((∃ b, w.activity? name = some b ∧ a = redeclare e b) ∨
        w.activity? name = none ∧ a = { kind := k, name, expression := e }) := by
  rw [activity?_declare] at h
  split at h
  · next hkey =>
    subst hkey
    right
    cases hold : w.activity? key with
    | none =>
      rw [hold] at h
      exact ⟨rfl, Or.inr ⟨rfl, (Option.some.inj h).symm⟩⟩
    | some b =>
      rw [hold] at h
      exact ⟨rfl, Or.inl ⟨b, rfl, (Option.some.inj h).symm⟩⟩
  · exact Or.inl h

/-- An activity behind an edge is as it was, or the edge leaves it. -/
theorem activity_connect_cases {w : Workflow} {s t key : String} {b : Branch} {a : Activity}
    (h : (w.connect s t b).activity? key = some a) :
    w.activity? key = some a ∨ key = s ∧ ∃ c, w.activity? s = some c ∧ a = c.connect t b := by
  rw [activity?_connect] at h
  split at h
  · next hkey =>
    obtain ⟨c, hc, rfl⟩ := Option.map_eq_some_iff.mp h
    exact Or.inr ⟨hkey, c, hkey ▸ hc, rfl⟩
  · exact Or.inl h

@[simp] theorem redeclare_kind (e : String) (a : Activity) : (redeclare e a).kind = a.kind := by
  unfold redeclare
  split <;> rfl

@[simp] theorem redeclare_name (e : String) (a : Activity) : (redeclare e a).name = a.name := by
  unfold redeclare
  split <;> rfl

@[simp] theorem redeclare_target (e : String) (a : Activity) (b : Branch) :
    (redeclare e a).target b = a.target b := by
  unfold redeclare
  split <;> cases b <;> rfl

theorem redeclare_expression (e : String) (a : Activity) :
    (redeclare e a).expression = if e = "" then a.expression else e := by
  unfold redeclare
  by_cases h : e = "" <;> simp [h]

@[simp] theorem connect_kind (a : Activity) (t : String) (b : Branch) :
    (a.connect t b).kind = a.kind := by
  cases b <;> rfl

@[simp] theorem connect_name (a : Activity) (t : String) (b : Branch) :
    (a.connect t b).name = a.name := by
  cases b <;> rfl

@[simp] theorem connect_expression (a : Activity) (t : String) (b : Branch) :
    (a.connect t b).expression = a.expression := by
  cases b <;> rfl

theorem connect_target (a : Activity) (t : String) (b c : Branch) :
    (a.connect t b).target c = if c = b then some t else a.target c := by
  cases b <;> cases c <;> rfl

theorem assembled_declare {w : Workflow} (h : Assembled w) {k : Kind} {name e : String}
    (hfits : FitsChart (.declare k name e)) : Assembled (w.declare k name e) := by
  obtain ⟨hname, ht, hnewline⟩ := hfits
  have hothers : (w.declare k name e).params = w.params ∧ (w.declare k name e).prompts = w.prompts ∧
      (w.declare k name e).description = w.description ∧ (w.declare k name e).name = w.name := by
    unfold declare
    split <;> exact ⟨rfl, rfl, rfl, rfl⟩
  obtain ⟨hparams, hprompts, hdescription, hheading⟩ := hothers
  refine ⟨fun key a ha => ?_, fun key a ha => ?_, fun key a b t ha htarget => ?_,
    by rw [hparams]; exact h.params, by rw [hprompts]; exact h.prompts,
    by rw [hdescription]; exact h.description, by rw [hheading]; exact h.name⟩
  · rcases activity_declare_cases ha with ha | ⟨rfl, ⟨a', ha', rfl⟩ | ⟨_, rfl⟩⟩
    · exact h.named key a ha
    · rw [redeclare_name, redeclare_kind]
      exact h.named key a' ha'
    · exact ⟨rfl, hname⟩
  · rcases activity_declare_cases ha with ha | ⟨rfl, ⟨a', ha', rfl⟩ | ⟨_, rfl⟩⟩
    · exact h.expressions key a ha
    · rw [redeclare_expression]
      split
      · exact h.expressions key a' ha'
      · exact ⟨ht, hnewline⟩
    · exact ⟨ht, hnewline⟩
  · rw [contains_declare]
    right
    rcases activity_declare_cases ha with ha | ⟨rfl, ⟨a', ha', rfl⟩ | ⟨_, rfl⟩⟩
    · exact h.targets key a b t ha htarget
    · rw [redeclare_target] at htarget
      exact h.targets key a' b t ha' htarget
    · cases b <;> cases htarget

theorem assembled_connect {w : Workflow} (h : Assembled w) {s t : String} {b : Branch}
    (ht : w.activities.contains t) : Assembled (w.connect s t b) := by
  refine ⟨fun key a ha => ?_, fun key a ha => ?_, fun key a c u ha htarget => ?_, h.params,
    h.prompts, h.description, h.name⟩
  · rcases activity_connect_cases ha with ha | ⟨rfl, a', ha', rfl⟩
    · exact h.named key a ha
    · rw [connect_name, connect_kind]
      exact h.named key a' ha'
  · rcases activity_connect_cases ha with ha | ⟨rfl, a', ha', rfl⟩
    · exact h.expressions key a ha
    · rw [connect_expression]
      exact h.expressions key a' ha'
  · rw [contains_connect]
    rcases activity_connect_cases ha with ha | ⟨rfl, a', ha', rfl⟩
    · exact h.targets key a c u ha htarget
    · rw [connect_target] at htarget
      split at htarget
      · exact Option.some.inj htarget ▸ ht
      · exact h.targets key a' c u ha' htarget

/-! ### Descriptions -/

theorem joinStrings_concat {sep : String} {ls : List String} (hne : ls ≠ []) (l : String) :
    joinStrings sep (ls ++ [l]) = joinStrings sep ls ++ sep ++ l := by
  induction ls with
  | nil => exact absurd rfl hne
  | cons m ls ih =>
    cases ls with
    | nil => rfl
    | cons n ls =>
      have htail := ih (List.cons_ne_nil n ls)
      rw [List.cons_append] at htail
      rw [List.cons_append, List.cons_append, joinStrings, htail, joinStrings]
      simp only [String.append_assoc]

theorem joinStrings_ne_empty {ls : List String} (h : ∀ l ∈ ls, LineFits l) (hne : ls ≠ []) :
    joinStrings "\n" ls ≠ "" := by
  obtain ⟨l, ls, rfl⟩ := List.exists_cons_of_ne_nil hne
  have hl := (h l List.mem_cons_self).ne_empty
  intro hempty
  cases ls with
  | nil => exact hl hempty
  | cons m ls =>
    have := congrArg String.toList hempty
    rw [joinStrings, String.toList_append, String.toList_append] at this
    simp at this

/-- A description grows by one line. -/
theorem addLine_joinStrings {ls : List String} (h : ∀ l ∈ ls, LineFits l) (l : String) :
    addLine (joinStrings "\n" ls) l = joinStrings "\n" (ls ++ [l]) := by
  unfold addLine
  by_cases hne : ls = []
  · subst hne
    rfl
  · have hempty : (joinStrings "\n" ls).isEmpty = false := by
      simpa using joinStrings_ne_empty h hne
    rw [hempty, joinStrings_concat hne]
    rfl

/-! ### Entries -/

theorem assembled_add {w w' : Workflow} (h : Assembled w) {e : Entry} (hfits : Fits e)
    (htarget : ∀ s t b, e = .connect s t b → w.activities.contains t) (hadd : w.add e = .ok w') :
    Assembled w' := by
  cases e with
  | describe line =>
    cases hadd
    obtain ⟨ls, hls, hall⟩ := h.description
    refine ⟨h.named, h.expressions, h.targets, h.params, h.prompts, ⟨ls ++ [line], ?_, ?_⟩, h.name⟩
    · dsimp only
      rw [hls, addLine_joinStrings hall]
    · intro l hl
      rcases List.mem_append.mp hl with hl | hl
      · exact hall l hl
      · exact List.mem_singleton.mp hl ▸ hfits
  | name heading =>
    cases hadd
    exact ⟨h.named, h.expressions, h.targets, h.params, h.prompts, h.description, fun _ => hfits⟩
  | param key value =>
    cases hadd
    refine ⟨h.named, h.expressions, h.targets, fun p hp => ?_, h.prompts, h.description, h.name⟩
    rcases Table.mem_entries_insert hp with rfl | hp
    · exact hfits
    · exact h.params p hp
  | declare k name expression =>
    cases hadd
    exact assembled_declare h hfits
  | connect source target branch =>
    cases hadd
    exact assembled_connect h (htarget _ _ _ rfl)
  | prompt key role content =>
    cases hadd
    refine ⟨h.named, h.expressions, h.targets, h.params, fun p hp => ?_, h.description, h.name⟩
    rcases Table.mem_entries_insert hp with rfl | hp
    · exact hfits
    · exact h.prompts p hp
  | blankPrompt key =>
    cases hadd
    exact h
  | skipSection heading =>
    cases hadd
    exact h
  | fault f => cases hadd

/-- Entries only add activities. -/
theorem contains_of_add {w w' : Workflow} {e : Entry} (hadd : w.add e = .ok w') {x : String}
    (hx : w.activities.contains x) : w'.activities.contains x := by
  cases e with
  | declare k name expression =>
    cases hadd
    exact contains_declare.mpr (Or.inr hx)
  | connect source target branch =>
    cases hadd
    rwa [contains_connect]
  | fault f => cases hadd
  | _ =>
    cases hadd
    exact hx

/-- Entries are added one by one. -/
theorem addAll_cons {w w' : Workflow} {e : Entry} {es : List Entry}
    (h : w.addAll (e :: es) = .ok w') : ∃ v, w.add e = .ok v ∧ v.addAll es = .ok w' := by
  rw [addAll] at h
  split at h
  · next v hone => exact ⟨v, hone, h⟩
  · cases h

/-- What every entry keeps, all of them together keep. -/
theorem addAll_keeps {P : Workflow → Prop} {w w' : Workflow} {es : List Entry}
    (hkeeps : ∀ e ∈ es, ∀ {v v' : Workflow}, v.add e = .ok v' → P v → P v')
    (hadd : w.addAll es = .ok w') (h : P w) : P w' := by
  induction es generalizing w with
  | nil =>
    cases hadd
    exact h
  | cons e es ih =>
    obtain ⟨v, hone, hadd⟩ := addAll_cons hadd
    exact ih (fun x hx => hkeeps x (List.mem_cons_of_mem _ hx)) hadd
      (hkeeps e List.mem_cons_self hone h)

/-- Where all edges join names that are there or declared before, the first entry joins names that
are there, and the others are grounded in what is there behind it. -/
theorem grounded_behind {w w' : Workflow} {e : Entry} {es : List Entry} {known : List String}
    (hground : Grounded known (e :: es)) (hknown : ∀ x ∈ known, w.activities.contains x)
    (hadd : w.add e = .ok w') :
    (∀ s t b, e = .connect s t b → w.activities.contains s ∧ w.activities.contains t) ∧
      ∃ known', Grounded known' es ∧ ∀ x ∈ known', w'.activities.contains x := by
  have hmore : ∀ x ∈ known, w'.activities.contains x := fun x hx =>
    contains_of_add hadd (hknown x hx)
  cases e with
  | declare k name expression =>
    refine ⟨fun s t b he => (by cases he), name :: known, hground, fun x hx => ?_⟩
    rcases List.mem_cons.mp hx with rfl | hx
    · cases hadd
      exact contains_declare.mpr (Or.inl rfl)
    · exact hmore x hx
  | connect source target branch =>
    refine ⟨fun s t b he => ?_, known, hground.2.2, hmore⟩
    cases he
    exact ⟨hknown source hground.1, hknown target hground.2.1⟩
  | _ => exact ⟨fun s t b he => (by cases he), known, hground, hmore⟩

theorem assembled_addAll {w w' : Workflow} (h : Assembled w) {es : List Entry} {known : List String}
    (hfits : ∀ e ∈ es, Fits e) (hground : Grounded known es)
    (hknown : ∀ x ∈ known, w.activities.contains x) (hadd : w.addAll es = .ok w') :
    Assembled w' := by
  induction es generalizing w known with
  | nil =>
    cases hadd
    exact h
  | cons e es ih =>
    obtain ⟨w₁, hone, hadd⟩ := addAll_cons hadd
    obtain ⟨hends, known', hground', hknown'⟩ := grounded_behind hground hknown hone
    have hassembled := assembled_add h (hfits e List.mem_cons_self)
      (fun s t b he => (hends s t b he).2) hone
    exact ih hassembled (fun x hx => hfits x (List.mem_cons_of_mem _ hx)) hground' hknown' hadd

/-! ## Reading -/

/-- What holds of a workflow that was read. -/
structure WellFormed (w : Workflow) : Prop extends Assembled w where
  start : w.start = some startName
  starts : w.activities.contains startName
  onSuccess : w.onSuccess = w.firstDefined successHandlers
  onFailed : w.onFailed = w.firstDefined failureHandlers

namespace WellFormed

variable {w : Workflow}

theorem start_defined (h : WellFormed w) : ∀ name ∈ w.start.toList, (w.activity? name).isSome := by
  intro name hname
  rw [h.start] at hname
  rw [List.mem_singleton.mp hname]
  exact h.starts

/-- The handlers are activities. -/
theorem handlers_defined (h : WellFormed w) : ∀ name ∈ w.handlers, (w.activity? name).isSome := by
  intro name hname
  obtain ⟨o, ho, rfl⟩ := List.mem_filterMap.mp hname
  have hfirst : ∃ names, some name = w.firstDefined names := by
    rcases List.mem_cons.mp ho with ho | ho
    · exact ⟨_, ho.trans h.onSuccess⟩
    · exact ⟨_, (List.mem_singleton.mp ho).trans h.onFailed⟩
  obtain ⟨names, hfind⟩ := hfirst
  exact List.find?_some (p := w.activities.contains) hfind.symm

end WellFormed

theorem exists_of_any (text : String) (p : Workflow → Bool) (h : (read text).toOption.any p) :
    ∃ w, read text = .ok w ∧ p w := by
  cases hread : read text with
  | error f =>
    rw [hread] at h
    cases h
  | ok w =>
    rw [hread] at h
    exact ⟨w, rfl, h⟩

/-- What is read is built from the entries of the document; only its ways in and out come last. -/
theorem exists_addAll_of_readAt {filepath directory text : String} {v : Workflow}
    (h : readAt filepath directory text = .ok v) :
    ∃ u, addAll { filepath, directory } (entries text) = .ok u ∧
      v.params = u.params ∧ v.prompts = u.prompts ∧ v.activities = u.activities := by
  unfold readAt at h
  split at h
  · next u hadd =>
    refine ⟨u, hadd, ?_⟩
    unfold finish at h
    split at h
    · cases h
      exact ⟨rfl, rfl, rfl⟩
    · cases h
  · cases h

/-- What the reader returns is well formed. -/
theorem wellFormed_of_readAt {filepath directory text : String} {w : Workflow}
    (h : readAt filepath directory text = .ok w) : WellFormed w := by
  unfold readAt at h
  split at h
  · next w₁ hadd =>
    have hassembled := assembled_addAll (assembled_new filepath directory)
      (fun e he => fits_of_mem_entries e he) (grounded_entries text) (by simp) hadd
    unfold finish at h
    split at h
    · next hstart =>
      cases h
      exact {
        named := hassembled.named
        expressions := hassembled.expressions
        targets := hassembled.targets
        params := hassembled.params
        prompts := hassembled.prompts
        description := hassembled.description
        name := hassembled.name
        start := rfl
        starts := hstart
        onSuccess := rfl
        onFailed := rfl }
    · cases h
  · cases h

end Playbook.Workflow
