/-
  Reading what was written. The document of a workflow that is `Rewritable` is read as a workflow
  with the same content (`read_document`), whose own document is the same text: its activities
  stand in the order in which the writer visits them.
-/
import Mathlib.Data.List.Infix
import Playbook.Proofs.Workflow.PromptWeights

namespace Playbook.Workflow

open Playbook.Text Playbook.Document Playbook.Flowchart

/-- Two workflows that tell the same: activities, parameters and prompts as maps. -/
structure SameContent (w v : Workflow) : Prop where
  name : v.name = w.name
  description : v.description = w.description
  params : ∀ key, v.params.get? key = w.params.get? key
  prompts : ∀ key, v.prompts.get? key = w.prompts.get? key
  activities : ∀ key, v.activity? key = w.activity? key
  start : v.start = w.start
  onSuccess : v.onSuccess = w.onSuccess
  onFailed : v.onFailed = w.onFailed

/-- A workflow whose document tells all of it: every expression survives what is written around
it, no parameter holds a quote, every prompt but the last closes the fences that it opens, and no
line of a prompt but the last ends with a carriage return. -/
structure Rewritable (w : Workflow) : Prop where
  activities : ∀ a ∈ w.activities.values, Survives a.kind a.expression.toList
  params : ∀ p ∈ w.params.entries, PairUnquoted p
  fences : ∀ p ∈ w.prompts.entries.dropLast, fenceLines p.2.content % 2 = 0
  carriage : ∀ p ∈ w.prompts.entries, ¬ ['\r', '\n'] <:+: p.2.content.toList

instance (w : Workflow) : Decidable (Rewritable w) :=
  decidable_of_iff ((∀ a ∈ w.activities.values, Survives a.kind a.expression.toList) ∧
      (∀ p ∈ w.params.entries, PairUnquoted p) ∧
      (∀ p ∈ w.prompts.entries.dropLast, fenceLines p.2.content % 2 = 0) ∧
      ∀ p ∈ w.prompts.entries, ¬ ['\r', '\n'] <:+: p.2.content.toList)
    ⟨fun ⟨activities, params, fences, carriage⟩ => { activities, params, fences, carriage },
      fun h => ⟨h.activities, h.params, h.fences, h.carriage⟩⟩

/-! ## Entries of a written document -/

/-- The entries of an item: an edge declares both of its ends. -/
def itemEntries : Item → List Entry
  | .node a => [.declare a.kind a.name a.expression]
  | .edge a branch target =>
    let kind := (Kind.ofName? target.toList).getD .start
    [.declare a.kind a.name "", .declare kind target "", .connect a.name target branch]
  | .heading _ => []

theorem chartEntries_singleton (n : Nat) {raw text : List Char} (h : trim raw = text)
    (hne : text ≠ []) : chartEntries n [raw] = flowchartEntries n text := by
  rw [chartEntries, h, if_neg (by simpa using hne), chartEntries, List.append_nil]

/-- The lines of an item add its entries. -/
theorem chartEntries_item {w : Workflow} (hw : Assembled w)
    (hlegible : ∀ key a, w.activity? key = some a → Legible a) {i : Item} (hi : i.BelongsTo w)
    (n : Nat) : chartEntries n i.lines = itemEntries i := by
  cases i with
  | node a =>
    have hn := (hw.named _ _ hi).2
    have hread := hlegible _ _ hi n
    rw [trim_nodeLine hn] at hread
    rw [Item.lines, chartEntries_singleton n (trim_indented (tight_nodeText hn))
      (List.append_ne_nil_of_left_ne_nil hn.ne_nil _), hread]
    rfl
  | edge a branch target =>
    obtain ⟨ha, ht⟩ := hi
    have hn := (hw.named _ _ ha).2
    obtain ⟨k, htarget⟩ := hw.names_of_contains (hw.targets _ _ _ _ ha ht)
    have hne : edgeText a branch target ≠ [] := by
      unfold edgeText
      rw [List.append_assoc, List.append_assoc]
      exact List.append_ne_nil_of_left_ne_nil hn.ne_nil _
    rw [Item.lines, chartEntries_singleton n (trim_indented (tight_edgeText hn htarget branch)) hne,
      entries_edgeText hn htarget, itemEntries, htarget.kind]
    rfl
  | heading name =>
    obtain ⟨k, hn⟩ := hw.names_of_contains hi
    have hignored : isIgnored ("%% Event-handler: ".toList ++ name.toList) = true := rfl
    have hempty : ("%% Event-handler: ".toList ++ name.toList).isEmpty = false := rfl
    have hblank : trim [] = [] := rfl
    simp only [Item.lines, chartEntries, trim_heading hn, hempty, hblank, flowchartEntries,
      hignored, itemEntries]
    rfl

theorem chartEntries_items {w : Workflow} (hw : Assembled w)
    (hlegible : ∀ key a, w.activity? key = some a → Legible a) {is : List Item}
    (his : ∀ i ∈ is, i.BelongsTo w) (n : Nat) :
    chartEntries n (is.flatMap Item.lines) = is.flatMap itemEntries := by
  induction is generalizing n with
  | nil => rfl
  | cons i is ih =>
    rw [List.flatMap_cons, List.flatMap_cons, chartEntries_append,
      chartEntries_item hw hlegible (his i List.mem_cons_self),
      ih fun x hx => his x (List.mem_cons_of_mem _ hx)]

/-- The entry of a parameter. -/
def paramEntry (p : String × String) : Entry := .param p.1 p.2

theorem chartEntries_params {w : Workflow} (hw : Assembled w)
    (hq : ∀ p ∈ w.params.entries, PairUnquoted p) (n : Nat) :
    chartEntries n (paramsLines w) = w.params.entries.map paramEntry := by
  unfold paramsLines
  split
  · next hempty =>
    rw [hempty]
    rfl
  · next hne =>
    have hentries := entries_paramsLine hw.params hne hq n
    rw [trim_paramsLine hne] at hentries
    have hne : paramsText w.params.entries ≠ [] := by simp [paramsText, paramsName]
    rw [chartEntries_singleton n (trim_indented (tight_paramsText _)) hne, hentries]
    rfl

/-- What a document tells of a workflow, in order. -/
def writtenEntries (w : Workflow) (ls : List String) (is : List Item) : List Entry :=
  preambleEntries w.name ls ++ (w.params.entries.map paramEntry ++ is.flatMap itemEntries ++
    w.prompts.entries.map sameEntry)

theorem Rewritable.rereadEntry_eq {w : Workflow} (hw : Assembled w)
    (hcarriage : ∀ p ∈ w.prompts.entries, ¬ ['\r', '\n'] <:+: p.2.content.toList) :
    w.prompts.entries.map rereadEntry = w.prompts.entries.map sameEntry := by
  refine List.map_congr_left fun p hp => ?_
  rw [rereadEntry, (rereadContent_eq_iff (hw.prompts p hp).tight).mpr (hcarriage p hp), sameEntry]

theorem Rewritable.legible {w : Workflow} (hr : Rewritable w) (hw : Assembled w) {key : String}
    {a : Activity} (ha : w.activity? key = some a) : Legible a :=
  (legible_iff_survives (hw.named key a ha).2 (hw.expressions key a ha).1).mpr
    (hr.activities a (Table.mem_values_of_get? ha))

/-- The entries of the document of a rewritable workflow. -/
theorem entries_of_rewritable {w : Workflow} (hw : WellFormed w) (hr : Rewritable w)
    {ls : List String} (hls : w.description = joinStrings "\n" ls) (hfits : ∀ l ∈ ls, LineFits l)
    {is : List Item} {vs : List String} (h : Script w is vs) :
    entries w.document = writtenEntries w ls is := by
  obtain ⟨named, n, m, hentries⟩ := entries_document hw hls hfits h
  have hclosed : ∀ p ∈ w.prompts.entries.dropLast, Closed p.2.content := fun p hp =>
    (closed_iff _).mpr (hr.fences p hp)
  rw [hentries, drawnLines, chartEntries_append, chartEntries_params hw.toAssembled hr.params,
    chartEntries_items hw.toAssembled (fun _ _ => hr.legible hw.toAssembled) (h.belongs hw),
    scanFrom_prompts named none m hw.prompts hclosed,
    Rewritable.rereadEntry_eq hw.toAssembled hr.carriage]
  rfl

/-! ## What the entries build -/

section

variable {w : Workflow} {ls : List String} {is : List Item} {vs : List String}

/-- Entries of the preamble, of parameters, of items or of prompts. -/
theorem mem_writtenEntries {e : Entry} (h : e ∈ writtenEntries w ls is) :
    (e = .name w.name ∨ ∃ l, e = .describe l) ∨ (∃ p ∈ w.params.entries, e = paramEntry p) ∨
      (∃ i ∈ is, e ∈ itemEntries i) ∨ ∃ p ∈ w.prompts.entries, e = sameEntry p := by
  simp only [writtenEntries, preambleEntries, List.mem_append, List.mem_map, List.mem_flatMap] at h
  rcases h with (h | ⟨l, _, rfl⟩) | ((⟨p, hp, rfl⟩ | hi) | ⟨p, hp, rfl⟩)
  · split at h
    · cases h
    · exact Or.inl (Or.inl (List.mem_singleton.mp h))
  · exact Or.inl (Or.inr ⟨l, rfl⟩)
  · exact Or.inr (Or.inl ⟨p, hp, rfl⟩)
  · exact Or.inr (Or.inr (Or.inl hi))
  · exact Or.inr (Or.inr (Or.inr ⟨p, hp, rfl⟩))

theorem no_fault_writtenEntries : ∀ f, .fault f ∉ writtenEntries w ls is := by
  intro f hf
  rcases mem_writtenEntries hf with (h | ⟨_, h⟩) | ⟨p, _, h⟩ | ⟨i, _, h⟩ | ⟨p, _, h⟩
  · cases h
  · cases h
  · cases h
  · cases i <;> simp [itemEntries] at h
  · cases h

/-- A document says nothing of activities but what holds of the workflow. -/
theorem faithful_writtenEntries (hw : Assembled w) (his : ∀ i ∈ is, i.BelongsTo w) :
    ∀ e ∈ writtenEntries w ls is, Faithful w e := by
  intro e he
  rcases mem_writtenEntries he with (rfl | ⟨_, rfl⟩) | ⟨p, _, rfl⟩ | ⟨i, hi, he⟩ | ⟨p, _, rfl⟩
  · exact True.intro
  · exact True.intro
  · exact True.intro
  · have hbelongs := his i hi
    cases i with
    | node a =>
      rw [List.mem_singleton.mp he]
      exact ⟨a, hbelongs, rfl, Or.inr rfl⟩
    | edge a branch target =>
      obtain ⟨ha, ht⟩ := hbelongs
      obtain ⟨c, hc⟩ := Option.isSome_iff_exists.mp (hw.targets _ _ _ _ ha ht)
      have hkind : Kind.ofName? target.toList = some c.kind := by
        have hn := hw.named target c hc
        rw [← hn.1]
        exact hn.2.kind
      simp only [itemEntries, hkind, Option.getD_some, List.mem_cons, List.not_mem_nil,
        or_false] at he
      rcases he with rfl | rfl | rfl
      · exact ⟨a, ha, rfl, Or.inl rfl⟩
      · exact ⟨c, hc, rfl, Or.inl rfl⟩
      · exact ⟨a, ha, ht⟩
    | heading name => cases he
  · exact True.intro

/-- A document declares every activity with its expression and its edges. -/
theorem complete_writtenEntries (hw : Assembled w)
    (hshows : ∀ x ∈ w.activities.keys, Shown w is x) (key : String) (a : Activity)
    (ha : w.activity? key = some a) : (∃ k, .declare k key a.expression ∈ writtenEntries w ls is) ∧
      ∀ b t, a.target b = some t → .connect key t b ∈ writtenEntries w ls is := by
  have hkey : key ∈ w.activities.keys :=
    Table.mem_keys_iff.mpr (Option.isSome_iff_exists.mpr ⟨a, ha⟩)
  have hname := (hw.named key a ha).1
  have hitem : ∀ i ∈ is, ∀ e ∈ itemEntries i, e ∈ writtenEntries w ls is := by
    intro i hi e he
    refine List.mem_append_right _ (List.mem_append_left _ (List.mem_append_right _ ?_))
    exact List.mem_flatMap.mpr ⟨i, hi, he⟩
  obtain ⟨hnode, hedges⟩ := hshows key hkey a ha
  refine ⟨⟨a.kind, hitem _ hnode _ ?_⟩, fun b t ht => hitem _ (hedges b t ht) _ ?_⟩
  · rw [← hname]
    exact List.mem_cons_self
  · rw [← hname]
    simp [itemEntries]

theorem foldl_noteStep_items (met : List String) (is : List Item) :
    (is.flatMap itemEntries).foldl noteStep met = noteItems met is := by
  induction is generalizing met with
  | nil => rfl
  | cons i is ih =>
    have hone : (itemEntries i).foldl noteStep met = i.names.foldl note met := by cases i <;> rfl
    rw [List.flatMap_cons, List.foldl_append, hone, ih, noteItems, noteItems, List.flatMap_cons,
      List.foldl_append]

theorem foldl_preamble {β : Type} {step : β → Entry → β} (hname : ∀ h b, step b (.name h) = b)
    (hline : ∀ l b, step b (.describe l) = b) (b : β) (name : String) (ls : List String) :
    (preambleEntries name ls).foldl step b = b := by
  refine foldl_eq_self (fun e he b => ?_) b
  rcases List.mem_append.mp he with he | he
  · split at he
    · cases he
    · rw [List.mem_singleton.mp he, hname]
  · obtain ⟨l, _, rfl⟩ := List.mem_map.mp he
    exact hline l b

theorem foldl_params {β : Type} {step : β → Entry → β} (h : ∀ k v b, step b (.param k v) = b)
    (b : β) (ps : List (String × String)) : (ps.map paramEntry).foldl step b = b := by
  refine foldl_eq_self (fun e he b => ?_) b
  obtain ⟨p, _, rfl⟩ := List.mem_map.mp he
  exact h p.1 p.2 b

theorem foldl_prompts {β : Type} {step : β → Entry → β} (h : ∀ k r c b, step b (.prompt k r c) = b)
    (b : β) (ps : List (String × Prompt)) : (ps.map sameEntry).foldl step b = b := by
  refine foldl_eq_self (fun e he b => ?_) b
  obtain ⟨p, _, rfl⟩ := List.mem_map.mp he
  exact h p.1 p.2.role p.2.content b

theorem foldl_items {β : Type} {step : β → Entry → β}
    (hdeclare : ∀ k n e b, step b (.declare k n e) = b)
    (hconnect : ∀ s t c b, step b (.connect s t c) = b) (b : β) (is : List Item) :
    (is.flatMap itemEntries).foldl step b = b := by
  refine foldl_eq_self (fun e he b => ?_) b
  obtain ⟨i, _, he⟩ := List.mem_flatMap.mp he
  cases i with
  | node a => rw [List.mem_singleton.mp he, hdeclare]
  | edge a branch target =>
    simp only [itemEntries, List.mem_cons, List.not_mem_nil, or_false] at he
    rcases he with rfl | rfl | rfl
    · exact hdeclare _ _ _ b
    · exact hdeclare _ _ _ b
    · exact hconnect _ _ _ b
  | heading name => cases he

/-- What the entries of a document build, part by part. -/
theorem parts_of_addAll {v v' : Workflow} (hfits : ∀ l ∈ ls, LineFits l)
    (hls : w.description = joinStrings "\n" ls) (hnotes : noteItems [] is = vs)
    (hv : v.params = .empty ∧ v.prompts = .empty ∧ v.description = "" ∧ v.name = "" ∧
      v.activities = .empty) (hadd : v.addAll (writtenEntries w ls is) = .ok v') :
    v'.params = w.params ∧ v'.prompts = w.prompts ∧ v'.description = w.description ∧
      v'.name = w.name ∧ v'.activities.keys = vs.reverse := by
  obtain ⟨hparams, hprompts, hdescription, hname, hactivities⟩ := hv
  refine ⟨?_, ?_, ?_, ?_, ?_⟩
  · rw [params_addAll hadd, writtenEntries, List.foldl_append, List.foldl_append, List.foldl_append,
      foldl_preamble (fun _ _ => rfl) (fun _ _ => rfl), foldl_insertStep_map (fun _ => rfl),
      foldl_items (fun _ _ _ _ => rfl) (fun _ _ _ _ => rfl), foldl_prompts (fun _ _ _ _ => rfl),
      hparams, Table.insertAll_entries]
  · rw [prompts_addAll hadd, writtenEntries, List.foldl_append, List.foldl_append,
      List.foldl_append, foldl_preamble (fun _ _ => rfl) (fun _ _ => rfl),
      foldl_params (fun _ _ _ => rfl), foldl_items (fun _ _ _ _ => rfl) (fun _ _ _ _ => rfl),
      foldl_insertStep_map (fun _ => rfl), hprompts, Table.insertAll_entries]
  · have hlines := foldl_describe hfits [] (by simp)
    have hempty : joinStrings "\n" [] = "" := rfl
    have hfirst : ∀ d,
        (if w.name = "" then [] else [Entry.name w.name]).foldl describeStep d = d := by
      intro d
      split <;> rfl
    rw [description_addAll hadd, writtenEntries, List.foldl_append, List.foldl_append,
      List.foldl_append, foldl_prompts (fun _ _ _ _ => rfl),
      foldl_items (fun _ _ _ _ => rfl) (fun _ _ _ _ => rfl), foldl_params (fun _ _ _ => rfl),
      preambleEntries, List.foldl_append, hfirst, hdescription, ← hempty, hlines, hls,
      List.nil_append]
  · have hlines : ∀ n, (ls.map Entry.describe).foldl nameStep n = n := by
      refine foldl_eq_self fun e he n => ?_
      obtain ⟨l, _, rfl⟩ := List.mem_map.mp he
      rfl
    rw [name_addAll hadd, writtenEntries, List.foldl_append, List.foldl_append, List.foldl_append,
      foldl_prompts (fun _ _ _ _ => rfl), foldl_items (fun _ _ _ _ => rfl) (fun _ _ _ _ => rfl),
      foldl_params (fun _ _ _ => rfl), preambleEntries, List.foldl_append, hlines, hname]
    by_cases hempty : w.name = ""
    · rw [if_pos hempty, hempty, List.foldl_nil]
    · rw [if_neg hempty]
      rfl
  · have hkeys := keys_addAll hadd
    rw [writtenEntries, List.foldl_append, List.foldl_append, List.foldl_append,
      foldl_preamble (fun _ _ => rfl) (fun _ _ => rfl), foldl_params (fun _ _ _ => rfl),
      foldl_prompts (fun _ _ _ _ => rfl), foldl_noteStep_items, hactivities] at hkeys
    rw [← List.reverse_reverse v'.activities.keys, hkeys]
    exact congrArg List.reverse hnotes

end

/-! ## The document read again -/

theorem document_congr {w v : Workflow} (hname : v.name = w.name)
    (hdescription : v.description = w.description) (hparams : v.params = w.params)
    (hprompts : v.prompts = w.prompts) (hbody : (body v).text = (body w).text) :
    v.document = w.document := by
  unfold document flowchart paramsLine
  rw [hname, hdescription, hparams, hprompts, hbody]

/-- The document of a rewritable workflow is read as a workflow with the same content and the same
document. -/
theorem read_document {w : Workflow} (hw : WellFormed w) (hr : Rewritable w) :
    ∃ v, read w.document = .ok v ∧ SameContent w v ∧ v.document = w.document := by
  obtain ⟨ls, hls, hfits⟩ := hw.description
  obtain ⟨is, vs, hscript, htext⟩ := exists_script hw.keyed
  have hentries := entries_of_rewritable hw hr hls hfits hscript
  have hground := grounded_entries w.document
  rw [hentries] at hground
  obtain ⟨u, hadd⟩ := exists_addAll no_fault_writtenEntries
    { filepath := "", directory := "." : Workflow }
  obtain ⟨hparams, hprompts, hdescription, hname, hkeys⟩ := parts_of_addAll hfits hls
    (hscript.notes hw) ⟨rfl, rfl, rfl, rfl, rfl⟩ hadd
  have hactivities := activity?_addAll hw.toAssembled
    (faithful_writtenEntries hw.toAssembled (hscript.belongs hw)) hground
    (complete_writtenEntries hw.toAssembled fun _ => hscript.shows) rfl hadd
  have hcontains : u.activities.contains = w.activities.contains := by
    funext key
    exact congrArg Option.isSome (hactivities key)
  have hfirst : ∀ names, u.firstDefined names = w.firstDefined names := fun names => by
    rw [firstDefined, firstDefined, hcontains]
  let v : Workflow := { u with
    start := some startName
    onSuccess := u.firstDefined successHandlers
    onFailed := u.firstDefined failureHandlers }
  have hread : read w.document = .ok v := by
    have hstart : u.activities.contains startName := by
      rw [hcontains]
      exact hw.starts
    rw [read, readAt, hentries, hadd]
    dsimp only
    rw [finish, if_pos hstart]
  have hsame : SameContent w v := {
    name := hname
    description := hdescription
    params := fun key => congrArg (Table.get? · key) hparams
    prompts := fun key => congrArg (Table.get? · key) hprompts
    activities := hactivities
    start := hw.start.symm
    onSuccess := (hfirst _).trans hw.onSuccess.symm
    onFailed := (hfirst _).trans hw.onFailed.symm }
  have hagain : Script v is vs := by
    refine hscript.again hactivities hsame.start ?_ hkeys
    rw [handlers, handlers, hsame.onSuccess, hsame.onFailed]
  refine ⟨v, hread, hsame, document_congr hname hdescription hparams hprompts ?_⟩
  rw [hagain.text (wellFormed_of_readAt hread).keyed, htext]

end Playbook.Workflow
