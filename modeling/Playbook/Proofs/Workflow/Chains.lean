/-
  Chains. A line with several arrows is short for one line for each of them. A chain declares all of
  its nodes before it joins any; its links declare and join in turns, and most nodes twice. Yet both
  build the same (`addAll_links`), so a document reads the same with a chain as with its links
  (`chain_reads_as_links`).
-/
import Playbook.Proofs.Workflow.FirstFault

namespace Playbook.Document

/-- What a chain adds: all its nodes, then the edges. -/
def chainEntries (ps : List Part) : List Entry := ps.map Part.entry ++ joins ps

/-- What a chain adds that is written link by link. -/
def linkEntries : List Part → List Entry
  | p :: q :: ps => chainEntries [p, q] ++ linkEntries (q :: ps)
  | _ => []

end Playbook.Document

namespace Playbook.Workflow

open Playbook.Document

/-! ## Declarations and edges in another order -/

theorem ext_activities {v w : Workflow} (hframe : v = { w with activities := v.activities })
    (hkeys : v.activities.keys.reverse = w.activities.keys.reverse)
    (h : ∀ key, v.activity? key = w.activity? key) : v = w := by
  rw [hframe, Table.ext_get? (List.reverse_inj.mp hkeys) h]

/-- A declaration changes the activities alone. -/
theorem declare_eq (w : Workflow) (k : Kind) (name e : String) :
    w.declare k name e = { w with activities := (w.declare k name e).activities } := by
  unfold declare
  split <;> rfl

theorem redeclare_connect (e : String) (a : Activity) (t : String) (b : Branch) :
    redeclare e (a.connect t b) = (redeclare e a).connect t b := by
  unfold redeclare
  split
  · rfl
  · cases b <;> rfl

theorem redeclare_redeclare (e : String) (a : Activity) :
    redeclare e (redeclare e a) = redeclare e a := by
  unfold redeclare
  split <;> rfl

/-- An edge from an activity that is there may as well be drawn behind a declaration. -/
theorem declare_connect {w : Workflow} {s : String} (hs : w.activities.contains s) (t : String)
    (b : Branch) (k : Kind) (name e : String) :
    (w.connect s t b).declare k name e = (w.declare k name e).connect s t b := by
  refine ext_activities ?_ ?_ fun key => ?_
  · rw [declare_eq, declare_eq w]
    rfl
  · have hconnect : ∀ u : Workflow, (u.connect s t b).activities.keys = u.activities.keys :=
      fun u => Table.keys_alter ..
    rw [keys_declare, hconnect, hconnect, keys_declare]
  · rw [activity?_declare, activity?_connect, activity?_connect, activity?_declare]
    by_cases hname : key = name
    · rw [if_pos hname, if_pos hname]
      by_cases hsource : key = s
      · obtain ⟨a, ha⟩ := Option.isSome_iff_exists.mp hs
        have ha : w.activity? key = some a := hsource ▸ ha
        rw [if_pos hsource, if_pos hsource, ha]
        exact congrArg some (redeclare_connect e a t b)
      · rw [if_neg hsource, if_neg hsource]
    · rw [if_neg hname, if_neg hname]

/-- A declaration made twice is made once. -/
theorem declare_declare (w : Workflow) (k : Kind) (name e : String) :
    (w.declare k name e).declare k name e = w.declare k name e := by
  refine ext_activities (declare_eq _ k name e) ?_ fun key => ?_
  · have htwice : ∀ met, note (note met name) name = note met name := by
      intro met
      have hmem : name ∈ note met name := by
        unfold note
        split
        · assumption
        · exact List.mem_cons_self
      rw [note, if_pos hmem]
    rw [keys_declare, keys_declare, htwice]
  · rw [activity?_declare, activity?_declare]
    by_cases hname : key = name
    · have hnew : redeclare e { kind := k, name, expression := e } =
          { kind := k, name, expression := e } := by
        unfold redeclare
        split <;> rfl
      rw [if_pos hname, if_pos hname]
      cases w.activity? key with
      | none => exact congrArg some hnew
      | some a => exact congrArg some (redeclare_redeclare e a)
    · rw [if_neg hname, if_neg hname]

/-! ## Chains -/

theorem addAll_part (w : Workflow) (p : Part) (es : List Entry) :
    w.addAll (p.entry :: es) = (w.declare p.kind p.name p.expression).addAll es := rfl

theorem addAll_connect (w : Workflow) (s t : String) (b : Branch) (es : List Entry) :
    w.addAll (.connect s t b :: es) = (w.connect s t b).addAll es := rfl

theorem addAll_connect_parts {w : Workflow} {s : String} (hs : w.activities.contains s)
    (t : String) (b : Branch) (ps : List Part) (es : List Entry) :
    (w.connect s t b).addAll (ps.map Part.entry ++ es) =
      w.addAll (ps.map Part.entry ++ .connect s t b :: es) := by
  induction ps generalizing w with
  | nil => rfl
  | cons p ps ih =>
    rw [List.map_cons, List.cons_append, List.cons_append, addAll_part, addAll_part,
      declare_connect hs]
    exact ih (contains_declare.mpr (Or.inr hs))

/-- A chain builds what its links build. -/
theorem addAll_links (w : Workflow) (p q : Part) (ps : List Part) :
    w.addAll (linkEntries (p :: q :: ps)) = w.addAll (chainEntries (p :: q :: ps)) := by
  induction ps generalizing w p q with
  | nil => rfl
  | cons r ps ih =>
    have hlink : linkEntries (p :: q :: r :: ps) = p.entry :: q.entry ::
        .connect p.name q.name q.branch :: linkEntries (q :: r :: ps) := by
      rw [linkEntries]
      rfl
    have hchain : chainEntries (p :: q :: r :: ps) = p.entry :: q.entry ::
        ((r :: ps).map Part.entry ++ .connect p.name q.name q.branch :: joins (q :: r :: ps)) := by
      rw [chainEntries, joins]
      rfl
    rw [hlink, hchain, addAll_part, addAll_part, addAll_part, addAll_part, addAll_connect, ih]
    -- the first link has declared both of its nodes; the rest declares the second once more
    have hp : ((w.declare p.kind p.name p.expression).declare q.kind q.name
        q.expression).activities.contains p.name :=
      contains_declare.mpr (Or.inr (contains_declare.mpr (Or.inl rfl)))
    rw [chainEntries, addAll_connect_parts hp, List.map_cons, List.cons_append, addAll_part,
      declare_declare]

end Playbook.Workflow

namespace Playbook.Flowchart

open Playbook.Text Playbook.Document

/-! ## Labels and nodes -/

/-- A label that names a branch has no part in how its line is cut. -/
theorem plain_of_ofLabel? {cs : List Char} {b : Branch} (h : Branch.ofLabel? cs = some b) :
    Plain cs := by
  have hwords : ∀ word ∈ Branch.nextWords ++ Branch.otherWords, word.toList.all isNameChar := by
    decide
  have hmem : String.ofList (upperAscii (trim cs)) ∈ Branch.nextWords ++ Branch.otherWords := by
    unfold Branch.ofLabel? at h
    dsimp only at h
    split at h
    · next hnext => exact List.mem_append_left _ (by simpa using hnext)
    · split at h
      · next hother => exact List.mem_append_right _ (by simpa using hother)
      · cases h
  have hupper : (upperAscii (trim cs)).all isNameChar := by
    have hword := hwords _ hmem
    rwa [String.toList_ofList] at hword
  have hchar : ∀ c : Char, isNameChar c.toUpper → isNameChar c := by
    intro c hc
    by_cases hlower : c.isLower
    · have hletter : c.isAlpha := Bool.or_eq_true_iff.mpr (Or.inr hlower)
      have halphanum : c.isAlphanum := Bool.or_eq_true_iff.mpr (Or.inl hletter)
      exact Bool.or_eq_true_iff.mpr (Or.inl halphanum)
    · have hsame : c.toUpper = c := dif_neg fun hrange =>
        hlower (Bool.and_eq_true_iff.mpr ⟨decide_eq_true hrange.1, decide_eq_true hrange.2⟩)
      rwa [hsame] at hc
  have hplain : Plain (trim cs) := by
    refine plain_of_forall (p := isNameChar) (by decide) fun c hc => hchar c ?_
    exact List.all_eq_true.mp hupper _ (List.mem_map_of_mem hc)
  obtain ⟨l, r, hcs, hl, hr⟩ := exists_trim cs
  rw [hcs]
  exact ((plain_of_blank hl).append hplain).append (plain_of_blank hr)

theorem splitLabel_cases (segment : List Char) : splitLabel segment = (none, segment) ∨
    ∃ word rest, segment = '|' :: word ++ '|' :: rest ∧
      splitLabel segment = (some (trim word), trim rest) := by
  unfold splitLabel
  split
  · next rest =>
    split
    · next word behind hsplit =>
      obtain ⟨rfl, _⟩ := splitOnce_eq_some hsplit
      exact Or.inr ⟨word, behind, rfl, rfl⟩
    · exact Or.inl rfl
  · exact Or.inl rfl

theorem tight_splitLabel {segment : List Char} (h : Tight segment) :
    Tight (splitLabel segment).2 := by
  rcases splitLabel_cases segment with hnone | ⟨word, rest, _, hsome⟩
  · rwa [hnone]
  · rw [hsome]
    exact tight_trim rest

section

variable {segment : List Char} (h : Plain ((splitLabel segment).1.getD []))

include h

/-- Without a plain label a segment is what is behind it, as far as cuts go. -/
theorem exists_plain_front : ∃ front rest, segment = front ++ rest ∧ Plain front ∧
    ((splitLabel segment).2 = rest ∨ (splitLabel segment).2 = trim rest) := by
  rcases splitLabel_cases segment with hnone | ⟨word, rest, hsegment, hsome⟩
  · exact ⟨[], segment, rfl, plain_nil, Or.inl (by rw [hnone])⟩
  · have hbar : Plain ['|'] := by decide
    have hword : Plain word := by
      rw [hsome] at h
      obtain ⟨l, r, hcs, hl, hr⟩ := exists_trim word
      rw [hcs]
      exact ((plain_of_blank hl).append h).append (plain_of_blank hr)
    refine ⟨['|'] ++ word ++ ['|'], rest, by simp [hsegment], (hbar.append hword).append hbar, ?_⟩
    exact Or.inr (by rw [hsome])

theorem looseArrow_splitLabel (s : Nesting) :
    LooseArrow s (splitLabel segment).2 ↔ LooseArrow s segment := by
  obtain ⟨front, rest, hsegment, hfront, hnode | hnode⟩ := exists_plain_front h
  · rw [hnode, hsegment, hfront.looseArrow_append_iff]
  · rw [hnode, hsegment, hfront.looseArrow_append_iff, looseArrow_trim]

theorem afterAll_splitLabel (s : Nesting) :
    s.afterAll (splitLabel segment).2 = s.afterAll segment := by
  obtain ⟨front, rest, hsegment, hfront, hnode | hnode⟩ := exists_plain_front h
  · rw [hnode, hsegment, Nesting.afterAll_append, hfront.afterAll]
  · rw [hnode, hsegment, Nesting.afterAll_append, hfront.afterAll, afterAll_trim]

end

/-- The node of an activity begins with its name. -/
theorem exists_name_of_node {source : List Char} (ht : Tight source) {k : Kind}
    {name expression : String} (h : node source = .ok (.activity k name expression)) :
    ∃ rest, source = name.toList ++ rest ∧ NamesKind k name.toList ∧
      ∀ c, rest.head? = some c → isNameChar c = false := by
  refine ⟨source.dropWhile isNameChar, ?_⟩
  have hrest : ∀ c, (source.dropWhile isNameChar).head? = some c → isNameChar c = false := by
    intro c hc
    have hhead := List.head?_dropWhile_not isNameChar source
    simpa [hc] using hhead
  unfold node at h
  dsimp only at h
  rw [ht.trim_eq] at h
  split at h
  · cases h
  · split at h
    · split at h
      · cases h
      · cases h
    · split at h
      · cases h
      · next hk =>
        split at h
        · cases h
        · cases h
          rw [String.toList_ofList]
          refine ⟨List.takeWhile_append_dropWhile.symm, ⟨fun c hc => ?_, hk⟩, hrest⟩
          exact List.all_eq_true.mp List.all_takeWhile c hc

end Playbook.Flowchart

namespace Playbook.Document

open Playbook.Text Playbook.Flowchart

/-! ## Links -/

/-- A line for the arrow between two segments: the node of the first, without its label, and the
second with its own. -/
def IsLink (segment next line : List Char) : Prop :=
  ∃ b b', isAllBlank b ∧ isAllBlank b' ∧
    trim line = (splitLabel (trim segment)).2 ++ b ++ arrow ++ b' ++ trim next

/-- A line for each of the arrows between segments. -/
inductive Links : List (List Char) → List (List Char) → Prop
  | done (segment : List Char) : Links [segment] []
  | link {segment next line : List Char} {segs lines : List (List Char)} :
    IsLink segment next line → Links (next :: segs) lines →
      Links (segment :: next :: segs) (line :: lines)

/-- The line for the arrow between two segments, with one blank on each side of it. -/
def linkLine (segment next : List Char) : List Char :=
  (splitLabel (trim segment)).2 ++ " --> ".toList ++ trim next

/-- The lines for the arrows between segments. -/
def linkLines : List (List Char) → List (List Char)
  | segment :: next :: segs => linkLine segment next :: linkLines (next :: segs)
  | _ => []

theorem isLink_linkLine {segment next : List Char} {p q : Part} (hp : part? segment = some p)
    (hq : part? next = some q) : IsLink segment next (linkLine segment next) := by
  have hsource : Tight (splitLabel (trim segment)).2 := tight_splitLabel (tight_trim segment)
  obtain ⟨rest, hname, hnames, _⟩ := exists_name_of_node hsource (part?_eq_some hp).2
  have hne : (splitLabel (trim segment)).2 ≠ [] := by
    rw [hname]
    exact List.append_ne_nil_of_left_ne_nil hnames.ne_nil _
  have hnext : trim next ≠ [] := by
    intro hnil
    have hnode := (part?_eq_some hq).2
    rw [hnil] at hnode
    cases hnode
  have hlast : ∀ c, (" --> ".toList ++ trim next).getLast? = some c → isBlank c = false := by
    intro c hc
    rw [List.getLast?_append, List.getLast?_eq_some_getLast hnext, Option.some_or,
      ← List.getLast?_eq_some_getLast hnext] at hc
    exact (tight_trim next).2 c hc
  have htrim : trim (linkLine segment next) = linkLine segment next := by
    rw [linkLine, List.append_assoc]
    exact (tight_append hne hsource hlast).trim_eq
  refine ⟨[' '], [' '], by decide, by decide, ?_⟩
  rw [htrim, linkLine]
  simp [arrow]

theorem links_linkLines {segs : List (List Char)} {ps : List Part} (hne : segs ≠ [])
    (hparts : segs.map part? = ps.map some) : Links segs (linkLines segs) := by
  induction segs generalizing ps with
  | nil => exact absurd rfl hne
  | cons segment segs ih =>
    obtain _ | ⟨next, segs⟩ := segs
    · exact .done segment
    · obtain _ | ⟨p, _ | ⟨q, ps⟩⟩ := ps
      · simp at hparts
      · simp at hparts
      · obtain ⟨hp, hparts⟩ := List.cons.inj hparts
        obtain ⟨hq, _⟩ := List.cons.inj hparts
        exact .link (isLink_linkLine hp hq) (ih (List.cons_ne_nil _ _) hparts)

theorem not_mem_linkLines {segs : List (List Char)} (h : ∀ s ∈ segs, '\n' ∉ s) :
    ∀ l ∈ linkLines segs, '\n' ∉ l := by
  induction segs with
  | nil => exact nofun
  | cons segment segs ih =>
    obtain _ | ⟨next, segs⟩ := segs
    · exact nofun
    · intro l hl
      rcases List.mem_cons.mp hl with rfl | hl
      · have harrow : '\n' ∉ " --> ".toList := by decide
        have hnext : '\n' ∉ trim next := fun hc => h next (by simp) (mem_of_mem_trim hc)
        rw [linkLine, List.mem_append, List.mem_append, not_or, not_or]
        exact ⟨⟨newline_of_splitLabel (h segment List.mem_cons_self), harrow⟩, hnext⟩
      · exact ih (fun s hs => h s (List.mem_cons_of_mem _ hs)) l hl

section

variable {segment next line : List Char} {p q : Part} (hlink : IsLink segment next line)
  (hp : part? segment = some p)

include hlink hp

/-- A link begins with the name of an activity. -/
theorem exists_name_of_link : ∃ rest, trim line = p.name.toList ++ rest ∧
    NamesKind p.kind p.name.toList ∧ ∀ c, rest.head? = some c → isNameChar c = false := by
  obtain ⟨b, b', hb, hb', hline⟩ := hlink
  obtain ⟨rest, hsource, hname, hrest⟩ :=
    exists_name_of_node (tight_splitLabel (tight_trim segment)) (part?_eq_some hp).2
  refine ⟨rest ++ (b ++ (arrow ++ b' ++ trim next)), by rw [hline, hsource]; simp, hname, ?_⟩
  intro c hc
  rw [List.head?_append] at hc
  cases hhead : rest.head? with
  | some d =>
    rw [hhead, Option.some_or] at hc
    exact hrest c (hhead.trans hc)
  | none =>
    rw [hhead, Option.none_or, List.head?_append] at hc
    cases hblank : b.head? with
    | some d =>
      rw [hblank, Option.some_or, Option.some.injEq] at hc
      have hd : isBlank c = true :=
        List.all_eq_true.mp hb c (hc ▸ List.mem_of_mem_head? hblank)
      cases hchar : isNameChar c with
      | false => rfl
      | true =>
        rw [isBlank_of_isNameChar hchar] at hd
        cases hd
    | none =>
      rw [hblank, Option.none_or] at hc
      obtain rfl : '-' = c := by simpa [arrow] using hc
      decide

theorem isGraphLine_link {s : Scan} (hcurrent : s.current = .workflow) (hin : s.inFlowchart) :
    isGraphLine s line := by
  obtain ⟨rest, hline, hname, hrest⟩ := exists_name_of_link hlink hp
  have hchart := isChartLine_name hname hline
  have hheading : heading? s line = none := by
    unfold heading?
    split
    · rfl
    · exact hchart.1
  have hne : trim line ≠ [] := by
    rw [hline]
    exact List.append_ne_nil_of_left_ne_nil hname.ne_nil _
  have hignored : isIgnored (trim line) = false := by
    rw [hline]
    exact isIgnored_append hname hrest
  simp [isGraphLine, hheading, hcurrent, hin, hchart.2, hne, hignored]

/-- A link adds what a chain of its two nodes adds. -/
theorem flowchartEntries_link (hq : part? next = some q) (hplain : Plain (p.label.getD []))
    (hlabel : Branch.ofLabel? (q.label.getD []) = some q.branch) (hcut : ¬ LooseArrow {} segment)
    (hclosed : Nesting.afterAll {} segment = {}) (hcutNext : ¬ LooseArrow {} next) (n : Nat) :
    flowchartEntries n (trim line) = chainEntries [p, q] := by
  obtain ⟨rest, hname_line, hname, hrest⟩ := exists_name_of_link hlink hp
  have hignored : isIgnored (trim line) = false := by
    rw [hname_line]
    exact isIgnored_append hname hrest
  obtain ⟨hplabel, hpnode⟩ := part?_eq_some hp
  obtain ⟨hqlabel, hqnode⟩ := part?_eq_some hq
  obtain ⟨b, b', hb, hb', hline⟩ := hlink
  rw [← hplabel] at hplain
  generalize hsource : (splitLabel (trim segment)).2 = source at *
  have htight : Tight source := hsource ▸ tight_splitLabel (tight_trim segment)
  have hsegments : segments (trim line) = [source ++ b, b' ++ trim next] := by
    have hback : '>' ∉ b := fun hc => absurd (List.all_eq_true.mp hb _ hc) (by decide)
    have hfirst : ¬ LooseArrow {} (source ++ b) := by
      rw [looseArrow_append_iff hback, ← hsource, looseArrow_splitLabel hplain, looseArrow_trim]
      exact hcut
    have hclosed' : Nesting.afterAll {} (source ++ b) = {} := by
      rw [Nesting.afterAll_append, (plain_of_blank hb).afterAll, ← hsource,
        afterAll_splitLabel hplain, afterAll_trim, hclosed]
    have hsecond : ¬ LooseArrow {} (b' ++ trim next) := by
      rw [(plain_of_blank hb').looseArrow_append_iff, looseArrow_trim]
      exact hcutNext
    have houter : (Nesting.afterAll {} (source ++ b)).isOuter := by
      rw [hclosed']
      rfl
    rw [segments, hline, List.append_assoc _ b', segmentsFrom_append_arrow hfirst houter, hclosed',
      segmentsFrom_eq_iff.mpr hsecond]
  have hsplit : splitLabel (trim (source ++ b)) = (none, source) := by
    obtain ⟨rest', hsource', hname', _⟩ := exists_name_of_node htight hpnode
    rw [trim_append_blank _ hb, htight.trim_eq, hsource']
    exact splitLabel_named hname' rest'
  have hnext : trim (b' ++ trim next) = trim next := by rw [trim_blank_append hb', trim_trim]
  rw [flowchartEntries, hignored, hsegments]
  simp only [declareChain, hsplit, hnext, hpnode, hqnode, hqlabel]
  simp [Except.map, connectChain, hlabel, chainEntries, joins, Part.entry]

end

/-! ## Lines -/

/-- A line that is cut, without a fault, is a chain of activities joined by branches. -/
theorem exists_chain {n : Nat} {line : List Char} (hlong : 2 ≤ (segments line).length)
    (hline : isIgnored line = false) (hok : ∀ f, .fault f ∉ flowchartEntries n line) :
    ∃ p q ps, (segments line).map part? = (p :: q :: ps).map some ∧
      flowchartEntries n line = chainEntries (p :: q :: ps) ∧ p.label = none ∧
      ∀ r ∈ q :: ps, Branch.ofLabel? (r.label.getD []) = some r.branch := by
  unfold flowchartEntries at hok ⊢
  rw [if_neg (by simp [hline])] at hok ⊢
  split at hok
  · next only honly =>
    rw [honly, List.length_singleton] at hlong
    omega
  · dsimp only at hok ⊢
    split at hok
    · next f _ => exact absurd (List.mem_append_right _ List.mem_cons_self) (hok f)
    · next nodes houtcome =>
      obtain ⟨ps, hparts, hentries, rfl, hfirst⟩ := parts_of_declareChain houtcome
      have hlength := congrArg List.length hparts
      rw [List.length_map, List.length_map] at hlength
      obtain _ | ⟨p, _ | ⟨q, ps⟩⟩ := ps
      · simp only [List.length_nil] at hlength
        omega
      · simp only [List.length_cons, List.length_nil] at hlength
        omega
      · obtain ⟨hjoins, hlabels⟩ :=
          joins_of_connectChain fun f hf => hok f (List.mem_append_right _ hf)
        refine ⟨p, q, ps, hparts, ?_, hfirst rfl p rfl, hlabels⟩
        rw [hentries, hjoins]
        rfl

theorem scanLine_graphLine {s : Scan} {raw : List Char} (h : isGraphLine s raw) (n : Nat) :
    scanLine s n raw = (s, flowchartEntries n (trim raw)) := by
  rcases scanLine_cases s n raw with ⟨_, hentries⟩ | ⟨hnot, _⟩
  · refine Prod.ext ?_ hentries
    simp only [isGraphLine, Bool.and_eq_true, Option.isNone_iff_eq_none, beq_iff_eq,
      Bool.not_eq_true'] at h
    obtain ⟨⟨hheading, hcurrent⟩, ⟨⟨hin, hfence⟩, _⟩, _⟩ := h
    have hmermaid := not_mermaid_of_not_fence hfence
    rw [scanLine_of_text hheading, hcurrent]
    simp only [workflowLine, hmermaid, hfence, hin, Bool.not_true, Bool.and_false,
      Bool.false_eq_true, if_false]
    split <;> rfl
  · rw [hnot] at h
    cases h

/-- The links of a chain, line by line. -/
theorem scans_links {segs lines : List (List Char)} {ps : List Part} (hcut : Cut segs)
    (hparts : segs.map part? = ps.map some) (hplain : ∀ p ∈ ps.head?, Plain (p.label.getD []))
    (hlabels : ∀ q ∈ ps.tail, Branch.ofLabel? (q.label.getD []) = some q.branch)
    (hlinks : Links segs lines) {s : Scan} (hcurrent : s.current = .workflow)
    (hin : s.inFlowchart) (n : Nat) : Scans s n lines (linkEntries ps) s := by
  induction hlinks generalizing ps n with
  | done segment =>
    obtain _ | ⟨p, _ | ⟨q, ps⟩⟩ := ps
    · simp at hparts
    · exact .nil s n
    · simp at hparts
  | @link segment next line segs lines hlink _ ih =>
    obtain _ | ⟨p, _ | ⟨q, ps⟩⟩ := ps
    · simp at hparts
    · simp at hparts
    · obtain ⟨hp, hparts⟩ := List.cons.inj hparts
      obtain ⟨hq, _⟩ := List.cons.inj hparts
      cases hcut with
      | before hseg hclosed hrest =>
        have hlabel := hlabels q List.mem_cons_self
        have hline := scanLine_graphLine (isGraphLine_link hlink hp hcurrent hin) n
        rw [flowchartEntries_link hlink hp hq (hplain p rfl) hlabel hseg hclosed hrest.head]
          at hline
        refine .cons hline (ih hrest hparts ?_ ?_ (n + 1))
        · rintro r hr
          obtain rfl := Option.mem_some_iff.mp hr
          exact plain_of_ofLabel? hlabel
        · exact fun r hr => hlabels r (List.mem_cons_of_mem _ hr)

end Playbook.Document

namespace Playbook.Workflow

open Playbook.Text Playbook.Document Playbook.Flowchart

theorem addAll_congr {es fs : List Entry} (h : ∀ w : Workflow, w.addAll es = w.addAll fs)
    (front back : List Entry) (w : Workflow) :
    w.addAll (front ++ (es ++ back)) = w.addAll (front ++ (fs ++ back)) := by
  rw [addAll_append, addAll_append w front]
  congr 1
  funext v
  rw [addAll_append, addAll_append v, h]

theorem exists_text_with_links {text : String} {before after : List (List Char)} {raw : List Char}
    (hlines : lines text.toList = before ++ raw :: after) :
    ∃ text' : String, lines text'.toList = before ++ linkLines (segments (trim raw)) ++ after := by
  have hnewline : ∀ l ∈ before ++ raw :: after, '\n' ∉ l := by
    intro l hl
    rw [← hlines] at hl
    exact not_mem_of_mem_lines hl
  have hsegments : ∀ seg ∈ segments (trim raw), '\n' ∉ seg := by
    intro seg hseg hc
    have hraw : '\n' ∈ trim raw := by
      rw [← joinWith_segmentsFrom {} (trim raw)]
      exact mem_joinWith_of_mem hseg hc
    exact hnewline raw (by simp) (mem_of_mem_trim hraw)
  refine exists_text_of_lines fun l hl => ?_
  rcases List.mem_append.mp hl with hl | hl
  · rcases List.mem_append.mp hl with hl | hl
    · exact hnewline l (List.mem_append_left _ hl)
    · exact not_mem_linkLines hsegments l hl
  · exact hnewline l (by simp [hl])

/-- A document that is read with a chain in it is read the same with the links of the chain, in
whatever way these are spaced; and there is such a document. -/
theorem chain_reads_as_links {filepath directory text : String} {w : Workflow}
    (h : readAt filepath directory text = .ok w) {before after : List (List Char)}
    {raw : List Char} {es : List Entry} {s : Scan}
    (hlines : lines text.toList = before ++ raw :: after) (hscans : Scans {} 1 before es s)
    (hgraph : isGraphLine s raw) (hlong : 2 ≤ (segments (trim raw)).length) :
    (∀ (links : List (List Char)) (text' : String), Links (segments (trim raw)) links →
      lines text'.toList = before ++ links ++ after → readAt filepath directory text' = .ok w) ∧
    Links (segments (trim raw)) (linkLines (segments (trim raw))) ∧
    ∃ text' : String,
      lines text'.toList = before ++ linkLines (segments (trim raw)) ++ after := by
  have hline : ∀ n, scanLine s n raw = (s, flowchartEntries n (trim raw)) :=
    scanLine_graphLine hgraph
  have hentries : entries text = es ++ (flowchartEntries (1 + before.length) (trim raw) ++
      scanFrom s (1 + before.length + 1) after) := by
    rw [entries, hlines, hscans.scanFrom, scanFrom, hline]
  have hok : ∀ f, .fault f ∉ entries text := by
    obtain ⟨v, hadd, _⟩ := exists_addAll_of_readAt h
    exact no_fault_of_addAll hadd
  simp only [isGraphLine, Bool.and_eq_true, beq_iff_eq, Bool.not_eq_true'] at hgraph
  obtain ⟨⟨_, hcurrent⟩, ⟨⟨hin, _⟩, _⟩, hignored⟩ := hgraph
  rw [hentries] at hok
  obtain ⟨p, q, ps, hparts, hchain, hfirst, hlabels⟩ := exists_chain hlong hignored
    fun f hf => hok f (List.mem_append_right _ (List.mem_append_left _ hf))
  refine ⟨fun links text' hlinks hlines' => ?_, ?_, ?_⟩
  · have hplain : ∀ r ∈ (p :: q :: ps).head?, Plain (r.label.getD []) := by
      intro r hr
      obtain rfl := Option.mem_some_iff.mp hr
      rw [hfirst]
      exact plain_nil
    have hafter : ∀ m, scanFrom s m after = scanFrom s (1 + before.length + 1) after := fun m =>
      scanFrom_number (fun f hf => hok f (List.mem_append_right _ (List.mem_append_right _ hf))) m
    have hentries' : entries text' = es ++ (linkEntries (p :: q :: ps) ++
        scanFrom s (1 + before.length + 1) after) := by
      have hall := hscans.append (scans_links (cut_segments _) hparts hplain hlabels hlinks
        hcurrent hin (1 + before.length))
      rw [entries, hlines', hall.scanFrom, hafter, List.append_assoc]
    have hsame : ∀ v : Workflow, v.addAll (entries text') = v.addAll (entries text) := by
      intro v
      rw [hentries', hentries, hchain]
      exact addAll_congr (fun u => addAll_links u p q ps) _ _ v
    unfold readAt at h ⊢
    rw [hsame]
    exact h
  · exact links_linkLines (segmentsFrom_ne_nil _ _) hparts
  · exact exists_text_with_links hlines

/-- A chain with an arrow in a text, both branches of a decision and a node that comes twice. -/
def chainText : String :=
  "# Workflow\n```mermaid\nflowchart TD\n  START[\"a --> b\"] --> CHECK_N\x7b n \x7d -->|No| " ++
  "SET_N[n=1] --> CHECK_N -->| yes | SUCCESS\n  SET_N[n=2]\n```\n"

/-- The same with the links of the chain. -/
def linksText : String :=
  "# Workflow\n```mermaid\nflowchart TD\n" ++
  "  START[\"a --> b\"] --> CHECK_N\x7b n \x7d\n  CHECK_N\x7b n \x7d-->|No| SET_N[n=1]\n" ++
  "SET_N[n=1] --> CHECK_N\n\tCHECK_N -->  | yes | SUCCESS \n" ++
  "  SET_N[n=2]\n```\n"

theorem chainText_reads_as_links : ∃ w, read chainText = .ok w ∧ read linksText = .ok w ∧
    w.activities.keys = ["START", "CHECK_N", "SET_N", "SUCCESS"] := by
  obtain ⟨w, hread, hkeys⟩ := exists_of_any chainText
    (fun w => w.activities.keys == ["START", "CHECK_N", "SET_N", "SUCCESS"]) (by decide +kernel)
  let before := ["# Workflow".toList, "```mermaid".toList, "flowchart TD".toList]
  let raw := ("  START[\"a --> b\"] --> CHECK_N\x7b n \x7d -->|No| SET_N[n=1] --> CHECK_N" ++
    " -->| yes | SUCCESS").toList
  let after := ["  SET_N[n=2]".toList, fence]
  have hscans : Scans {} 1 before [] (charting false) :=
    .silent (t := { current := .workflow }) rfl
      (.silent (t := { current := .workflow, inMermaid := true }) rfl (.one rfl))
  have hsegments : segments (trim raw) = ["START[\"a --> b\"] ".toList,
    " CHECK_N\x7b n \x7d ".toList, "|No| SET_N[n=1] ".toList, " CHECK_N ".toList,
    "| yes | SUCCESS".toList] := by decide
  have hlinks : Links (segments (trim raw)) ["  START[\"a --> b\"] --> CHECK_N\x7b n \x7d".toList,
      "  CHECK_N\x7b n \x7d-->|No| SET_N[n=1]".toList, "SET_N[n=1] --> CHECK_N".toList,
      "\tCHECK_N -->  | yes | SUCCESS ".toList] := by
    rw [hsegments]
    exact .link ⟨[' '], [' '], by decide⟩ (.link ⟨[], [], by decide⟩
      (.link ⟨[' '], [' '], by decide⟩ (.link ⟨[' '], [' ', ' '], by decide⟩ (.done _))))
  have hlines : lines chainText.toList = before ++ raw :: after := by decide +kernel
  have hlong : 2 ≤ (segments (trim raw)).length := by
    rw [hsegments]
    decide
  refine ⟨w, hread, ?_, eq_of_beq hkeys⟩
  exact (chain_reads_as_links hread hlines hscans (by decide +kernel) hlong).1 _ linksText hlinks
    (by decide +kernel)

end Playbook.Workflow
