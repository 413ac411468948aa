/-
  The lines of a document that its graph is read from (`graphLines`), and what they say taken one by
  one: which activities a line declares, which edges it draws, which parameters it sets. The entries
  of a document without faults say just that, in the order of the lines (`says_entries`).
-/
import Playbook.Proofs.Workflow.Building

namespace Playbook.Document

open Playbook.Text Playbook.Flowchart Playbook.Workflow

/-! ## What a line says -/

/-- A node text that declares an activity. -/
structure Declaration where
  name : String
  expression : String
  deriving Repr, DecidableEq

/-- An arrow between two node texts. -/
structure Edge where
  source : String
  branch : Branch
  target : String
  deriving Repr, DecidableEq

/-- The node texts of a line with the labels in front of them; a line without arrows is one. -/
def nodeTexts (line : List Char) : List (Option (List Char) × List Char) :=
  match segments line with
  | [only] => [(none, only)]
  | segments => segments.map fun segment => splitLabel (trim segment)

/-- The node of a text, if it is one. -/
def node? (part : Option (List Char) × List Char) : Option (Option (List Char) × Flowchart.Node) :=
  (node part.2).toOption.map (part.1, ·)

/-- The nodes of a line with the labels in front of them. -/
def lineNodes (line : List Char) : List (Option (List Char) × Flowchart.Node) :=
  (nodeTexts line).filterMap node?

/-- The activity that a node declares; a parameter node declares none. -/
def declaration? : Flowchart.Node → Option Declaration
  | .activity _ name expression => some ⟨name, expression⟩
  | .params _ => none

/-- The parameters that a node sets. -/
def pairs : Flowchart.Node → List (String × String)
  | .activity _ _ _ => []
  | .params ps => ps

/-- The edge between two neighbours: the label in front of the second tells its branch. -/
def edge? (a b : Option (List Char) × Flowchart.Node) : Option Edge :=
  match declaration? a.2, Branch.ofLabel? (b.1.getD []), declaration? b.2 with
  | some source, some branch, some target => some ⟨source.name, branch, target.name⟩
  | _, _, _ => none

/-- The edges between neighbours. -/
def neighbours (nodes : List (Option (List Char) × Flowchart.Node)) : List Edge :=
  (nodes.zip nodes.tail).filterMap fun (a, b) => edge? a b

/-- The activities that a line declares, from left to right. -/
def declarationsOf (line : List Char) : List Declaration :=
  (lineNodes line).filterMap fun part => declaration? part.2

/-- The edges that a line draws, from left to right. -/
def edgesOf (line : List Char) : List Edge := neighbours (lineNodes line)

/-- The parameters that a line sets, from left to right. -/
def pairsOf (line : List Char) : List (String × String) :=
  (lineNodes line).flatMap fun part => pairs part.2

/-! ## The lines of the graph -/

/-- The heading of a section that a line is; inside of a fence it is none. -/
def heading? (s : Scan) (raw : List Char) : Option (List Char) :=
  if s.inFence then none else dropStart? "# ".toList (trim raw)

/-- Whether a line is one of a flowchart that adds to the graph: no heading, no fence, not blank, no
comment, no housekeeping. -/
def isGraphLine (s : Scan) (raw : List Char) : Bool :=
  (heading? s raw).isNone && s.current == .workflow &&
    (s.inFlowchart && !fence.isPrefixOf (trim raw) && !(trim raw).isEmpty && !isIgnored (trim raw))

/-- A line, trimmed, if it is one of the graph. -/
def graphLine (s : Scan) (raw : List Char) : List (List Char) :=
  if isGraphLine s raw then [trim raw] else []

/-- The lines of the graph among the lines from number `n` on. -/
def graphLinesFrom (s : Scan) (n : Nat) : List (List Char) → List (List Char)
  | [] => []
  | raw :: rest => graphLine s raw ++ graphLinesFrom (scanLine s n raw).1 (n + 1) rest

/-- The lines that the graph of a document is read from, in order. -/
def graphLines (text : String) : List (List Char) := graphLinesFrom {} 1 (lines text.toList)

/-- The activities that a document declares, as often as it declares them. -/
def declarations (text : String) : List Declaration := (graphLines text).flatMap declarationsOf

/-- The edges that a document draws, as often as it draws them. -/
def edges (text : String) : List Edge := (graphLines text).flatMap edgesOf

/-- The parameters that a document sets, as often as it sets them. -/
def settings (text : String) : List (String × String) := (graphLines text).flatMap pairsOf

/-! ## What entries say -/

/-- The declaration of an entry. -/
def declarationOf : Entry → Option Declaration
  | .declare _ name expression => some ⟨name, expression⟩
  | _ => none

/-- The edge of an entry. -/
def edgeOf : Entry → Option Edge
  | .connect source target branch => some ⟨source, branch, target⟩
  | _ => none

/-- What entries say of the graph, in their order. -/
structure Say (es : List Entry) (ds : List Declaration) (cs : List Edge)
    (ps : List (String × String)) : Prop where
  declarations : es.filterMap declarationOf = ds
  edges : es.filterMap edgeOf = cs
  params : es.filterMap paramOf = ps

theorem Say.append {es fs : List Entry} {ds ds' : List Declaration} {cs cs' : List Edge}
    {ps ps' : List (String × String)} (h : Say es ds cs ps) (h' : Say fs ds' cs' ps') :
    Say (es ++ fs) (ds ++ ds') (cs ++ cs') (ps ++ ps') where
  declarations := by rw [List.filterMap_append, h.declarations, h'.declarations]
  edges := by rw [List.filterMap_append, h.edges, h'.edges]
  params := by rw [List.filterMap_append, h.params, h'.params]

/-- An entry that says nothing of the graph. -/
def Mute (e : Entry) : Prop := declarationOf e = none ∧ edgeOf e = none ∧ paramOf e = none

theorem mute_of_mem_singleton {e x : Entry} (hx : x ∈ [e]) (h : Mute e) : Mute x :=
  List.mem_singleton.mp hx ▸ h

theorem says_nothing {es : List Entry} (h : ∀ e ∈ es, Mute e) : Say es [] [] [] where
  declarations := List.filterMap_eq_nil_iff.mpr fun e he => (h e he).1
  edges := List.filterMap_eq_nil_iff.mpr fun e he => (h e he).2.1
  params := List.filterMap_eq_nil_iff.mpr fun e he => (h e he).2.2

theorem says_params (ps : List (String × String)) :
    Say (ps.map fun (k, v) => .param k v) [] [] ps where
  declarations := by simp [List.filterMap_map, declarationOf]
  edges := by simp [List.filterMap_map, edgeOf]
  params := by simp [List.filterMap_map, Function.comp_def, paramOf]

/-! ### One line -/

/-- A node of an edge line: an activity behind its label. -/
structure Part where
  label : Option (List Char)
  kind : Kind
  name : String
  expression : String

namespace Part

def node (p : Part) : Option (List Char) × Flowchart.Node :=
  (p.label, .activity p.kind p.name p.expression)

def entry (p : Part) : Entry := .declare p.kind p.name p.expression

/-- What a part of an edge line leaves for the edges. -/
def ending (p : Part) : Option (List Char) × String := (p.label, p.name)

end Part

/-- The part of a line that a segment is, if it is the node of an activity. -/
def part? (segment : List Char) : Option Part :=
  match node (splitLabel (trim segment)).2 with
  | .ok (.activity kind name expression) =>
    some ⟨(splitLabel (trim segment)).1, kind, name, expression⟩
  | _ => none

theorem part?_eq_some {segment : List Char} {p : Part} (h : part? segment = some p) :
    (splitLabel (trim segment)).1 = p.label ∧
      node (splitLabel (trim segment)).2 = .ok (.activity p.kind p.name p.expression) := by
  unfold part? at h
  split at h
  · next hnode =>
    cases h
    exact ⟨rfl, hnode⟩
  · cases h

/-- The branch that the label of a part names. -/
def Part.branch (p : Part) : Branch := (Branch.ofLabel? (p.label.getD [])).getD .next

/-- The edges between the parts of a line. -/
def joins : List Part → List Entry
  | p :: q :: ps => .connect p.name q.name q.branch :: joins (q :: ps)
  | _ => []

/-- A chain whose nodes can all be declared. -/
theorem parts_of_declareChain {n : Nat} {line : String} {first : Bool} {segs : List (List Char)}
    {nodes : List (Option (List Char) × String)}
    (hok : (declareChain n line first segs).outcome = .ok nodes) :
    ∃ ps : List Part, segs.map part? = ps.map some ∧
      (declareChain n line first segs).entries = ps.map Part.entry ∧ nodes = ps.map Part.ending ∧
      (first → ∀ p ∈ ps.head?, p.label = none) := by
  induction segs generalizing first nodes with
  | nil =>
    cases hok
    exact ⟨[], rfl, rfl, rfl, by simp⟩
  | cons segment segs ih =>
    rw [declareChain] at hok ⊢
    dsimp only at hok ⊢
    split at hok
    · cases hok
    · next hfirst =>
      rw [if_neg hfirst]
      split at hok
      · cases hok
      · cases hok
      · next k name expression hnode =>
        cases hrest : (declareChain n line false segs).outcome with
        | error f =>
          rw [hrest] at hok
          cases hok
        | ok rest =>
          rw [hrest] at hok
          cases hok
          obtain ⟨ps, hparts, hentries, rfl, _⟩ := ih hrest
          have hpart : part? segment =
              some ⟨(splitLabel (trim segment)).1, k, name, expression⟩ := by
            rw [part?, hnode]
          refine ⟨⟨(splitLabel (trim segment)).1, k, name, expression⟩ :: ps, ?_, ?_, rfl, ?_⟩
          · rw [List.map_cons, hpart, hparts, List.map_cons]
          · dsimp only
            rw [hentries]
            rfl
          · rintro rfl p hp
            obtain rfl := Option.mem_some_iff.mp hp
            simpa using hfirst

/-- Where all labels name branches, the nodes of a chain are joined one by one. -/
theorem joins_of_connectChain {n : Nat} {p : Part} {ps : List Part}
    (h : ∀ f, .fault f ∉ connectChain n ((p :: ps).map Part.ending)) :
    connectChain n ((p :: ps).map Part.ending) = joins (p :: ps) ∧
      ∀ q ∈ ps, Branch.ofLabel? (q.label.getD []) = some q.branch := by
  induction ps generalizing p with
  | nil => exact ⟨by simp [connectChain, joins], nofun⟩
  | cons q ps ih =>
    rw [List.map_cons, List.map_cons] at h ⊢
    cases hbranch : Branch.ofLabel? (q.label.getD []) with
    | none =>
      refine absurd ?_ (h (.invalidLabel n (String.ofList (q.label.getD []))))
      simp [connectChain, Part.ending, hbranch]
    | some b =>
      have hlabel : q.branch = b := by rw [Part.branch, hbranch, Option.getD_some]
      have hchain : connectChain n (p.ending :: q.ending :: ps.map Part.ending) =
          .connect p.name q.name q.branch :: connectChain n ((q :: ps).map Part.ending) := by
        simp [connectChain, Part.ending, hbranch, hlabel]
      rw [hchain] at h ⊢
      obtain ⟨hjoins, hlabels⟩ := ih fun f hf => h f (List.mem_cons_of_mem _ hf)
      refine ⟨by rw [hjoins, joins], fun r hr => ?_⟩
      rcases List.mem_cons.mp hr with rfl | hr
      · rw [hbranch, hlabel]
      · exact hlabels r hr

theorem filterMap_node? {segs : List (List Char)} {ps : List Part}
    (h : segs.map part? = ps.map some) :
    (segs.map fun segment => splitLabel (trim segment)).filterMap node? = ps.map Part.node := by
  induction segs generalizing ps with
  | nil =>
    obtain rfl : ps = [] := by simpa using h.symm
    rfl
  | cons segment segs ih =>
    obtain _ | ⟨p, ps⟩ := ps
    · simp at h
    · obtain ⟨hp, hps⟩ := List.cons.inj h
      obtain ⟨hlabel, hnode⟩ := part?_eq_some hp
      have hone : node? (splitLabel (trim segment)) = some p.node := by
        rw [node?, hnode, hlabel]
        rfl
      rw [List.map_cons, List.filterMap_cons_some hone, ih hps, List.map_cons]

/-- The declarations of an edge line. -/
theorem says_parts (ps : List Part) :
    Say (ps.map Part.entry) ((ps.map Part.node).filterMap fun part => declaration? part.2)
      [] [] where
  declarations := by
    rw [List.filterMap_map, List.filterMap_map]
    rfl
  edges := by simp [List.filterMap_map, Part.entry, edgeOf]
  params := by simp [List.filterMap_map, Part.entry, paramOf]

/-- The edges of an edge line, when all its labels are branches. -/
theorem says_joins {p : Part} {ps : List Part}
    (h : ∀ q ∈ ps, Branch.ofLabel? (q.label.getD []) = some q.branch) :
    Say (joins (p :: ps)) [] (neighbours ((p :: ps).map Part.node)) [] := by
  induction ps generalizing p with
  | nil => exact says_nothing (by simp [joins])
  | cons q ps ih =>
    have hedge : edge? p.node q.node = some ⟨p.name, q.branch, q.name⟩ := by
      simp [edge?, Part.node, declaration?, h q List.mem_cons_self]
    have hneighbours : neighbours ((p :: q :: ps).map Part.node) =
        ⟨p.name, q.branch, q.name⟩ :: neighbours ((q :: ps).map Part.node) := by
      simp [neighbours, hedge]
    have hone : Say [.connect p.name q.name q.branch] [] [⟨p.name, q.branch, q.name⟩] [] :=
      ⟨rfl, rfl, rfl⟩
    rw [joins, hneighbours]
    exact hone.append (ih fun r hr => h r (List.mem_cons_of_mem _ hr))

/-- A line without faults says what its node texts say. -/
theorem says_flowchartEntries {n : Nat} {line : List Char} (hline : isIgnored line = false)
    (hok : ∀ f, .fault f ∉ flowchartEntries n line) :
    Say (flowchartEntries n line) (declarationsOf line) (edgesOf line) (pairsOf line) := by
  unfold flowchartEntries at hok ⊢
  rw [if_neg (by simp [hline])] at hok ⊢
  split at hok
  · next only hsegments =>
    have htexts : nodeTexts line = [(none, only)] := by rw [nodeTexts, hsegments]
    split at hok
    · next f _ => exact absurd List.mem_cons_self (hok (.ofNode n f))
    · next nd hnode =>
      have hnodes : lineNodes line = [(none, nd)] := by
        rw [lineNodes, htexts]
        simp [node?, hnode, Except.toOption]
      rw [declarationsOf, edgesOf, pairsOf, hnodes]
      cases nd with
      | params ps =>
        have hsaid := says_params ps
        simpa [declaration?, neighbours, pairs, nodeEntries] using hsaid
      | activity k name expression => exact ⟨rfl, rfl, rfl⟩
  · next segs hmany =>
    have htexts : nodeTexts line = (segments line).map fun segment => splitLabel (trim segment) := by
      rw [nodeTexts]
      split
      · next only hsegments => exact absurd hsegments (hmany only)
      · rfl
    dsimp only at hok ⊢
    split at hok
    · next f _ => exact absurd (List.mem_append_right _ List.mem_cons_self) (hok f)
    · next nodes houtcome =>
      obtain ⟨ps, hparts, hentries, rfl, _⟩ := parts_of_declareChain houtcome
      have hline : lineNodes line = ps.map Part.node := by
        rw [lineNodes, htexts, filterMap_node? hparts]
      have hpairs : pairsOf line = [] := by
        rw [pairsOf, hline]
        simp [Part.node, pairs]
      have hedges : Say (connectChain n (ps.map Part.ending)) []
          (neighbours (ps.map Part.node)) [] := by
        cases ps with
        | nil => exact says_nothing (by simp [connectChain])
        | cons p ps =>
          obtain ⟨hjoins, hlabels⟩ :=
            joins_of_connectChain fun f hf => hok f (List.mem_append_right _ hf)
          rw [hjoins]
          exact says_joins hlabels
      rw [hentries, declarationsOf, edgesOf, hpairs, hline]
      have hsaid := (says_parts ps).append hedges
      rwa [List.append_nil] at hsaid

/-! ### The scan -/

theorem mute_promptEntries (pending : Option PendingPrompt) :
    ∀ e ∈ promptEntries pending, Mute e := by
  intro e he
  obtain ⟨p, -, rfl | ⟨-, rfl⟩⟩ := mem_promptEntries he
  · exact ⟨rfl, rfl, rfl⟩
  · exact ⟨rfl, rfl, rfl⟩

theorem mute_enterSection (s : Scan) (heading : List Char) :
    ∀ e ∈ (enterSection s heading).2, Mute e := by
  intro e he
  rcases mem_enterSection he with rfl | ⟨-, -, rfl⟩
  · exact ⟨rfl, rfl, rfl⟩
  · exact ⟨rfl, rfl, rfl⟩

/-- In the section of the workflow text may draw a graph. No other line says anything of one. -/
theorem LineStep.mute {s s' : Scan} {n : Nat} {raw : List Char} {es : List Entry}
    (h : LineStep s n raw s' es) (hcurrent : s.current = .workflow → (heading? s raw).isSome) :
    ∀ e ∈ es, Mute e := by
  intro e he
  cases h with
  | heading =>
    rcases List.mem_append.mp he with he | he
    · exact mute_promptEntries _ e he
    · exact mute_enterSection _ _ e he
  | describes => exact mute_of_mem_singleton he ⟨rfl, rfl, rfl⟩
  | draws current text =>
    obtain ⟨heading, hheading⟩ := Option.isSome_iff_exists.mp (hcurrent current)
    obtain ⟨hout, hmark⟩ := outside_of_marked hheading
    have hnone : dropStart? "# ".toList (trim raw) = none := text hout
    rw [hnone] at hmark
    cases hmark
  | stranger =>
    rcases List.mem_append.mp he with he | he
    · exact mute_promptEntries _ e he
    · exact mute_of_mem_singleton he ⟨rfl, rfl, rfl⟩
  | prompt => exact mute_promptEntries _ e he
  | passes | collected => cases he

/-- In the section of the workflow only lines of a flowchart add anything. -/
theorem workflowLine_entries (s : Scan) (n : Nat) (line : List Char) :
    (workflowLine s n line).2 =
      if s.inFlowchart && !fence.isPrefixOf line && !line.isEmpty && !isIgnored line then
        flowchartEntries n line
      else [] := by
  unfold workflowLine
  split
  · next h => simp [fence_of_mermaid h]
  · split
    · next h => simp [h]
    · next hfence =>
      split
      · next h =>
        have hout : s.inFlowchart = false := by simp_all
        split <;> simp [hout]
      · split
        · next h =>
          by_cases hignored : isIgnored line
          · simp [flowchartEntries, hignored]
          · simp [h, hfence, hignored]
        · next h =>
          have hnot : (s.inFlowchart && !line.isEmpty) = false := by simpa using h
          rw [Bool.and_right_comm s.inFlowchart, hnot]
          rfl

theorem scanLine_of_heading {s : Scan} {raw heading : List Char} (h : heading? s raw = some heading)
    (n : Nat) : scanLine s n raw = ((enterSection s (trim heading)).1,
      promptEntries s.pending ++ (enterSection s (trim heading)).2) := by
  unfold heading? at h
  unfold scanLine
  dsimp only
  rw [h]

theorem scanLine_of_text {s : Scan} {raw : List Char} (h : heading? s raw = none) (n : Nat) :
    scanLine s n raw = match s.current with
      | .preamble =>
        (s, if (trim raw).isEmpty then [] else [.describe (String.ofList (trimRight raw))])
      | .workflow => workflowLine s n (trim raw)
      | .prompts => promptLine s n raw
      | .other => (s, []) := by
  unfold heading? at h
  unfold scanLine
  dsimp only
  cases s.current <;> rw [h]

theorem scanLine_cases (s : Scan) (n : Nat) (raw : List Char) :
    (isGraphLine s raw = true ∧ (scanLine s n raw).2 = flowchartEntries n (trim raw)) ∨
      (isGraphLine s raw = false ∧ ∀ e ∈ (scanLine s n raw).2, Mute e) := by
  by_cases htext : s.current = .workflow ∧ heading? s raw = none
  · obtain ⟨hcurrent, hheading⟩ := htext
    have hgraph : isGraphLine s raw = (s.inFlowchart && !fence.isPrefixOf (trim raw) &&
        !(trim raw).isEmpty && !isIgnored (trim raw)) := by
      simp [isGraphLine, hheading, hcurrent]
    rw [scanLine_of_text hheading, hcurrent]
    dsimp only
    rw [workflowLine_entries, ← hgraph]
    by_cases h : isGraphLine s raw
    · exact Or.inl ⟨h, if_pos h⟩
    · exact Or.inr ⟨by simpa using h, by simp [h]⟩
  · refine Or.inr ⟨Bool.eq_false_iff.mpr fun h => ?_, (lineStep s n raw).mute fun hcurrent => ?_⟩
    · simp only [isGraphLine, Bool.and_eq_true, beq_iff_eq, Option.isNone_iff_eq_none] at h
      exact htext ⟨h.1.2, h.1.1⟩
    · rw [Option.isSome_iff_ne_none]
      exact fun hnone => htext ⟨hcurrent, hnone⟩

/-- Only lines of the graph say anything of it. -/
theorem says_scanLine {s : Scan} {n : Nat} {raw : List Char}
    (hok : ∀ f, .fault f ∉ (scanLine s n raw).2) :
    Say (scanLine s n raw).2 ((graphLine s raw).flatMap declarationsOf)
      ((graphLine s raw).flatMap edgesOf) ((graphLine s raw).flatMap pairsOf) := by
  unfold graphLine
  rcases scanLine_cases s n raw with ⟨hgraph, hentries⟩ | ⟨hgraph, hmute⟩
  · have hignored : isIgnored (trim raw) = false := by
      simp only [isGraphLine, Bool.and_eq_true, Bool.not_eq_true'] at hgraph
      exact hgraph.2.2
    rw [hentries] at hok ⊢
    rw [if_pos hgraph, List.flatMap_singleton, List.flatMap_singleton, List.flatMap_singleton]
    exact says_flowchartEntries hignored hok
  · rw [hgraph]
    exact says_nothing hmute

theorem says_scanFrom {s : Scan} {n : Nat} {ls : List (List Char)}
    (hok : ∀ f, .fault f ∉ scanFrom s n ls) :
    Say (scanFrom s n ls) ((graphLinesFrom s n ls).flatMap declarationsOf)
      ((graphLinesFrom s n ls).flatMap edgesOf) ((graphLinesFrom s n ls).flatMap pairsOf) := by
  induction ls generalizing s n with
  | nil => exact says_nothing (mute_promptEntries _)
  | cons raw rest ih =>
    rw [scanFrom] at hok ⊢
    rw [graphLinesFrom, List.flatMap_append, List.flatMap_append, List.flatMap_append]
    exact (says_scanLine fun f hf => hok f (List.mem_append_left _ hf)).append
      (ih fun f hf => hok f (List.mem_append_right _ hf))

/-- The entries of a document without faults say what its lines say one by one. -/
theorem says_entries {text : String} (hok : ∀ f, .fault f ∉ entries text) :
    Say (entries text) (declarations text) (edges text) (settings text) :=
  says_scanFrom hok

end Playbook.Document
