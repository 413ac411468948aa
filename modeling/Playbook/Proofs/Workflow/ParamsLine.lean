/-
  The line of the parameters. It gives the parameters back, in order, if none of them holds a quote
  (`entries_paramsLine`), and it never gives one that does (`no_quote_of_param`).
-/
import Playbook.Proofs.Workflow.NodeLines

namespace Playbook.Flowchart

open Playbook.Text Playbook.Document

/-! ## Pairs -/

/-- The text of a parameter, as it is written and read. -/
def pairText (p : String × String) : List Char := p.1.toList ++ '=' :: p.2.toList

/-- A parameter that its text gives back. -/
structure PairFits (p : String × String) : Prop where
  tight_key : Tight p.1.toList
  tight_value : Tight p.2.toList
  no_equals : '=' ∉ p.1.toList
  no_comma : ',' ∉ p.1.toList ∧ ',' ∉ p.2.toList
  no_newline : '\n' ∉ p.1.toList ∧ '\n' ∉ p.2.toList

/-- No double quote in the name or the value. -/
def PairUnquoted (p : String × String) : Prop := '"' ∉ p.1.toList ∧ '"' ∉ p.2.toList

instance (p : String × String) : Decidable (PairUnquoted p) := inferInstanceAs (Decidable (_ ∧ _))

theorem PairFits.tight {p : String × String} (h : PairFits p) : Tight (pairText p) := by
  have hvalue : ∀ c, ('=' :: p.2.toList).getLast? = some c → isBlank c = false := by
    intro c hc
    rw [List.getLast?_cons, Option.some.injEq] at hc
    cases hlast : p.2.toList.getLast? with
    | none =>
      rw [hlast, Option.getD_none] at hc
      rw [← hc]
      decide
    | some d =>
      rw [hlast, Option.getD_some] at hc
      exact h.tight_value.2 c (by rw [hlast, hc])
  by_cases hkey : p.1.toList = []
  · refine ⟨fun c hc => ?_, ?_⟩
    · rw [pairText, hkey, List.nil_append, List.head?_cons, Option.some.injEq] at hc
      rw [← hc]
      decide
    · rw [pairText, hkey, List.nil_append]
      exact hvalue
  · exact tight_append hkey h.tight_key hvalue

theorem pieces_joinWith_comma {t : List Char} {ts : List (List Char)}
    (h : ∀ u ∈ t :: ts, ',' ∉ u) :
    pieces ',' (joinWith [',', ' '] (t :: ts)) = t :: ts.map (' ' :: ·) := by
  induction ts generalizing t with
  | nil => exact pieces_of_not_mem (h t List.mem_cons_self)
  | cons u ts ih =>
    have ht : ',' ∉ t := h t List.mem_cons_self
    have hrest := ih (t := u) fun x hx => h x (List.mem_cons_of_mem _ hx)
    have hblank : ∀ rest p ps, pieces ',' rest = p :: ps →
        pieces ',' (' ' :: rest) = (' ' :: p) :: ps := by
      intro rest p ps hpieces
      rw [pieces, hpieces]
      rfl
    rw [joinWith_cons (List.cons_ne_nil u ts), List.append_assoc, List.cons_append,
      List.singleton_append, pieces_append_sep ht, hblank _ _ _ hrest]
    rfl

/-- A parameter as it is read from between two commas. -/
def readPair (cs : List Char) : Option (String × String) :=
  if cs.isEmpty then none
  else
    match splitOnce '=' cs with
    | some (k, v) => some (String.ofList (trim k), String.ofList (trim v))
    | none => some (String.ofList cs, "")

theorem paramPairs_eq (cs : List Char) :
    paramPairs cs = ((pieces ',' cs).map trim).filterMap readPair := rfl

/-- Written one behind the other, parameters are read again. -/
theorem paramPairs_joinWith {ps : List (String × String)} (h : ∀ p ∈ ps, PairFits p) :
    paramPairs (joinWith [',', ' '] (ps.map pairText)) = ps := by
  have hread : ∀ qs : List (String × String), (∀ p ∈ qs, PairFits p) →
      (qs.map pairText).filterMap readPair = qs := by
    intro qs hqs
    induction qs with
    | nil => rfl
    | cons q qs ih =>
      have hq := hqs q List.mem_cons_self
      have hne : (pairText q).isEmpty = false := by simp [pairText]
      have hsplit : splitOnce '=' (pairText q) = some (q.1.toList, q.2.toList) :=
        splitOnce_append hq.no_equals _
      rw [List.map_cons, List.filterMap_cons, ih fun p hp => hqs p (List.mem_cons_of_mem _ hp)]
      simp [readPair, hne, hsplit, hq.tight_key.trim_eq, hq.tight_value.trim_eq]
  cases ps with
  | nil => rfl
  | cons p ps =>
    have hcomma : ∀ u ∈ (p :: ps).map pairText, ',' ∉ u := by
      intro u hu
      obtain ⟨q, hq, rfl⟩ := List.mem_map.mp hu
      have := (h q hq).no_comma
      simp [pairText, this]
    have htrim : ((pairText p :: (ps.map pairText).map (' ' :: ·)).map trim) =
        (p :: ps).map pairText := by
      rw [List.map_cons, List.map_map, List.map_map, List.map_cons,
        (h p List.mem_cons_self).tight.trim_eq]
      refine congrArg _ (List.map_congr_left fun q hq => ?_)
      have hq := h q (List.mem_cons_of_mem _ hq)
      simp only [Function.comp_apply]
      rw [← List.singleton_append, trim_blank_append (by decide), hq.tight.trim_eq]
    rw [paramPairs_eq, List.map_cons, pieces_joinWith_comma hcomma, htrim]
    exact hread (p :: ps) h

/-- What is read of a text as parameters stands in it. -/
theorem mem_of_mem_paramPairs {cs : List Char} {p : String × String} (h : p ∈ paramPairs cs)
    {c : Char} (hc : c ∈ p.1.toList ∨ c ∈ p.2.toList) : c ∈ cs := by
  rw [paramPairs_eq] at h
  obtain ⟨t, ht, hread⟩ := List.mem_filterMap.mp h
  obtain ⟨u, hu, rfl⟩ := List.mem_map.mp ht
  unfold readPair at hread
  split at hread
  · cases hread
  · refine mem_of_mem_pieces hu (mem_of_mem_trim ?_)
    split at hread
    · next k v hsplit =>
      rw [(splitOnce_eq_some hsplit).1]
      cases hread
      rw [String.toList_ofList, String.toList_ofList] at hc
      rcases hc with hc | hc
      · simp [mem_of_mem_trim hc]
      · simp [mem_of_mem_trim hc]
    · cases hread
      rw [String.toList_ofList] at hc
      simpa using hc

/-- What is read of a text as parameters fits. -/
theorem fits_of_mem_paramPairs {cs : List Char} (hcs : '\n' ∉ cs) {p : String × String}
    (h : p ∈ paramPairs cs) : PairFits p := by
  have hnewline := fun c (hc : c ∈ p.1.toList ∨ c ∈ p.2.toList) => mem_of_mem_paramPairs h hc
  obtain ⟨t, ht, hread⟩ := List.mem_filterMap.mp h
  obtain ⟨u, hu, rfl⟩ := List.mem_map.mp ht
  have hcomma : ',' ∉ trim u := fun hc => not_mem_of_mem_pieces hu (mem_of_mem_trim hc)
  split at hread
  · cases hread
  · split at hread
    · next k v hsplit =>
      obtain ⟨hu', hequals⟩ := splitOnce_eq_some hsplit
      cases hread
      rw [hu'] at hcomma
      simp only [List.mem_append, List.mem_cons, not_or] at hcomma
      refine ⟨?_, ?_, ?_, ⟨?_, ?_⟩, fun hc => hcs (hnewline _ (Or.inl hc)),
        fun hc => hcs (hnewline _ (Or.inr hc))⟩ <;> rw [String.toList_ofList]
      · exact tight_trim k
      · exact tight_trim v
      · exact fun hc => hequals (mem_of_mem_trim hc)
      · exact fun hc => hcomma.1 (mem_of_mem_trim hc)
      · exact fun hc => hcomma.2.2 (mem_of_mem_trim hc)
    · next hsplit =>
      cases hread
      have hequals : '=' ∉ trim u := by
        intro hc
        obtain ⟨pre, post, hu', hpre⟩ := List.eq_append_cons_of_mem hc
        rw [hu', splitOnce_append hpre] at hsplit
        cases hsplit
      exact ⟨by rw [String.toList_ofList]; exact tight_trim u, tight_nil,
        by rw [String.toList_ofList]; exact hequals,
        ⟨by rw [String.toList_ofList]; exact hcomma, List.not_mem_nil⟩,
        fun hc => hcs (hnewline _ (Or.inl hc)), List.not_mem_nil⟩

/-! ## The line -/

/-- The beginning of the attributes in the line of the parameters. -/
def labelStart : List Char := "\x7b shape: doc, label: ".toList

/-- The attributes in the line of parameters. -/
def paramsAttributes (ps : List (String × String)) : List Char :=
  labelStart ++ quoted (joinWith [',', ' '] (ps.map pairText)) ++ [' ', '\x7d']

/-- The line of parameters, without the blanks around it. -/
def paramsText (ps : List (String × String)) : List Char := paramsName ++ '@' :: paramsAttributes ps

theorem toList_paramsLine {w : Workflow} (h : w.params.entries ≠ []) :
    (paramsLine w).toList = ' ' :: ' ' :: paramsText w.params.entries ++ ['\n'] := by
  have hempty : w.params.isEmpty = false := by simpa [Table.isEmpty] using h
  have hpairs : ∀ f : String × String → String, (∀ p, (f p).toList = pairText p) →
      (w.params.entries.map f).map String.toList = w.params.entries.map pairText := by
    intro f hf
    rw [List.map_map]
    exact List.map_congr_left fun p _ => hf p
  have hstart : "  PARAMS".toList ++ "@\x7b ".toList ++ "shape: doc, label: \"".toList =
      ' ' :: ' ' :: paramsName ++ '@' :: labelStart ++ ['"'] := by decide
  have hcomma : ", ".toList = [',', ' '] := by decide
  have hend : "\"".toList ++ " \x7d".toList ++ "\n".toList = ['"', ' ', '\x7d', '\n'] := by decide
  unfold paramsLine
  rw [hempty]
  simp only [Bool.false_eq_true, if_false, attributes, String.toList_append, toList_joinStrings,
    hcomma]
  rw [hpairs _ fun p => by simp [pairText]]
  unfold paramsText paramsAttributes
  generalize joinWith [',', ' '] (w.params.entries.map pairText) = label
  calc _ = ("  PARAMS".toList ++ "@\x7b ".toList ++ "shape: doc, label: \"".toList) ++ label ++
        ("\"".toList ++ " \x7d".toList ++ "\n".toList) := by simp only [List.append_assoc]
    _ = _ := by
      rw [hstart, hend]
      simp only [quoted, List.append_assoc, List.cons_append, List.nil_append]

theorem tight_attributes (ps : List (String × String)) : Tight ('@' :: paramsAttributes ps) := by
  have hends : '@' :: paramsAttributes ps = '@' :: (labelStart ++
      quoted (joinWith [',', ' '] (ps.map pairText)) ++ [' ']) ++ ['\x7d'] := by
    simp only [paramsAttributes, List.append_assoc, List.cons_append, List.nil_append]
  rw [hends]
  exact tight_between (by decide) (by decide) _

theorem tight_paramsText (ps : List (String × String)) : Tight (paramsText ps) :=
  tight_append (by decide) (by decide) (tight_attributes ps).2

theorem trim_paramsLine {w : Workflow} (h : w.params.entries ≠ []) :
    trim (paramsLine w).toList = paramsText w.params.entries := by
  have := trim_of_tight (l := [' ', ' ']) (r := ['\n']) (by decide)
    (tight_paramsText w.params.entries) (by decide)
  rw [toList_paramsLine h]
  exact this

theorem isIgnored_paramsText (ps : List (String × String)) : isIgnored (paramsText ps) = false := by
  have hfirst : firstWord (paramsText ps) = "PARAMS@\x7b".toList := rfl
  have hcomment : "%%".toList.isPrefixOf (paramsText ps) = false := rfl
  unfold isIgnored
  rw [hcomment, hfirst]
  decide

/-- The node of the parameters is read as its label says. -/
theorem node_paramsText (ps : List (String × String)) : node (paramsText ps) =
    .ok (.params (paramPairs (trim ((labelAttribute? (paramsAttributes ps)).getD [])))) := by
  have hname : (paramsText ps).takeWhile isNameChar = paramsName := rfl
  have hshape : (paramsText ps).dropWhile isNameChar = '@' :: paramsAttributes ps := rfl
  have hstem : (Kind.stemOf paramsName == paramsName) = true := by decide
  have hempty : paramsName.isEmpty = false := by decide
  unfold node
  simp only [(tight_paramsText ps).trim_eq, hname, hshape, (tight_attributes ps).trim_eq, hstem,
    hempty, expression?, Bool.false_eq_true, if_false, if_true]

/-- Parameters without quotes, as they stand in the label. -/
theorem no_quote_joinWith {ps : List (String × String)} (hq : ∀ p ∈ ps, PairUnquoted p) :
    '"' ∉ joinWith [',', ' '] (ps.map pairText) := by
  refine not_mem_joinWith (by decide) fun t ht => ?_
  obtain ⟨p, hp, rfl⟩ := List.mem_map.mp ht
  have hpair := hq p hp
  simp [pairText, hpair.1, hpair.2]

theorem labelAttribute?_params {ps : List (String × String)} (hq : ∀ p ∈ ps, PairUnquoted p) :
    labelAttribute? (paramsAttributes ps) = some (joinWith [',', ' '] (ps.map pairText)) := by
  have hskip : ∀ X, labelAttribute? (labelStart ++ X) = labelAttribute? ("label: ".toList ++ X) :=
    fun X => rfl
  rw [paramsAttributes, List.append_assoc, hskip, labelAttribute?_label (no_quote_joinWith hq)]

theorem tight_joinWith {sep : List Char} {ts : List (List Char)}
    (h : ∀ t ∈ ts, t ≠ [] ∧ Tight t) :
    Tight (joinWith sep ts) ∧ (ts ≠ [] → joinWith sep ts ≠ []) := by
  induction ts with
  | nil => exact ⟨tight_nil, fun hne => absurd rfl hne⟩
  | cons t ts ih =>
    obtain ⟨hne, ht⟩ := h t List.mem_cons_self
    obtain ⟨hts, hnonempty⟩ := ih fun u hu => h u (List.mem_cons_of_mem _ hu)
    cases ts with
    | nil => exact ⟨ht, fun _ => hne⟩
    | cons u ts =>
      rw [joinWith_cons (List.cons_ne_nil u ts), List.append_assoc]
      refine ⟨tight_append hne ht fun c hc => ?_, fun _ => by simp [hne]⟩
      rw [List.getLast?_append] at hc
      cases hlast : (joinWith sep (u :: ts)).getLast? with
      | none =>
        exact absurd (List.getLast?_eq_none_iff.mp hlast) (hnonempty (List.cons_ne_nil u ts))
      | some d =>
        rw [hlast, Option.some_or] at hc
        exact hts.2 c (hlast.trans hc)

theorem segments_paramsText {ps : List (String × String)} (hq : ∀ p ∈ ps, PairUnquoted p) :
    segments (paramsText ps) = [paramsText ps] := by
  have huncut : Uncut {} (paramsName ++ '@' :: labelStart ++ ['"']) := by decide
  have hquoted : (Nesting.afterAll {} (paramsName ++ '@' :: labelStart ++ ['"'])).quoted := by
    decide
  have hsplit : paramsText ps = (paramsName ++ '@' :: labelStart ++ ['"']) ++
      joinWith [',', ' '] (ps.map pairText) ++ ['"', ' ', '\x7d'] := by
    simp only [paramsText, paramsAttributes, quoted, List.append_assoc, List.cons_append,
      List.nil_append]
  rw [hsplit]
  exact segmentsFrom_of_uncut ((huncut.append (uncut_of_quoted hquoted (no_quote_joinWith hq))).append
    (uncut_of_no_dash (by decide)))

/-- The line of parameters without quotes gives them back, in order. -/
theorem entries_paramsLine {w : Workflow} (hfits : ∀ p ∈ w.params.entries, PairFits p)
    (hne : w.params.entries ≠ []) (hq : ∀ p ∈ w.params.entries, PairUnquoted p) (n : Nat) :
    flowchartEntries n (trim (paramsLine w).toList) =
      w.params.entries.map fun p => .param p.1 p.2 := by
  have htexts : ∀ t ∈ w.params.entries.map pairText, t ≠ [] ∧ Tight t := by
    intro t ht
    obtain ⟨p, hp, rfl⟩ := List.mem_map.mp ht
    exact ⟨by simp [pairText], (hfits p hp).tight⟩
  rw [trim_paramsLine hne, entries_of_whole (isIgnored_paramsText _) (segments_paramsText hq),
    node_paramsText, labelAttribute?_params hq, Option.getD_some, (tight_joinWith htexts).1.trim_eq,
    paramPairs_joinWith hfits]
  rfl

/-- Parameters at the end of an edge are a fault. -/
theorem outcome_of_param {n : Nat} {line : String} {first : Bool} {segs : List (List Char)}
    {k v : String} (h : .param k v ∈ (declareChain n line first segs).entries) :
    ∃ f, (declareChain n line first segs).outcome = .error f := by
  induction segs generalizing first with
  | nil => simp [declareChain] at h
  | cons s segs ih =>
    rw [declareChain] at h ⊢
    dsimp only at h ⊢
    split at h
    · cases h
    · next hlabel =>
      rw [if_neg hlabel]
      split at h
      · cases h
      · exact ⟨_, rfl⟩
      · rcases List.mem_cons.mp h with heq | h
        · cases heq
        · obtain ⟨f, hf⟩ := ih h
          exact ⟨f, by rw [hf]; rfl⟩

/-- A parameter in a line is that of the line itself, or the line has a fault. -/
theorem mem_entries_param {n : Nat} {line : List Char} {k v : String}
    (h : .param k v ∈ flowchartEntries n line) :
    (∃ f, .fault f ∈ flowchartEntries n line) ∨
      ∃ pairs, node line = .ok (.params pairs) ∧ (k, v) ∈ pairs := by
  unfold flowchartEntries at h ⊢
  split at h
  · cases h
  · next hignored =>
    rw [if_neg hignored]
    split at h
    · next only hsegs =>
      rw [whole_of_segments hsegs] at h
      split at h
      · simp at h
      · next nd hnode =>
        cases nd with
        | params pairs =>
          refine Or.inr ⟨pairs, hnode, ?_⟩
          simpa [nodeEntries] using h
        | activity k' name' e' => simp [nodeEntries] at h
    · left
      dsimp only at h ⊢
      split at h
      · next f _ => exact ⟨f, by simp⟩
      · next nodes hok =>
        rcases List.mem_append.mp h with h | h
        · obtain ⟨f, hf⟩ := outcome_of_param h
          rw [hok] at hf
          cases hf
        · rcases of_mem_connectChain h with ⟨_, hf⟩ | ⟨_, _, _, hc⟩
          · cases hf
          · cases hc

/-- No line of parameters gives one with a quote in it. -/
theorem no_quote_of_param {w : Workflow} (hne : w.params.entries ≠ []) {n : Nat} {k v : String}
    (h : .param k v ∈ flowchartEntries n (trim (paramsLine w).toList))
    (hfault : ∀ f, .fault f ∉ flowchartEntries n (trim (paramsLine w).toList)) :
    PairUnquoted (k, v) := by
  rcases mem_entries_param h with ⟨f, hf⟩ | ⟨pairs, hnode, hmem⟩
  · exact absurd hf (hfault f)
  · rw [trim_paramsLine hne, node_paramsText] at hnode
    simp only [Except.ok.injEq, Node.params.injEq] at hnode
    subst hnode
    have hlabel : '"' ∉ (labelAttribute? (paramsAttributes w.params.entries)).getD [] := by
      cases hl : labelAttribute? (paramsAttributes w.params.entries) with
      | none => exact List.not_mem_nil
      | some t => exact (labelAttribute?_eq_some hl).1
    exact ⟨fun hc => hlabel (mem_of_mem_trim (mem_of_mem_paramPairs hmem (Or.inl hc))),
      fun hc => hlabel (mem_of_mem_trim (mem_of_mem_paramPairs hmem (Or.inr hc)))⟩

end Playbook.Flowchart
