/-
  A console that several parties share. Its input is a sequence of lines; whoever reads next takes
  lines from the front (`serves_perform`), so that in any order of calls each line is taken once and
  in its place (`shared_input`).
-/
import Playbook.Console
import Playbook.Proofs.Text.Trimming
import Playbook.Proofs.Text.Utf8

namespace Playbook

open Playbook.Text

/-! ## Lines of the input -/

/-- A line of the input: its text, and an ending of carriage returns and a line feed. Only at the
end of the input is there a line without a line feed. -/
structure InputLine where
  text : String
  /-- The number of carriage returns in the ending. -/
  returns : Nat
  /-- Whether the ending has a line feed. -/
  fed : Bool
  no_feed : '\n' ∉ text.toList
  no_return : text.toList.getLast? ≠ some '\r'
  ne_nil : text ≠ "" ∨ 0 < returns ∨ fed = true

namespace InputLine

/-- The line without its line feed. -/
def front (l : InputLine) : List Char := l.text.toList ++ List.replicate l.returns '\r'

/-- The line with its ending. -/
def chars (l : InputLine) : List Char := l.front ++ if l.fed then ['\n'] else []

/-- The line in the input. -/
def bytes (l : InputLine) : List UInt8 := Utf8.encode (String.ofList l.chars)

end InputLine

/-- The lines of a text; only the last one may be without a line feed. -/
structure IsInput (text : List Char) (ls : List InputLine) : Prop where
  whole : ls.flatMap InputLine.chars = text
  fed : ∀ l ∈ ls.dropLast, l.fed

theorem exists_replicate_append (c : Char) (cs : List Char) :
    ∃ k rest, cs = List.replicate k c ++ rest ∧ rest.head? ≠ some c := by
  induction cs with
  | nil => exact ⟨0, [], rfl, by simp⟩
  | cons d cs ih =>
    by_cases hd : d = c
    · obtain ⟨k, rest, rfl, hrest⟩ := ih
      exact ⟨k + 1, rest, by rw [hd]; rfl, hrest⟩
    · exact ⟨0, d :: cs, rfl, by simpa using hd⟩

/-- A line without a line feed is some text and the carriage returns behind it. -/
theorem exists_front {cs : List Char} (h : '\n' ∉ cs) (fed : Bool) (hne : cs ≠ [] ∨ fed = true) :
    ∃ l : InputLine, l.front = cs ∧ l.fed = fed := by
  obtain ⟨k, rest, hsplit, hrest⟩ := exists_replicate_append '\r' cs.reverse
  have hcs : cs = rest.reverse ++ List.replicate k '\r' := by
    rw [← List.reverse_reverse cs, hsplit, List.reverse_append, List.reverse_replicate]
  obtain ⟨text, htext⟩ : ∃ text : String, text.toList = rest.reverse := ⟨_, String.toList_ofList⟩
  rw [← htext] at hcs
  refine ⟨⟨text, k, fed, ?_, ?_, ?_⟩, hcs.symm, rfl⟩
  · exact fun hc => h (hcs ▸ List.mem_append_left _ hc)
  · rwa [htext, List.getLast?_reverse]
  · rcases hne with hne | hfed
    · by_cases hk : k = 0
      · refine .inl fun hnil => hne ?_
        rw [hcs, hk, hnil]
        rfl
      · exact .inr (.inl (Nat.pos_of_ne_zero hk))
    · exact .inr (.inr hfed)

/-- Every text is a sequence of lines. -/
theorem exists_isInput (cs : List Char) : ∃ ls, IsInput cs ls := by
  by_cases hfeed : '\n' ∈ cs
  · obtain ⟨front, more, hcs, hfront⟩ := List.eq_append_cons_of_mem hfeed
    obtain ⟨l, hl, hfed⟩ := exists_front hfront true (.inr rfl)
    obtain ⟨ls, hwhole, hends⟩ := exists_isInput more
    refine ⟨l :: ls, ?_, fun k hk => ?_⟩
    · rw [List.flatMap_cons, hwhole, InputLine.chars, hl, hfed, hcs]
      simp
    · cases ls with
      | nil => cases hk
      | cons m ls =>
        rcases List.mem_cons.mp hk with rfl | hk
        · exact hfed
        · exact hends k hk
  · by_cases hnil : cs = []
    · exact ⟨[], hnil.symm, fun l hl => absurd hl List.not_mem_nil⟩
    · obtain ⟨l, hl, hfed⟩ := exists_front hfeed false (.inl hnil)
      refine ⟨[l], ?_, fun k hk => absurd hk List.not_mem_nil⟩
      rw [List.flatMap_singleton, InputLine.chars, hl, hfed]
      exact List.append_nil cs
termination_by cs.length
decreasing_by
  rw [hcs, List.length_append, List.length_cons]
  omega

/-! ## Lines as bytes -/

theorem rawLines_append_feed {bs : List UInt8} (h : 10 ∉ bs) (more : List UInt8) :
    rawLines (bs ++ 10 :: more) = (bs ++ [10]) :: rawLines more := by
  induction bs with
  | nil => simp [rawLines]
  | cons b bs ih =>
    have hb : (b == 10) = false := beq_eq_false_iff_ne.mpr fun hb => h (hb ▸ List.mem_cons_self)
    rw [List.cons_append, rawLines, hb, ih fun hc => h (List.mem_cons_of_mem _ hc)]
    rfl

theorem rawLines_of_not_mem {bs : List UInt8} (h : 10 ∉ bs) (hne : bs ≠ []) :
    rawLines bs = [bs] := by
  induction bs with
  | nil => exact absurd rfl hne
  | cons b bs ih =>
    have hb : (b == 10) = false := beq_eq_false_iff_ne.mpr fun hb => h (hb ▸ List.mem_cons_self)
    rw [rawLines, hb]
    by_cases hbs : bs = []
    · subst hbs
      rfl
    · rw [ih (fun hc => h (List.mem_cons_of_mem _ hc)) hbs]
      rfl

namespace InputLine

variable (l : InputLine)

theorem feed_not_mem_front : '\n' ∉ l.front := by
  intro h
  rcases List.mem_append.mp h with h | h
  · exact l.no_feed h
  · exact absurd (List.eq_of_mem_replicate h) (by decide)

theorem bytes_eq : l.bytes =
    l.front.flatMap String.utf8EncodeChar ++ if l.fed then [10] else [] := by
  rw [bytes, Utf8.encode_eq, String.toList_ofList, chars, List.flatMap_append]
  congr 1
  split <;> rfl

theorem feed_not_mem_bytes : 10 ∉ l.front.flatMap String.utf8EncodeChar := by
  intro h
  obtain ⟨c, hc, hten⟩ := List.mem_flatMap.mp h
  have hfeed : c = '\n' := Utf8.eq_of_mem_encodeChar (by decide) hten
  exact l.feed_not_mem_front (hfeed ▸ hc)

theorem front_bytes_ne_nil (h : ¬ l.fed) : l.front.flatMap String.utf8EncodeChar ≠ [] := by
  intro hnil
  have hfront : l.front = [] := by
    cases hf : l.front with
    | nil => rfl
    | cons c cs =>
      rw [hf, List.flatMap_cons] at hnil
      exact absurd (List.append_eq_nil_iff.mp hnil).1 String.utf8EncodeChar_ne_nil
  obtain ⟨htext, hreturns⟩ := List.append_eq_nil_iff.mp hfront
  rcases l.ne_nil with hne | hpos | hfed
  · exact hne (String.toList_eq_nil_iff.mp htext)
  · rw [List.replicate_eq_nil_iff] at hreturns
    omega
  · exact h hfed

end InputLine

theorem rawLines_flatMap {ls : List InputLine} (h : ∀ l ∈ ls.dropLast, l.fed) :
    rawLines (ls.flatMap InputLine.bytes) = ls.map InputLine.bytes := by
  induction ls with
  | nil => rfl
  | cons l ls ih =>
    rw [List.flatMap_cons, List.map_cons, l.bytes_eq]
    by_cases hfed : l.fed
    · rw [if_pos hfed, List.append_assoc, List.singleton_append,
        rawLines_append_feed l.feed_not_mem_bytes, ih fun k hk => ?_]
      cases ls with
      | nil => cases hk
      | cons m ls => exact h k (List.mem_cons_of_mem _ hk)
    · have hlast : ls = [] := by
        cases ls with
        | nil => rfl
        | cons m ls => exact absurd (h l List.mem_cons_self) hfed
      rw [hlast, if_neg hfed, List.flatMap_nil, List.append_nil, List.append_nil,
        rawLines_of_not_mem l.feed_not_mem_bytes (l.front_bytes_ne_nil hfed)]
      rfl

/-- The lines of a console are those of its input. -/
theorem rawLines_encode {text : String} {ls : List InputLine} (h : IsInput text.toList ls) :
    rawLines (Utf8.encode text) = ls.map InputLine.bytes := by
  rw [← rawLines_flatMap h.fed, Utf8.encode_eq, ← h.whole, List.flatMap_assoc]
  congr 2
  funext l
  rw [InputLine.bytes, Utf8.encode_eq, String.toList_ofList]

/-- Read as a text, a line is without its ending. -/
theorem lineText_bytes (l : InputLine) : lineText l.bytes = .ok l.text := by
  let ends (c : Char) : Bool := c == '\r' || c == '\n'
  have hending : ∀ c ∈ List.replicate l.returns '\r' ++ (if l.fed then ['\n'] else []),
      ends c = true := by
    intro c hc
    rcases List.mem_append.mp hc with hc | hc
    · rw [List.eq_of_mem_replicate hc]
      rfl
    · split at hc
      · rw [List.mem_singleton.mp hc]
        rfl
      · cases hc
  have htext : ∀ c, l.text.toList.getLast? = some c → ends c = false := by
    intro c hc
    refine Bool.eq_false_iff.mpr fun hend => ?_
    rcases Bool.or_eq_true_iff.mp hend with hreturn | hfeed
    · exact l.no_return (eq_of_beq hreturn ▸ hc)
    · exact l.no_feed (eq_of_beq hfeed ▸ List.mem_of_getLast? hc)
  have hdrop : dropRightWhile ends l.chars = l.text.toList := by
    rw [InputLine.chars, InputLine.front, List.append_assoc,
      dropRightWhile_append_of_pos _ hending, dropRightWhile_eq_self htext]
  rw [lineText, InputLine.bytes, Utf8.decode_encode]
  dsimp only
  rw [onString, String.toList_ofList, hdrop, String.ofList_toList]

namespace Console

/-! ## Calls -/

/-- What somebody at a shared console asks for; any number of agents may take part. -/
inductive Call (ι : Type) where
  | readLine
  | askOperator (text : String)
  | askAgent (who : ι) (prompt : String)

/-- What comes of a call. -/
inductive Answer where
  | line (l : Except Utf8.Fault (Option String))
  | reply (r : Except AgentFault String)
  deriving Repr

/-- A console and the agents that reply from it. -/
structure Shared (ι : Type) where
  console : Console
  agents : ι → ConsoleAgent

variable {ι : Type}

/-- Calls that read one line. -/
def Call.ReadsLine : Call ι → Prop
  | readLine | askOperator _ => True
  | askAgent _ _ => False

/-- Whether the call is a question to this agent and has a reply. -/
def Call.succeeds [DecidableEq ι] (who : ι) : Call ι → Answer → Bool
  | askAgent other _, .reply r => other == who && r.isOk
  | _, _ => false

/-- One call. -/
def Shared.perform [DecidableEq ι] (s : Shared ι) : Call ι → Answer × Shared ι
  | .readLine =>
    let (l, console) := s.console.readLine
    (.line l, { s with console })
  | .askOperator text =>
    let (l, console) := s.console.askOperator text
    (.line l, { s with console })
  | .askAgent who prompt =>
    let (r, agent, console) := (s.agents who).ask prompt s.console
    (.reply r, { console, agents := fun x => if x = who then agent else s.agents x })

/-- Calls one after the other. -/
def Shared.performAll [DecidableEq ι] (s : Shared ι) : List (Call ι) → List Answer × Shared ι
  | [] => ([], s)
  | call :: calls =>
    let (a, s) := s.perform call
    let (as, s) := s.performAll calls
    (a :: as, s)

/-- What a call answers that takes the first of these lines and leaves the others. A reply is what
stands in front of a line with a single point, or of the end of the input, where nothing is no
reply. -/
inductive Serves : Call ι → List InputLine → List InputLine → Answer → Prop
  | line {call : Call ι} (h : call.ReadsLine) (l : InputLine) (rest : List InputLine) :
    Serves call [l] rest (.line (.ok (some l.text)))
  | noLine {call : Call ι} (h : call.ReadsLine) : Serves call [] [] (.line (.ok none))
  | reply (who : ι) (prompt : String) {ls : List InputLine} {l : InputLine}
    (hopen : ∀ k ∈ ls, trimmed k.text ≠ endOfReply) (hend : trimmed l.text = endOfReply)
    (rest : List InputLine) : Serves (.askAgent who prompt) (ls ++ [l]) rest
      (.reply (.ok (joinStrings "\n" (ls.map (·.text)))))
  | lastReply (who : ι) (prompt : String) {ls : List InputLine}
    (hopen : ∀ k ∈ ls, trimmed k.text ≠ endOfReply) (hne : ls ≠ []) :
    Serves (.askAgent who prompt) ls [] (.reply (.ok (joinStrings "\n" (ls.map (·.text)))))
  | noReply (who : ι) (prompt : String) :
    Serves (.askAgent who prompt) [] [] (.reply (.error .endOfInput))

/-- Calls that take these lines one after the other and leave the others. -/
inductive ServesAll : List (Call ι) → List (List InputLine) → List InputLine → List Answer → Prop
  | nil (rest : List InputLine) : ServesAll [] [] rest []
  | cons {call : Call ι} {taken : List InputLine} {a : Answer} {calls : List (Call ι)}
    {takings : List (List InputLine)} {rest : List InputLine} {as : List Answer}
    (hone : Serves call taken (takings.flatten ++ rest) a)
    (hmore : ServesAll calls takings rest as) :
    ServesAll (call :: calls) (taken :: takings) rest (a :: as)

/-! ## One call -/

/-- The console with these lines unread. -/
def Holds (c : Console) (ls : List InputLine) : Prop := c.unread = ls.map InputLine.bytes

theorem serves_readLine {c : Console} {ls : List InputLine} (h : c.Holds ls) {call : Call ι}
    (hcall : call.ReadsLine) : ∃ taken rest, ls = taken ++ rest ∧
      Serves call taken rest (.line c.readLine.1) ∧ c.readLine.2.Holds rest := by
  unfold readLine
  cases ls with
  | nil =>
    have hnone : c.unread = [] := h
    rw [hnone]
    exact ⟨[], [], rfl, .noLine hcall, h⟩
  | cons l ls =>
    have hsome : c.unread = l.bytes :: ls.map InputLine.bytes := h
    rw [hsome]
    dsimp only
    rw [lineText_bytes]
    exact ⟨[l], ls, rfl, .line hcall l ls, rfl⟩

/-- A reply is read up to the first line that ends it, or to the end of the input. -/
theorem readReplyFrom_cases (seen : List String) (ls : List InputLine) :
    (∃ before l rest, ls = before ++ [l] ++ rest ∧
      (∀ k ∈ before, trimmed k.text ≠ endOfReply) ∧ trimmed l.text = endOfReply ∧
      readReplyFrom seen (ls.map InputLine.bytes) =
        (.ok (joinStrings "\n" (seen.reverse ++ before.map (·.text))),
          rest.map InputLine.bytes)) ∨
    (∀ k ∈ ls, trimmed k.text ≠ endOfReply) ∧
      readReplyFrom seen (ls.map InputLine.bytes) =
        (if seen = [] ∧ ls = [] then .error .endOfInput
          else .ok (joinStrings "\n" (seen.reverse ++ ls.map (·.text))), []) := by
  induction ls generalizing seen with
  | nil =>
    refine .inr ⟨by simp, ?_⟩
    rw [List.map_nil, readReplyFrom]
    cases seen with
    | nil => rfl
    | cons line seen => simp
  | cons l ls ih =>
    rw [List.map_cons, readReplyFrom, lineText_bytes]
    dsimp only
    by_cases hend : trimmed l.text = endOfReply
    · refine .inl ⟨[], l, ls, rfl, by simp, hend, ?_⟩
      rw [if_pos (beq_iff_eq.mpr hend), List.map_nil, List.append_nil]
    · rw [if_neg (by simpa using hend)]
      rcases ih (l.text :: seen) with ⟨before, m, rest, hls, hopen, hm, hread⟩ | ⟨hopen, hread⟩
      · refine .inl ⟨l :: before, m, rest, by rw [hls]; rfl, ?_, hm, ?_⟩
        · exact List.forall_mem_cons.mpr ⟨hend, hopen⟩
        · rw [hread, List.reverse_cons, List.append_assoc]
          rfl
      · refine .inr ⟨List.forall_mem_cons.mpr ⟨hend, hopen⟩, ?_⟩
        rw [hread, if_neg (by simp), if_neg (by simp), List.reverse_cons, List.append_assoc]
        rfl

theorem serves_readReply {c : Console} {ls : List InputLine} (h : c.Holds ls) (who : ι)
    (prompt : String) : ∃ taken rest, ls = taken ++ rest ∧
      Serves (.askAgent who prompt) taken rest (.reply c.readReply.1) ∧
      c.readReply.2.Holds rest := by
  have hunread : c.unread = ls.map InputLine.bytes := h
  unfold readReply
  rw [hunread]
  rcases readReplyFrom_cases [] ls with ⟨before, l, rest, hls, hopen, hl, hread⟩ | ⟨hopen, hread⟩
  · rw [hread]
    exact ⟨before ++ [l], rest, hls, .reply who prompt hopen hl rest, rfl⟩
  · rw [hread]
    refine ⟨ls, [], (List.append_nil ls).symm, ?_, rfl⟩
    by_cases hnil : ls = []
    · subst hnil
      exact .noReply who prompt
    · rw [if_neg fun hc => hnil hc.2]
      exact .lastReply who prompt hopen hnil

theorem usage_push (c : Conversation) (role : Role) (content : String) :
    (c.push role content).usage = c.usage := by
  unfold Conversation.push
  split <;> rfl

/-- An agent reads a reply from the console on which it has shown the question, and counts it if
there is one. -/
theorem ask_cases (a : ConsoleAgent) (prompt : String) (c : Console) :
    ∃ shown : Console, shown.unread = c.unread ∧ (a.ask prompt c).1 = shown.readReply.1 ∧
      (a.ask prompt c).2.2 = shown.readReply.2 ∧
      (a.ask prompt c).2.1.conversation.usage.iterations =
        a.conversation.usage.iterations + if shown.readReply.1.isOk then 1 else 0 := by
  refine ⟨a.printIf (ConsoleAgent.heading .user prompt ++ ConsoleAgent.instruction) c, ?_, ?_⟩
  · unfold ConsoleAgent.printIf
    split <;> rfl
  · unfold ConsoleAgent.ask
    dsimp only
    generalize (a.printIf
      (ConsoleAgent.heading .user prompt ++ ConsoleAgent.instruction) c).readReply = outcome
    obtain ⟨reply, after⟩ := outcome
    cases reply with
    | error f => exact ⟨rfl, rfl, congrArg Usage.iterations (usage_push ..)⟩
    | ok text =>
      refine ⟨rfl, rfl, ?_⟩
      dsimp only
      rw [usage_push, Conversation.record, Usage.record, usage_push]
      rfl

variable [DecidableEq ι]

theorem succeeds_self (who : ι) (prompt : String) (r : Except AgentFault String) :
    Call.succeeds who (.askAgent who prompt) (.reply r) = r.isOk := by
  rw [Call.succeeds, beq_self_eq_true, Bool.true_and]

theorem succeeds_other {who other : ι} (h : other ≠ who) (prompt : String)
    (r : Except AgentFault String) :
    Call.succeeds who (.askAgent other prompt) (.reply r) = false := by
  rw [Call.succeeds, beq_false_of_ne h, Bool.false_and]

theorem perform_askAgent (s : Shared ι) (who : ι) (prompt : String) :
    s.perform (.askAgent who prompt) = (.reply ((s.agents who).ask prompt s.console).1,
      ⟨((s.agents who).ask prompt s.console).2.2, fun x =>
        if x = who then ((s.agents who).ask prompt s.console).2.1 else s.agents x⟩) := rfl

/-- A call takes lines from the front, and an agent counts the questions that have a reply. -/
theorem serves_perform {s : Shared ι} {ls : List InputLine} (h : s.console.Holds ls)
    (call : Call ι) :
    (∃ taken rest, ls = taken ++ rest ∧ Serves call taken rest (s.perform call).1 ∧
      (s.perform call).2.console.Holds rest) ∧
    ∀ who, ((s.perform call).2.agents who).conversation.usage.iterations =
      (s.agents who).conversation.usage.iterations +
        if call.succeeds who (s.perform call).1 then 1 else 0 := by
  cases call with
  | readLine => exact ⟨serves_readLine h trivial, fun who => rfl⟩
  | askOperator text =>
    exact ⟨serves_readLine (c := s.console.print _) h trivial, fun who => rfl⟩
  | askAgent other prompt =>
    obtain ⟨shown, hunread, hreply, hafter, hcount⟩ := ask_cases (s.agents other) prompt s.console
    have hshown : shown.Holds ls := hunread.trans h
    obtain ⟨taken, rest, hls, hserves, hrest⟩ := serves_readReply hshown other prompt
    rw [← hreply] at hserves hcount
    rw [← hafter] at hrest
    refine ⟨⟨taken, rest, hls, hserves, hrest⟩, fun who => ?_⟩
    rw [perform_askAgent]
    dsimp only
    by_cases hwho : who = other
    · subst hwho
      rw [if_pos rfl, hcount, succeeds_self]
    · rw [if_neg hwho, succeeds_other (Ne.symm hwho)]
      rfl

/-! ## Any calls -/

/-- Calls take lines from the front, one after the other. -/
theorem servesAll_performAll {s : Shared ι} {ls : List InputLine} (h : s.console.Holds ls)
    (calls : List (Call ι)) :
    (∃ takings rest, ls = takings.flatten ++ rest ∧
      ServesAll calls takings rest (s.performAll calls).1 ∧
      (s.performAll calls).2.console.Holds rest) ∧
    ∀ who, ((s.performAll calls).2.agents who).conversation.usage.iterations =
      (s.agents who).conversation.usage.iterations +
        (calls.zip (s.performAll calls).1).countP fun p => p.1.succeeds who p.2 := by
  induction calls generalizing s ls with
  | nil => exact ⟨⟨[], ls, rfl, .nil ls, h⟩, fun who => rfl⟩
  | cons call calls ih =>
    obtain ⟨⟨taken, more, hls, hone, hmore⟩, hcount⟩ := serves_perform h call
    obtain ⟨⟨takings, rest, rfl, hall, hrest⟩, hcounts⟩ := ih hmore
    refine ⟨⟨taken :: takings, rest, ?_, .cons hone hall, hrest⟩, fun who => ?_⟩
    · rw [hls, List.flatten_cons, List.append_assoc]
    · have hstep : s.performAll (call :: calls) =
          ((s.perform call).1 :: ((s.perform call).2.performAll calls).1,
            ((s.perform call).2.performAll calls).2) := rfl
      rw [hstep]
      dsimp only
      rw [hcounts who, hcount who, List.zip_cons_cons, List.countP_cons]
      exact (Nat.add_right_comm ..).trans (Nat.add_assoc ..)

/-- A shared console loses and repeats no line. The lines of the input stand in the calls in which
they are taken, in the order of the calls, and then in what is unread; each call answers with those
that it takes; and an agent counts exactly the questions that have a reply. -/
theorem shared_input (text : String) (agents : ι → ConsoleAgent) (calls : List (Call ι)) :
    ∃ ls answers after,
      Shared.performAll ⟨ofBytes (Utf8.encode text), agents⟩ calls = (answers, after) ∧
      IsInput text.toList ls ∧
      (∃ takings rest, ls = takings.flatten ++ rest ∧ ServesAll calls takings rest answers ∧
        after.console.unread = rest.map InputLine.bytes) ∧
      ∀ who, (after.agents who).conversation.usage.iterations =
        (agents who).conversation.usage.iterations +
          (calls.zip answers).countP fun p => p.1.succeeds who p.2 := by
  obtain ⟨ls, hls⟩ := exists_isInput text.toList
  obtain ⟨htaken, hcounts⟩ :=
    servesAll_performAll (s := ⟨ofBytes (Utf8.encode text), agents⟩) (rawLines_encode hls) calls
  exact ⟨ls, _, _, rfl, hls, htaken, hcounts⟩

end Console

end Playbook
