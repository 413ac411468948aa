/-
  Closed blocks. Every text is a row of closed blocks with text around them, and behind the last of
  them at most one fence. The commands of a text are those of its closed blocks, block by block
  (`commands_of_blocks`), so between two blocks a text may be cut in two (`extract_compositional`).
-/
import Mathlib.Algebra.Group.Nat.Even
import Playbook.Proofs.Text.Lines
import Playbook.Command.Extraction

namespace Playbook.Command

open Playbook.Text

/-! ## Scanning -/

/-- A line of text goes into the block that is open, if one is. -/
theorem scan_text (block : Option OpenBlock) {l : List Char} (h : isFence l = false)
    (later : List (List Char)) :
    scan block (l :: later) = scan (block.map fun b => { b with lines := l :: b.lines }) later := by
  cases block <;> simp [scan, h]

theorem scan_opening {l : List Char} (h : isFence l) (later : List (List Char)) :
    scan none (l :: later) = scan (some { language := fenceLanguage l }) later := by
  simp [scan, h]

theorem scan_closing (b : OpenBlock) {l : List Char} (h : isFence l) (later : List (List Char)) :
    scan (some b) (l :: later) =
      (ofBlock b.language b.lines.reverse ++ (scan none later).1, (scan none later).2) := by
  simp [scan, h]

/-- What is scanned later is added to what was found before. -/
theorem scan_append (block : Option OpenBlock) (ls later : List (List Char)) :
    scan block (ls ++ later) =
      ((scan block ls).1 ++ (scan (scan block ls).2 later).1,
        (scan (scan block ls).2 later).2) := by
  induction ls generalizing block with
  | nil => cases block <;> simp [scan]
  | cons l ls ih =>
    rw [List.cons_append]
    cases hl : isFence l with
    | false => rw [scan_text block hl, scan_text block hl, ih]
    | true =>
      cases block with
      | none => rw [scan_opening hl, scan_opening hl, ih]
      | some b => rw [scan_closing b hl, scan_closing b hl, ih none, List.append_assoc]

/-- Lines without a fence leave a block open, or none. -/
theorem scan_unfenced (block : Option OpenBlock) {ls : List (List Char)}
    (h : ∀ l ∈ ls, isFence l = false) (later : List (List Char)) :
    scan block (ls ++ later) =
      scan (block.map fun b => { b with lines := ls.reverse ++ b.lines }) later := by
  induction ls generalizing block with
  | nil => cases block <;> rfl
  | cons l ls ih =>
    have hl := h l List.mem_cons_self
    have hls : ∀ x ∈ ls, isFence x = false := fun x hx => h x (List.mem_cons_of_mem _ hx)
    rw [List.cons_append, scan_text block hl, ih _ hls]
    cases block with
    | none => rfl
    | some b => simp

/-- Every fence opens a block or closes the one that is open. -/
theorem isSome_scan_iff (block : Option OpenBlock) (ls : List (List Char)) :
    (scan block ls).2.isSome ↔ (block.isSome ↔ Even (ls.countP isFence)) := by
  induction ls generalizing block with
  | nil => cases block <;> simp [scan]
  | cons l ls ih =>
    cases hl : isFence l with
    | false =>
      have hl' : ¬ isFence l := by simp [hl]
      rw [scan_text block hl, List.countP_cons_of_neg hl', ih, Option.isSome_map]
    | true =>
      have hparity : Even (List.countP isFence (l :: ls)) ↔ ¬ Even (ls.countP isFence) := by
        rw [List.countP_cons_of_pos hl, Nat.even_add_one]
      rw [hparity]
      cases block with
      | none =>
        rw [scan_opening hl, ih]
        simp
      | some b =>
        rw [scan_closing b hl, ih none]
        simp

/-- Behind an even number of fences no block is open. -/
theorem scan_closed {ls : List (List Char)} (h : Even (ls.countP isFence)) :
    (scan none ls).2 = none := by
  have hopen : ¬ (scan none ls).2.isSome := by
    rw [isSome_scan_iff]
    simp [h]
  exact Option.not_isSome_iff_eq_none.mp hopen

/-! ## Blocks -/

/-- A closed block, and the text in front of it. -/
structure FencedBlock where
  before : List (List Char)
  opening : List Char
  body : List (List Char)
  closing : List Char
  outside : ∀ l ∈ before, isFence l = false
  opens : isFence opening
  inside : ∀ l ∈ body, isFence l = false
  closes : isFence closing

namespace FencedBlock

def lines (b : FencedBlock) : List (List Char) := b.before ++ b.opening :: (b.body ++ [b.closing])

/-- What the block asks to be run. -/
def commands (b : FencedBlock) : List Command := ofBlock (fenceLanguage b.opening) b.body

theorem scan_lines (b : FencedBlock) (later : List (List Char)) :
    scan none (b.lines ++ later) = (b.commands ++ (scan none later).1, (scan none later).2) := by
  have hsplit : b.lines ++ later =
      b.before ++ (b.opening :: (b.body ++ (b.closing :: later))) := by
    simp [lines]
  rw [hsplit, scan_unfenced none b.outside, Option.map_none, scan_opening b.opens,
    scan_unfenced _ b.inside, Option.map_some, scan_closing _ b.closes]
  simp [commands]

end FencedBlock

/-- The first fence of some lines, if there is one. -/
theorem exists_first_fence (ls : List (List Char)) :
    (∀ l ∈ ls, isFence l = false) ∨
      ∃ front l later, ls = front ++ l :: later ∧ (∀ x ∈ front, isFence x = false) ∧
        isFence l := by
  induction ls with
  | nil => exact Or.inl nofun
  | cons l ls ih =>
    cases hl : isFence l with
    | true => exact Or.inr ⟨[], l, ls, rfl, nofun, hl⟩
    | false =>
      rcases ih with hnone | ⟨front, x, later, rfl, hfront, hx⟩
      · exact Or.inl (List.forall_mem_cons.mpr ⟨hl, hnone⟩)
      · exact Or.inr ⟨l :: front, x, later, rfl, List.forall_mem_cons.mpr ⟨hl, hfront⟩, hx⟩

theorem countP_of_unfenced {ls : List (List Char)} (h : ∀ l ∈ ls, isFence l = false) :
    ls.countP isFence = 0 := by
  rw [List.countP_eq_zero]
  intro l hl
  simp [h l hl]

/-- Lines with less than two fences hold no closed block. -/
theorem scan_unclosed {ls : List (List Char)} (h : ls.countP isFence ≤ 1) :
    (scan none ls).1 = [] := by
  rcases exists_first_fence ls with hnone | ⟨before, opening, rest, rfl, hbefore, hopening⟩
  · have hscan := scan_unfenced none hnone []
    rw [List.append_nil] at hscan
    rw [hscan]
    rfl
  · have hrest : ∀ l ∈ rest, isFence l = false := by
      rw [List.countP_append, List.countP_cons_of_pos hopening] at h
      have hzero : rest.countP isFence = 0 := by omega
      rw [List.countP_eq_zero] at hzero
      intro l hl
      simpa using hzero l hl
    have hscan := scan_unfenced (some { language := fenceLanguage opening }) hrest []
    rw [List.append_nil] at hscan
    rw [scan_unfenced none hbefore, Option.map_none, scan_opening hopening, hscan]
    rfl

/-- Every text is a row of closed blocks, and lines that hold none. -/
theorem exists_blocks (ls : List (List Char)) :
    ∃ (blocks : List FencedBlock) (tail : List (List Char)),
      ls = blocks.flatMap FencedBlock.lines ++ tail ∧ tail.countP isFence ≤ 1 := by
  rcases exists_first_fence ls with hnone | ⟨before, opening, rest, rfl, hbefore, hopening⟩
  · have hcount := countP_of_unfenced hnone
    exact ⟨[], ls, rfl, by omega⟩
  rcases exists_first_fence rest with hnone | ⟨body, closing, later, rfl, hbody, hclosing⟩
  · have hcount : (before ++ opening :: rest).countP isFence = 1 := by
      rw [List.countP_append, List.countP_cons_of_pos hopening, countP_of_unfenced hbefore,
        countP_of_unfenced hnone]
    exact ⟨[], before ++ opening :: rest, rfl, by omega⟩
  · obtain ⟨blocks, tail, hlater, htail⟩ := exists_blocks later
    let b : FencedBlock := ⟨before, opening, body, closing, hbefore, hopening, hbody, hclosing⟩
    refine ⟨b :: blocks, tail, ?_, htail⟩
    rw [List.flatMap_cons, List.append_assoc, ← hlater]
    simp [b, FencedBlock.lines]
termination_by ls.length

/-- The commands of a text are those of its blocks, in order. -/
theorem commands_of_blocks (blocks : List FencedBlock) {tail : List (List Char)}
    (h : tail.countP isFence ≤ 1) :
    (scan none (blocks.flatMap FencedBlock.lines ++ tail)).1 =
      blocks.flatMap FencedBlock.commands := by
  induction blocks with
  | nil => exact scan_unclosed h
  | cons b blocks ih =>
    rw [List.flatMap_cons, List.append_assoc, b.scan_lines, List.flatMap_cons, ih]

/-! ## Texts -/

/-- How many lines of a text open or close a block. -/
def fences (text : String) : Nat := (Text.lines text.toList).countP isFence

theorem extract_append {a : String} (h : Ended a.toList) (hclosed : Even (fences a)) (b : String) :
    extract (a ++ b) = extract a ++ extract b := by
  unfold extract
  rw [String.toList_append, lines_append h, scan_append, scan_closed hclosed]

/-- Closed blocks, one behind the other, and lines behind them that close none: what every text is
made of (`exists_blocks`). -/
structure LaidOut (text : String) (blocks : List FencedBlock) (tail : List (List Char)) : Prop where
  lines : Text.lines text.toList = blocks.flatMap FencedBlock.lines ++ tail
  unclosed : tail.countP isFence ≤ 1

/-- Between two blocks a text may be cut in two: its commands are those of the first part and those
of the second. Text there that holds no fence neither adds a command nor changes one. And the
commands of any text are those of its closed blocks, every block once and in order; a block behind
them that is not closed adds none. -/
theorem extract_compositional {a : String} (h : Ended a.toList) (hclosed : Even (fences a))
    (b : String) :
    extract (a ++ b) = extract a ++ extract b ∧
      (∀ between, Ended between.toList → fences between = 0 →
        extract (a ++ (between ++ b)) = extract (a ++ b)) ∧
      (∃ blocks tail, LaidOut b blocks tail) ∧
      ∀ blocks tail, LaidOut b blocks tail → extract b = blocks.flatMap FencedBlock.commands := by
  refine ⟨extract_append h hclosed b, fun between hended hnone => ?_, ?_, ?_⟩
  · have hbetween : extract between = [] := by
      refine scan_unclosed ?_
      unfold fences at hnone
      omega
    have heven : Even (fences between) := by
      rw [hnone]
      exact Even.zero
    rw [extract_append h hclosed, extract_append hended heven, hbetween, List.nil_append,
      extract_append h hclosed]
  · obtain ⟨blocks, tail, hlines, htail⟩ := exists_blocks (Text.lines b.toList)
    exact ⟨blocks, tail, hlines, htail⟩
  · intro blocks tail hlaid
    unfold extract
    rw [hlaid.lines, commands_of_blocks blocks hlaid.unclosed]

/-- A reply with two blocks, of which the second is closed by a longer fence. -/
def replyWithBlocks : String :=
  "First\n  ```Bash  \ncd /tmp \\\n  && ls\r\n```\n```python\nx = 1\n\ny = 2\n`````\nThen:\n"

/-- The rest of the reply, with a block that is not closed. -/
def restOfReply : String := "```sh\npwd\n\t```\n```\necho never"

theorem replyWithBlocks_extracted :
    Ended replyWithBlocks.toList ∧ Even (fences replyWithBlocks) ∧
      extract replyWithBlocks =
        [⟨.shell, ["cd /tmp && ls"]⟩, ⟨.other "python", ["x = 1\ny = 2"]⟩] ∧
      extract (replyWithBlocks ++ restOfReply) =
        extract replyWithBlocks ++ [⟨.shell, ["pwd"]⟩] := by
  have hended : Ended replyWithBlocks.toList := by decide +kernel
  have hclosed : Even (fences replyWithBlocks) := by decide +kernel
  have hrest : extract restOfReply = [⟨.shell, ["pwd"]⟩] := by decide +kernel
  obtain ⟨happend, _⟩ := extract_compositional hended hclosed restOfReply
  exact ⟨hended, hclosed, by decide +kernel, hrest ▸ happend⟩

end Playbook.Command
