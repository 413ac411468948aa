/-
  How the output of a framed command is collected. What arrives before the line with the opening
  word is passed over; from there on every line is collected but echoes of the closing word, up to
  the line with that word. Of a stream that is cut anywhere, a prefix of the command's output is
  collected (`takeAll_of_cut`).
-/
import Playbook.Session.RemoteShell

namespace Playbook.Session

open Playbook.Text

/-! ## The two words -/

namespace Frame

/-- Lines as they are collected: without echoes and without the carriage returns at their ends. -/
def kept (f : Frame) (lines : List String) : List String :=
  (lines.filter fun line => !f.isEcho line).map (onString (dropRightWhile (· == '\r')))

/-- Neither word of the frame is the line. -/
def Foreign (f : Frame) (line : String) : Prop :=
  f.isOpening line = false ∧ f.isClosing line = false

theorem kept_append (f : Frame) (front back : List String) :
    f.kept (front ++ back) = f.kept front ++ f.kept back := by
  simp [kept]

theorem kept_isPrefix (f : Frame) {front lines : List String} (h : front <+: lines) :
    f.kept front <+: f.kept lines := by
  obtain ⟨back, rfl⟩ := h
  exact ⟨f.kept back, (f.kept_append front back).symm⟩

end Frame

/-! ## Collecting -/

namespace Capture

variable {f : Frame}

theorem takeAll_of_done {c : Capture} (h : c.done) (lines : List String) :
    c.takeAll f lines = (c, lines) := by
  cases lines with
  | nil => rfl
  | cons line rest => rw [takeAll, if_pos h]

theorem takeAll_cons {c : Capture} (h : c.done = false) (line : String) (rest : List String) :
    c.takeAll f (line :: rest) = (c.take f line).takeAll f rest := by
  rw [takeAll, if_neg (by simp [h])]

/-- Nothing is collected before the opening word. -/
theorem takeAll_before {before : List String} (h : ∀ line ∈ before, f.isOpening line = false)
    (later : List String) :
    ({} : Capture).takeAll f (before ++ later) = ({} : Capture).takeAll f later := by
  induction before with
  | nil => rfl
  | cons line rest ih =>
    have hline : ({} : Capture).take f line = {} := by
      simp [take, h line List.mem_cons_self]
    rw [List.cons_append, takeAll_cons rfl, hline]
    exact ih fun l hl => h l (List.mem_cons_of_mem _ hl)

theorem take_opening {line : String} (h : f.isOpening line) :
    ({} : Capture).take f line = { started := true } := by
  simp [take, h]

/-- The collecting ends with the closing word. -/
theorem takeAll_closing {line : String} (h : f.isClosing line) (collected rest : List String) :
    (Capture.mk true false collected).takeAll f (line :: rest) =
      (Capture.mk true true collected, rest) := by
  have hline : (Capture.mk true false collected).take f line = Capture.mk true true collected := by
    simp [take, h]
  rw [takeAll_cons rfl, hline]
  exact takeAll_of_done rfl rest

theorem take_of_not_closing {collected : List String} {line : String}
    (h : f.isClosing line = false) :
    (Capture.mk true false collected).take f line =
      Capture.mk true false (collected ++ f.kept [line]) := by
  by_cases hecho : f.isEcho line <;> simp [take, Frame.kept, h, hecho]

/-- What arrives in front of the closing word is kept. -/
theorem takeAll_body {body : List String} (h : ∀ line ∈ body, f.isClosing line = false)
    (collected later : List String) :
    (Capture.mk true false collected).takeAll f (body ++ later) =
      (Capture.mk true false (collected ++ f.kept body)).takeAll f later := by
  induction body generalizing collected with
  | nil => simp [Frame.kept]
  | cons line rest ih =>
    rw [List.cons_append, takeAll_cons rfl, take_of_not_closing (h line List.mem_cons_self),
      ih fun l hl => h l (List.mem_cons_of_mem _ hl)]
    rw [List.append_assoc, ← Frame.kept_append, List.singleton_append]

/-- What was collected when the output of a command has arrived. -/
theorem takeAll_opened {before body : List String} {opening : String}
    (hbefore : ∀ line ∈ before, f.isOpening line = false) (hopening : f.isOpening opening)
    (hbody : ∀ line ∈ body, f.isClosing line = false) (later : List String) :
    ({} : Capture).takeAll f (before ++ opening :: (body ++ later)) =
      (Capture.mk true false (f.kept body)).takeAll f later := by
  rw [takeAll_before hbefore, takeAll_cons rfl, take_opening hopening, takeAll_body hbody,
    List.nil_append]

theorem prefix_append_cases {front back lines : List String} (h : lines <+: front ++ back) :
    lines <+: front ∨ ∃ rest, lines = front ++ rest ∧ rest <+: back := by
  rcases List.prefix_or_prefix_of_prefix h (List.prefix_append front back) with hfront | hbehind
  · exact .inl hfront
  · obtain ⟨rest, rfl⟩ := hbehind
    exact .inr ⟨rest, rfl, (List.prefix_append_right_inj front).mp h⟩

/-- A cut of a command's stream: in front of the opening word, in the output, or behind the closing
word. -/
theorem cut_cases {before body after heard : List String} {opening closing : String}
    (h : heard <+: before ++ opening :: (body ++ closing :: after)) :
    heard <+: before ∨
      (∃ opened, heard = before ++ opening :: opened ∧ opened <+: body) ∨
      ∃ rest, heard = before ++ opening :: (body ++ closing :: rest) := by
  rcases prefix_append_cases h with hcut | ⟨rest, rfl, hrest⟩
  · exact .inl hcut
  rcases List.prefix_cons_iff.mp hrest with rfl | ⟨opened, rfl, hopened⟩
  · rw [List.append_nil]
    exact .inl List.prefix_rfl
  rcases prefix_append_cases hopened with hcut | ⟨behind, rfl, hbehind⟩
  · exact .inr (.inl ⟨opened, rfl, hcut⟩)
  rcases List.prefix_cons_iff.mp hbehind with rfl | ⟨rest, rfl, _⟩
  · exact .inr (.inl ⟨body, by rw [List.append_nil], List.prefix_rfl⟩)
  · exact .inr (.inr ⟨rest, rfl⟩)

/-- Of a stream that was cut a prefix of the command's output is collected, and all of it if the
closing word was seen; which it was if it arrived. -/
theorem takeAll_of_cut {before body after heard : List String} {opening closing : String}
    (hbefore : ∀ line ∈ before, f.Foreign line) (hopening : f.isOpening opening)
    (hapart : f.isClosing opening = false) (hbody : ∀ line ∈ body, f.isClosing line = false)
    (hclosing : f.isClosing closing)
    (hheard : heard <+: before ++ opening :: (body ++ closing :: after)) :
    let c := (({} : Capture).takeAll f heard).1
    c.lines <+: f.kept body ∧ (c.done → c.lines = f.kept body) ∧
      (c.done ↔ ∃ line ∈ heard, f.isClosing line) := by
  intro c
  have hquiet : ∀ line ∈ before, f.isOpening line = false := fun l hl => (hbefore l hl).1
  rcases cut_cases hheard with hcut | ⟨opened, rfl, hcut⟩ | ⟨rest, rfl⟩
  · have hc : c = {} := by
      have hnone := takeAll_before (f := f) (fun l hl => hquiet l (hcut.subset hl)) []
      rw [List.append_nil] at hnone
      exact congrArg Prod.fst hnone
    have hno : ∀ line ∈ heard, f.isClosing line = false := fun l hl =>
      (hbefore l (hcut.subset hl)).2
    rw [hc]
    exact ⟨List.nil_prefix, by simp, by simpa using hno⟩
  · have hc : c = Capture.mk true false (f.kept opened) := by
      have hwaits := takeAll_opened hquiet hopening (fun l hl => hbody l (hcut.subset hl)) []
      rw [List.append_nil] at hwaits
      exact congrArg Prod.fst hwaits
    have hno : ∀ line ∈ before ++ opening :: opened, f.isClosing line = false := by
      intro line hline
      rcases List.mem_append.mp hline with hline | hline
      · exact (hbefore line hline).2
      · rcases List.mem_cons.mp hline with rfl | hline
        · exact hapart
        · exact hbody line (hcut.subset hline)
    rw [hc]
    exact ⟨f.kept_isPrefix hcut, by simp, by simpa using hno⟩
  · have hc : c = Capture.mk true true (f.kept body) := by
      have hall := takeAll_opened hquiet hopening hbody (closing :: rest)
      rw [takeAll_closing hclosing] at hall
      exact congrArg Prod.fst hall
    rw [hc]
    exact ⟨List.prefix_rfl, fun _ => rfl, fun _ => ⟨closing, by simp, hclosing⟩, fun _ => rfl⟩

end Capture

/-! ## Running commands -/

namespace RemoteShell

variable {τ : Type}

/-- What arrives while a session waits. It does not wait unless it is open and has time and what it
wrote was taken. -/
def heard (far : FarSide String τ) (s : RemoteShell) (t : τ) (commands : List String) :
    List String :=
  let reaction := (far ((Frame.ofNumber s.next).payload commands) t).1
  if s.isOpen && reaction.fault.isNone && s.commandLimit != 0 && !s.ended then reaction.arrivals
  else []

/-- What commands come to is what is captured of the lines that arrive. -/
theorem run_captures (far : FarSide String τ) (s : RemoteShell) (t : τ) (commands : List String) :
    let c := (({} : Capture).takeAll (Frame.ofNumber s.next) (s.heard far t commands)).1
    (run far s t commands).lines = c.lines ∧
      ((run far s t commands).fault = none ↔ c.done) := by
  unfold run
  by_cases hopen : s.isOpen
  · rw [if_neg (show ¬ (!s.isOpen) by simp [hopen])]
    dsimp only
    cases hfault : (far ((Frame.ofNumber s.next).payload commands) t).1.fault with
    | some fault => simp [heard, hfault, Capture.takeAll]
    | none =>
      by_cases hlimit : s.commandLimit = 0
      · simp [heard, hfault, hlimit, Capture.takeAll]
      · have hheard : s.heard far t commands = if s.ended then [] else
            (far ((Frame.ofNumber s.next).payload commands) t).1.arrivals := by
          cases hended : s.ended <;> simp [heard, hopen, hfault, hlimit, hended]
        dsimp only
        rw [if_neg hlimit, hheard]
        refine ⟨rfl, ?_⟩
        dsimp only
        split
        · next hdone => simp [hdone]
        · next hwaits => simp [hwaits]
  · simp [heard, hopen, Capture.takeAll]

/-- Every command counts, and the far side goes on with every command. -/
theorem run_session (far : FarSide String τ) {s : RemoteShell} (opened : s.isOpen) (t : τ)
    (commands : List String) :
    (run far s t commands).session.isOpen ∧
      (run far s t commands).session.next = s.next + 1 ∧
      (run far s t commands).far = (far ((Frame.ofNumber s.next).payload commands) t).2 := by
  have hopen : ¬ (!s.isOpen) := by simp [opened]
  unfold run
  rw [if_neg hopen]
  dsimp only
  split
  · exact ⟨opened, rfl, rfl⟩
  · split <;> exact ⟨opened, rfl, rfl⟩

end RemoteShell

end Playbook.Session
