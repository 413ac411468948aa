/-
  The words of sessions. Numbers give different tokens (`token_injective`), since a token's digits
  have the number as their value. Markers and the words of a frame begin and end with a low line,
  so nothing is trimmed off them, and what begins a command's output is no word that ends it.
-/
import Playbook.Proofs.Text.Occurrence
import Playbook.Session.LocalShell
import Playbook.Session.RemoteShell

namespace Playbook.Session

open Playbook.Text

/-! ## Tokens -/

/-- The value of hexadecimal digits. -/
def hexValue (digits : List Char) : Nat :=
  digits.foldl (fun v c => 16 * v + "0123456789abcdef".toList.idxOf c) 0

theorem hexValue_append_singleton (digits : List Char) (c : Char) :
    hexValue (digits ++ [c]) = 16 * hexValue digits + "0123456789abcdef".toList.idxOf c := by
  simp [hexValue]

theorem idxOf_digitChar {n : Nat} (h : n < 16) :
    "0123456789abcdef".toList.idxOf n.digitChar = n := by
  have all : ∀ n < 16, "0123456789abcdef".toList.idxOf n.digitChar = n := by decide
  exact all n h

theorem hexValue_toDigits (n : Nat) : hexValue (Nat.toDigits 16 n) = n := by
  induction n using Nat.strongRecOn with
  | ind n ih =>
    rw [Nat.toDigits_eq_if (by decide)]
    split
    · next h =>
      rw [← List.nil_append [n.digitChar], hexValue_append_singleton, idxOf_digitChar h]
      simp [hexValue]
    · next h =>
      rw [hexValue_append_singleton, ih (n / 16) (by omega), idxOf_digitChar (by omega)]
      omega

theorem hexValue_zeros_append (k : Nat) (digits : List Char) :
    hexValue (List.replicate k '0' ++ digits) = hexValue digits := by
  induction k with
  | zero => rfl
  | succ k ih => exact ih

/-- Different numbers have different tokens. -/
theorem token_injective {n m : Nat} (h : token n = token m) : n = m := by
  have hvalue := congrArg (fun s => hexValue s.toList) h
  simpa [token, hexValue_zeros_append, hexValue_toDigits] using hvalue

theorem length_token (n : Nat) : 32 ≤ (token n).toList.length := by
  simp only [token, String.toList_ofList, List.length_append, List.length_replicate]
  omega

theorem mem_toDigits {n : Nat} {c : Char} (h : c ∈ Nat.toDigits 16 n) :
    c ∈ "0123456789abcdef".toList := by
  have digits : ∀ n < 16, n.digitChar ∈ "0123456789abcdef".toList := by decide
  induction n using Nat.strongRecOn with
  | ind n ih =>
    rw [Nat.toDigits_eq_if (by decide)] at h
    split at h
    · next hsmall =>
      rw [List.mem_singleton.mp h]
      exact digits n hsmall
    · rcases List.mem_append.mp h with hfront | hlast
      · exact ih (n / 16) (by omega) hfront
      · rw [List.mem_singleton.mp hlast]
        exact digits (n % 16) (by omega)

/-- A token is a word of hexadecimal digits. -/
theorem mem_token {n : Nat} {c : Char} (h : c ∈ (token n).toList) :
    c ∈ "0123456789abcdef".toList := by
  simp only [token, String.toList_ofList, List.mem_append, List.mem_replicate] at h
  rcases h with ⟨_, rfl⟩ | hdigit
  · decide
  · exact mem_toDigits hdigit

/-! ## Markers and frames -/

/-- A token between two texts is read off them. -/
theorem token_of_word {front back : String} {n m : Nat}
    (h : front ++ token n ++ back = front ++ token m ++ back) : n = m := by
  have hlist := congrArg String.toList h
  simp only [String.toList_append, List.append_assoc, List.append_cancel_left_eq,
    List.append_cancel_right_eq, String.toList_inj] at hlist
  exact token_injective hlist

theorem length_word (front : String) (n : Nat) :
    front.toList.length + 34 ≤ (front ++ token n ++ "__").toList.length := by
  have htoken := length_token n
  have hback : "__".toList.length = 2 := rfl
  simp only [String.toList_append, List.length_append]
  omega

theorem newline_not_mem_word {front : String} (h : '\n' ∉ front.toList) (n : Nat) :
    '\n' ∉ (front ++ token n ++ "__").toList := by
  have htoken : '\n' ∉ (token n).toList := fun hmem => absurd (mem_token hmem) (by decide)
  have hback : '\n' ∉ "__".toList := by decide
  simp only [String.toList_append, List.mem_append, not_or]
  exact ⟨⟨h, htoken⟩, hback⟩

theorem word_last (front : String) : (front ++ "__").toList.getLast? = some '_' := by
  rw [String.toList_append, List.getLast?_append]
  rfl

/-- Nothing that a low line does not belong to is dropped behind a word. -/
theorem dropRightWhile_word {p : Char → Bool} (hp : p '_' = false) {word : List Char}
    (hword : word.getLast? = some '_') (front : List Char) :
    dropRightWhile p (front ++ word) = front ++ word := by
  refine dropRightWhile_eq_self fun c hc => ?_
  rw [List.getLast?_append, hword, Option.some_or, Option.some.injEq] at hc
  rwa [← hc]

theorem LocalShell.marker_last (n : Nat) : (marker n).toList.getLast? = some '_' := word_last _

namespace Frame

theorem opening_injective {n m : Nat} (h : (ofNumber n).opening = (ofNumber m).opening) : n = m :=
  token_of_word h

theorem closing_injective {n m : Nat} (h : (ofNumber n).closing = (ofNumber m).closing) : n = m :=
  token_of_word h

theorem opening_head (n : Nat) : (ofNumber n).opening.toList.head? = some '_' := by
  simp [ofNumber, String.toList_append]

theorem closing_head (n : Nat) : (ofNumber n).closing.toList.head? = some '_' := by
  simp [ofNumber, String.toList_append]

theorem opening_last (n : Nat) : (ofNumber n).opening.toList.getLast? = some '_' := word_last _

theorem closing_last (n : Nat) : (ofNumber n).closing.toList.getLast? = some '_' := word_last _

theorem comparable_infix (line : String) : comparable line <:+: line.toList :=
  (dropRightWhile_isPrefix _ _).isInfix.trans (List.dropWhile_suffix _).isInfix

/-- Of what stands in front of a word only carriage returns are not compared. -/
theorem comparable_append {word : String} (first : word.toList.head? = some '_')
    (last : word.toList.getLast? = some '_') (part : String) :
    comparable (part ++ word) = part.toList.dropWhile (· == '\r') ++ word.toList := by
  obtain ⟨cs, hcs⟩ := List.head?_eq_some_iff.mp first
  have hfront : (part ++ word).toList.dropWhile (· == '\r') =
      part.toList.dropWhile (· == '\r') ++ word.toList := by
    rw [String.toList_append, List.dropWhile_append, hcs]
    split
    · next hempty => rw [List.isEmpty_iff.mp hempty]; rfl
    · rfl
  unfold comparable trimRight
  rw [hfront]
  exact dropRightWhile_word (by decide) last _

theorem length_opening (n : Nat) : 42 ≤ (ofNumber n).opening.toList.length :=
  length_word "__BEGIN_" n

theorem length_closing (n : Nat) : 40 ≤ (ofNumber n).closing.toList.length :=
  length_word "__END_" n

/-- No word ends a command's output that begins one. -/
theorem closing_ne_opening (n m : Nat) : (ofNumber n).closing ≠ (ofNumber m).opening := by
  intro h
  -- the words differ in their third characters
  have hthird := congrArg (fun s => s.toList[2]?) h
  simp [ofNumber, String.toList_append] at hthird

end Frame

end Playbook.Session
