/-
  Pieces and lines. Joining undoes cutting into pieces and the other way round; the lines of a
  text in which every line ends with a line feed are these lines, each without one carriage return
  at its end.
-/
import Playbook.Proofs.Text.Trimming

namespace Playbook.Text

/-! ## Pieces -/

theorem pieces_ne_nil (sep : Char) (cs : List Char) : pieces sep cs ≠ [] := by
  cases cs with
  | nil => simp [pieces]
  | cons c cs =>
    rw [pieces]
    split
    · simp
    · split <;> simp

theorem pieces_of_not_mem {sep : Char} {cs : List Char} (h : sep ∉ cs) : pieces sep cs = [cs] := by
  induction cs with
  | nil => rfl
  | cons c cs ih =>
    rw [List.mem_cons, not_or] at h
    have hc : (c == sep) = false := by simpa using Ne.symm h.1
    simp [pieces, hc, ih h.2]

/-- A separator parts the pieces before it from those behind it. -/
theorem pieces_append_cons (sep : Char) (cs ds : List Char) :
    pieces sep (cs ++ sep :: ds) = pieces sep cs ++ pieces sep ds := by
  induction cs with
  | nil => simp [pieces]
  | cons c cs ih =>
    rw [List.cons_append, pieces, pieces, ih]
    split
    · rfl
    · obtain ⟨p, ps, hcs⟩ := List.exists_cons_of_ne_nil (pieces_ne_nil sep cs)
      rw [hcs]
      rfl

theorem pieces_append_sep {sep : Char} {cs : List Char} (h : sep ∉ cs) (rest : List Char) :
    pieces sep (cs ++ sep :: rest) = cs :: pieces sep rest := by
  rw [pieces_append_cons, pieces_of_not_mem h, List.singleton_append]

/-- Where two texts meet, the last piece of the one and the first of the other become one. -/
theorem exists_pieces_append (sep : Char) (cs ds : List Char) :
    ∃ ps p q qs, pieces sep cs = ps ++ [p] ∧ pieces sep ds = q :: qs ∧
      pieces sep (cs ++ ds) = ps ++ (p ++ q) :: qs := by
  obtain ⟨q, qs, hds⟩ := List.exists_cons_of_ne_nil (pieces_ne_nil sep ds)
  induction cs with
  | nil => exact ⟨[], [], q, qs, rfl, hds, hds⟩
  | cons c cs ih =>
    obtain ⟨ps, p, q', qs', hcs, hds', happ⟩ := ih
    rw [hds] at hds'
    obtain ⟨rfl, rfl⟩ := List.cons.inj hds'
    rw [List.cons_append, pieces, pieces, hcs, happ]
    split
    · exact ⟨[] :: ps, p, q, qs, rfl, hds, rfl⟩
    · cases ps with
      | nil => exact ⟨[], c :: p, q, qs, rfl, hds, rfl⟩
      | cons r ps => exact ⟨(c :: r) :: ps, p, q, qs, rfl, hds, rfl⟩

theorem not_mem_of_mem_pieces {sep : Char} {cs p : List Char} (h : p ∈ pieces sep cs) :
    sep ∉ p := by
  induction cs generalizing p with
  | nil => simp_all [pieces]
  | cons c cs ih =>
    rw [pieces] at h
    split at h
    · rcases List.mem_cons.mp h with rfl | h
      · exact List.not_mem_nil
      · exact ih h
    · next hc =>
      have hsep : ¬ sep = c := by simpa using Ne.symm (by simpa using hc)
      split at h
      · simp_all
      · next q ps hq =>
        rcases List.mem_cons.mp h with rfl | h
        · rw [List.mem_cons, not_or]
          exact ⟨hsep, ih (hq ▸ List.mem_cons_self)⟩
        · exact ih (hq ▸ List.mem_cons_of_mem _ h)

theorem joinWith_cons {sep t : List Char} {ts : List (List Char)} (h : ts ≠ []) :
    joinWith sep (t :: ts) = t ++ sep ++ joinWith sep ts := by
  cases ts with
  | nil => exact absurd rfl h
  | cons u ts => rfl

theorem toList_joinStrings (sep : String) (ts : List String) :
    (joinStrings sep ts).toList = joinWith sep.toList (ts.map String.toList) := by
  induction ts with
  | nil => rfl
  | cons t ts ih =>
    cases ts with
    | nil => rfl
    | cons u ts =>
      rw [joinStrings, List.map_cons, joinWith_cons (by simp), ← ih]
      simp

theorem joinWith_concat {sep : List Char} {ts : List (List Char)} (h : ts ≠ []) (t : List Char) :
    joinWith sep (ts ++ [t]) = joinWith sep ts ++ sep ++ t := by
  induction ts with
  | nil => exact absurd rfl h
  | cons u ts ih =>
    cases ts with
    | nil => rfl
    | cons v ts =>
      rw [List.cons_append, joinWith_cons (by simp), ih (List.cons_ne_nil v ts),
        joinWith_cons (List.cons_ne_nil v ts)]
      simp only [List.append_assoc]

theorem joinWith_pieces (sep : Char) (cs : List Char) : joinWith [sep] (pieces sep cs) = cs := by
  induction cs with
  | nil => rfl
  | cons c cs ih =>
    rw [pieces]
    split
    · next hc =>
      rw [joinWith_cons (pieces_ne_nil sep cs), ih]
      simp_all
    · split
      · next hp => exact absurd hp (pieces_ne_nil sep cs)
      · next p ps hp =>
        rw [hp] at ih
        cases ps with
        | nil => simpa [joinWith] using ih
        | cons q ps => simpa [joinWith] using ih

theorem mem_joinWith_of_mem {sep t : List Char} {ts : List (List Char)} {c : Char} (ht : t ∈ ts)
    (hc : c ∈ t) : c ∈ joinWith sep ts := by
  induction ts with
  | nil => exact absurd ht List.not_mem_nil
  | cons u ts ih =>
    cases ts with
    | nil => exact List.mem_singleton.mp ht ▸ hc
    | cons v ts =>
      rw [joinWith_cons (List.cons_ne_nil v ts), List.append_assoc]
      rcases List.mem_cons.mp ht with rfl | ht
      · exact List.mem_append_left _ hc
      · exact List.mem_append_right _ (List.mem_append_right _ (ih ht))

/-- Behind one of several texts, there is nothing or the separator. -/
theorem exists_of_mem_joinWith (sep : List Char) {t : List Char} {ts : List (List Char)}
    (ht : t ∈ ts) :
    ∃ front back, joinWith sep ts = front ++ t ++ back ∧ (back = [] ∨ ∃ b, back = sep ++ b) := by
  induction ts with
  | nil => exact absurd ht List.not_mem_nil
  | cons u ts ih =>
    cases ts with
    | nil => exact ⟨[], [], by simp [joinWith, List.mem_singleton.mp ht], Or.inl rfl⟩
    | cons v ts =>
      rw [joinWith_cons (List.cons_ne_nil v ts)]
      rcases List.mem_cons.mp ht with rfl | ht
      · exact ⟨[], _, by rw [List.nil_append, List.append_assoc], Or.inr ⟨_, rfl⟩⟩
      · obtain ⟨front, back, hjoin, hback⟩ := ih ht
        exact ⟨u ++ sep ++ front, back, by rw [hjoin]; simp, hback⟩

theorem not_mem_joinWith {sep : List Char} {ts : List (List Char)} {c : Char} (hsep : c ∉ sep)
    (h : ∀ t ∈ ts, c ∉ t) : c ∉ joinWith sep ts := by
  induction ts with
  | nil => exact List.not_mem_nil
  | cons t ts ih =>
    have ht := h t List.mem_cons_self
    have hts := ih fun u hu => h u (List.mem_cons_of_mem _ hu)
    cases ts with
    | nil => exact ht
    | cons u ts =>
      rw [joinWith_cons (List.cons_ne_nil u ts), List.mem_append, List.mem_append, not_or, not_or]
      exact ⟨⟨ht, hsep⟩, hts⟩

theorem mem_of_mem_pieces {sep c : Char} {cs t : List Char} (ht : t ∈ pieces sep cs)
    (hc : c ∈ t) : c ∈ cs := by
  rw [← joinWith_pieces sep cs]
  exact mem_joinWith_of_mem ht hc

theorem pieces_joinWith {sep : Char} {ls : List (List Char)} (hne : ls ≠ [])
    (h : ∀ l ∈ ls, sep ∉ l) : pieces sep (joinWith [sep] ls) = ls := by
  induction ls with
  | nil => exact absurd rfl hne
  | cons l ls ih =>
    have hl : sep ∉ l := h l List.mem_cons_self
    cases ls with
    | nil => exact pieces_of_not_mem hl
    | cons m ls =>
      rw [joinWith_cons (List.cons_ne_nil m ls), List.append_assoc, List.singleton_append,
        pieces_append_sep hl,
        ih (List.cons_ne_nil m ls) fun x hx => h x (List.mem_cons_of_mem _ hx)]

/-! ## Lines -/

/-- Lines, each with a line feed behind it. -/
def unlines (ls : List (List Char)) : List Char := ls.flatMap (· ++ ['\n'])

@[simp] theorem unlines_nil : unlines [] = [] := rfl

@[simp] theorem unlines_cons (l : List Char) (ls : List (List Char)) :
    unlines (l :: ls) = l ++ '\n' :: unlines ls := by simp [unlines]

@[simp] theorem unlines_append (ls ms : List (List Char)) :
    unlines (ls ++ ms) = unlines ls ++ unlines ms := by simp [unlines]

theorem unlines_eq_joinWith {ls : List (List Char)} (hne : ls ≠ []) :
    unlines ls = joinWith ['\n'] ls ++ ['\n'] := by
  induction ls with
  | nil => exact absurd rfl hne
  | cons l ls ih =>
    cases ls with
    | nil => simp [joinWith]
    | cons m ls =>
      rw [unlines_cons, ih (List.cons_ne_nil m ls), joinWith_cons (List.cons_ne_nil m ls)]
      simp

theorem unlines_pieces (cs : List Char) : unlines (pieces '\n' cs) = cs ++ ['\n'] := by
  rw [unlines_eq_joinWith (pieces_ne_nil '\n' cs), joinWith_pieces]

theorem pieces_unlines_append {ls : List (List Char)} (h : ∀ l ∈ ls, '\n' ∉ l)
    (rest : List Char) : pieces '\n' (unlines ls ++ rest) = ls ++ pieces '\n' rest := by
  induction ls with
  | nil => rfl
  | cons l ls ih =>
    rw [unlines_cons, List.append_assoc, List.cons_append,
      pieces_append_sep (h l List.mem_cons_self), ih fun x hx => h x (List.mem_cons_of_mem _ hx),
      List.cons_append]

theorem lines_go_append (ls : List (List Char)) {ps : List (List Char)} (hne : ps ≠ []) :
    lines.go (ls ++ ps) = ls.map dropCarriageReturn ++ lines.go ps := by
  induction ls with
  | nil => rfl
  | cons l ls ih =>
    obtain ⟨q, qs, hrest⟩ :=
      List.exists_cons_of_ne_nil (List.append_ne_nil_of_right_ne_nil ls hne)
    rw [List.cons_append, hrest, lines.go, ← hrest, ih]
    rfl

/-- The lines of a text that begins with lines: each of those loses one carriage return at its
end. -/
theorem lines_unlines_append {ls : List (List Char)} (h : ∀ l ∈ ls, '\n' ∉ l) (rest : List Char) :
    lines (unlines ls ++ rest) = ls.map dropCarriageReturn ++ lines rest := by
  rw [lines, pieces_unlines_append h, lines_go_append ls (pieces_ne_nil '\n' rest)]
  rfl

/-- The lines of a text made of lines. -/
theorem lines_unlines {ls : List (List Char)} (h : ∀ l ∈ ls, '\n' ∉ l) :
    lines (unlines ls) = ls.map dropCarriageReturn := by
  have hnil : lines [] = [] := rfl
  have hall := lines_unlines_append h []
  rwa [List.append_nil, hnil, List.append_nil] at hall

/-- Whether a text ends with a line feed, if it does not end before its first line. -/
def Ended (cs : List Char) : Prop := cs = [] ∨ cs.getLast? = some '\n'

instance (cs : List Char) : Decidable (Ended cs) :=
  inferInstanceAs (Decidable (cs = [] ∨ cs.getLast? = some '\n'))

/-- Where a line ends, a text may be cut in two. -/
theorem lines_append {a : List Char} (h : Ended a) (b : List Char) :
    lines (a ++ b) = lines a ++ lines b := by
  rcases h with rfl | h
  · rfl
  · obtain ⟨front, rfl⟩ := List.getLast?_eq_some_iff.mp h
    have hfeed : ∀ p ∈ pieces '\n' front, '\n' ∉ p := fun p hp => not_mem_of_mem_pieces hp
    rw [← unlines_pieces, lines_unlines_append hfeed, lines_unlines hfeed]

theorem mem_of_mem_dropCarriageReturn {c : Char} {line : List Char}
    (h : c ∈ dropCarriageReturn line) : c ∈ line := by
  unfold dropCarriageReturn at h
  split at h
  · next rest hrev =>
    rw [← List.reverse_reverse line, hrev]
    simp_all
  · exact h

theorem not_mem_of_mem_map_dropCarriageReturn {c : Char} {ls : List (List Char)}
    (h : ∀ l ∈ ls, c ∉ l) : ∀ l ∈ ls.map dropCarriageReturn, c ∉ l := by
  intro l hl
  obtain ⟨k, hk, rfl⟩ := List.mem_map.mp hl
  exact fun hc => h k hk (mem_of_mem_dropCarriageReturn hc)

theorem not_mem_of_mem_lines {cs l : List Char} (h : l ∈ lines cs) : '\n' ∉ l := by
  have hgo : ∀ ps : List (List Char), (∀ p ∈ ps, '\n' ∉ p) → ∀ l ∈ lines.go ps, '\n' ∉ l := by
    intro ps
    induction ps with
    | nil => simp [lines.go]
    | cons p ps ih =>
      intro hps l hl
      cases ps with
      | nil =>
        rw [lines.go] at hl
        split at hl
        · exact absurd hl List.not_mem_nil
        · exact List.mem_singleton.mp hl ▸ hps p List.mem_cons_self
      | cons q ps =>
        rw [lines.go] at hl
        rcases List.mem_cons.mp hl with rfl | hl
        · exact fun hc => hps p List.mem_cons_self (mem_of_mem_dropCarriageReturn hc)
        · exact ih (fun x hx => hps x (List.mem_cons_of_mem _ hx)) l hl
  exact hgo _ (fun p hp => not_mem_of_mem_pieces hp) l h

/-- A line loses nothing but a carriage return, which is blank. -/
theorem exists_dropCarriageReturn (line : List Char) :
    ∃ r, line = dropCarriageReturn line ++ r ∧ isAllBlank r ∧ r.length ≤ 1 := by
  unfold dropCarriageReturn
  split
  · next rest hrev =>
    refine ⟨['\r'], ?_, rfl, by simp⟩
    rw [← List.reverse_cons, ← hrev, List.reverse_reverse]
  · exact ⟨[], by simp, rfl, by simp⟩

@[simp] theorem trim_dropCarriageReturn (line : List Char) :
    trim (dropCarriageReturn line) = trim line := by
  obtain ⟨r, hr, hb, _⟩ := exists_dropCarriageReturn line
  rw [← trim_append_blank _ hb, ← hr]

theorem dropCarriageReturn_eq_self {line : List Char} (h : line.getLast? ≠ some '\r') :
    dropCarriageReturn line = line := by
  unfold dropCarriageReturn
  split
  · next rest hrev =>
    refine absurd ?_ h
    rw [← List.head?_reverse, hrev]
    rfl
  · rfl

theorem Tight.dropCarriageReturn_eq {line : List Char} (h : Tight line) :
    dropCarriageReturn line = line :=
  dropCarriageReturn_eq_self fun hl => absurd (h.2 _ hl) (by decide)

/-- Whatever lines there are, they are those of a text. -/
theorem exists_text_of_lines {ls : List (List Char)} (h : ∀ l ∈ ls, '\n' ∉ l) :
    ∃ text : String, lines text.toList = ls := by
  -- a carriage return of its own keeps the last character of each line from being taken for one
  have hreturn : ∀ l : List Char, dropCarriageReturn (l ++ ['\r']) = l := by
    intro l
    unfold dropCarriageReturn
    rw [List.reverse_append]
    exact List.reverse_reverse l
  refine ⟨String.ofList (unlines (ls.map (· ++ ['\r']))), ?_⟩
  rw [String.toList_ofList, lines_unlines, List.map_map]
  · exact (List.map_congr_left fun l _ => hreturn l).trans (List.map_id ls)
  · intro l hl
    obtain ⟨k, hk, rfl⟩ := List.mem_map.mp hl
    simpa using h k hk

/-! ## Splitting and dropping -/

theorem splitOnce_of_not_mem {sep : Char} {cs : List Char} (h : sep ∉ cs) :
    splitOnce sep cs = none := by
  induction cs with
  | nil => rfl
  | cons c cs ih =>
    rw [List.mem_cons, not_or] at h
    have hc : (c == sep) = false := by simpa using Ne.symm h.1
    simp [splitOnce, hc, ih h.2]

theorem splitOnce_append {sep : Char} {cs : List Char} (h : sep ∉ cs) (rest : List Char) :
    splitOnce sep (cs ++ sep :: rest) = some (cs, rest) := by
  induction cs with
  | nil => simp [splitOnce]
  | cons c cs ih =>
    rw [List.mem_cons, not_or] at h
    have hc : (c == sep) = false := by simpa using Ne.symm h.1
    rw [List.cons_append, splitOnce]
    simp [hc, ih h.2]

/-- Splitting takes the text apart at the first separator. -/
theorem splitOnce_eq_some {sep : Char} {cs a b : List Char} (h : splitOnce sep cs = some (a, b)) :
    cs = a ++ sep :: b ∧ sep ∉ a := by
  by_cases hmem : sep ∈ cs
  · obtain ⟨pre, post, rfl, hpre⟩ := List.eq_append_cons_of_mem hmem
    rw [splitOnce_append hpre, Option.some.injEq, Prod.mk.injEq] at h
    obtain ⟨rfl, rfl⟩ := h
    exact ⟨rfl, hpre⟩
  · rw [splitOnce_of_not_mem hmem] at h
    cases h

theorem dropStart?_append (start rest : List Char) :
    dropStart? start (start ++ rest) = some rest := by
  induction start with
  | nil => cases rest <;> rfl
  | cons s start ih => simp [dropStart?, ih]

theorem dropStart?_eq_some {start cs rest : List Char} (h : dropStart? start cs = some rest) :
    cs = start ++ rest := by
  induction start generalizing cs with
  | nil =>
    simp only [dropStart?, Option.some.injEq] at h
    simpa using h
  | cons s start ih =>
    cases cs with
    | nil => simp [dropStart?] at h
    | cons c cs =>
      rw [dropStart?] at h
      split at h
      · next hs =>
        rw [ih h, List.cons_append]
        simp_all
      · cases h

end Playbook.Text
