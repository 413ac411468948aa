/-
  Trimmed texts. Trimming is pinned by what it leaves: a text without blanks at its ends, between
  blanks that are dropped (`trim_of_tight`, `exists_trim`, `tight_trim`).
-/
import Playbook.Text.Blank

namespace Playbook.Text

/-- Nothing blank at either end. -/
def Tight (cs : List Char) : Prop :=
  (∀ c, cs.head? = some c → isBlank c = false) ∧ ∀ c, cs.getLast? = some c → isBlank c = false

instance (cs : List Char) : Decidable (Tight cs) :=
  decidable_of_iff (cs.head?.all (!isBlank ·) && cs.getLast?.all (!isBlank ·))
    (by simp [Tight, Option.all_eq_true])

theorem tight_nil : Tight [] := ⟨by simp, by simp⟩

theorem tight_of_solid {cs : List Char} (h : ∀ c ∈ cs, isBlank c = false) : Tight cs :=
  ⟨fun c hc => h c (List.mem_of_head? hc), fun c hc => h c (List.mem_of_getLast? hc)⟩

/-- A text between two characters that are no blanks. -/
theorem tight_between {a b : Char} (ha : isBlank a = false) (hb : isBlank b = false)
    (mid : List Char) : Tight (a :: mid ++ [b]) := by
  refine ⟨fun c hc => ?_, fun c hc => ?_⟩
  · rw [List.cons_append, List.head?_cons, Option.some.injEq] at hc
    rwa [← hc]
  · rw [List.getLast?_concat, Option.some.injEq] at hc
    rwa [← hc]

theorem tight_append {cs ds : List Char} (hne : cs ≠ []) (hc : Tight cs)
    (hd : ∀ c, ds.getLast? = some c → isBlank c = false) : Tight (cs ++ ds) := by
  refine ⟨fun x hx => ?_, fun x hx => ?_⟩
  · cases cs with
    | nil => exact absurd rfl hne
    | cons c cs => exact hc.1 x hx
  · rw [List.getLast?_append] at hx
    cases hlast : ds.getLast? with
    | none => exact hc.2 x (by rwa [hlast, Option.none_or] at hx)
    | some y => exact hd x (by rw [hlast]; rwa [hlast, Option.some_or] at hx)

theorem dropWhile_eq_self_of_head? {p : Char → Bool} {cs : List Char}
    (h : ∀ c, cs.head? = some c → p c = false) : cs.dropWhile p = cs := by
  cases cs with
  | nil => rfl
  | cons c cs => rw [List.dropWhile_cons_of_neg (by simp [h c rfl])]

theorem dropRightWhile_eq_self {p : Char → Bool} {cs : List Char}
    (h : ∀ c, cs.getLast? = some c → p c = false) : dropRightWhile p cs = cs := by
  unfold dropRightWhile
  rw [dropWhile_eq_self_of_head? (by simpa using h), List.reverse_reverse]

theorem trimRight_eq_self {cs : List Char} (h : ∀ c, cs.getLast? = some c → isBlank c = false) :
    trimRight cs = cs :=
  dropRightWhile_eq_self h

theorem trimRight_concat (cs : List Char) {c : Char} (h : isBlank c = false) :
    trimRight (cs ++ [c]) = cs ++ [c] := by
  refine trimRight_eq_self fun d hd => ?_
  rw [List.getLast?_concat] at hd
  exact Option.some.inj hd ▸ h

theorem dropRightWhile_append_of_pos {p : Char → Bool} (cs : List Char) {r : List Char}
    (hr : ∀ c ∈ r, p c = true) : dropRightWhile p (cs ++ r) = dropRightWhile p cs := by
  unfold dropRightWhile
  rw [List.reverse_append,
    List.dropWhile_append_of_pos fun c hc => hr c (List.mem_reverse.mp hc)]

theorem trimRight_append_blank (cs : List Char) {r : List Char} (hr : isAllBlank r) :
    trimRight (cs ++ r) = trimRight cs :=
  dropRightWhile_append_of_pos cs (List.all_eq_true.mp hr)

theorem trimLeft_blank_append {l : List Char} (hl : isAllBlank l) (cs : List Char) :
    trimLeft (l ++ cs) = trimLeft cs :=
  List.dropWhile_append_of_pos (List.all_eq_true.mp hl)

/-- What trimming leaves of a text whose ends are known. -/
theorem trim_of_tight {l t r : List Char} (hl : isAllBlank l) (ht : Tight t)
    (hr : isAllBlank r) : trim (l ++ t ++ r) = t := by
  unfold trim
  rw [List.append_assoc, trimLeft_blank_append hl]
  cases t with
  | nil =>
    have hnil : trimLeft ([] ++ r) = [] := by
      rw [List.nil_append, ← List.append_nil r, trimLeft_blank_append hr]
      rfl
    rw [hnil]
    rfl
  | cons c t =>
    have hc : isBlank c = false := ht.1 c rfl
    have hleft : trimLeft (c :: t ++ r) = c :: t ++ r :=
      dropWhile_eq_self_of_head? (by simpa using hc)
    rw [hleft, trimRight_append_blank _ hr, trimRight_eq_self ht.2]

theorem Tight.trim_eq {cs : List Char} (h : Tight cs) : trim cs = cs := by
  have := trim_of_tight (l := []) (r := []) rfl h rfl
  rwa [List.nil_append, List.append_nil] at this

theorem exists_trimRight (cs : List Char) :
    ∃ r, cs = trimRight cs ++ r ∧ isAllBlank r ∧
      ∀ c, (trimRight cs).getLast? = some c → isBlank c = false := by
  refine ⟨(cs.reverse.takeWhile isBlank).reverse, ?_, ?_, fun c hc => ?_⟩
  · unfold trimRight dropRightWhile
    rw [← List.reverse_append, List.takeWhile_append_dropWhile, List.reverse_reverse]
  · simp [isAllBlank]
  · have hhead := List.head?_dropWhile_not isBlank cs.reverse
    unfold trimRight dropRightWhile at hc
    rw [List.getLast?_reverse] at hc
    simpa [hc] using hhead

theorem exists_trimLeft (cs : List Char) :
    ∃ l, cs = l ++ trimLeft cs ∧ isAllBlank l ∧
      ∀ c, (trimLeft cs).head? = some c → isBlank c = false := by
  refine ⟨cs.takeWhile isBlank, ?_, ?_, fun c hc => ?_⟩
  · exact List.takeWhile_append_dropWhile.symm
  · simp [isAllBlank]
  · have hhead := List.head?_dropWhile_not isBlank cs
    unfold trimLeft at hc
    simpa [hc] using hhead

/-- Trimming drops blanks at both ends and nothing else. -/
theorem exists_trim (cs : List Char) :
    ∃ l r, cs = l ++ trim cs ++ r ∧ isAllBlank l ∧ isAllBlank r := by
  obtain ⟨l, hl, hbl, _⟩ := exists_trimLeft cs
  obtain ⟨r, hr, hbr, _⟩ := exists_trimRight (trimLeft cs)
  refine ⟨l, r, ?_, hbl, hbr⟩
  rw [List.append_assoc]
  unfold trim
  rw [← hr, ← hl]

theorem tight_trim (cs : List Char) : Tight (trim cs) := by
  obtain ⟨l, _, _, hhead⟩ := exists_trimLeft cs
  obtain ⟨r, hr, _, hlast⟩ := exists_trimRight (trimLeft cs)
  refine ⟨fun c hc => hhead c ?_, hlast⟩
  unfold trim at hc
  rw [hr, List.head?_append, hc]
  rfl

@[simp] theorem trim_trim (cs : List Char) : trim (trim cs) = trim cs := (tight_trim cs).trim_eq

theorem mem_of_mem_trim {c : Char} {cs : List Char} (h : c ∈ trim cs) : c ∈ cs := by
  obtain ⟨l, r, hcs, _, _⟩ := exists_trim cs
  rw [hcs]
  simp [h]

theorem trim_blank_append {l : List Char} (hl : isAllBlank l) (cs : List Char) :
    trim (l ++ cs) = trim cs := by
  unfold trim
  rw [trimLeft_blank_append hl]

theorem isAllBlank_append {cs ds : List Char} :
    isAllBlank (cs ++ ds) ↔ isAllBlank cs ∧ isAllBlank ds := by
  simp [isAllBlank]

theorem trim_append_blank (cs : List Char) {r : List Char} (hr : isAllBlank r) :
    trim (cs ++ r) = trim cs := by
  obtain ⟨l, r', hcs, hl, hr'⟩ := exists_trim cs
  have hsplit : cs ++ r = l ++ trim cs ++ (r' ++ r) := by
    rw [← List.append_assoc, ← hcs]
  rw [hsplit, trim_of_tight hl (tight_trim cs) (isAllBlank_append.mpr ⟨hr', hr⟩)]

theorem trim_eq_nil_iff {cs : List Char} : trim cs = [] ↔ isAllBlank cs := by
  constructor
  · intro h
    obtain ⟨l, r, hcs, hl, hr⟩ := exists_trim cs
    rw [hcs, h, List.append_nil]
    exact isAllBlank_append.mpr ⟨hl, hr⟩
  · intro h
    have := trim_of_tight h tight_nil (r := []) rfl
    simpa using this

/-- Behind a tight text only the blanks at the end are dropped. -/
theorem trim_append_of_tight {cs : List Char} (hne : cs ≠ []) (hc : Tight cs) (ds : List Char) :
    trim (cs ++ ds) = cs ++ trimRight ds := by
  obtain ⟨r, hr, hb, hlast⟩ := exists_trimRight ds
  have htight : Tight (cs ++ trimRight ds) := tight_append hne hc hlast
  conv => lhs; rw [hr]
  rw [← List.append_assoc, trim_append_blank _ hb, htight.trim_eq]

theorem trim_trimRight (cs : List Char) : trim (trimRight cs) = trim cs := by
  obtain ⟨r, hr, hb, _⟩ := exists_trimRight cs
  rw [← trim_append_blank _ hb, ← hr]

theorem trimRight_of_blank {cs : List Char} (h : isAllBlank cs) : trimRight cs = [] :=
  trimRight_append_blank [] h

theorem trimLeft_ne_nil {cs : List Char} (h : ¬ isAllBlank cs) : trimLeft cs ≠ [] := by
  obtain ⟨l, hl, hblank, _⟩ := exists_trimLeft cs
  intro hc
  rw [hc, List.append_nil] at hl
  exact h (hl ▸ hblank)

theorem trimRight_ne_nil {cs : List Char} (h : ¬ isAllBlank cs) : trimRight cs ≠ [] := by
  obtain ⟨r, hr, hblank, _⟩ := exists_trimRight cs
  intro hc
  rw [hc, List.nil_append] at hr
  exact h (hr ▸ hblank)

theorem trimRight_eq_nil_iff {cs : List Char} : trimRight cs = [] ↔ isAllBlank cs := by
  constructor
  · intro h
    refine Decidable.byContradiction fun hsolid => ?_
    exact trimRight_ne_nil hsolid h
  · exact trimRight_of_blank

@[simp] theorem trimRight_trimRight (cs : List Char) : trimRight (trimRight cs) = trimRight cs := by
  obtain ⟨_, _, _, hlast⟩ := exists_trimRight cs
  exact trimRight_eq_self hlast

@[simp] theorem isAllBlank_trimRight (cs : List Char) :
    isAllBlank (trimRight cs) = isAllBlank cs := by
  rw [Bool.eq_iff_iff, ← trimRight_eq_nil_iff, trimRight_trimRight, trimRight_eq_nil_iff]

theorem trimLeft_of_blank {cs : List Char} (h : isAllBlank cs) : trimLeft cs = [] := by
  rw [← List.append_nil cs, trimLeft_blank_append h]
  rfl

/-- Of a text that is not blank at its beginning, only that beginning is trimmed. -/
theorem trimLeft_append {cs : List Char} (h : ¬ isAllBlank cs) (ds : List Char) :
    trimLeft (cs ++ ds) = trimLeft cs ++ ds := by
  have hne : ¬ (cs.dropWhile isBlank).isEmpty := fun hc =>
    trimLeft_ne_nil h (List.isEmpty_iff.mp hc)
  unfold trimLeft
  rw [List.dropWhile_append, if_neg hne]

theorem trimLeft_concat (cs : List Char) {c : Char} (hc : isBlank c = false) :
    trimLeft (cs ++ [c]) = trimLeft cs ++ [c] := by
  by_cases hblank : isAllBlank cs
  · rw [trimLeft_blank_append hblank, trimLeft_of_blank hblank]
    exact dropWhile_eq_self_of_head? fun d hd => Option.some.inj hd ▸ hc
  · exact trimLeft_append hblank [c]

theorem isAllBlank_trimLeft (cs : List Char) : isAllBlank (trimLeft cs) = isAllBlank cs := by
  obtain ⟨l, hl, hblank, _⟩ := exists_trimLeft cs
  conv => rhs; rw [hl]
  rw [Bool.eq_iff_iff, isAllBlank_append]
  exact (and_iff_right hblank).symm

/-- Of a text that is not blank at its end, only that end is trimmed. -/
theorem trimRight_append (cs : List Char) {ds : List Char} (h : ¬ isAllBlank ds) :
    trimRight (cs ++ ds) = cs ++ trimRight ds := by
  obtain ⟨r, hr, hblank, hlast⟩ := exists_trimRight ds
  have hne : trimRight ds ≠ [] := trimRight_ne_nil h
  have hkept : trimRight (cs ++ trimRight ds) = cs ++ trimRight ds := by
    refine trimRight_eq_self fun c hc => hlast c ?_
    rwa [List.getLast?_append, List.getLast?_eq_some_getLast hne, Option.some_or,
      ← List.getLast?_eq_some_getLast hne] at hc
  conv => lhs; rw [hr]
  rw [← List.append_assoc, trimRight_append_blank _ hblank, hkept]

theorem dropRightWhile_isPrefix (p : Char → Bool) (cs : List Char) :
    dropRightWhile p cs <+: cs := by
  unfold dropRightWhile
  rw [← List.reverse_suffix, List.reverse_reverse]
  exact List.dropWhile_suffix p

theorem trimRight_isPrefix (cs : List Char) : trimRight cs <+: cs :=
  dropRightWhile_isPrefix isBlank cs

/-- A beginning without blanks at its end is not lost at the end of the text. -/
theorem prefix_trimRight {front cs : List Char} (hfront : trimRight front = front)
    (h : front <+: cs) : front <+: trimRight cs := by
  obtain ⟨r, hr, hblank, hlast⟩ := exists_trimRight cs
  rcases List.prefix_or_prefix_of_prefix h (trimRight_isPrefix cs) with hshort | ⟨t, rfl⟩
  · exact hshort
  · -- what is behind the trimmed text is blank, so a text without blanks at its end has none of it
    have ht : isAllBlank t := by
      obtain ⟨u, hu⟩ := h
      rw [List.append_assoc] at hu
      have hr' : t ++ u = r := List.append_cancel_left (hu.trans hr)
      exact (isAllBlank_append.mp (hr' ▸ hblank)).1
    rw [trimRight_append_blank _ ht, trimRight_eq_self hlast] at hfront
    exact ⟨[], by rw [List.append_nil, ← hfront]⟩

/-- Without blanks at its end, a text loses only those at its beginning. -/
theorem trim_eq_trimLeft {cs : List Char} (h : trimRight cs = cs) : trim cs = trimLeft cs := by
  obtain ⟨l, hl, _, _⟩ := exists_trimLeft cs
  obtain ⟨_, _, _, hlast⟩ := exists_trimRight cs
  rw [h] at hlast
  refine trimRight_eq_self fun c hc => hlast c ?_
  rw [hl, List.getLast?_append, hc, Option.some_or]

end Playbook.Text
