/-
  Texts as bytes and back. What the bytes of a text begin with is its first character
  (`head_encodeChar`), and so they are read as the text again (`decode_encode`).
-/
import Playbook.Text.Utf8

namespace Playbook.Text.Utf8

/-! ## Bytes -/

/-- A byte as a number, with the bound as a numeral for linear arithmetic. -/
theorem toNat_ofNat {n : Nat} (h : n < 256) : (UInt8.ofNat n).toNat = n :=
  UInt8.toNat_ofNat_of_lt h

/-- The byte that continues a character with the last six bits of `n`. -/
def tail (n : Nat) : UInt8 := UInt8.ofNat (n % 64 + 0x80)

theorem toNat_tail (n : Nat) : (tail n).toNat = n % 64 + 0x80 :=
  toNat_ofNat (by omega)

theorem isContinuation_tail (n : Nat) : isContinuation (tail n) = true := by
  simp only [isContinuation, UInt8.le_iff_toNat_le, toNat_tail, UInt8.reduceToNat,
    Bool.and_eq_true, decide_eq_true_eq]
  omega

theorem append_tail (bits n : Nat) : append bits (tail n) = bits * 64 + n % 64 := by
  rw [append, toNat_tail]
  omega

theorem secondOfThree_tail {first n : Nat} (hfirst : first < 256)
    (hlong : first = 0xE0 → 0x20 ≤ n % 64) (hreal : first = 0xED → n % 64 < 0x20) :
    secondOfThree (UInt8.ofNat first) (tail n) = true := by
  have hnum := toNat_ofNat hfirst
  unfold secondOfThree
  rw [isContinuation_tail]
  simp only [beq_iff_eq, ← UInt8.toNat_inj, UInt8.le_iff_toNat_le, toNat_tail, hnum,
    UInt8.reduceToNat]
  split
  · simp only [Bool.and_eq_true, decide_eq_true_eq]
    omega
  · split
    · simp only [Bool.and_eq_true, decide_eq_true_eq]
      omega
    · rfl

theorem secondOfFour_tail {first n : Nat} (hfirst : first < 256)
    (hlong : first = 0xF0 → 0x10 ≤ n % 64) (hlast : first = 0xF4 → n % 64 < 0x10) :
    secondOfFour (UInt8.ofNat first) (tail n) = true := by
  have hnum := toNat_ofNat hfirst
  unfold secondOfFour
  rw [isContinuation_tail]
  simp only [beq_iff_eq, ← UInt8.toNat_inj, UInt8.le_iff_toNat_le, toNat_tail, hnum,
    UInt8.reduceToNat]
  split
  · simp only [Bool.and_eq_true, decide_eq_true_eq]
    omega
  · split
    · simp only [Bool.and_eq_true, decide_eq_true_eq]
      omega
    · rfl

/-! ## Characters -/

section

variable {n : Nat} (rest : List UInt8)

theorem head_one (h : n < 0x80) : head (UInt8.ofNat n) rest = .char (Char.ofNat n) 1 := by
  have hnum : (UInt8.ofNat n).toNat = n := toNat_ofNat (by omega)
  unfold head
  simp only [UInt8.lt_iff_toNat_lt, hnum, UInt8.reduceToNat]
  rw [if_pos h]

theorem head_two (hlow : 0xC2 ≤ n) (hhigh : n < 0xE0) (a : Nat) :
    head (UInt8.ofNat n) (tail a :: rest) = .char (Char.ofNat (n % 32 * 64 + a % 64)) 2 := by
  have hnum : (UInt8.ofNat n).toNat = n := toNat_ofNat (by omega)
  unfold head
  simp only [UInt8.lt_iff_toNat_lt, hnum, UInt8.reduceToNat, isContinuation_tail, append_tail]
  rw [if_neg (by omega), if_neg (by omega), if_pos hhigh]
  rfl

theorem head_three (hlow : 0xE0 ≤ n) (hhigh : n < 0xF0) {a : Nat}
    (hlong : n = 0xE0 → 0x20 ≤ a % 64) (hreal : n = 0xED → a % 64 < 0x20) (b : Nat) :
    head (UInt8.ofNat n) (tail a :: tail b :: rest) =
      .char (Char.ofNat ((n % 16 * 64 + a % 64) * 64 + b % 64)) 3 := by
  have hnum : (UInt8.ofNat n).toNat = n := toNat_ofNat (by omega)
  have hsecond := secondOfThree_tail (by omega) hlong hreal
  unfold head
  simp only [hsecond, UInt8.lt_iff_toNat_lt, hnum, UInt8.reduceToNat, isContinuation_tail,
    append_tail]
  rw [if_neg (by omega), if_neg (by omega), if_neg (by omega), if_pos hhigh]
  rfl

theorem head_four (hlow : 0xF0 ≤ n) (hhigh : n < 0xF5) {a : Nat}
    (hlong : n = 0xF0 → 0x10 ≤ a % 64) (hlast : n = 0xF4 → a % 64 < 0x10) (b c : Nat) :
    head (UInt8.ofNat n) (tail a :: tail b :: tail c :: rest) =
      .char (Char.ofNat (((n % 8 * 64 + a % 64) * 64 + b % 64) * 64 + c % 64)) 4 := by
  have hnum : (UInt8.ofNat n).toNat = n := toNat_ofNat (by omega)
  have hsecond := secondOfFour_tail (by omega) hlong hlast
  unfold head
  simp only [hsecond, UInt8.lt_iff_toNat_lt, hnum, UInt8.reduceToNat, isContinuation_tail,
    append_tail]
  rw [if_neg (by omega), if_neg (by omega), if_neg (by omega), if_neg (by omega), if_pos hhigh]
  rfl

end

/-- The bytes of a character are read as that character, whatever follows them. -/
theorem head_encodeChar (c : Char) : ∃ b more, String.utf8EncodeChar c = b :: more ∧
    ∀ rest, head b (more ++ rest) = .char c (more.length + 1) := by
  have hchar : Char.ofNat c.val.toNat = c := Char.ofNat_toNat c
  -- surrogates are no characters, nor is anything beyond the last code point
  have hvalid : c.val.toNat < 0xD800 ∨ 0xDFFF < c.val.toNat ∧ c.val.toNat < 0x110000 := c.valid
  unfold String.utf8EncodeChar
  generalize c.val.toNat = v at *
  dsimp only
  split
  · refine ⟨_, _, rfl, fun rest => (head_one _ (by omega)).trans ?_⟩
    rw [hchar]
    rfl
  · split
    · refine ⟨_, _, rfl, fun rest => (head_two _ ?_ ?_ v).trans ?_⟩
      · omega
      · omega
      · rw [← hchar]
        congr 2
        omega
    · split
      · refine ⟨_, _, rfl, fun rest => (head_three _ ?_ ?_ ?_ ?_ v).trans ?_⟩
        · omega
        · omega
        · omega
        · omega
        · rw [← hchar]
          congr 2
          omega
      · refine ⟨_, _, rfl, fun rest => (head_four _ ?_ ?_ ?_ ?_ (v / 64) v).trans ?_⟩
        · omega
        · omega
        · omega
        · omega
        · rw [← hchar]
          congr 2
          omega

/-- A byte below the continuing ones stands only for its own character. -/
theorem eq_of_mem_encodeChar {c : Char} {b : UInt8} (hb : b.toNat < 0x80)
    (h : b ∈ String.utf8EncodeChar c) : c = Char.ofNat b.toNat := by
  have hchar : Char.ofNat c.val.toNat = c := Char.ofNat_toNat c
  have hbyte : ∀ n, n < 256 → b = UInt8.ofNat n → b.toNat = n := fun n hn hn' => by
    rw [hn', toNat_ofNat hn]
  unfold String.utf8EncodeChar at h
  generalize c.val.toNat = v at h hchar
  dsimp only at h
  split at h
  · rw [hbyte v (by omega) (List.mem_singleton.mp h), hchar]
  · split at h
    · simp only [List.mem_cons, List.not_mem_nil, or_false] at h
      rcases h with h | h <;> exact absurd (hbyte _ (by omega) h) (by omega)
    · split at h
      · simp only [List.mem_cons, List.not_mem_nil, or_false] at h
        rcases h with h | h | h <;> exact absurd (hbyte _ (by omega) h) (by omega)
      · simp only [List.mem_cons, List.not_mem_nil, or_false] at h
        rcases h with h | h | h | h <;> exact absurd (hbyte _ (by omega) h) (by omega)

theorem toNat_charOfNat {n : Nat} (h : n < 0xD800) : (Char.ofNat n).toNat = n := by
  have hvalid : n.isValidChar := .inl h
  rw [Char.ofNat, dif_pos hvalid]
  rfl

/-- A character below the continuing bytes takes one byte. -/
theorem encodeChar_of_narrow {c : Char} (h : c.toNat < 0x80) :
    String.utf8EncodeChar c = [UInt8.ofNat c.toNat] := by
  have hlow : c.val ≤ 127 := UInt32.le_iff_toNat_le.mpr (Nat.le_of_lt_succ h)
  exact String.utf8EncodeChar_eq_singleton (Char.utf8Size_eq_one_iff.mpr hlow)

/-- Any other has no byte that is a character by itself. -/
theorem wide_of_mem_encodeChar {c : Char} (h : 0x80 ≤ c.toNat) {b : UInt8}
    (hb : b ∈ String.utf8EncodeChar c) : 0x80 ≤ b.toNat := by
  apply Nat.le_of_not_lt
  intro hlow
  have hc := eq_of_mem_encodeChar hlow hb
  rw [hc, toNat_charOfNat (by omega)] at h
  omega

/-! ## Texts -/

theorem toList_loop (bytes : ByteArray) (i : Nat) (seen : List UInt8) :
    ByteArray.toList.loop bytes i seen = seen.reverse ++ bytes.data.toList.drop i := by
  fun_induction ByteArray.toList.loop bytes i seen with
  | case1 i seen h ih =>
    have hlt : i < bytes.data.toList.length := h
    have hget : bytes.get! i = bytes.data.toList[i] := getElem!_pos bytes.data i h
    rw [ih, List.drop_eq_getElem_cons hlt, hget, List.reverse_cons, List.append_assoc]
    rfl
  | case2 i seen h =>
    have hle : bytes.data.toList.length ≤ i := Nat.le_of_not_lt h
    rw [List.drop_eq_nil_of_le hle, List.append_nil]

theorem toList_eq (bytes : ByteArray) : bytes.toList = bytes.data.toList :=
  toList_loop bytes 0 []

theorem encode_eq (s : String) : encode s = s.toList.flatMap String.utf8EncodeChar := by
  have hbytes : encode s = s.toByteArray.data.toList := toList_eq s.toByteArray
  rw [hbytes, ← String.utf8Encode_toList, List.utf8Encode, List.data_toByteArray]

/-- A text begins with another exactly if its bytes do. -/
theorem prefix_encode_iff {cs ds : List Char} :
    cs.flatMap String.utf8EncodeChar <+: ds.flatMap String.utf8EncodeChar ↔ cs <+: ds := by
  induction cs generalizing ds with
  | nil => simp
  | cons c cs ih =>
    obtain ⟨b, more, hc, hhead⟩ := head_encodeChar c
    cases ds with
    | nil => simp [hc]
    | cons d ds =>
      obtain ⟨b', more', hd, hhead'⟩ := head_encodeChar d
      rw [List.flatMap_cons, List.flatMap_cons, List.cons_prefix_cons, ← ih]
      constructor
      · rintro ⟨tail, htail⟩
        have hbytes : b :: (more ++ (cs.flatMap String.utf8EncodeChar ++ tail)) =
            b' :: (more' ++ ds.flatMap String.utf8EncodeChar) := by
          rw [← List.cons_append, ← hc, ← List.append_assoc, htail, hd, List.cons_append]
        obtain ⟨rfl, hrest⟩ := List.cons.inj hbytes
        -- the same bytes are read as the same character
        have hread := hhead (cs.flatMap String.utf8EncodeChar ++ tail)
        rw [hrest, hhead'] at hread
        obtain ⟨rfl, _⟩ := Head.char.inj hread
        exact ⟨rfl, (List.prefix_append_right_inj _).mp ⟨tail, htail⟩⟩
      · rintro ⟨rfl, hprefix⟩
        exact (List.prefix_append_right_inj _).mpr hprefix

/-- The characters of a text are read from its bytes. -/
theorem decodeFrom_flatMap (cs : List Char) (index : Nat) :
    decodeFrom index (cs.flatMap String.utf8EncodeChar) = .ok cs := by
  induction cs generalizing index with
  | nil => simp [decodeFrom]
  | cons c cs ih =>
    obtain ⟨b, more, hbytes, hhead⟩ := head_encodeChar c
    rw [List.flatMap_cons, hbytes, List.cons_append, decodeFrom, hhead]
    simp only [Nat.add_sub_cancel, List.drop_left, ih]

/-- The bytes of a text are read as that text. -/
theorem decode_encode (s : String) : decode (encode s) = .ok s := by
  rw [decode, encode_eq, decodeFrom_flatMap]
  exact congrArg Except.ok String.ofList_toList

end Playbook.Text.Utf8
