/-
  Parts of a text by byte offsets, as a program cuts them that goes by bytes. A part is there
  exactly if both offsets stand between characters, and in order.
-/
import Playbook.Proofs.Text.Utf8

namespace Playbook.Text

/-! ## Width -/

/-- The number of bytes that characters take. -/
def byteWidth (cs : List Char) : Nat := (String.ofList cs).utf8ByteSize

@[simp] theorem byteWidth_nil : byteWidth [] = 0 := rfl

@[simp] theorem byteWidth_append (cs ds : List Char) :
    byteWidth (cs ++ ds) = byteWidth cs + byteWidth ds := by
  simp [byteWidth]

@[simp] theorem byteWidth_cons (c : Char) (cs : List Char) :
    byteWidth (c :: cs) = c.utf8Size + byteWidth cs := by
  have hone : byteWidth [c] = c.utf8Size := String.utf8ByteSize_singleton
  rw [← List.singleton_append, byteWidth_append, hone]

theorem byteWidth_toList (s : String) : byteWidth s.toList = s.utf8ByteSize := by
  rw [byteWidth, String.ofList_toList]

theorem byteWidth_eq_zero_iff {cs : List Char} : byteWidth cs = 0 ↔ cs = [] := by
  cases cs with
  | nil => simp
  | cons c cs =>
    have := c.utf8Size_pos
    simp only [byteWidth_cons, List.cons_ne_nil, iff_false]
    omega

/-! ## Parts -/

/-- The part of a text between two byte offsets, if they stand between characters and in order. -/
def slice? (s : String) (first last : Nat) : Option String :=
  if h : String.Pos.Raw.IsValid s ⟨first⟩ ∧ String.Pos.Raw.IsValid s ⟨last⟩ ∧ first ≤ last then
    some (s.extract (s.pos ⟨first⟩ h.1) (s.pos ⟨last⟩ h.2.1))
  else none

/-- Where a text falls apart at both offsets, the part between them is there. -/
theorem slice?_append (before part rest : String) : slice? (before ++ part ++ rest)
    before.utf8ByteSize (before.utf8ByteSize + part.utf8ByteSize) = some part := by
  have hfirst : String.Pos.Raw.IsValid (before ++ part ++ rest) ⟨before.utf8ByteSize⟩ :=
    String.Pos.Raw.isValid_iff_exists_append.mpr ⟨before, part ++ rest, String.append_assoc, rfl⟩
  have hlast : String.Pos.Raw.IsValid (before ++ part ++ rest)
      ⟨before.utf8ByteSize + part.utf8ByteSize⟩ := by
    rw [← String.utf8ByteSize_append]
    exact String.Pos.Raw.isValid_iff_exists_append.mpr ⟨before ++ part, rest, rfl, rfl⟩
  rw [slice?, dif_pos ⟨hfirst, hlast, Nat.le_add_right _ _⟩, Option.some.injEq,
    ← String.toByteArray_inj, String.toByteArray_extract, String.offset_pos, String.offset_pos,
    String.append_assoc, String.toByteArray_append, String.toByteArray_append]
  calc (before.toByteArray ++ (part.toByteArray ++ rest.toByteArray)).extract
          (before.toByteArray.size + 0) (before.toByteArray.size + part.toByteArray.size)
      = (part.toByteArray ++ rest.toByteArray).extract 0 part.toByteArray.size :=
        ByteArray.extract_append_size_add
    _ = part.toByteArray := ByteArray.extract_append_eq_left rfl

theorem slice?_between {s : String} {before part rest : List Char}
    (h : s.toList = before ++ part ++ rest) :
    slice? s (byteWidth before) (byteWidth before + byteWidth part) =
      some (String.ofList part) := by
  have hs : s = String.ofList before ++ String.ofList part ++ String.ofList rest := by
    rw [← String.ofList_append, ← String.ofList_append, ← h, String.ofList_toList]
  rw [hs]
  exact slice?_append _ _ _

end Playbook.Text
