/-
  Reading bytes as UTF-8, strictly with the place of the first fault, and leniently with a
  replacement character for each fault.
-/

namespace Playbook.Text.Utf8

/-- What the first bytes of a sequence are. -/
inductive Head where
  /-- A character that takes `width` bytes. -/
  | char (c : Char) (width : Nat)
  /-- `length` bytes that begin no character. -/
  | invalid (length : Nat)
  /-- The bytes end inside a character. -/
  | incomplete
  deriving Repr, DecidableEq

/-- A byte that continues a character. -/
def isContinuation (b : UInt8) : Bool := 0x80 ≤ b && b ≤ 0xBF

/-- The bytes that may follow the first byte of a three-byte character: neither a shorter
spelling nor a surrogate. -/
def secondOfThree (first second : UInt8) : Bool :=
  if first == 0xE0 then 0xA0 ≤ second && second ≤ 0xBF
  else if first == 0xED then 0x80 ≤ second && second ≤ 0x9F
  else isContinuation second

/-- The bytes that may follow the first byte of a four-byte character: neither a shorter
spelling nor a number beyond the last code point. -/
def secondOfFour (first second : UInt8) : Bool :=
  if first == 0xF0 then 0x90 ≤ second && second ≤ 0xBF
  else if first == 0xF4 then 0x80 ≤ second && second ≤ 0x8F
  else isContinuation second

/-- The six payload bits of a continuation byte, after the bits already read. -/
def append (bits : Nat) (b : UInt8) : Nat := bits * 64 + b.toNat % 64

/-- What a nonempty sequence of bytes begins with. -/
def head (b : UInt8) (rest : List UInt8) : Head :=
  if b < 0x80 then .char (Char.ofNat b.toNat) 1
  else if b < 0xC2 then .invalid 1
  else if b < 0xE0 then
    match rest with
    | [] => .incomplete
    | c :: _ =>
      if isContinuation c then .char (Char.ofNat (append (b.toNat % 32) c)) 2 else .invalid 1
  else if b < 0xF0 then
    match rest with
    | [] => .incomplete
    | c :: more =>
      if secondOfThree b c then
        match more with
        | [] => .incomplete
        | d :: _ =>
          if isContinuation d then
            .char (Char.ofNat (append (append (b.toNat % 16) c) d)) 3
          else .invalid 2
      else .invalid 1
  else if b < 0xF5 then
    match rest with
    | [] => .incomplete
    | c :: more =>
      if secondOfFour b c then
        match more with
        | [] => .incomplete
        | d :: more =>
          if isContinuation d then
            match more with
            | [] => .incomplete
            | e :: _ =>
              if isContinuation e then
                .char (Char.ofNat (append (append (append (b.toNat % 8) c) d) e)) 4
              else .invalid 3
          else .invalid 2
      else .invalid 1
  else .invalid 1

/-- Where and how bytes fail to be UTF-8. -/
structure Fault where
  /-- The number of good bytes before the fault. -/
  index : Nat
  /-- The number of bytes that begin no character; none when the bytes end too early. -/
  length? : Option Nat
  deriving Repr, DecidableEq

/-- The fault in words. -/
def Fault.message (f : Fault) : String :=
  match f.length? with
  | some n => s!"invalid utf-8 sequence of {n} bytes from index {f.index}"
  | none => s!"incomplete utf-8 byte sequence from index {f.index}"

/-- The characters of `bytes`, or the first fault, counting bytes from `index`. -/
def decodeFrom (index : Nat) (bytes : List UInt8) : Except Fault (List Char) :=
  match bytes with
  | [] => .ok []
  | b :: rest =>
    match head b rest with
    | .char c width =>
      match decodeFrom (index + width) (rest.drop (width - 1)) with
      | .ok cs => .ok (c :: cs)
      | .error f => .error f
    | .invalid n => .error ⟨index, some n⟩
    | .incomplete => .error ⟨index, none⟩
  termination_by bytes.length
  decreasing_by simp only [List.length_drop, List.length_cons]; omega

/-- The text that the bytes spell, or the first fault. -/
def decode (bytes : List UInt8) : Except Fault String :=
  (decodeFrom 0 bytes).map String.ofList

/-- The characters of `bytes` with the replacement character for each fault. -/
def decodeLenientChars (bytes : List UInt8) : List Char :=
  match bytes with
  | [] => []
  | b :: rest =>
    match head b rest with
    | .char c width => c :: decodeLenientChars (rest.drop (width - 1))
    | .invalid n => '\ufffd' :: decodeLenientChars (rest.drop (n - 1))
    | .incomplete => ['\ufffd']
  termination_by bytes.length
  decreasing_by all_goals (simp only [List.length_drop, List.length_cons]; omega)

/-- The text that the bytes spell, with the replacement character for each fault. -/
def decodeLenient (bytes : List UInt8) : String := String.ofList (decodeLenientChars bytes)

/-- The bytes of a text. -/
def encode (s : String) : List UInt8 := s.toUTF8.toList

end Playbook.Text.Utf8
