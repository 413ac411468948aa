/-
  Programs that boil files down to short numbers, and check such numbers. The constants of these
  functions are parts of well-known irrational numbers: the first bits behind the point of roots of
  the first primes, or of sines.
-/
import Playbook.Shell.Tool.Files

namespace Playbook.Shell.Tool

open Playbook.Text

namespace Digest

/-! ## Constants -/

/-- The largest number whose power is not above `n`, below `low` plus a power of two. -/
def rootBelow (power n : Nat) : (bits : Nat) → (low : Nat) → Nat
  | 0, low => low
  | k + 1, low =>
    let next := low + Nat.pow 2 k
    rootBelow power n k (if Nat.pow next power ≤ n then next else low)

/-- The first bits behind the point of a root of a number. -/
def rootBits (power bits n : Nat) : Nat :=
  rootBelow power (n * Nat.pow 2 (power * bits)) (bits + 6) 0 % Nat.pow 2 bits

/-- The first eighty primes. -/
def primes : List Nat :=
  ((List.range 410).drop 2).filter fun n => ((List.range n).drop 2).all fun d => n % d != 0

/-- The beginning of a sine between zero and one, in units of a word. -/
def sineBits (i : Nat) : UInt32 :=
  ((Float.ofNat i).sin.abs * 4294967296.0).floor.toUInt64.toUInt32

/-! ## Words -/

/-- A number in bytes, the lowest first. -/
def lowFirst (count n : Nat) : List UInt8 :=
  (List.range count).map fun i => (n / Nat.pow 256 i).toUInt8

/-- A number in bytes, the highest first. -/
def highFirst (count n : Nat) : List UInt8 := (lowFirst count n).reverse

/-- The number of bytes, the highest first. -/
def ofHighFirst (bytes : List UInt8) : Nat := bytes.foldl (fun n b => n * 256 + b.toNat) 0

/-- Parts of a size. -/
def parts {α : Type} (size : Nat) : (steps : Nat) → List α → List (List α)
  | 0, _ => []
  | _, [] => []
  | n + 1, xs => xs.take (max 1 size) :: parts size n (xs.drop (max 1 size))

/-- Bytes filled up to whole blocks: a one, zeros, and the number of bits. -/
def padded (block : Nat) (lengthBytes : List UInt8) (bytes : List UInt8) : List UInt8 :=
  let used := bytes.length + 1 + lengthBytes.length
  bytes ++ 0x80 :: (List.replicate ((block - used % block) % block) 0 ++ lengthBytes)

/-- The bits of a word turned to the left. -/
def turnLeft (x : UInt32) (n : UInt32) : UInt32 := (x <<< n) ||| (x >>> (32 - n))

/-- The bits of a word turned to the right. -/
def turnRight (x : UInt32) (n : UInt32) : UInt32 := (x >>> n) ||| (x <<< (32 - n))

/-- The bits of a long word turned to the right. -/
def turnRightLong (x : UInt64) (n : UInt64) : UInt64 := (x >>> n) ||| (x <<< (64 - n))

/-! ## Four words -/

/-- The constants of the rounds. -/
def md5Constants : Array UInt32 := ((List.range 64).map fun i => sineBits (i + 1)).toArray

/-- By how many bits words are turned in the rounds. -/
def md5Turns : Array UInt32 :=
  #[7, 12, 17, 22, 5, 9, 14, 20, 4, 11, 16, 23, 6, 10, 15, 21]

/-- One round. -/
def md5Round (words : Array UInt32) (s : UInt32 × UInt32 × UInt32 × UInt32) (i : Nat) :
    UInt32 × UInt32 × UInt32 × UInt32 :=
  let (a, b, c, d) := s
  let (f, g) := match i / 16 with
    | 0 => ((b &&& c) ||| (~~~b &&& d), i)
    | 1 => ((d &&& b) ||| (~~~d &&& c), 5 * i + 1)
    | 2 => (b ^^^ c ^^^ d, 3 * i + 5)
    | _ => (c ^^^ (b ||| ~~~d), 7 * i)
  let sum := a + f + md5Constants.getD i 0 + words.getD (g % 16) 0
  (d, b + turnLeft sum (md5Turns.getD (i / 16 * 4 + i % 4) 0), b, c)

/-- One block. -/
def md5Block (s : UInt32 × UInt32 × UInt32 × UInt32) (block : List UInt8) :
    UInt32 × UInt32 × UInt32 × UInt32 :=
  let words := ((parts 4 17 block).map fun w => (ofHighFirst w.reverse).toUInt32).toArray
  let (a, b, c, d) := (List.range 64).foldl (md5Round words) s
  (s.1 + a, s.2.1 + b, s.2.2.1 + c, s.2.2.2 + d)

/-- The digest of four words. -/
def md5 (bytes : List UInt8) : List UInt8 :=
  let all := padded 64 (lowFirst 8 (8 * bytes.length)) bytes
  let (a, b, c, d) := (parts 64 all.length all).foldl md5Block
    (0x67452301, 0xefcdab89, 0x98badcfe, 0x10325476)
  [a, b, c, d].flatMap fun w => lowFirst 4 w.toNat

/-! ## Five words -/

/-- The words of a block and those that follow from them. -/
def sha1Words (block : List UInt8) : Array UInt32 :=
  let first := ((parts 4 17 block).map fun w => (ofHighFirst w).toUInt32).toArray
  (List.range 64).foldl (fun (ws : Array UInt32) k =>
    let at_ := fun (back : Nat) => ws.getD (k + 16 - back) 0
    ws.push (turnLeft (at_ 3 ^^^ at_ 8 ^^^ at_ 14 ^^^ at_ 16) 1)) first

/-- One block. -/
def sha1Block (state : Array UInt32) (block : List UInt8) : Array UInt32 :=
  let words := sha1Words block
  let round := fun (s : Array UInt32) (i : Nat) =>
    let w := fun (k : Nat) => s.getD k 0
    let (b, c, d) := (w 1, w 2, w 3)
    let (f, k) : UInt32 × UInt32 := match i / 20 with
      | 0 => ((b &&& c) ||| (~~~b &&& d), 0x5a827999)
      | 1 => (b ^^^ c ^^^ d, 0x6ed9eba1)
      | 2 => ((b &&& c) ||| (b &&& d) ||| (c &&& d), 0x8f1bbcdc)
      | _ => (b ^^^ c ^^^ d, 0xca62c1d6)
    #[turnLeft (w 0) 5 + f + w 4 + k + words.getD i 0, w 0, turnLeft b 30, c, d]
  let next := (List.range 80).foldl round state
  Array.zipWith (· + ·) state next

/-- The digest of five words. -/
def sha1 (bytes : List UInt8) : List UInt8 :=
  let all := padded 64 (highFirst 8 (8 * bytes.length)) bytes
  let state := (parts 64 all.length all).foldl sha1Block
    #[0x67452301, 0xefcdab89, 0x98badcfe, 0x10325476, 0xc3d2e1f0]
  state.toList.flatMap fun w => highFirst 4 w.toNat

/-! ## Eight words -/

/-- The constants of the rounds: cube roots. -/
def sha256Constants : Array UInt32 :=
  ((primes.take 64).map fun p => (rootBits 3 32 p).toUInt32).toArray

/-- The words of a block and those that follow from them. -/
def sha256Words (block : List UInt8) : Array UInt32 :=
  let first := ((parts 4 17 block).map fun w => (ofHighFirst w).toUInt32).toArray
  (List.range 48).foldl (fun (ws : Array UInt32) k =>
    let at_ := fun (back : Nat) => ws.getD (k + 16 - back) 0
    let x := at_ 15
    let y := at_ 2
    ws.push (at_ 16 + (turnRight x 7 ^^^ turnRight x 18 ^^^ (x >>> 3)) + at_ 7 +
      (turnRight y 17 ^^^ turnRight y 19 ^^^ (y >>> 10)))) first

/-- One block. -/
def sha256Block (constants : Array UInt32) (state : Array UInt32) (block : List UInt8) :
    Array UInt32 :=
  let words := sha256Words block
  let round := fun (s : Array UInt32) (i : Nat) =>
    let w := fun (k : Nat) => s.getD k 0
    let (a, e) := (w 0, w 4)
    let turned := turnRight e 6 ^^^ turnRight e 11 ^^^ turnRight e 25
    let t := w 7 + turned + ((e &&& w 5) ^^^ (~~~e &&& w 6)) + constants.getD i 0 + words.getD i 0
    let turned := turnRight a 2 ^^^ turnRight a 13 ^^^ turnRight a 22
    let u := turned + ((a &&& w 1) ^^^ (a &&& w 2) ^^^ (w 1 &&& w 2))
    #[t + u, a, w 1, w 2, w 3 + t, e, w 5, w 6]
  let next := (List.range 64).foldl round state
  Array.zipWith (· + ·) state next

/-- A digest of some of eight words. -/
def sha256From (start : List Nat) (count : Nat) (bytes : List UInt8) : List UInt8 :=
  let constants := sha256Constants
  let all := padded 64 (highFirst 8 (8 * bytes.length)) bytes
  let state := (parts 64 all.length all).foldl (sha256Block constants)
    (start.map Nat.toUInt32).toArray
  (state.toList.take count).flatMap fun w => highFirst 4 w.toNat

/-- The digest of eight words; it begins with square roots. -/
def sha256 : List UInt8 → List UInt8 := sha256From ((primes.take 8).map (rootBits 2 32)) 8

/-- The digest of seven words. -/
def sha224 : List UInt8 → List UInt8 :=
  sha256From (((primes.drop 8).take 8).map fun p => rootBits 2 64 p % Nat.pow 2 32) 7

/-! ## Eight long words -/

/-- The constants of the rounds. -/
def sha512Constants : Array UInt64 :=
  ((primes.take 80).map fun p => (rootBits 3 64 p).toUInt64).toArray

/-- The words of a block and those that follow from them. -/
def sha512Words (block : List UInt8) : Array UInt64 :=
  let first := ((parts 8 17 block).map fun w => (ofHighFirst w).toUInt64).toArray
  (List.range 64).foldl (fun (ws : Array UInt64) k =>
    let at_ := fun (back : Nat) => ws.getD (k + 16 - back) 0
    let x := at_ 15
    let y := at_ 2
    ws.push (at_ 16 + (turnRightLong x 1 ^^^ turnRightLong x 8 ^^^ (x >>> 7)) + at_ 7 +
      (turnRightLong y 19 ^^^ turnRightLong y 61 ^^^ (y >>> 6)))) first

/-- One block. -/
def sha512Block (constants : Array UInt64) (state : Array UInt64) (block : List UInt8) :
    Array UInt64 :=
  let words := sha512Words block
  let round := fun (s : Array UInt64) (i : Nat) =>
    let w := fun (k : Nat) => s.getD k 0
    let (a, e) := (w 0, w 4)
    let turned := turnRightLong e 14 ^^^ turnRightLong e 18 ^^^ turnRightLong e 41
    let t := w 7 + turned + ((e &&& w 5) ^^^ (~~~e &&& w 6)) + constants.getD i 0 + words.getD i 0
    let turned := turnRightLong a 28 ^^^ turnRightLong a 34 ^^^ turnRightLong a 39
    let u := turned + ((a &&& w 1) ^^^ (a &&& w 2) ^^^ (w 1 &&& w 2))
    #[t + u, a, w 1, w 2, w 3 + t, e, w 5, w 6]
  let next := (List.range 80).foldl round state
  Array.zipWith (· + ·) state next

/-- A digest of some of eight long words. -/
def sha512From (start : List Nat) (count : Nat) (bytes : List UInt8) : List UInt8 :=
  let constants := sha512Constants
  let all := padded 128 (highFirst 16 (8 * bytes.length)) bytes
  let state := (parts 128 all.length all).foldl (sha512Block constants)
    (start.map Nat.toUInt64).toArray
  (state.toList.take count).flatMap fun w => highFirst 8 w.toNat

/-- The digest of eight long words. -/
def sha512 : List UInt8 → List UInt8 := sha512From ((primes.take 8).map (rootBits 2 64)) 8

/-- The digest of six long words. -/
def sha384 : List UInt8 → List UInt8 :=
  sha512From (((primes.drop 8).take 8).map (rootBits 2 64)) 6

/-! ## Remainders and sums -/

/-- The remainder after one more byte, bit by bit. -/
def remainderStep (r : UInt32) (b : UInt8) : UInt32 :=
  (List.range 8).foldl (fun r _ =>
    if r &&& 0x80000000 != 0 then (r <<< 1) ^^^ 0x04c11db7 else r <<< 1)
    (r ^^^ (b.toUInt32 <<< 24))

/-- The bytes of a number without zeros at the end, the lowest first. -/
def lengthBytes : (steps : Nat) → Nat → List UInt8
  | 0, _ => []
  | k + 1, n => if n = 0 then [] else n.toUInt8 :: lengthBytes k (n / 256)

/-- The remainder of the bytes and their number. -/
def remainder (bytes : List UInt8) : UInt32 :=
  ~~~((bytes ++ lengthBytes 8 bytes.length).foldl remainderStep 0)

/-- The sum of the bytes; before each the sum is turned. -/
def turnedSum (bytes : List UInt8) : Nat :=
  bytes.foldl (fun n b => (n / 2 + n % 2 * 32768 + b.toNat) % 65536) 0

/-- The sum of the bytes, its upper half added to the lower. -/
def foldedSum (bytes : List UInt8) : Nat :=
  let s := (bytes.foldl (fun n b => n + b.toNat) 0) % Nat.pow 2 32
  let r := s % 65536 + s / 65536
  r % 65536 + r / 65536

/-- Bytes in digits of base sixteen. -/
def hexText (bytes : List UInt8) : String :=
  String.ofList (bytes.flatMap fun b =>
    let ds := Nat.toDigits 16 b.toNat
    List.replicate (2 - ds.length) '0' ++ ds)

/-! ## Checking -/

/-- A digest with a name. -/
structure Function where
  /-- The name of the program, and that of the digest. -/
  name : String
  tag : String
  digest : List UInt8 → List UInt8
  /-- How many digits it has. -/
  length : Nat

/-- The digest and the path on a line. -/
def entry? (f : Function) (line : String) : Option (String × String) :=
  let cs := line.toList
  let isHex := fun (c : Char) => (Arithmetic.digit? 16 c).isSome
  let digest := cs.takeWhile isHex
  if digest.length = f.length then
    match cs.drop f.length with
    | ' ' :: ' ' :: path | ' ' :: '*' :: path => some (String.ofList digest, String.ofList path)
    | ' ' :: path => some (String.ofList digest, String.ofList path)
    | _ => none
  else
    match dropStart? (f.tag ++ " (").toList cs with
    | some rest =>
      let back := rest.reverse
      let digest := back.takeWhile isHex
      match dropStart? " = )".toList (back.drop digest.length) with
      | some path =>
        if digest.length = f.length then
          some (String.ofList digest.reverse, String.ofList path.reverse)
        else none
      | none => none
    | none => none

/-- What came of checking lines. -/
structure Checked where
  proper : Nat := 0
  improper : Nat := 0
  unread : Nat := 0
  wrong : Nat := 0
  right : Nat := 0

/-- How many things something is, in words. -/
def counted (n : Nat) (one more : String) : String := s!"{n} {if n = 1 then one else more}"

/-- Checks the digests on lines. -/
def checkLines (f : Function) (given : List Given) : List String → Checked → Run Checked
  | [], c => return c
  | line :: rest, c => do
    match entry? f line with
    | none => checkLines f given rest { c with improper := c.improper + 1 }
    | some (digest, path) =>
      let c := { c with proper := c.proper + 1 }
      let silent := has given 's'
      match ← contents path with
      | .error fault =>
        if has given 'm' && fault == .noEntry then checkLines f given rest c
        else
          report f.name s!"{path}: {faultText fault}"
          if !silent then say s!"{path}: FAILED open or read\n"
          checkLines f given rest { c with unread := c.unread + 1 }
      | .ok cs =>
        if hexText (f.digest (toBytes cs)) == onString lowerAscii digest then
          if !silent && !has given 'q' then say s!"{path}: OK\n"
          checkLines f given rest { c with right := c.right + 1 }
        else
          if !silent then say s!"{path}: FAILED\n"
          checkLines f given rest { c with wrong := c.wrong + 1 }

/-- Checks the digests in a file. -/
def checkFile (f : Function) (given : List Given) (path : String) : Run Bool := do
  match ← contents path with
  | .error fault =>
    report f.name s!"{path}: {faultText fault}"
    return false
  | .ok cs =>
    let lines := (linesOf cs).map String.ofList
    let c ← checkLines f given (lines.filter fun l => !l.startsWith "#") {}
    let shown := if path == "-" then "'standard input'" else path
    if c.proper = 0 then
      report f.name s!"{shown}: no properly formatted checksum lines found"
      return false
    let warn := fun (n : Nat) (what : String) =>
      if 0 < n && !has given 's' then report f.name s!"WARNING: {what}" else pure ()
    warn c.improper (counted c.improper "line is improperly formatted"
      "lines are improperly formatted")
    warn c.unread (counted c.unread "listed file could not be read"
      "listed files could not be read")
    warn c.wrong (counted c.wrong "computed checksum did NOT match"
      "computed checksums did NOT match")
    return c.unread = 0 && c.wrong = 0 && !(has given 'S' && 0 < c.improper)

end Digest

open Digest in
/-- Prints or checks digests of files. -/
def digests (f : Digest.Function) : Tool := withOptions
  { name := f.name, letters := "bctzwqsmSg"
    long := [("binary", 'b'), ("check", 'c'), ("text", 't'), ("zero", 'z'), ("warn", 'w'),
      ("quiet", 'q'), ("status", 's'), ("ignore-missing", 'm'), ("strict", 'S'), ("tag", 'g')] }
  fun given paths => do
    if has given 'c' then
      let mut fine := true
      for path in sources paths do
        if !(← checkFile f given path) then fine := false
      return statusOf (!fine)
    else
      let ending := if has given 'z' then "\x00" else "\n"
      let failed ← overFiles (usual f.name) (fun path cs => do
        let digest := hexText (f.digest (toBytes cs))
        let odd := path.toList.any fun c => c == '\\' || c == '\n'
        let shown := if odd then onString (·.flatMap fun c =>
            if c == '\\' then ['\\', '\\'] else if c == '\n' then ['\\', 'n'] else [c]) path
          else path
        let lead := if odd then "\\" else ""
        if has given 'g' then say s!"{lead}{f.tag} ({shown}) = {digest}{ending}"
        else
          say (lead ++ digest ++ " " ++ (if has given 'b' then "*" else " ") ++ shown ++ ending))
        (sources paths)
      return statusOf failed

/-- The programs that print digests, by their names. -/
def digestTools : List (String × Tool) :=
  ([⟨"md5sum", "MD5", Digest.md5, 32⟩, ⟨"sha1sum", "SHA1", Digest.sha1, 40⟩,
    ⟨"sha224sum", "SHA224", Digest.sha224, 56⟩, ⟨"sha256sum", "SHA256", Digest.sha256, 64⟩,
    ⟨"sha384sum", "SHA384", Digest.sha384, 96⟩,
    ⟨"sha512sum", "SHA512", Digest.sha512, 128⟩] : List Digest.Function).map fun f =>
      (f.name, digests f)

/-- Prints remainders and sizes of files. -/
def cksum : Tool := withOptions { name := "cksum" } fun _ paths => do
  let failed ← overFiles (usual "cksum") (fun path cs =>
    let r := Digest.remainder (toBytes cs)
    let shown := if paths.isEmpty then "" else " " ++ path
    say s!"{r.toNat} {cs.length}{shown}\n") (sources paths)
  return statusOf failed

/-- Prints sums and sizes of files. -/
def sum : Tool := withOptions
  { name := "sum", letters := "rs", long := [("sysv", 's')] } fun given paths => do
  let folded := ((given.filter fun g => g.letter == 'r' || g.letter == 's').getLast?.map
    (·.letter)) == some 's'
  let failed ← overFiles (usual "sum") (fun path cs =>
    let shown := if paths.isEmpty then "" else " " ++ path
    if folded then
      say s!"{Digest.foldedSum (toBytes cs)} {(cs.length + 511) / 512}{shown}\n"
    else
      let n := toString (Digest.turnedSum (toBytes cs))
      let zeros := String.ofList (List.replicate (5 - n.length) '0')
      let blocks := Listing.rightward 5 (toString ((cs.length + 1023) / 1024))
      say s!"{zeros}{n} {blocks}{shown}\n") (sources paths)
  return statusOf failed

end Playbook.Shell.Tool
