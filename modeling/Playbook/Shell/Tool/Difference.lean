/-
  In what two sequences differ: which elements of the first were removed and which of the second
  were added, so that the others are the same in order. As few as possible are named; among equal
  choices the one that lies farthest behind is taken.
-/
namespace Playbook.Shell.Tool

/-- Elements of the first sequence that stand where the second one has others. -/
structure Change where
  /-- Where the change begins in the first sequence, and how many elements are removed. -/
  first : Nat
  removed : Nat
  /-- Where it begins in the second sequence, and how many elements are added. -/
  second : Nat
  added : Nat
  deriving Repr, DecidableEq

namespace Difference

/-- Two sequences of elements that stand for themselves as numbers. -/
structure Pair where
  xs : Array Nat
  ys : Array Nat

/-- Whether an element of the first sequence is one of the second. -/
def Pair.same (p : Pair) (x y : Int) : Bool := p.xs.getD x.toNat 0 == p.ys.getD y.toNat 0

/-- A part of both sequences. -/
structure Box where
  x0 : Int
  x1 : Int
  y0 : Int
  y1 : Int

/-! ## The middle of a shortest way -/

/-- How far ways lead on each diagonal, the difference of the two places. -/
structure Front where
  reach : Array Int
  low : Int
  high : Int

namespace Front

/-- The place of a diagonal among the others; `shift` is the length of the second sequence. -/
def index (shift : Nat) (d : Int) : Nat := (d + shift + 1).toNat

def get (f : Front) (shift : Nat) (d : Int) : Int := f.reach.getD (index shift d) 0

def put (f : Front) (shift : Nat) (d x : Int) : Front :=
  { f with reach := f.reach.setIfInBounds (index shift d) x }

/-- The front on one more diagonal on each side, as far as the box has them; `none_` is what is
behind all places. -/
def widen (f : Front) (shift : Nat) (b : Box) (none_ : Int) : Front :=
  let f := if b.x0 - b.y1 < f.low then
      { f.put shift (f.low - 2) none_ with low := f.low - 1 }
    else { f with low := f.low + 1 }
  if f.high < b.x1 - b.y0 then
    { f.put shift (f.high + 2) none_ with high := f.high + 1 }
  else { f with high := f.high - 1 }

end Front

/-- The place behind equal elements. -/
def slideOn (p : Pair) (b : Box) : (steps : Nat) → (x y : Int) → Int
  | 0, x, _ => x
  | n + 1, x, y =>
    if x < b.x1 && y < b.y1 && p.same x y then slideOn p b n (x + 1) (y + 1) else x

/-- The place before equal elements. -/
def slideBack (p : Pair) (b : Box) : (steps : Nat) → (x y : Int) → Int
  | 0, x, _ => x
  | n + 1, x, y =>
    if b.x0 < x && b.y0 < y && p.same (x - 1) (y - 1) then slideBack p b n (x - 1) (y - 1) else x

/-- Ways from the beginning one step further, on every other diagonal from `d` down; the place in
which they meet ways from the end. -/
def stepOn (p : Pair) (b : Box) (meets : Bool) (other : Front) : (steps : Nat) → (d : Int) →
    Front → Front × Option (Int × Int)
  | 0, _, f => (f, none)
  | n + 1, d, f =>
    if d < f.low then (f, none)
    else
      let shift := p.ys.size
      let below := f.get shift (d - 1)
      let above := f.get shift (d + 1)
      let x := if below < above then above else below + 1
      let x := slideOn p b p.xs.size x (x - d)
      let f := f.put shift d x
      if meets && other.low ≤ d && d ≤ other.high && other.get shift d ≤ x then
        (f, some (x, x - d))
      else stepOn p b meets other n (d - 2) f

/-- Ways from the end one step further. -/
def stepBack (p : Pair) (b : Box) (meets : Bool) (other : Front) : (steps : Nat) → (d : Int) →
    Front → Front × Option (Int × Int)
  | 0, _, f => (f, none)
  | n + 1, d, f =>
    if d < f.low then (f, none)
    else
      let shift := p.ys.size
      let below := f.get shift (d - 1)
      let above := f.get shift (d + 1)
      let x := if below < above then below else above - 1
      let x := slideBack p b p.xs.size x (x - d)
      let f := f.put shift d x
      if meets && other.low ≤ d && d ≤ other.high && x ≤ other.get shift d then
        (f, some (x, x - d))
      else stepBack p b meets other n (d - 2) f

/-- The place in which ways from both ends meet first. -/
def middleFrom (p : Pair) (b : Box) (odd : Bool) : (steps : Nat) → (on back : Front) → Int × Int
  | 0, _, _ => (b.x0, b.y0)
  | n + 1, on, back =>
    let size := p.xs.size + p.ys.size + 3
    let on := on.widen p.ys.size b (-1)
    match stepOn p b odd back size on.high on with
    | (_, some place) => place
    | (on, none) =>
      let back := back.widen p.ys.size b (p.xs.size + p.ys.size + 2 : Nat)
      match stepBack p b (!odd) on size back.high back with
      | (_, some place) => place
      | (back, none) => middleFrom p b odd n on back

/-- A place in the middle of a shortest way through a box. -/
def middle (p : Pair) (b : Box) : Int × Int :=
  let start := b.x0 - b.y0
  let last := b.x1 - b.y1
  let size := p.xs.size + p.ys.size + 3
  let front := fun (d x : Int) =>
    ({ reach := Array.replicate size 0, low := d, high := d } : Front).put p.ys.size d x
  middleFrom p b ((start - last) % 2 != 0) (size + 1) (front start b.x0) (front last b.x1)

/-- Which elements are changed in each of two sequences. -/
structure Marks where
  xs : Array Bool
  ys : Array Bool

/-- Marks a range of elements. -/
def mark (marks : Array Bool) (from_ to_ : Int) : Array Bool :=
  (List.range (to_ - from_).toNat).foldl (fun marks k =>
    marks.setIfInBounds (from_.toNat + k) true) marks

/-- Marks what differs in a box. -/
def compareBox (p : Pair) : (steps : Nat) → Box → Marks → Marks
  | 0, _, m => m
  | n + 1, b, m =>
    let x0 := slideOn p b p.xs.size b.x0 b.y0
    let b := { b with x0, y0 := b.y0 + (x0 - b.x0) }
    let x1 := slideBack p b p.xs.size b.x1 b.y1
    let b := { b with x1, y1 := b.y1 - (b.x1 - x1) }
    if b.x0 = b.x1 then { m with ys := mark m.ys b.y0 b.y1 }
    else if b.y0 = b.y1 then { m with xs := mark m.xs b.x0 b.x1 }
    else
      let (x, y) := middle p b
      compareBox p n { b with x0 := x, y0 := y } (compareBox p n { b with x1 := x, y1 := y } m)

/-- The elements that occur in the other sequence too, with their places. -/
def shared (xs ys : Array Nat) : Array (Nat × Nat) :=
  xs.zipIdx.filter fun (x, _) => ys.contains x

/-- Marks what differs; elements that only one sequence has are changed in any case. -/
def marksOf (p : Pair) : Marks :=
  let xs := shared p.xs p.ys
  let ys := shared p.ys p.xs
  let q : Pair := ⟨xs.map Prod.fst, ys.map Prod.fst⟩
  let inner := compareBox q (xs.size + ys.size + 1) ⟨0, xs.size, 0, ys.size⟩
    ⟨Array.replicate xs.size false, Array.replicate ys.size false⟩
  let whole := fun (size : Nat) (kept : Array (Nat × Nat)) (marks : Array Bool) =>
    (kept.zip marks).foldl (fun (all : Array Bool) ((_, i), changed) =>
      all.setIfInBounds i changed) (Array.replicate size true)
  ⟨whole p.xs.size xs inner.xs, whole p.ys.size ys inner.ys⟩

/-! ## Moving changes -/

/-- A run of changed elements of one sequence, while it is moved. -/
structure Sliding where
  changed : Array Bool
  start : Nat
  /-- Where the run ends. -/
  stop : Nat
  /-- The corresponding place in the other sequence. -/
  there : Nat
  /-- Where the run ended when it corresponded to a run of the other sequence. -/
  matched : Nat

/-- The first place from `i` on that is not marked. -/
def passMarked (marks : Array Bool) : (steps : Nat) → (i : Nat) → Nat
  | 0, i => i
  | n + 1, i => if marks.getD i false then passMarked marks n (i + 1) else i

/-- The last place up to `i` that has no mark before it. -/
def passBack (marks : Array Bool) : (steps : Nat) → (i : Nat) → Nat
  | 0, i => i
  | n + 1, i => if 0 < i && marks.getD (i - 1) false then passBack marks n (i - 1) else i

/-- Moves a run to the front as long as what is before it is its last element. -/
def moveBack (xs : Array Nat) (others : Array Bool) : (steps : Nat) → Sliding → Sliding
  | 0, s => s
  | n + 1, s =>
    if 0 < s.start && xs.getD (s.start - 1) 0 == xs.getD (s.stop - 1) 0 then
      let changed := (s.changed.setIfInBounds (s.start - 1) true).setIfInBounds (s.stop - 1) false
      let start := passBack changed changed.size (s.start - 1)
      moveBack xs others n
        { s with changed, start, stop := s.stop - 1
                 there := passBack others others.size s.there - 1 }
    else s

/-- Moves a run to the end as long as what is behind it is its first element. -/
def moveOn (xs : Array Nat) (others : Array Bool) : (steps : Nat) → Sliding → Sliding
  | 0, s => s
  | n + 1, s =>
    if s.stop < xs.size && xs.getD s.start 0 == xs.getD s.stop 0 then
      let changed := (s.changed.setIfInBounds s.start false).setIfInBounds s.stop true
      let stop := passMarked changed changed.size (s.stop + 1)
      let there := passMarked others others.size (s.there + 1)
      moveOn xs others n
        { s with changed, start := s.start + 1, stop, there
                 matched := if s.there + 1 < there then stop else s.matched }
    else s

/-- Moves a run until it merges with no other one. -/
def moveRun (xs : Array Nat) (others : Array Bool) : (steps : Nat) → Sliding → Sliding
  | 0, s => s
  | n + 1, s =>
    let length := s.stop - s.start
    let back := moveBack xs others (xs.size + 1) s
    let matched := if 0 < back.there && others.getD (back.there - 1) false then back.stop
      else xs.size
    let on := moveOn xs others (xs.size + 1) { back with matched }
    if on.stop - on.start = length then on else moveRun xs others n on

/-- Moves a run back to where it corresponds to a run of the other sequence. -/
def moveToMatch (others : Array Bool) : (steps : Nat) → Sliding → Sliding
  | 0, s => s
  | n + 1, s =>
    if s.matched < s.stop then
      moveToMatch others n
        { s with
          changed := (s.changed.setIfInBounds (s.start - 1) true).setIfInBounds (s.stop - 1) false
          start := s.start - 1, stop := s.stop - 1
          there := passBack others others.size s.there - 1 }
    else s

/-- Moves all runs of a sequence from a place on; `there` is the corresponding place in the other
one. -/
def moveAll (xs : Array Nat) (others : Array Bool) : (steps : Nat) → (i there : Nat) →
    Array Bool → Array Bool
  | 0, _, _, changed => changed
  | n + 1, i, there, changed =>
    if xs.size ≤ i then changed
    else if !changed.getD i false then
      moveAll xs others n (i + 1) (passMarked others others.size there + 1) changed
    else
      let stop := passMarked changed changed.size i
      let there := passMarked others others.size there
      let s := moveRun xs others (xs.size + 1) ⟨changed, i, stop, there, xs.size⟩
      let s := moveToMatch others (xs.size + 1) s
      moveAll xs others n s.stop s.there s.changed

/-- The changes that marks stand for. -/
def changesFrom (m : Marks) : (steps : Nat) → (i j : Nat) → List Change
  | 0, _, _ => []
  | n + 1, i, j =>
    if m.xs.size ≤ i && m.ys.size ≤ j then []
    else
      let x := passMarked m.xs m.xs.size i
      let y := passMarked m.ys m.ys.size j
      if x = i && y = j then changesFrom m n (i + 1) (j + 1)
      else ⟨i, x - i, j, y - j⟩ :: changesFrom m n x y

/-- The numbers of elements: equal elements have equal numbers. -/
def numbered {α : Type} [BEq α] (all : Array α) (xs : List α) : Array Nat :=
  (xs.map fun x => all.findIdx (· == x)).toArray

/-- How many elements two sequences have in common at their beginning. -/
def commonStart {α : Type} [BEq α] : List α → List α → Nat
  | a :: as, b :: bs => if a == b then commonStart as bs + 1 else 0
  | _, _ => 0

/-- The changes that lead from one sequence to another. `key` is what counts about an element. What
both have at their ends is left out of sight but for a number of elements, the horizon. -/
def changes {α β : Type} [BEq α] [BEq β] (key : α → β) (horizon : Nat) (as bs : List α) :
    List Change :=
  let front := commonStart as bs - horizon
  let as := as.drop front
  let bs := bs.drop front
  let back := commonStart as.reverse bs.reverse - horizon
  let as := (as.take (as.length - back)).map key
  let bs := (bs.take (bs.length - back)).map key
  let all := (as ++ bs).toArray
  let p : Pair := ⟨numbered all as, numbered all bs⟩
  let m := marksOf p
  let size := p.xs.size + p.ys.size + 2
  let xs := moveAll p.xs m.ys size 0 0 m.xs
  let ys := moveAll p.ys xs size 0 0 m.ys
  (changesFrom ⟨xs, ys⟩ (size + size) 0 0).map fun c =>
    { c with first := c.first + front, second := c.second + front }

end Difference

end Playbook.Shell.Tool
