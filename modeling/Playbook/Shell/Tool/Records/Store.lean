/-
  Arrays of programs that go through records: values by their keys. The keys are gone through in
  the order of their hashes, and of the keys with one hash the one that was reached last comes
  first.
-/
import Playbook.Shell.Tool.Records.Value

namespace Playbook.Shell.Tool.Records

/-- A key as a program gives it. -/
inductive Key where
  | text (s : String)
  | whole (n : Int)

/-- The text of a key. -/
def Key.shown : Key → String
  | text s => s
  | whole n => toString n

/-- A value with its key. -/
structure Entry where
  key : String
  value : Value := .unset
  /-- When it was last reached by the text of its key. -/
  byText : Option Nat := none
  /-- When it was last reached by its key as a whole number, and the number. -/
  byNumber : Option (Nat × Int) := none

/-- The values of an array. -/
structure Store where
  entries : List Entry := []
  /-- How often values were reached. -/
  clock : Nat := 0
  /-- Whether all values can be reached by the texts of their keys. -/
  texts : Bool := false
  /-- The number of different hashes. -/
  width : Nat := 64

instance : Inhabited Store := ⟨{}⟩

namespace Store

/-- The hash of a text: every byte is mixed in and multiplied. -/
def hash (s : String) : Nat :=
  s.toList.foldl (fun h c => ((h ^^^ c.toNat) * 16777619) % Nat.pow 2 32) 2166136261

/-- Changes the entry with a key. -/
def onEntry (s : Store) (key : String) (f : Entry → Entry) : Store :=
  { s with entries := s.entries.map fun e => if e.key == key then f e else e }

/-- The entry with a key. -/
def find? (s : Store) (key : String) : Option Entry := s.entries.find? fun e => e.key == key

/-- The values that were only reached by numbers, in the order in which they are kept. -/
def numbered (s : Store) : List Entry :=
  let only := s.entries.filter fun e => e.byText.isNone
  let place := fun (e : Entry) =>
    match e.byNumber with
    | some (_, n) => (n % (s.width : Int)).toNat
    | none => 0
  let time := fun (e : Entry) => (e.byNumber.map Prod.fst).getD 0
  only.mergeSort fun a b => place a < place b || (place a == place b && time b ≤ time a)

/-- Makes all values known by the texts of their keys. -/
def withTexts (s : Store) : Store :=
  if s.texts then s
  else
    let s := s.numbered.foldl (fun s e =>
      { s.onEntry e.key fun e => { e with byText := some s.clock } with clock := s.clock + 1 }) s
    { s with texts := true }

/-- Adds an entry; more hashes are told apart when there are many. -/
def add (s : Store) (e : Entry) : Store :=
  let entries := e :: s.entries
  { s with
    entries, clock := s.clock + 1
    width := if 12 * s.width < entries.length then 2 * s.width else s.width }

/-- Reaches for a text; the second part tells whether it is there. -/
def reachText (s : Store) (creates : Bool) (key : String) : Store × Bool :=
  let s := s.withTexts
  match s.find? key with
  | some _ =>
    ({ s.onEntry key fun e => { e with byText := some s.clock } with clock := s.clock + 1 }, true)
  | none => if creates then (s.add { key, byText := some s.clock }, true) else (s, false)

/-- Reaches for a key; the second part tells whether it is there. -/
def reach (s : Store) (creates : Bool) : Key → Store × Bool
  | .text key => s.reachText creates key
  | .whole n =>
    let key := toString n
    let known := ((s.find? key).bind (·.byNumber)).isSome
    let mark := fun (s : Store) =>
      { s.onEntry key fun e => { e with byNumber := some (s.clock, n) } with clock := s.clock + 1 }
    if known then (mark s, true)
    else if s.texts then
      let (s, found) := s.reachText creates key
      (if found then mark s else s, found)
    else if creates then (s.add { key, byNumber := some (s.clock, n) }, true)
    else (s, false)

/-- The value with a key, which is there from now on. -/
def get (s : Store) (k : Key) : Store × Value :=
  let (s, _) := s.reach true k
  (s, ((s.find? k.shown).map (·.value)).getD .unset)

/-- Gives a key a value. -/
def put (s : Store) (k : Key) (v : Value) : Store :=
  let (s, _) := s.reach true k
  s.onEntry k.shown fun e => { e with value := v }

/-- Takes a key out. -/
def erase (s : Store) (k : Key) : Store :=
  let (s, _) := s.reach false k
  let entries := s.entries.filter fun e => e.key != k.shown
  if entries.isEmpty then {} else { s with entries }

/-- The keys in the order in which they are gone through. -/
def keys (s : Store) : List String :=
  let place := fun (e : Entry) => hash e.key % s.width
  let time := fun (e : Entry) => e.byText.getD 0
  ((s.entries.mergeSort fun a b =>
    place a < place b || (place a == place b && time b ≤ time a))).map (·.key)

/-- An array of values with the numbers from one on. -/
def ofList (vs : List Value) : Store :=
  (vs.foldl (fun ((s : Store), (n : Int)) v => (s.put (.whole n) v, n + 1)) ({}, 1)).1

end Store

end Playbook.Shell.Tool.Records
