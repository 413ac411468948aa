/-
  Tables with text keys, in the order in which the keys were first inserted.
-/

namespace Playbook

/-- Entries with distinct keys, in insertion order. -/
structure Table (β : Type) where
  entries : List (String × β) := []
  keys_nodup : (entries.map Prod.fst).Nodup := by simp

namespace Table

variable {β : Type}

/-- The table without entries. -/
def empty : Table β := {}

instance : Inhabited (Table β) := ⟨empty⟩

instance [Repr β] : Repr (Table β) := ⟨fun t n => reprPrec t.entries n⟩

instance [DecidableEq β] : DecidableEq (Table β) := fun s t =>
  if h : s.entries = t.entries then
    isTrue (by cases s; cases t; cases h; rfl)
  else isFalse (fun e => h (by rw [e]))

/-- The keys in order. -/
def keys (t : Table β) : List String := t.entries.map Prod.fst

/-- The values in the order of their keys. -/
def values (t : Table β) : List β := t.entries.map Prod.snd

/-- The number of entries. -/
def size (t : Table β) : Nat := t.entries.length

def isEmpty (t : Table β) : Bool := t.entries.isEmpty

/-- The value under `key`, if any. -/
def get? (t : Table β) (key : String) : Option β := t.entries.lookup key

/-- Whether there is an entry under `key`. -/
def contains (t : Table β) (key : String) : Bool := (t.get? key).isSome

/-- The entries with `value` under `key`: in place of the old value, or at the end. -/
def put (key : String) (value : β) : List (String × β) → List (String × β)
  | [] => [(key, value)]
  | (k, v) :: rest => if k = key then (key, value) :: rest else (k, v) :: put key value rest

theorem mem_keys_put {key k : String} {value : β} {es : List (String × β)} :
    k ∈ (put key value es).map Prod.fst ↔ k = key ∨ k ∈ es.map Prod.fst := by
  induction es with
  | nil => simp [put]
  | cons e es ih =>
    obtain ⟨k', v'⟩ := e
    by_cases h : k' = key
    · subst h; simp [put]
    · simp only [put, h, if_false, List.map_cons, List.mem_cons, ih]
      grind

theorem nodup_keys_put {key : String} {value : β} {es : List (String × β)}
    (h : (es.map Prod.fst).Nodup) : ((put key value es).map Prod.fst).Nodup := by
  induction es with
  | nil => simp [put]
  | cons e es ih =>
    obtain ⟨k', v'⟩ := e
    by_cases hk : k' = key
    · subst hk; simpa [put] using h
    · simp only [List.map_cons, List.nodup_cons] at h
      simp only [put, hk, if_false, List.map_cons, List.nodup_cons, mem_keys_put, not_or]
      exact ⟨⟨not_false, h.1⟩, ih h.2⟩

/-- The table with `value` under `key`: in place of the old value, or at the end. -/
def insert (t : Table β) (key : String) (value : β) : Table β :=
  ⟨put key value t.entries, nodup_keys_put t.keys_nodup⟩

@[simp] theorem get?_empty (key : String) : (empty : Table β).get? key = none := rfl

@[simp] theorem get?_insert_self (t : Table β) (key : String) (value : β) :
    (t.insert key value).get? key = some value := by
  obtain ⟨es, h⟩ := t
  show (put key value es).lookup key = some value
  clear h
  induction es with
  | nil => simp [put]
  | cons e es ih =>
    obtain ⟨k, v⟩ := e
    by_cases hk : k = key
    · subst hk; simp [put]
    · have hne : (key == k) = false := by simpa using fun h => hk h.symm
      simp [put, hk, List.lookup_cons, hne, ih]

theorem get?_insert_of_ne (t : Table β) {key k : String} (value : β) (h : k ≠ key) :
    (t.insert key value).get? k = t.get? k := by
  obtain ⟨es, hes⟩ := t
  show (put key value es).lookup k = es.lookup k
  clear hes
  induction es with
  | nil =>
    have hne : (k == key) = false := by simpa using h
    simp [put, List.lookup_cons, hne]
  | cons e es ih =>
    obtain ⟨k', v⟩ := e
    by_cases hk : k' = key
    · subst hk
      have hne : (k == k') = false := by simpa using h
      simp [put, List.lookup_cons, hne]
    · simp only [put, hk, if_false, List.lookup_cons, ih]

/-- The table with all the pairs inserted, in order. -/
def insertAll (t : Table β) (pairs : List (String × β)) : Table β :=
  pairs.foldl (fun t (k, v) => t.insert k v) t

/-- The table with the pairs inserted in order; a later pair wins over an earlier one. -/
def ofList (pairs : List (String × β)) : Table β := empty.insertAll pairs

/-- The entries with the value under `key` changed by `f`. -/
def alterEntries (key : String) (f : β → β) : List (String × β) → List (String × β)
  | [] => []
  | (k, v) :: rest => if k = key then (k, f v) :: rest else (k, v) :: alterEntries key f rest

theorem keys_alterEntries (key : String) (f : β → β) (es : List (String × β)) :
    (alterEntries key f es).map Prod.fst = es.map Prod.fst := by
  induction es with
  | nil => rfl
  | cons e es ih =>
    obtain ⟨k', v'⟩ := e
    by_cases hk : k' = key <;> simp [alterEntries, hk, ih]

/-- The table with the value under `key`, if any, changed by `f`. -/
def alter (t : Table β) (key : String) (f : β → β) : Table β :=
  ⟨alterEntries key f t.entries, by rw [keys_alterEntries]; exact t.keys_nodup⟩

/-- Whether two tables hold the same entries, in whatever order. -/
def sameEntries [DecidableEq β] (s t : Table β) : Bool :=
  s.size == t.size && s.entries.all fun (k, v) => t.get? k == some v

end Table

end Playbook
