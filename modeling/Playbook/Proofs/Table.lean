/-
  Tables: keys and look-ups after an insertion and after a change in place. A table is its keys in
  order and what they lead to (`ext_get?`), and inserting its entries one by one builds it again
  (`insertAll_entries`).
-/
import Playbook.Table

namespace Playbook.Table

variable {β : Type}

theorem mem_of_lookup {es : List (String × β)} {key : String} {v : β}
    (h : es.lookup key = some v) : (key, v) ∈ es := by
  induction es with
  | nil => simp at h
  | cons e es ih =>
    obtain ⟨k, w⟩ := e
    rw [List.lookup_cons] at h
    by_cases hk : key = k
    · subst hk
      simp only [BEq.rfl, Option.some.injEq] at h
      exact h ▸ List.mem_cons_self
    · have hne : (key == k) = false := by simpa using hk
      simp only [hne] at h
      exact List.mem_cons_of_mem _ (ih h)

theorem mem_entries_of_get? {t : Table β} {key : String} {v : β} (h : t.get? key = some v) :
    (key, v) ∈ t.entries :=
  mem_of_lookup h

theorem mem_values_of_get? {t : Table β} {key : String} {v : β} (h : t.get? key = some v) :
    v ∈ t.values := List.mem_map.mpr ⟨(key, v), mem_entries_of_get? h, rfl⟩

theorem mem_keys_of_get?_isSome {t : Table β} {key : String} (h : (t.get? key).isSome) :
    key ∈ t.keys := by
  obtain ⟨v, hv⟩ := Option.isSome_iff_exists.mp h
  exact List.mem_map.mpr ⟨(key, v), mem_entries_of_get? hv, rfl⟩

theorem get?_of_mem_entries {t : Table β} {key : String} {v : β} (h : (key, v) ∈ t.entries) :
    t.get? key = some v := by
  obtain ⟨es, hes⟩ := t
  show es.lookup key = some v
  induction es with
  | nil => exact absurd h List.not_mem_nil
  | cons e es ih =>
    obtain ⟨k, w⟩ := e
    rw [List.map_cons, List.nodup_cons] at hes
    rw [List.lookup_cons]
    rcases List.mem_cons.mp h with heq | hmem
    · obtain ⟨rfl, rfl⟩ := Prod.mk.inj heq
      simp
    · have hne : (key == k) = false :=
        beq_eq_false_iff_ne.mpr fun hk => hes.1 (List.mem_map.mpr ⟨(key, v), hmem, hk⟩)
      simp only [hne]
      exact ih hes.2 hmem

theorem mem_keys_iff {t : Table β} {key : String} : key ∈ t.keys ↔ t.contains key := by
  constructor
  · intro h
    obtain ⟨⟨k, v⟩, hv, rfl⟩ := List.mem_map.mp h
    rw [contains, get?_of_mem_entries hv]
    rfl
  · exact mem_keys_of_get?_isSome

/-- Among entries with distinct keys, the key tells the entry. -/
theorem eq_of_key {es : List (String × β)} (h : (es.map Prod.fst).Nodup) {d e : String × β}
    (hd : d ∈ es) (he : e ∈ es) (hkey : d.1 = e.1) : d = e := by
  have hd' : (Table.mk es h).get? d.1 = some d.2 := get?_of_mem_entries hd
  have he' : (Table.mk es h).get? e.1 = some e.2 := get?_of_mem_entries he
  rw [hkey, he', Option.some.injEq] at hd'
  exact Prod.ext hkey hd'.symm

/-! ## Insertion -/

theorem mem_put {key : String} {v : β} {es : List (String × β)} {e : String × β}
    (h : e ∈ put key v es) : e = (key, v) ∨ e ∈ es := by
  induction es with
  | nil => exact Or.inl (List.mem_singleton.mp h)
  | cons d es ih =>
    obtain ⟨k, u⟩ := d
    rw [put] at h
    split at h
    · rcases List.mem_cons.mp h with rfl | h
      · exact Or.inl rfl
      · exact Or.inr (List.mem_cons_of_mem _ h)
    · rcases List.mem_cons.mp h with rfl | h
      · exact Or.inr List.mem_cons_self
      · rcases ih h with heq | h
        · exact Or.inl heq
        · exact Or.inr (List.mem_cons_of_mem _ h)

theorem mem_entries_insert {t : Table β} {key : String} {v : β} {e : String × β}
    (h : e ∈ (t.insert key v).entries) : e = (key, v) ∨ e ∈ t.entries := mem_put h

theorem put_of_not_mem {key : String} {v : β} {es : List (String × β)}
    (h : key ∉ es.map Prod.fst) : put key v es = es ++ [(key, v)] := by
  induction es with
  | nil => rfl
  | cons e es ih =>
    obtain ⟨k, u⟩ := e
    rw [List.map_cons, List.mem_cons, not_or] at h
    rw [put, if_neg (Ne.symm h.1), ih h.2, List.cons_append]

theorem entries_insert_of_not_mem {t : Table β} {key : String} (v : β) (h : key ∉ t.keys) :
    (t.insert key v).entries = t.entries ++ [(key, v)] := put_of_not_mem h

theorem keys_insert_of_not_mem {t : Table β} {key : String} (v : β) (h : key ∉ t.keys) :
    (t.insert key v).keys = t.keys ++ [key] := by
  rw [keys, entries_insert_of_not_mem v h]
  simp [keys]

theorem keys_put_of_mem {key : String} {v : β} {es : List (String × β)}
    (h : key ∈ es.map Prod.fst) : (put key v es).map Prod.fst = es.map Prod.fst := by
  induction es with
  | nil => cases h
  | cons e es ih =>
    obtain ⟨k, u⟩ := e
    rw [put]
    by_cases hk : k = key
    · rw [if_pos hk, List.map_cons, List.map_cons, hk]
    · have hrest : key ∈ es.map Prod.fst := by
        rcases List.mem_cons.mp h with hc | hc
        · exact absurd hc.symm hk
        · exact hc
      rw [if_neg hk, List.map_cons, List.map_cons, ih hrest]

theorem keys_insert_of_mem {t : Table β} {key : String} (v : β) (h : key ∈ t.keys) :
    (t.insert key v).keys = t.keys := keys_put_of_mem h

theorem contains_insert {t : Table β} {key k : String} {v : β} :
    (t.insert key v).contains k ↔ k = key ∨ t.contains k := by
  by_cases h : k = key
  · subst h
    simp [contains]
  · simp [contains, get?_insert_of_ne t v h, h]

/-- Entries with new and distinct keys are appended. -/
theorem insertAll_append {t : Table β} {ps : List (String × β)}
    (h : (t.keys ++ ps.map Prod.fst).Nodup) : (t.insertAll ps).entries = t.entries ++ ps := by
  induction ps generalizing t with
  | nil => simp [insertAll]
  | cons p ps ih =>
    obtain ⟨k, v⟩ := p
    have hk : k ∉ t.keys := by
      intro hmem
      rw [List.nodup_append] at h
      exact h.2.2 k hmem k (by simp) rfl
    have hkeys : ((t.insert k v).keys ++ ps.map Prod.fst).Nodup := by
      rw [keys_insert_of_not_mem v hk, List.append_assoc]
      exact h
    have hstep : t.insertAll ((k, v) :: ps) = (t.insert k v).insertAll ps := rfl
    rw [hstep, ih hkeys, entries_insert_of_not_mem v hk, List.append_assoc]
    rfl

theorem ext_entries {s t : Table β} (h : s.entries = t.entries) : s = t := by
  cases s
  cases t
  cases h
  rfl

/-- A table is its keys in order and what they lead to. -/
theorem ext_get? {s t : Table β} (hkeys : s.keys = t.keys) (h : ∀ key, s.get? key = t.get? key) :
    s = t := by
  refine ext_entries (List.ext_getElem ?_ fun i hs ht => ?_)
  · have hlength := congrArg List.length hkeys
    simpa [keys] using hlength
  · have hkey : s.entries[i].1 = t.entries[i].1 := by
      have hat : s.keys[i]? = t.keys[i]? := by rw [hkeys]
      simpa [keys, hs, ht] using hat
    have hleft : s.get? s.entries[i].1 = some s.entries[i].2 :=
      get?_of_mem_entries (List.getElem_mem hs)
    have hright : t.get? t.entries[i].1 = some t.entries[i].2 :=
      get?_of_mem_entries (List.getElem_mem ht)
    have hvalue : s.entries[i].2 = t.entries[i].2 := by
      rw [h, hkey, hright, Option.some.injEq] at hleft
      exact hleft.symm
    exact Prod.ext hkey hvalue

/-- The entries of a table, inserted one by one, are the table. -/
theorem insertAll_entries (t : Table β) : (empty : Table β).insertAll t.entries = t := by
  refine ext_entries ?_
  rw [insertAll_append]
  · rfl
  · exact t.keys_nodup

theorem get?_insertAll {t : Table β} {ps : List (String × β)} (h : (ps.map Prod.fst).Nodup)
    (key : String) : (t.insertAll ps).get? key = (ps.lookup key).or (t.get? key) := by
  induction ps generalizing t with
  | nil => rfl
  | cons p ps ih =>
    obtain ⟨k, v⟩ := p
    rw [List.map_cons, List.nodup_cons] at h
    have hstep : t.insertAll ((k, v) :: ps) = (t.insert k v).insertAll ps := rfl
    rw [hstep, ih h.2, List.lookup_cons]
    by_cases hk : key = k
    · subst hk
      have hlookup : ps.lookup key = none := by
        rw [List.lookup_eq_none_iff]
        intro p hp
        rw [bne_iff_ne]
        exact fun heq => h.1 (List.mem_map.mpr ⟨p, hp, heq.symm⟩)
      rw [hlookup, get?_insert_self, BEq.rfl]
      rfl
    · have hne : (key == k) = false := beq_eq_false_iff_ne.mpr hk
      rw [hne, get?_insert_of_ne t v hk]

/-- The entries of one table, inserted into another, win over what was there. -/
theorem get?_insertAll_entries (t s : Table β) (key : String) :
    (t.insertAll s.entries).get? key = (s.get? key).or (t.get? key) :=
  get?_insertAll s.keys_nodup key

theorem contains_insertAll_entries {t s : Table β} {key : String} :
    (t.insertAll s.entries).contains key ↔ s.contains key ∨ t.contains key := by
  unfold contains
  rw [get?_insertAll_entries, Option.isSome_or, Bool.or_eq_true]

/-! ## Changes in place -/

@[simp] theorem keys_alter (t : Table β) (key : String) (f : β → β) :
    (t.alter key f).keys = t.keys := keys_alterEntries key f t.entries

theorem lookup_alterEntries (key : String) (f : β → β) (es : List (String × β)) (k : String) :
    (alterEntries key f es).lookup k =
      if k = key then (es.lookup k).map f else es.lookup k := by
  induction es with
  | nil => simp [alterEntries]
  | cons e es ih =>
    obtain ⟨k', v⟩ := e
    by_cases hk : k' = key
    · subst hk
      by_cases h : k = k'
      · subst h
        simp [alterEntries]
      · have hne : (k == k') = false := by simpa using h
        simp [alterEntries, List.lookup_cons, hne, h]
    · by_cases h : k = k'
      · subst h
        simp [alterEntries, hk]
      · have hne : (k == k') = false := by simpa using h
        simp [alterEntries, hk, List.lookup_cons, hne, ih]

theorem get?_alter (t : Table β) (key : String) (f : β → β) (k : String) :
    (t.alter key f).get? k = if k = key then (t.get? k).map f else t.get? k :=
  lookup_alterEntries key f t.entries k

@[simp] theorem contains_alter (t : Table β) (key : String) (f : β → β) (k : String) :
    (t.alter key f).contains k = t.contains k := by
  rw [contains, contains, get?_alter]
  split <;> simp

end Playbook.Table
