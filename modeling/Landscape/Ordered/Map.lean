import Landscape.Ordered.Key

namespace Landscape

/-!
# Maps in key order

A map is the list of its entries, keys strictly ascending. Inserting keeps the order,
so listing a map needs no sorting.
-/

/-! ## Entry lists -/

namespace Entries

variable {κ α : Type} [Key κ]

/-- Keys strictly ascending. -/
def Ascending (es : List (κ × α)) : Prop :=
  es.Pairwise fun a b => Key.before a.1 b.1 = true

/-- Put `k` in its place; an entry that has the key already gives way. -/
def insert (k : κ) (v : α) : List (κ × α) → List (κ × α)
  | [] => [(k, v)]
  | e :: es =>
      if Key.before k e.1 then (k, v) :: e :: es
      else if Key.before e.1 k then e :: insert k v es
      else (k, v) :: es

theorem mem_insert {k : κ} {v : α} {es : List (κ × α)} {e : κ × α} (h : e ∈ insert k v es) :
    e = (k, v) ∨ e ∈ es := by
  induction es with
  | nil => simpa [insert] using h
  | cons a es ih =>
      unfold insert at h
      split at h
      · simpa using h
      · split at h
        · rcases List.mem_cons.mp h with rfl | h
          · exact Or.inr (by simp)
          · rcases ih h with h | h
            · exact Or.inl h
            · exact Or.inr (by simp [h])
        · rcases List.mem_cons.mp h with h | h
          · exact Or.inl h
          · exact Or.inr (by simp [h])

theorem Ascending.insert {k : κ} {v : α} {es : List (κ × α)} (h : Ascending es) :
    Ascending (insert k v es) := by
  induction es with
  | nil => simp [Entries.insert, Ascending]
  | cons a es ih =>
      have ht := List.pairwise_cons.mp h
      unfold Entries.insert
      split
      · rename_i hk
        refine List.pairwise_cons.mpr ⟨fun e he => ?_, h⟩
        rcases List.mem_cons.mp he with rfl | he
        · exact hk
        · exact Key.before_trans hk (ht.1 e he)
      · rename_i hk
        split
        · rename_i hk'
          refine List.pairwise_cons.mpr ⟨fun e he => ?_, ih ht.2⟩
          rcases mem_insert he with rfl | he
          · exact hk'
          · exact ht.1 e he
        · rename_i hk'
          have hak : a.1 = k :=
            Key.eq_of_not_before (by simpa using hk') (by simpa using hk)
          refine List.pairwise_cons.mpr ⟨fun e he => ?_, ht.2⟩
          exact hak ▸ ht.1 e he

end Entries

/-! ## Maps -/

/-- A finite map, listed in key order. -/
structure Map (κ α : Type) [Key κ] where
  entries : List (κ × α)
  ascending : Entries.Ascending entries

namespace Map

variable {κ α : Type} [Key κ]

theorem ext {m n : Map κ α} (h : m.entries = n.entries) : m = n := by
  cases m
  cases n
  cases h
  rfl

instance [DecidableEq κ] [DecidableEq α] : DecidableEq (Map κ α) := fun m n =>
  if h : m.entries = n.entries then isTrue (ext h) else isFalse fun e => h (e ▸ rfl)

def empty : Map κ α := ⟨[], List.Pairwise.nil⟩

instance : EmptyCollection (Map κ α) := ⟨empty⟩

instance : Inhabited (Map κ α) := ⟨empty⟩

def size (m : Map κ α) : Nat := m.entries.length

def isEmpty (m : Map κ α) : Bool := m.entries.isEmpty

def keys (m : Map κ α) : List κ := m.entries.map (·.1)

def values (m : Map κ α) : List α := m.entries.map (·.2)

def get? [DecidableEq κ] (m : Map κ α) (k : κ) : Option α :=
  (m.entries.find? fun e => e.1 = k).map (·.2)

def contains [DecidableEq κ] (m : Map κ α) (k : κ) : Bool := (m.get? k).isSome

def insert (m : Map κ α) (k : κ) (v : α) : Map κ α :=
  ⟨Entries.insert k v m.entries, m.ascending.insert⟩

/-- Insert one entry after the other, so that of two equal keys the later wins. -/
def insertAll (m : Map κ α) (es : List (κ × α)) : Map κ α :=
  es.foldl (fun m e => m.insert e.1 e.2) m

def ofList (es : List (κ × α)) : Map κ α := (∅ : Map κ α).insertAll es

/-- Change the value under `k`, if there is one. -/
def modify [DecidableEq κ] (m : Map κ α) (k : κ) (f : α → α) : Map κ α :=
  match m.get? k with
  | none => m
  | some v => m.insert k (f v)

def mapValues {β : Type} (m : Map κ α) (f : α → β) : Map κ β :=
  ⟨m.entries.map fun e => (e.1, f e.2), List.pairwise_map.mpr (by exact m.ascending)⟩

@[simp] theorem get?_mapValues [DecidableEq κ] {β : Type} (m : Map κ α) (f : α → β) (k : κ) :
    (m.mapValues f).get? k = (m.get? k).map f := by
  simp only [mapValues, get?, List.find?_map, Option.map_map]
  rfl

theorem mem_keys_of_get? [DecidableEq κ] {m : Map κ α} {k : κ} {v : α} (h : m.get? k = some v) :
    k ∈ m.keys := by
  unfold get? at h
  obtain ⟨e, he, -⟩ := Option.map_eq_some_iff.mp h
  have hk : e.1 = k := by simpa using List.find?_some he
  exact hk ▸ List.mem_map_of_mem (List.mem_of_find?_eq_some he)

@[simp] theorem get?_empty [DecidableEq κ] (k : κ) : (∅ : Map κ α).get? k = none := rfl

theorem get?_insert_self [DecidableEq κ] (m : Map κ α) (k : κ) (v : α) :
    (m.insert k v).get? k = some v := by
  obtain ⟨es, hes⟩ := m
  simp only [insert, get?]
  clear hes
  induction es with
  | nil => simp [Entries.insert]
  | cons e es ih =>
      unfold Entries.insert
      split
      · simp
      · split
        · rename_i hek
          rw [List.find?_cons_of_neg (by simpa using Key.ne_of_before hek)]
          exact ih
        · simp

theorem get?_insert_ne [DecidableEq κ] (m : Map κ α) {k k' : κ} (v : α) (h : k' ≠ k) :
    (m.insert k v).get? k' = m.get? k' := by
  obtain ⟨es, hes⟩ := m
  simp only [insert, get?]
  clear hes
  induction es with
  | nil => simp [Entries.insert, Ne.symm h]
  | cons e es ih =>
      unfold Entries.insert
      split
      · simp [Ne.symm h]
      · rename_i hke
        split
        · by_cases he : e.1 = k'
          · rw [List.find?_cons_of_pos (by simpa using he),
              List.find?_cons_of_pos (by simpa using he)]
          · rw [List.find?_cons_of_neg (by simpa using he),
              List.find?_cons_of_neg (by simpa using he)]
            exact ih
        · rename_i hek
          have hk : e.1 = k := Key.eq_of_not_before (by simpa using hek) (by simpa using hke)
          rw [List.find?_cons_of_neg (by simpa using Ne.symm h),
            List.find?_cons_of_neg (by simpa [hk] using Ne.symm h)]

theorem get?_insert [DecidableEq κ] (m : Map κ α) (k k' : κ) (v : α) :
    (m.insert k v).get? k' = if k' = k then some v else m.get? k' := by
  by_cases h : k' = k
  · rw [if_pos h, h, get?_insert_self]
  · rw [if_neg h, get?_insert_ne m v h]

end Map

end Landscape
