/-! Finite maps from names that remember the order in which the names came first. Putting a value under a name
that is present replaces the value and keeps the place. -/
namespace QueryGate

structure OrderedMap (α : Type) where
  entries : List (String × α)
  distinct : (entries.map Prod.fst).Nodup

namespace OrderedMap

variable {α β : Type}

def empty : OrderedMap α := ⟨[], List.nodup_nil⟩

instance : Inhabited (OrderedMap α) := ⟨empty⟩

def keys (m : OrderedMap α) : List String := m.entries.map Prod.fst

def size (m : OrderedMap α) : Nat := m.entries.length

def get? (m : OrderedMap α) (key : String) : Option α := m.entries.lookup key

def contains (m : OrderedMap α) (key : String) : Bool := (m.get? key).isSome

def putEntry (key : String) (value : α) : List (String × α) → List (String × α)
  | [] => [(key, value)]
  | (k, v) :: rest => if k = key then (key, value) :: rest else (k, v) :: putEntry key value rest

theorem keys_putEntry (key : String) (value : α) (es : List (String × α)) :
    (putEntry key value es).map Prod.fst =
      if key ∈ es.map Prod.fst then es.map Prod.fst else es.map Prod.fst ++ [key] := by
  induction es with
  | nil => simp [putEntry]
  | cons e rest ih =>
    obtain ⟨k, v⟩ := e
    by_cases h : k = key
    · simp [putEntry, h]
    · have h' : key ≠ k := fun e => h e.symm
      by_cases hm : key ∈ rest.map Prod.fst
      · rw [if_pos hm] at ih
        simp only [putEntry, h, if_false, List.map_cons, ih, List.mem_cons, hm, or_true, if_true]
      · rw [if_neg hm] at ih
        simp only [putEntry, h, if_false, List.map_cons, ih, List.mem_cons, h', hm, or_self,
          List.cons_append]

theorem lookup_putEntry (key : String) (value : α) (es : List (String × α)) (k : String) :
    (putEntry key value es).lookup k = if k = key then some value else es.lookup k := by
  induction es with
  | nil =>
    by_cases h : k = key
    · simp [putEntry, h]
    · have : (k == key) = false := by simp [h]
      simp [putEntry, List.lookup_cons, h, this]
  | cons e rest ih =>
    obtain ⟨k', v⟩ := e
    by_cases h : k' = key
    · by_cases hk : k = key
      · simp [putEntry, h, hk]
      · have : (k == key) = false := by simp [hk]
        simp [putEntry, h, hk, List.lookup_cons, this]
    · by_cases hk : k = k'
      · subst hk
        simp [putEntry, h]
      · have : (k == k') = false := by simp [hk]
        simp [putEntry, h, List.lookup_cons, this, ih]

def insert (m : OrderedMap α) (key : String) (value : α) : OrderedMap α where
  entries := putEntry key value m.entries
  distinct := by
    rw [keys_putEntry]
    by_cases h : key ∈ m.entries.map Prod.fst
    · rw [if_pos h]
      exact m.distinct
    · rw [if_neg h, List.nodup_append]
      refine ⟨m.distinct, by simp, ?_⟩
      intro a ha b hb hab
      simp only [List.mem_singleton] at hb
      exact h (hb ▸ hab ▸ ha)

theorem keys_insert (m : OrderedMap α) (key : String) (value : α) :
    (m.insert key value).keys = if key ∈ m.keys then m.keys else m.keys ++ [key] :=
  keys_putEntry key value m.entries

theorem get?_insert (m : OrderedMap α) (key : String) (value : α) (k : String) :
    (m.insert key value).get? k = if k = key then some value else m.get? k :=
  lookup_putEntry key value m.entries k

def ofList (es : List (String × α)) : OrderedMap α :=
  es.foldl (fun m e => m.insert e.1 e.2) empty

def mapValues (f : α → β) (m : OrderedMap α) : OrderedMap β where
  entries := m.entries.map fun e => (e.1, f e.2)
  distinct := by
    have h : (m.entries.map fun e => (e.1, f e.2)).map Prod.fst = m.entries.map Prod.fst := by
      simp [Function.comp_def]
    rw [h]
    exact m.distinct

theorem keys_mapValues (f : α → β) (m : OrderedMap α) : (m.mapValues f).keys = m.keys := by
  simp [keys, mapValues, Function.comp_def]

end OrderedMap
end QueryGate
