import Mathlib.Data.List.Induction
import Mathlib.Data.List.Nodup
import QueryGate.OrderedMap

/-! Maps from lists, where each name stands where it came first and has the value that came last; a list whose names all
differ is kept as it is. Maps with some entries left out, and the places of entries. -/
namespace QueryGate

theorem lookup_map_snd {α β : Type} (f : String → α → β) (es : List (String × α)) (key : String) :
    (es.map fun e => (e.1, f e.1 e.2)).lookup key = (es.lookup key).map (f key) := by
  induction es with
  | nil => rfl
  | cons e rest ih =>
    obtain ⟨k, v⟩ := e
    by_cases h : key = k
    · subst h
      simp
    · have hk : (key == k) = false := by simp [h]
      simp only [List.map_cons, List.lookup_cons, hk, ih]

namespace OrderedMap

variable {α : Type}

theorem putEntry_of_not_mem {key : String} {es : List (String × α)} (h : key ∉ es.map Prod.fst) (value : α) :
    putEntry key value es = es ++ [(key, value)] := by
  induction es with
  | nil => rfl
  | cons e rest ih =>
    simp only [List.map_cons, List.mem_cons, not_or] at h
    rw [putEntry, if_neg fun he => h.1 he.symm, ih h.2]
    rfl

theorem entries_foldl_insert (m : OrderedMap α) {es : List (String × α)}
    (h : (m.entries.map Prod.fst ++ es.map Prod.fst).Nodup) :
    (es.foldl (fun m e => m.insert e.1 e.2) m).entries = m.entries ++ es := by
  induction es generalizing m with
  | nil => simp
  | cons e rest ih =>
    have hnot : e.1 ∉ m.entries.map Prod.fst := by
      intro hm
      exact (List.nodup_append.mp h).2.2 e.1 hm e.1 (by simp) rfl
    have he : (m.insert e.1 e.2).entries = m.entries ++ [e] := putEntry_of_not_mem hnot e.2
    rw [List.foldl_cons, ih]
    · rw [he, List.append_assoc, List.singleton_append]
    · rw [he, List.map_append, List.append_assoc]
      exact h

theorem entries_ofList {es : List (String × α)} (h : (es.map Prod.fst).Nodup) : (ofList es).entries = es :=
  entries_foldl_insert empty h

theorem ofList_concat (es : List (String × α)) (e : String × α) :
    ofList (es ++ [e]) = (ofList es).insert e.1 e.2 := by
  rw [ofList, List.foldl_append]
  rfl

theorem eraseDups_concat (names : List String) (name : String) :
    (names ++ [name]).eraseDups = if name ∈ names then names.eraseDups else names.eraseDups ++ [name] := by
  rw [List.eraseDups_append]
  by_cases h : name ∈ names
  · have hnone : [name].removeAll names = [] := by simpa [List.removeAll] using h
    rw [if_pos h, hnone, List.eraseDups_nil, List.append_nil]
  · have hone : [name].removeAll names = [name] := by simpa [List.removeAll] using h
    rw [if_neg h, hone]
    rfl

/-- Each name is where it came first. -/
theorem keys_ofList (es : List (String × α)) : (ofList es).keys = (es.map Prod.fst).eraseDups := by
  induction es using List.reverseRecOn with
  | nil => rfl
  | append_singleton es e ih =>
    rw [ofList_concat, keys_insert, ih, List.map_append, List.map_singleton, eraseDups_concat]
    simp only [List.mem_eraseDups]

/-- Each name has the value that came last. -/
theorem get?_ofList (es : List (String × α)) (key : String) : (ofList es).get? key = es.reverse.lookup key := by
  induction es using List.reverseRecOn with
  | nil => rfl
  | append_singleton es e ih =>
    obtain ⟨k, v⟩ := e
    rw [ofList_concat, get?_insert, ih, List.reverse_concat]
    by_cases h : key = k
    · subst h
      simp
    · have hne : (key == k) = false := by simp [h]
      rw [if_neg h, List.lookup_cons, hne]

theorem pairwise_idxOf_eraseDups (names : List String) :
    names.eraseDups.Pairwise fun a b => names.idxOf a < names.idxOf b := by
  induction names using List.reverseRecOn with
  | nil => exact .nil
  | append_singleton names name ih =>
    have hmem : ∀ {a : String}, a ∈ names.eraseDups → a ∈ names := List.mem_eraseDups.mp
    have hold : names.eraseDups.Pairwise fun a b => (names ++ [name]).idxOf a < (names ++ [name]).idxOf b :=
      ih.imp_of_mem fun ha hb hab => by
        rwa [List.idxOf_append_of_mem (hmem ha), List.idxOf_append_of_mem (hmem hb)]
    rw [eraseDups_concat]
    by_cases h : name ∈ names
    · rw [if_pos h]
      exact hold
    · rw [if_neg h, List.pairwise_append]
      refine ⟨hold, List.pairwise_singleton _ _, fun a ha b hb => ?_⟩
      obtain rfl : b = name := List.mem_singleton.mp hb
      rw [List.idxOf_append_of_mem (hmem ha), List.idxOf_append_of_notMem h]
      exact Nat.lt_of_lt_of_le (List.idxOf_lt_length_iff.mpr (hmem ha)) (Nat.le_add_right ..)

/-- The value of a name is one behind which the name does not come again. -/
theorem get?_ofList_eq_some_iff (es : List (String × α)) (key : String) (value : α) :
    (ofList es).get? key = some value ↔
      ∃ pre post, es = pre ++ (key, value) :: post ∧ key ∉ post.map Prod.fst := by
  rw [get?_ofList, List.lookup_eq_some_iff]
  constructor
  · rintro ⟨post, pre, hes, hpost⟩
    refine ⟨pre.reverse, post.reverse, ?_, ?_⟩
    · rw [← List.reverse_reverse es, hes]
      simp
    · intro hmem
      obtain ⟨e, he, hkey⟩ := List.mem_map.mp hmem
      have hne := hpost e (List.mem_reverse.mp he)
      simp [hkey] at hne
  · rintro ⟨pre, post, rfl, hpost⟩
    refine ⟨post.reverse, pre.reverse, by simp, fun e he => ?_⟩
    rw [bne_iff_ne]
    rintro rfl
    exact hpost (List.mem_map_of_mem (List.mem_reverse.mp he))

/-- The entries whose names pass a test, in their order. -/
def keep (m : OrderedMap α) (p : String → Bool) : OrderedMap α where
  entries := m.entries.filter fun e => p e.1
  distinct := m.distinct.sublist (List.filter_sublist.map Prod.fst)

theorem lookup_filter (p : String → Bool) (es : List (String × α)) (key : String) :
    (es.filter fun e => p e.1).lookup key = if p key then es.lookup key else none := by
  induction es with
  | nil => simp
  | cons e rest ih =>
    obtain ⟨k, v⟩ := e
    by_cases hk : key = k
    · subst hk
      by_cases hp : p key = true
      · simp [hp]
      · simp [hp, ih]
    · have hne : (key == k) = false := by simp [hk]
      by_cases hp : p k = true <;> simp [List.lookup_cons, hp, hne, ih]

theorem get?_keep (m : OrderedMap α) (p : String → Bool) (key : String) :
    (m.keep p).get? key = if p key then m.get? key else none :=
  lookup_filter p m.entries key

theorem get?_mapValues {β : Type} (f : α → β) (m : OrderedMap α) (key : String) :
    (m.mapValues f).get? key = (m.get? key).map f :=
  lookup_map_snd (fun _ => f) m.entries key

theorem mapValues_keep {β : Type} (f : α → β) (m : OrderedMap α) (p : String → Bool) :
    (m.keep p).mapValues f = (m.mapValues f).keep p := by
  simp [keep, mapValues, List.filter_map, Function.comp_def]

theorem filter_putEntry {p : String → Bool} {key : String} (h : p key = false) (value : α)
    (es : List (String × α)) :
    (putEntry key value es).filter (fun e => p e.1) = es.filter fun e => p e.1 := by
  induction es with
  | nil => simp [putEntry, h]
  | cons e rest ih =>
    obtain ⟨k, v⟩ := e
    by_cases hk : k = key
    · simp [putEntry, hk, h]
    · simp [putEntry, hk, List.filter_cons, ih]

/-- Whatever is put under a name that is left out makes no difference. -/
theorem keep_insert {p : String → Bool} {key : String} (h : p key = false) (m : OrderedMap α) (value : α) :
    (m.insert key value).keep p = m.keep p := by
  simp only [keep, insert, filter_putEntry h]

theorem filter_putEntry_of_pos {p : String → Bool} {key : String} (h : p key = true) (value : α)
    (es : List (String × α)) :
    (putEntry key value es).filter (fun e => p e.1) = putEntry key value (es.filter fun e => p e.1) := by
  induction es with
  | nil => simp [putEntry, h]
  | cons e rest ih =>
    obtain ⟨k, v⟩ := e
    by_cases hk : k = key
    · simp [putEntry, hk, h]
    · by_cases hp : p k = true <;> simp [putEntry, hk, hp, ih]

theorem keep_insert_of_pos {p : String → Bool} {key : String} (h : p key = true) (m : OrderedMap α) (value : α) :
    (m.insert key value).keep p = (m.keep p).insert key value := by
  simp only [keep, insert, filter_putEntry_of_pos h]

/-- What is left out might as well never have been put in. -/
theorem keep_ofList (p : String → Bool) (es : List (String × α)) :
    (ofList es).keep p = ofList (es.filter fun e => p e.1) := by
  induction es using List.reverseRecOn with
  | nil => rfl
  | append_singleton es e ih =>
    rw [ofList_concat, List.filter_append]
    by_cases h : p e.1 = true
    · have hkept : [e].filter (fun e => p e.1) = [e] := by simp [h]
      rw [keep_insert_of_pos h, ih, hkept, ofList_concat]
    · have hleft : [e].filter (fun e => p e.1) = [] := by simp [h]
      rw [keep_insert (by simpa using h), ih, hleft, List.append_nil]

theorem get?_eq_some_iff (m : OrderedMap α) (key : String) (value : α) :
    m.get? key = some value ↔ (key, value) ∈ m.entries := by
  obtain ⟨es, hnodup⟩ := m
  change es.lookup key = some value ↔ (key, value) ∈ es
  induction es with
  | nil => simp
  | cons e rest ih =>
    obtain ⟨k, v⟩ := e
    rw [List.map_cons, List.nodup_cons] at hnodup
    by_cases hk : key = k
    · subst hk
      have hnot : (key, value) ∉ rest := fun h => hnodup.1 (List.mem_map.mpr ⟨(key, value), h, rfl⟩)
      simp [hnot, eq_comm]
    · have hne : (key == k) = false := by simp [hk]
      rw [List.lookup_cons, hne, List.mem_cons]
      simp [hk, ih hnodup.2]

theorem get?_congr {m m' : OrderedMap α} (h : m.entries.Perm m'.entries) (key : String) :
    m.get? key = m'.get? key := by
  refine Option.ext fun value => ?_
  rw [get?_eq_some_iff, get?_eq_some_iff, h.mem_iff]

/-- An entry is given by its place and its name. -/
theorem getElem?_entries_eq_some_iff (m : OrderedMap α) (i : Nat) (e : String × α) :
    m.entries[i]? = some e ↔ m.keys[i]? = some e.1 ∧ m.get? e.1 = some e.2 := by
  rw [get?_eq_some_iff, keys, List.getElem?_map]
  constructor
  · intro h
    exact ⟨by rw [h]; rfl, List.mem_of_getElem? h⟩
  · rintro ⟨hkey, hmem⟩
    obtain ⟨e', he', hname⟩ := Option.map_eq_some_iff.mp hkey
    rw [he', List.inj_on_of_nodup_map m.distinct (List.mem_of_getElem? he') hmem hname]

theorem getElem?_keys_insert {m : OrderedMap α} {i : Nat} {k : String} (h : m.keys[i]? = some k) (key : String)
    (value : α) : (m.insert key value).keys[i]? = some k := by
  rw [keys_insert]
  split
  · exact h
  · rw [List.getElem?_append_left (List.getElem?_eq_some_iff.mp h).1]
    exact h

end OrderedMap
end QueryGate
