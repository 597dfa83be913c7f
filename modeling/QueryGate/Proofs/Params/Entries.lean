import QueryGate.Params.Basic
import QueryGate.Proofs.OrderedMap

/-! Parameters one by one. Each has its place from when its name first came and its value from when it last came, and
what is parsed of one depends on no other; the views of the parsed parameters share them out and lose none. -/
namespace QueryGate

namespace Params

theorem mem_wellFormed_iff (ps : Params) (key : String) (args : List Arg) :
    (key, args) ∈ ps.wellFormed ↔ ps.get? key = some (.ok args) := by
  rw [OrderedMap.get?_eq_some_iff]
  unfold wellFormed
  rw [List.mem_filterMap]
  constructor
  · rintro ⟨⟨k, value⟩, he, hargs⟩
    cases value with
    | error m => cases hargs
    | ok as =>
      cases hargs
      exact he
  · intro h
    exact ⟨_, h, rfl⟩

theorem args?_eq_some_iff (ps : Params) (key : String) (args : List Arg) :
    ps.args? key = some args ↔ (key, args) ∈ ps.wellFormed := by
  rw [mem_wellFormed_iff]
  unfold args?
  rcases ps.get? key with _ | ⟨m | as⟩ <;> simp

theorem first?_eq_some_iff (ps : Params) (key : String) (a : Arg) :
    ps.first? key = some a ↔ ∃ rest, (key, a :: rest) ∈ ps.wellFormed := by
  simp only [first?, Option.bind_eq_some_iff, args?_eq_some_iff, List.head?_eq_some_iff]
  constructor
  · rintro ⟨args, hargs, rest, rfl⟩
    exact ⟨rest, hargs⟩
  · rintro ⟨rest, hargs⟩
    exact ⟨_, hargs, rest, rfl⟩

theorem map_wellFormed (ps : Params) :
    ps.wellFormed.map (fun e => (e.1, .ok e.2)) = ps.entries.filter fun e => e.2.isOk := by
  unfold wellFormed
  induction ps.entries with
  | nil => rfl
  | cons e rest ih =>
    obtain ⟨key, value⟩ := e
    cases value with
    | error m => exact ih
    | ok args => exact congrArg ((key, Except.ok args) :: ·) ih

theorem map_malformed (ps : Params) :
    ps.malformed.map (fun e => (e.1, .error e.2)) = ps.entries.filter fun e => !e.2.isOk := by
  unfold malformed
  induction ps.entries with
  | nil => rfl
  | cons e rest ih =>
    obtain ⟨key, value⟩ := e
    cases value with
    | error m => exact congrArg ((key, Except.error m) :: ·) ih
    | ok args => exact ih

/-- No parameter is lost between the two views. -/
theorem perm_keys (ps : Params) :
    (ps.wellFormed.map Prod.fst ++ ps.malformed.map Prod.fst).Perm ps.keys := by
  have hw : ps.wellFormed.map Prod.fst = (ps.entries.filter fun e => e.2.isOk).map Prod.fst := by
    rw [← map_wellFormed, List.map_map]
    rfl
  have hm : ps.malformed.map Prod.fst = (ps.entries.filter fun e => !e.2.isOk).map Prod.fst := by
    rw [← map_malformed, List.map_map]
    rfl
  rw [hw, hm, ← List.map_append]
  exact (List.filter_append_perm _ _).map Prod.fst

theorem disjoint_keys (ps : Params) : (ps.wellFormed.map Prod.fst).Disjoint (ps.malformed.map Prod.fst) := by
  have hnodup : (ps.wellFormed.map Prod.fst ++ ps.malformed.map Prod.fst).Nodup := ps.perm_keys.nodup_iff.mpr ps.distinct
  exact List.disjoint_of_nodup_append hnodup

theorem count_add_length_malformed (ps : Params) : ps.count + ps.malformed.length = ps.size := by
  have h := ps.perm_keys.length_eq
  rw [List.length_append, List.length_map, List.length_map, OrderedMap.keys, List.length_map] at h
  exact h

end Params

namespace RawParams

variable (scalars : Bracket.Scalars) (raw : RawParams)

theorem get?_parse (key : String) : (raw.parse scalars).get? key = (raw.get? key).map (·.parse scalars) :=
  raw.get?_mapValues _ key

theorem keys_parse : (raw.parse scalars).keys = raw.keys := raw.keys_mapValues _

/-- Names are told apart already, so that putting in the parsed values one by one keeps them all. -/
theorem entries_parse :
    (raw.parse scalars).entries = (OrderedMap.ofList (raw.entries.map fun e => (e.1, e.2.parse scalars))).entries := by
  have hnodup : ((raw.entries.map fun e => (e.1, e.2.parse scalars)).map Prod.fst).Nodup := (raw.parse scalars).distinct
  rw [OrderedMap.entries_ofList hnodup]
  rfl

variable {scalars raw}

/-- Whoever keeps its place and its value is parsed to the same at the same place. -/
theorem getElem?_entries_parse {raw' : RawParams} {i : Nat} {e : String × Parsed}
    (hkeys : raw.keys[i]? = some e.1 → raw'.keys[i]? = some e.1) (hget : raw'.get? e.1 = raw.get? e.1)
    (h : (raw.parse scalars).entries[i]? = some e) : (raw'.parse scalars).entries[i]? = some e := by
  rw [OrderedMap.getElem?_entries_eq_some_iff, keys_parse, get?_parse] at h ⊢
  rw [hget]
  exact ⟨hkeys h.1, h.2⟩

/-- A parameter that is put in last moves no other. -/
theorem getElem?_entries_parse_insert {key : String} {i : Nat} {e : String × Parsed} (hne : e.1 ≠ key)
    (h : (raw.parse scalars).entries[i]? = some e) (value : RawValue) :
    (RawParams.parse scalars (raw.insert key value)).entries[i]? = some e := by
  refine getElem?_entries_parse (fun hk => OrderedMap.getElem?_keys_insert hk key value) ?_ h
  rw [OrderedMap.get?_insert, if_neg hne]

section Others

variable (pre post : List (String × RawValue)) {key : String}

/-- Which names are not a given one. -/
def others (key k : String) : Bool := k != key

theorem keep_others_ofList (value : RawValue) :
    (OrderedMap.ofList (pre ++ (key, value) :: post)).keep (others key) =
      (OrderedMap.ofList (pre ++ post)).keep (others key) := by
  have hleft : others key key = false := by simp [others]
  simp only [OrderedMap.keep_ofList, List.filter_append, List.filter_cons, hleft, Bool.false_eq_true, if_false]

theorem keep_others_parse (value : RawValue) :
    (RawParams.parse scalars (.ofList (pre ++ (key, value) :: post))).keep (others key) =
      (RawParams.parse scalars (.ofList (pre ++ post))).keep (others key) := by
  rw [parse, parse, ← OrderedMap.mapValues_keep, ← OrderedMap.mapValues_keep, keep_others_ofList]

theorem get?_ofList_of_ne {k : String} (hne : k ≠ key) (value : RawValue) :
    (OrderedMap.ofList (pre ++ (key, value) :: post)).get? k = (OrderedMap.ofList (pre ++ post)).get? k := by
  have hkeep : ((OrderedMap.ofList (pre ++ (key, value) :: post)).keep (others key)).get? k =
      ((OrderedMap.ofList (pre ++ post)).keep (others key)).get? k := by
    rw [keep_others_ofList]
  have hother : others key k = true := by simpa [others] using hne
  simpa only [OrderedMap.get?_keep, hother, if_true] using hkeep

/-- A parameter that is submitted with another value moves no other. -/
theorem getElem?_entries_parse_change {i : Nat} {e : String × Parsed} (hne : e.1 ≠ key) {value : RawValue}
    (h : (RawParams.parse scalars (.ofList (pre ++ (key, value) :: post))).entries[i]? = some e) (value' : RawValue) :
    (RawParams.parse scalars (.ofList (pre ++ (key, value') :: post))).entries[i]? = some e := by
  have hkeys : (OrderedMap.ofList (pre ++ (key, value') :: post)).keys =
      (OrderedMap.ofList (pre ++ (key, value) :: post)).keys := by
    simp only [OrderedMap.keys_ofList, List.map_append, List.map_cons]
  refine getElem?_entries_parse (fun hk => hkeys ▸ hk) ?_ h
  rw [get?_ofList_of_ne pre post hne, get?_ofList_of_ne pre post hne]

end Others

/-- Parameters are kept as they were put in, each under its own name, and parsed each for itself. A name stands where it
came first, with the value that came last. The parsed parameters are those that are well-formed and those that are not,
each kind in this order, and only the former can be looked up. No parameter moves another, or changes what is parsed of
it, whether it is added, submitted with another value, or left out. -/
theorem parse_ofList (es : List (String × RawValue)) (scalars : Bracket.Scalars) :
    let raw : RawParams := .ofList es
    let ps := raw.parse scalars
    let names := es.map Prod.fst
    (∀ key, key ∈ raw.keys ↔ key ∈ names) ∧
    (raw.keys.Pairwise fun a b => names.idxOf a < names.idxOf b) ∧
    (∀ key value, raw.get? key = some value ↔
      ∃ pre post, es = pre ++ (key, value) :: post ∧ key ∉ post.map Prod.fst) ∧
    ps.keys = raw.keys ∧
    ps.entries = (OrderedMap.ofList (raw.entries.map fun e => (e.1, e.2.parse scalars))).entries ∧
    (∀ key, ps.get? key = (raw.get? key).map (·.parse scalars)) ∧
    ps.wellFormed.map (fun e => (e.1, .ok e.2)) = ps.entries.filter (fun e => e.2.isOk) ∧
    ps.malformed.map (fun e => (e.1, .error e.2)) = ps.entries.filter (fun e => !e.2.isOk) ∧
    (ps.wellFormed.map Prod.fst).Disjoint (ps.malformed.map Prod.fst) ∧
    (ps.wellFormed.map Prod.fst ++ ps.malformed.map Prod.fst).Perm raw.keys ∧
    ps.count = ps.wellFormed.length ∧ ps.count + ps.malformed.length = raw.size ∧
    (∀ key args, ps.args? key = some args ↔ (key, args) ∈ ps.wellFormed) ∧
    (∀ key a, ps.first? key = some a ↔ ∃ rest, (key, a :: rest) ∈ ps.wellFormed) ∧
    (∀ key value (i : Nat) (e : String × Parsed), e.1 ≠ key → ps.entries[i]? = some e →
      (RawParams.parse scalars (raw.insert key value)).entries[i]? = some e) ∧
    ∀ pre key value post, es = pre ++ (key, value) :: post →
      (∀ value' (i : Nat) (e : String × Parsed), e.1 ≠ key → (ps.entries[i]? = some e ↔
        (RawParams.parse scalars (.ofList (pre ++ (key, value') :: post))).entries[i]? = some e)) ∧
      ps.keep (others key) = (RawParams.parse scalars (.ofList (pre ++ post))).keep (others key) := by
  intro raw ps names
  have hkeys : raw.keys = names.eraseDups := OrderedMap.keys_ofList es
  have hparsed : ps.keys = raw.keys := keys_parse scalars raw
  refine ⟨fun key => ?_, ?_, OrderedMap.get?_ofList_eq_some_iff es, hparsed, entries_parse scalars raw,
    get?_parse scalars raw, ps.map_wellFormed, ps.map_malformed, ps.disjoint_keys, ?_, rfl, ?_, ps.args?_eq_some_iff,
    ps.first?_eq_some_iff, fun key value i e hne h => getElem?_entries_parse_insert hne h value, ?_⟩
  · rw [hkeys, List.mem_eraseDups]
  · rw [hkeys]
    exact OrderedMap.pairwise_idxOf_eraseDups names
  · rw [← hparsed]
    exact ps.perm_keys
  · have hsize : ps.size = raw.size := List.length_map _
    rw [← hsize]
    exact ps.count_add_length_malformed
  · rintro pre key value post rfl
    refine ⟨fun value' i e hne => ⟨fun h => ?_, fun h => ?_⟩, keep_others_parse pre post value⟩
    · exact getElem?_entries_parse_change pre post hne h value'
    · exact getElem?_entries_parse_change pre post hne h value

end RawParams

end QueryGate
