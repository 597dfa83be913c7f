import QueryGate.Proofs.Data.Json
import QueryGate.Rule.Schema

/-! Rule sets written as data and as JSON texts, and read back. A rule is a text or a map of one entry and every group of
rules is a list, so that none is read as another; only a custom rule cannot be written. -/
namespace QueryGate

section Lists

variable {α β : Type}

/-- If reading gives back each member that was written, it gives back the list. -/
theorem mapM_of_forall_mem {write : α → Option β} {read : β → Option α} {xs : List α} {ys : List β}
    (h : ∀ x ∈ xs, ∀ y, write x = some y → read y = some x) (hw : xs.mapM write = some ys) :
    ys.mapM read = some xs := by
  induction xs generalizing ys with
  | nil =>
    obtain rfl : ys = [] := by simpa using hw.symm
    rfl
  | cons x xs ih =>
    simp only [List.mapM_cons, Option.bind_eq_bind, Option.bind_eq_some_iff] at hw
    obtain ⟨y, hy, ys', hys, hcons⟩ := hw
    cases hcons
    rw [List.mapM_cons, h x List.mem_cons_self y hy, ih (fun x hx => h x (List.mem_cons_of_mem _ hx)) hys]
    rfl

theorem mapM_eq_none_iff {f : α → Option β} {xs : List α} : xs.mapM f = none ↔ ∃ x ∈ xs, f x = none := by
  induction xs with
  | nil => simp
  | cons x xs ih =>
    cases hx : f x with
    | none => simp [hx]
    | some y =>
      cases hxs : xs.mapM f with
      | none => simp [hx, hxs, ← ih]
      | some ys => simp [hx, hxs, ← ih]

theorem exists_mem_of_mapM {f : α → Option β} {xs : List α} {ys : List β} (h : xs.mapM f = some ys) :
    ∀ y ∈ ys, ∃ x ∈ xs, f x = some y := by
  induction xs generalizing ys with
  | nil =>
    obtain rfl : ys = [] := by simpa using h.symm
    simp
  | cons x xs ih =>
    simp only [List.mapM_cons, Option.bind_eq_bind, Option.bind_eq_some_iff] at h
    obtain ⟨y, hy, ys', hys, hcons⟩ := h
    cases hcons
    intro z hz
    rcases List.mem_cons.mp hz with rfl | hz
    · exact ⟨x, List.mem_cons_self, hy⟩
    · obtain ⟨w, hw, hz⟩ := ih hys z hz
      exact ⟨w, List.mem_cons_of_mem _ hw, hz⟩

end Lists

namespace Number

/-- The binary64 number that a number is, if it is one. -/
def floats : Number → List Binary64
  | whole _ => []
  | real x => [x]

end Number

namespace Arg

def floats : Arg → List Binary64
  | float x => [x]
  | _ => []

end Arg

namespace Data

theorem int64?_toInt (n : Int64) : int64? n.toInt = some n := by
  have hlow : Int64.minValue.toInt ≤ n.toInt := n.le_toInt
  have hhigh : n.toInt ≤ Int64.maxValue.toInt := Int.le_of_lt_add_one n.toInt_lt
  rw [int64?, if_pos ⟨hlow, hhigh⟩, Int64.ofInt_toInt]

theorem ofFloat_of_isFinite {x : Binary64} (h : x.isFinite = true) : ofFloat x = float x := if_pos h

theorem number?_ofNumber {n : Number} (h : ∀ x ∈ n.floats, x.isFinite = true) : (ofNumber n).number? = some n := by
  cases n with
  | whole n => simp only [ofNumber, number?, int64?_toInt]
  | real x => rw [ofNumber, ofFloat_of_isFinite (h x List.mem_cons_self), number?]

theorem arg?_ofArg {a : Arg} (h : ∀ x ∈ a.floats, x.isFinite = true) : (ofArg a).arg? = some a := by
  cases a with
  | bool b => rfl
  | int n => simp only [ofArg, arg?, int64?_toInt]
  | float x => rw [ofArg, ofFloat_of_isFinite (h x List.mem_cons_self), arg?]
  | text s => rfl

theorem isJson_int {floatText : Binary64 → List Char} (n : Int64) : Json.IsJson floatText (int n.toInt) := by
  have hhigh : n.toInt ≤ Int64.maxValue.toInt := Int.le_of_lt_add_one n.toInt_lt
  exact .int n.le_toInt (Int.lt_of_le_of_lt hhigh (by decide))

theorem isJson_ofFloat {floatText : Binary64 → List Char} {x : Binary64}
    (h : Json.float? (floatText x) = some x) : Json.IsJson floatText (ofFloat x) := by
  unfold ofFloat
  split
  · exact .float h
  · exact .null

theorem isJson_ofNumber {floatText : Binary64 → List Char} {n : Number}
    (h : ∀ x ∈ n.floats, Json.float? (floatText x) = some x) : Json.IsJson floatText (ofNumber n) := by
  cases n with
  | whole n => exact isJson_int n
  | real x => exact isJson_ofFloat (h x List.mem_cons_self)

theorem isJson_ofArg {floatText : Binary64 → List Char} {a : Arg}
    (h : ∀ x ∈ a.floats, Json.float? (floatText x) = some x) : Json.IsJson floatText (ofArg a) := by
  cases a with
  | bool b => exact .bool b
  | int n => exact isJson_int n
  | float x => exact isJson_ofFloat (h x List.mem_cons_self)
  | text s => exact .text s

theorem isJson_map_ofArg {floatText : Binary64 → List Char} {as : List Arg}
    (h : ∀ x ∈ as.flatMap Arg.floats, Json.float? (floatText x) = some x) :
    Json.IsJson floatText (list (as.map ofArg)) := by
  refine .list fun d hd => ?_
  obtain ⟨a, ha, rfl⟩ := List.mem_map.mp hd
  exact isJson_ofArg fun x hx => h x (List.mem_flatMap.mpr ⟨a, ha, hx⟩)

theorem args?_map_ofArg {as : List Arg} (h : ∀ x ∈ as.flatMap Arg.floats, x.isFinite = true) :
    (list (as.map ofArg)).args? = some as := by
  have hw : as.mapM (fun a => some (ofArg a)) = some (as.map ofArg) := List.mapM_pure
  refine mapM_of_forall_mem (fun a ha d hd => ?_) hw
  cases hd
  exact arg?_ofArg fun x hx => h x (List.mem_flatMap.mpr ⟨a, ha, hx⟩)

end Data

namespace Rule

def isCustom : Rule → Bool
  | custom _ _ => true
  | _ => false

/-- The binary64 numbers among the limits and members. -/
def floats : Rule → List Binary64
  | greaterThan limit => limit.floats
  | atLeast limit => limit.floats
  | lessThan limit => limit.floats
  | atMost limit => limit.floats
  | within min max => min.floats ++ max.floats
  | oneOf members => members.flatMap Arg.floats
  | noneOf members => members.flatMap Arg.floats
  | _ => []

theorem toData?_eq_none_iff (r : Rule) : r.toData? = none ↔ r.isCustom = true := by
  cases r <;> simp [toData?, isCustom]

theorem rangeOf?_ends {min max : Number} (hmin : ∀ x ∈ min.floats, x.isFinite = true)
    (hmax : ∀ x ∈ max.floats, x.isFinite = true) :
    rangeOf? none none [(.text "min", .ofNumber min), (.text "max", .ofNumber max)] = some (min, max) := by
  simp [rangeOf?, pick?, Data.number?_ofNumber hmin, Data.number?_ofNumber hmax]

/-- A rule is read back from its data wherever it stands. -/
theorem ofData?_of_toData? {r : Rule} {d : Data} (place : Place) (h : r.toData? = some d)
    (hf : ∀ x ∈ r.floats, x.isFinite = true) : ofData? place d = some r := by
  have hentry : ∀ (name : String) (content : Data), name ∈ ruleNames →
      ofData? place (entry name content) = ofNamed? place name (some content) := by
    intro name content hname
    simp [entry, ofData?, pick?, hname]
  cases r with
  | any => cases h; rfl
  | isInt => cases h; rfl
  | isText => cases h; rfl
  | isNumeric => cases h; rfl
  | contains needle =>
    cases h
    rw [hentry _ _ (by decide)]
    rfl
  | greaterThan limit =>
    cases h
    rw [hentry _ _ (by decide)]
    simp [ofNamed?, Data.number?_ofNumber hf]
  | atLeast limit =>
    cases h
    rw [hentry _ _ (by decide)]
    simp [ofNamed?, Data.number?_ofNumber hf]
  | lessThan limit =>
    cases h
    rw [hentry _ _ (by decide)]
    simp [ofNamed?, Data.number?_ofNumber hf]
  | atMost limit =>
    cases h
    rw [hentry _ _ (by decide)]
    simp [ofNamed?, Data.number?_ofNumber hf]
  | within min max =>
    cases h
    rw [hentry _ _ (by decide)]
    have hmin : ∀ x ∈ min.floats, x.isFinite = true := fun x hx => hf x (List.mem_append_left _ hx)
    have hmax : ∀ x ∈ max.floats, x.isFinite = true := fun x hx => hf x (List.mem_append_right _ hx)
    simp [ofNamed?, range?, rangeOf?_ends hmin hmax]
  | oneOf members =>
    cases h
    rw [hentry _ _ (by decide)]
    simp [ofNamed?, Data.args?_map_ofArg hf]
  | noneOf members =>
    cases h
    rw [hentry _ _ (by decide)]
    simp [ofNamed?, Data.args?_map_ofArg hf]
  | matching pattern =>
    cases h
    rw [hentry _ _ (by decide)]
    simp [ofNamed?, Data.text?, ofPattern?, Pattern.ofSource?_source]
  | custom name test => cases h

theorem isJson_entry {floatText : Binary64 → List Char} {content : Data} (h : Json.IsJson floatText content)
    (name : String) : Json.IsJson floatText (entry name content) := by
  refine .map (fun e he => ⟨name, ?_⟩) fun e he => ?_
  · rw [List.mem_singleton.mp he]
  · rw [List.mem_singleton.mp he]
    exact h

theorem isJson_of_toData? {floatText : Binary64 → List Char} {r : Rule} {d : Data} (h : r.toData? = some d)
    (hread : ∀ x ∈ r.floats, Json.float? (floatText x) = some x) : Json.IsJson floatText d := by
  cases r with
  | any => cases h; exact .text _
  | isInt => cases h; exact .text _
  | isText => cases h; exact .text _
  | isNumeric => cases h; exact .text _
  | contains needle => cases h; exact isJson_entry (.text needle) _
  | greaterThan limit => cases h; exact isJson_entry (Data.isJson_ofNumber hread) _
  | atLeast limit => cases h; exact isJson_entry (Data.isJson_ofNumber hread) _
  | lessThan limit => cases h; exact isJson_entry (Data.isJson_ofNumber hread) _
  | atMost limit => cases h; exact isJson_entry (Data.isJson_ofNumber hread) _
  | within min max =>
    cases h
    have hmin := Data.isJson_ofNumber fun x hx => hread x (List.mem_append_left max.floats hx)
    have hmax := Data.isJson_ofNumber fun x hx => hread x (List.mem_append_right min.floats hx)
    refine isJson_entry (.map ?_ ?_) _
    · simp
    · simpa using ⟨hmin, hmax⟩
  | oneOf members => cases h; exact isJson_entry (Data.isJson_map_ofArg hread) _
  | noneOf members => cases h; exact isJson_entry (Data.isJson_map_ofArg hread) _
  | matching pattern => cases h; exact isJson_entry (.text pattern.source) _
  | custom name test => cases h

/-- A group of rules is never read as one rule. -/
@[simp] theorem ofData?_list (place : Place) (items : List Data) : ofData? place (.list items) = none := rfl

end Rule

namespace Slot

/-- The rules in a slot, in order. -/
def rules : Slot → List Rule
  | rule r => [r]
  | anyOf rs => rs

theorem toData?_eq_none_iff (s : Slot) : s.toData? = none ↔ ∃ r ∈ s.rules, r.isCustom = true := by
  cases s with
  | rule r => simp [toData?, rules, Rule.toData?_eq_none_iff]
  | anyOf rs => simp [toData?, rules, mapM_eq_none_iff, Rule.toData?_eq_none_iff]

/-- The data of alternatives is a list and that of a rule is not, so that neither is taken for the other. -/
theorem ofData?_of_toData? {s : Slot} {d : Data} (h : s.toData? = some d)
    (hf : ∀ r ∈ s.rules, ∀ x ∈ r.floats, x.isFinite = true) : ofData? d = some s := by
  cases s with
  | rule r =>
    have hread : Rule.ofData? .inSet d = some r := Rule.ofData?_of_toData? .inSet h (hf r List.mem_cons_self)
    simp [ofData?, hread]
  | anyOf rs =>
    obtain ⟨items, hitems, rfl⟩ := Option.map_eq_some_iff.mp h
    have hread : items.mapM (Rule.ofData? .inSet) = some rs :=
      mapM_of_forall_mem (fun r hr d hd => Rule.ofData?_of_toData? .inSet hd (hf r hr)) hitems
    simp [ofData?, hread]

theorem isJson_of_toData? {floatText : Binary64 → List Char} {s : Slot} {d : Data} (h : s.toData? = some d)
    (hread : ∀ r ∈ s.rules, ∀ x ∈ r.floats, Json.float? (floatText x) = some x) :
    Json.IsJson floatText d := by
  cases s with
  | rule r => exact Rule.isJson_of_toData? h (hread r List.mem_cons_self)
  | anyOf rs =>
    obtain ⟨items, hitems, rfl⟩ := Option.map_eq_some_iff.mp h
    refine .list fun d hd => ?_
    obtain ⟨r, hr, hrd⟩ := exists_mem_of_mapM hitems d hd
    exact Rule.isJson_of_toData? hrd (hread r hr)

end Slot

namespace RuleSet

/-- The rules anywhere in a set, in order. -/
def rules : RuleSet → List Rule
  | single r => [r]
  | all slots => slots.flatMap Slot.rules

theorem toData?_eq_none_iff (set : RuleSet) : set.toData? = none ↔ ∃ r ∈ set.rules, r.isCustom = true := by
  cases set with
  | single r => simp [toData?, rules, Rule.toData?_eq_none_iff]
  | all slots =>
    simp only [toData?, rules, Option.map_eq_none_iff, mapM_eq_none_iff, Slot.toData?_eq_none_iff, List.mem_flatMap]
    constructor
    · rintro ⟨s, hs, r, hr, hc⟩
      exact ⟨r, ⟨s, hs, hr⟩, hc⟩
    · rintro ⟨r, ⟨s, hs, hr⟩, hc⟩
      exact ⟨s, hs, r, hr, hc⟩

theorem ofData?_of_toData? {set : RuleSet} {d : Data} (h : set.toData? = some d)
    (hf : ∀ r ∈ set.rules, ∀ x ∈ r.floats, x.isFinite = true) : ofData? d = some set := by
  cases set with
  | single r =>
    have hread : Rule.ofData? .inSet d = some r := Rule.ofData?_of_toData? .inSet h (hf r List.mem_cons_self)
    simp [ofData?, hread]
  | all slots =>
    obtain ⟨items, hitems, rfl⟩ := Option.map_eq_some_iff.mp h
    have hread : items.mapM Slot.ofData? = some slots :=
      mapM_of_forall_mem (fun s hs d hd => Slot.ofData?_of_toData? hd fun r hr =>
        hf r (List.mem_flatMap.mpr ⟨s, hs, hr⟩)) hitems
    simp [ofData?, hread]

theorem isJson_of_toData? {floatText : Binary64 → List Char} {set : RuleSet} {d : Data} (h : set.toData? = some d)
    (hread : ∀ r ∈ set.rules, ∀ x ∈ r.floats, Json.float? (floatText x) = some x) :
    Json.IsJson floatText d := by
  cases set with
  | single r => exact Rule.isJson_of_toData? h (hread r List.mem_cons_self)
  | all slots =>
    obtain ⟨items, hitems, rfl⟩ := Option.map_eq_some_iff.mp h
    refine .list fun d hd => ?_
    obtain ⟨s, hs, hsd⟩ := exists_mem_of_mapM hitems d hd
    exact Slot.isJson_of_toData? hsd fun r hr => hread r (List.mem_flatMap.mpr ⟨s, hs, hr⟩)

/-- The JSON text of a rule set. -/
def toJson? (floatText : Binary64 → List Char) (set : RuleSet) : Option String :=
  set.toData?.map fun d => String.ofList (Json.text floatText d)

def ofJson? (text : String) : Option RuleSet := (Json.read? text).bind ofData?

/-- A rule set without custom rules and with finite numbers only is written, and read back as it was, from its data and
from its JSON text, as long as the text of each of its binary64 numbers is read as that number. One with a custom rule
anywhere is not written. -/
theorem ofJson?_toJson? (set : RuleSet) (floatText : Binary64 → List Char) :
    ((∃ r ∈ set.rules, r.isCustom = true) → set.toData? = none ∧ set.toJson? floatText = none) ∧
    ((∀ r ∈ set.rules, r.isCustom = false ∧ ∀ x ∈ r.floats, x.isFinite = true) →
      (∃ d, set.toData? = some d ∧ ofData? d = some set) ∧
      ((∀ r ∈ set.rules, ∀ x ∈ r.floats, Json.float? (floatText x) = some x) →
        ∃ text, set.toJson? floatText = some text ∧ ofJson? text = some set)) := by
  refine ⟨fun hcustom => ?_, fun h => ?_⟩
  · have hnone : set.toData? = none := (toData?_eq_none_iff set).mpr hcustom
    exact ⟨hnone, by rw [toJson?, hnone, Option.map_none]⟩
  · have hsome : set.toData? ≠ none := by
      rw [ne_eq, toData?_eq_none_iff]
      rintro ⟨r, hr, hc⟩
      rw [(h r hr).1] at hc
      cases hc
    obtain ⟨d, hd⟩ := Option.ne_none_iff_exists'.mp hsome
    have hback : ofData? d = some set := ofData?_of_toData? hd fun r hr => (h r hr).2
    refine ⟨⟨d, hd, hback⟩, fun hread => ⟨String.ofList (Json.text floatText d), by rw [toJson?, hd, Option.map_some], ?_⟩⟩
    rw [ofJson?, Json.read?_text (isJson_of_toData? hd hread), Option.bind_some, hback]

/-- A nested set with empty alternatives, a whole number beside an equal binary64 one, and a pattern with a backslash;
and a custom rule among alternatives. -/
theorem ofJson?_toJson?_of_nested_set :
    let limit := Binary64.ofDecimal false 995 (-1)
    let one := Binary64.ofDecimal false 1 0
    let pattern : Pattern := ⟨"\\.", .chars (.single '.'), by decide +kernel⟩
    let set := all [.anyOf [.within (.whole 1) (.real limit), .isInt], .rule (.oneOf [.int 1, .float one, .text "1"]),
      .anyOf [], .rule (.matching pattern)]
    let written := "[[\x7b\"within\":\x7b\"min\":1,\"max\":99.5\x7d\x7d,\"is_int\"],\x7b\"in\":[1,1.0,\"1\"]\x7d,[]," ++
      "\x7b\"matches\":\"\\\\.\"\x7d]"
    set.toJson? (Binary64.text ⟨true, some (-5, 15)⟩) = some written ∧ ofJson? written = some set ∧
    (all [.anyOf [.isInt, .custom "short" fun _ => .ok true]]).toJson? (Binary64.text .exact) = none := by
  intro limit one pattern set written
  have hwritten : set.toJson? (Binary64.text ⟨true, some (-5, 15)⟩) = some written := by decide +kernel
  have hlimit : Json.float? (limit.text ⟨true, some (-5, 15)⟩) = some limit := by decide +kernel
  have hone : Json.float? (one.text ⟨true, some (-5, 15)⟩) = some one := by decide +kernel
  have hfinite : limit.isFinite = true ∧ one.isFinite = true := by decide +kernel
  obtain ⟨text, htext, hback⟩ := ((ofJson?_toJson? set (Binary64.text ⟨true, some (-5, 15)⟩)).2
    (by simp [set, rules, Slot.rules, Rule.isCustom, Rule.floats, Number.floats, Arg.floats, hfinite])).2
    (by simp [set, rules, Slot.rules, Rule.floats, Number.floats, Arg.floats, hlimit, hone])
  obtain rfl : written = text := Option.some.inj (hwritten.symm.trans htext)
  exact ⟨hwritten, hback, ((ofJson?_toJson? _ _).1 (by simp [rules, Slot.rules, Rule.isCustom])).2⟩

end RuleSet
end QueryGate
