import QueryGate.Proofs.Binary64.Nearest
import QueryGate.Proofs.Number.Order
import QueryGate.Proofs.Table.Order
import QueryGate.Rule.Basic

/-! Verdicts on numbers. Thresholds, conditions and sorts decide by the one order of numbers, so they agree with each
other wherever that order does: `compare?_order`. -/
namespace QueryGate

/-- What an operator asserts of two numbers in their order. A pattern asserts nothing. -/
def Comparison.Asserts : Comparison → Number → Number → Prop
  | equal, m, n => m.AtMost n ∧ n.AtMost m
  | notEqual, m, n => ¬(m.AtMost n ∧ n.AtMost m)
  | less, m, n => ¬n.AtMost m
  | greater, m, n => ¬m.AtMost n
  | lessOrEqual, m, n => m.AtMost n
  | greaterOrEqual, m, n => n.AtMost m
  | like, _, _ => False

section Numbers

variable {m n : Number}

theorem Comparison.holds_iff_asserts {o : Ordering} (h : m.compare? n = some o) (c : Comparison) :
    c.holds o = true ↔ c.Asserts m n := by
  obtain ⟨hle, hge⟩ := Number.atMost_iff_of_compare? h
  cases c <;> simp only [Asserts, hle, hge] <;> cases o <;> decide

namespace Rule

/-- The operator and the limit of a rule with one. -/
def threshold? : Rule → Option (Comparison × Number)
  | greaterThan limit => some (.greater, limit)
  | atLeast limit => some (.greaterOrEqual, limit)
  | lessThan limit => some (.less, limit)
  | atMost limit => some (.lessOrEqual, limit)
  | _ => none

theorem compares_iff_asserts {a : Arg} (ha : a.number? = some m) (hm : m ≠ .real .nan) (hn : n ≠ .real .nan)
    (c : Comparison) : compares a n c.holds = true ↔ c.Asserts m n := by
  obtain ⟨o, ho⟩ := Number.exists_compare? hm hn
  rw [compares, ha, Option.bind_some, ho]
  exact Comparison.holds_iff_asserts ho c

theorem check_iff_asserts {r : Rule} {c : Comparison} (hr : r.threshold? = some (c, n)) {a : Arg}
    (ha : a.number? = some m) (hm : m ≠ .real .nan) (hn : n ≠ .real .nan) : r.check a = true ↔ c.Asserts m n := by
  cases r with
  | greaterThan limit =>
    cases hr
    exact compares_iff_asserts ha hm hn .greater
  | atLeast limit =>
    cases hr
    exact compares_iff_asserts ha hm hn .greaterOrEqual
  | lessThan limit =>
    cases hr
    exact compares_iff_asserts ha hm hn .less
  | atMost limit =>
    cases hr
    exact compares_iff_asserts ha hm hn .lessOrEqual
  | _ => cases hr

theorem check_within_iff {a : Arg} (ha : a.number? = some m) (hm : m ≠ .real .nan) {low high : Number}
    (hlow : low ≠ .real .nan) (hhigh : high ≠ .real .nan) :
    (within low high).check a = true ↔ low.AtMost m ∧ m.AtMost high := by
  rw [check, Bool.and_eq_true]
  exact and_congr (compares_iff_asserts ha hm hlow .greaterOrEqual) (compares_iff_asserts ha hm hhigh .lessOrEqual)

end Rule

/-- The number that a cell holds or spells. -/
def Cell.numeric? : Cell → Option Number
  | number n => some n
  | text s => (Arg.text s).number?
  | _ => none

theorem Condition.matchesCell_iff_asserts {c : Condition} (hc : c.comparison ≠ .like) {cell : Cell}
    (hm : cell.numeric? = some m) (hn : c.value.number? = some n) (hmn : m ≠ .real .nan) (hnn : n ≠ .real .nan) :
    c.matchesCell cell = true ↔ c.comparison.Asserts m n := by
  obtain ⟨o, ho⟩ := Number.exists_compare? hmn hnn
  unfold matchesCell
  rw [if_neg hc, ← Comparison.holds_iff_asserts ho]
  cases cell with
  | number k =>
    obtain rfl : k = m := Option.some.inj hm
    simp [hn, ho]
  | text s =>
    rw [Cell.numeric?] at hm
    simp [compareText, hm, hn, ho]
  | missing => cases hm
  | bool b => cases hm

namespace Direction

/-- The order of two numbers in a direction. -/
def AtMost : Direction → Number → Number → Prop
  | ascending, m, n => m.AtMost n
  | descending, m, n => n.AtMost m

theorem AtMost.trans {d : Direction} {p : Number} (h : d.AtMost m n) (h' : d.AtMost n p)
    (hsharp : ¬Number.Blurred m n p ∧ ¬Number.Blurred p n m) : d.AtMost m p := by
  cases d with
  | ascending => exact (Number.atMost_trans_iff h h').mpr hsharp.1
  | descending => exact (Number.atMost_trans_iff h' h).mpr hsharp.2

end Direction

namespace Query

variable {R : Type} [Row R]

theorem compareRows_iff_atMost {column : String} {a b : R} (ha : Row.cell a column = .number m)
    (hb : Row.cell b column = .number n) (hm : m ≠ .real .nan) (hn : n ≠ .real .nan) (d : Direction) :
    compareRows [(column, d)] a b ≠ .gt ↔ d.AtMost m n := by
  obtain ⟨o, ho⟩ := Number.exists_compare? hm hn
  obtain ⟨hle, hge⟩ := Number.atMost_iff_of_compare? ho
  have hcell : Cell.compare? (.number m) (.number n) = some o := ho
  cases d <;> simp only [Direction.AtMost, hle, hge, compareRows, ha, hb, hcell, Option.map_some] <;>
    cases o <;> decide

end Query

end Numbers

namespace Query

section Sharp

variable {R : Type} [Row R] {rows : List R} {column : String} {key : R → Number}
  (hkey : ∀ r ∈ rows, Row.cell r column = .number (key r) ∧ key r ≠ .real .nan)
include hkey

theorem compareRows_iff_key (d : Direction) {r s : R} (hr : r ∈ rows) (hs : s ∈ rows) :
    compareRows [(column, d)] r s ≠ .gt ↔ d.AtMost (key r) (key s) :=
  compareRows_iff_atMost (hkey r hr).1 (hkey s hs).1 (hkey r hr).2 (hkey s hs).2 d

/-- Numbers are put in order where no triple of them is blurred. -/
theorem orders_of_sharp (hsharp : ∀ r ∈ rows, ∀ s ∈ rows, ∀ t ∈ rows, ¬Number.Blurred (key r) (key s) (key t))
    (d : Direction) : Orders (compareRows [(column, d)]) rows where
  swap r _ s _ := compareRows_swap _ r s
  trans r hr s hs t ht hrs hst := by
    rw [compareRows_iff_key hkey d hr hs] at hrs
    rw [compareRows_iff_key hkey d hs ht] at hst
    exact (compareRows_iff_key hkey d hr ht).mpr (hrs.trans hst ⟨hsharp r hr s hs t ht, hsharp t ht s hs r hr⟩)

end Sharp

/-- Where no triple of the values is blurred, a selection comes in the order of the values. -/
theorem select?_pairwise_atMost {R : Type} [Row R] {q : Query R} {column : String} {d : Direction}
    (ho : q.orderings = [(column, d)]) {key : R → Number}
    (hkey : ∀ r ∈ q.matched, Row.cell r column = .number (key r) ∧ key r ≠ .real .nan)
    (hsharp : ∀ r ∈ q.matched, ∀ s ∈ q.matched, ∀ t ∈ q.matched, ¬Number.Blurred (key r) (key s) (key t)) :
    ∃ selected, q.select? = some selected ∧ selected.Pairwise fun r s => d.AtMost (key r) (key s) := by
  have horders : Orders (compareRows q.orderings) q.matched := ho ▸ orders_of_sharp hkey hsharp d
  have hsorted := horders.pairwise_mergeSort.imp_of_mem fun {r s} hr hs hle => by
    rw [ho, compareRows_iff_key hkey d (List.mem_mergeSort.mp hr) (List.mem_mergeSort.mp hs)] at hle
    exact hle
  exact ⟨_, congrArg (Option.map (Window.cut q.window)) (ordered?_of_orders horders),
    hsorted.sublist (Window.cut_sublist q.window _)⟩

end Query

namespace Number

/-- Numbers are compared in one order, by which thresholds, conditions and sorts decide. It is total, and transitive but
for three numbers of which the outer two are whole, of 2⁵³ or more in magnitude and different, are rounded to the one in
the middle, and come in the wrong order. Up to such triples equality is an equivalence. -/
theorem compare?_order :
    (∀ a b : Number, a.compare? b = (b.compare? a).map Ordering.swap) ∧
    (∀ a b : Number, a ≠ real .nan → b ≠ real .nan → AtMost a b ∨ AtMost b a) ∧
    (∀ a b c : Number, AtMost a b → AtMost b c → (AtMost a c ↔ ¬Blurred a b c)) ∧
    (∀ (m n : Int64) (b : Number), Blurred (whole m) b (whole n) →
      2 ^ 53 ≤ m.toInt.natAbs ∧ 2 ^ 53 ≤ n.toInt.natAbs) ∧
    (∀ a : Number, a ≠ real .nan → a.compare? a = some .eq) ∧
    (∀ a b : Number, a.compare? b = some .eq ↔ AtMost a b ∧ AtMost b a) ∧
    (∀ a b c : Number, a.compare? b = some .eq → b.compare? c = some .eq →
      (a.compare? c = some .eq ↔ ¬Blurred a b c ∧ ¬Blurred c b a)) ∧
    (∀ n : Int64, Binary64.IsNearest (whole n).toBinary64 n.toInt ∧
      ∀ x : Binary64, (whole n).compare? (real x) = (whole n).toBinary64.compare? x) ∧
    (∀ (r : Rule) (c : Comparison) (v : Arg) (m n : Number), r.threshold? = some (c, n) → v.number? = some m →
      m ≠ real .nan → n ≠ real .nan → (r.check v = true ↔ c.Asserts m n)) ∧
    (∀ (v : Arg) (m low high : Number), v.number? = some m →
      m ≠ real .nan → low ≠ real .nan → high ≠ real .nan →
      ((Rule.within low high).check v = true ↔ AtMost low m ∧ AtMost m high)) ∧
    (∀ (c : Condition) (cell : Cell) (m n : Number), c.comparison ≠ .like → cell.numeric? = some m →
      c.value.number? = some n → m ≠ real .nan → n ≠ real .nan →
      (c.matchesCell cell = true ↔ c.comparison.Asserts m n)) ∧
    (∀ m n : Number, Cell.compare? (.number m) (.number n) = m.compare? n) ∧
    ∀ {R : Type} [Row R] (q : Query R) (column : String) (d : Direction) (key : R → Number),
      q.orderings = [(column, d)] →
      (∀ r ∈ q.matched, Row.cell r column = .number (key r) ∧ key r ≠ real .nan) →
      (∀ r ∈ q.matched, ∀ s ∈ q.matched, ∀ t ∈ q.matched, ¬Blurred (key r) (key s) (key t)) →
      ∃ selected, q.select? = some selected ∧ selected.Pairwise fun r s => d.AtMost (key r) (key s) := by
  refine ⟨compare?_swap, fun a b => atMost_total, fun a b c => atMost_trans_iff, fun m n b => Blurred.large, ?_,
    fun a b => compare?_eq_some_eq_iff, fun a b c => compare?_eq_trans_iff,
    ?_, ?_, ?_, ?_, fun m n => rfl, ?_⟩
  · intro a ha
    have hself := (atMost_total ha ha).elim id id
    exact compare?_eq_some_eq_iff.mpr ⟨hself, hself⟩
  · intro n
    have hlt := n.toInt_lt
    have hge := n.le_toInt
    exact ⟨Binary64.isNearest_ofInt (by omega), fun x => rfl⟩
  · intro r c v m n hr hv hm hn
    exact Rule.check_iff_asserts hr hv hm hn
  · intro v m low high hv hm hlow hhigh
    exact Rule.check_within_iff hv hm hlow hhigh
  · intro c cell m n hc hcell hvalue hm hn
    exact Condition.matchesCell_iff_asserts hc hcell hvalue hm hn
  · intro R _ q column d key ho hkey hsharp
    exact Query.select?_pairwise_atMost ho hkey hsharp

/-- 2⁵³ + 1 and 2⁵³ are both rounded to 2⁵³. -/
theorem not_atMost_trans :
    ¬∀ a b c : Number, a ≠ real .nan → b ≠ real .nan → c ≠ real .nan → AtMost a b → AtMost b c → AtMost a c := by
  intro h
  have hwhole := h (whole 9007199254740993) (real (.ofInt 9007199254740992)) (whole 9007199254740992)
    (by decide) (by decide +kernel) (by decide) ⟨.eq, by decide +kernel, by decide⟩ ⟨.eq, by decide +kernel, by decide⟩
  exact absurd (atMost_whole.mp hwhole) (by decide)

end Number
end QueryGate
