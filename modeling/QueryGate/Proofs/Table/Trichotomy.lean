import Mathlib.Data.List.Basic
import Mathlib.Logic.ExistsUnique
import QueryGate.Proofs.Number.Order
import QueryGate.Table.Query

/-! Conditions that differ in their operators only. Each operator but the pattern goes by the order of the cell and the
argument, so of `<`, `=` and `>` exactly one holds wherever there is such an order, and none where there is not. Booleans
stand apart: they have equality and no order. -/
namespace QueryGate

namespace Comparison

/-- The operators that ask for one order each. -/
def strict : List Comparison := [less, equal, greater]

def ofOrder : Ordering → Comparison
  | .lt => less
  | .eq => equal
  | .gt => greater

theorem mem_strict_iff (c : Comparison) : c ∈ strict ↔ ∃ o, c = ofOrder o := by
  constructor
  · intro h
    simp only [strict, List.mem_cons, List.not_mem_nil, or_false] at h
    rcases h with rfl | rfl | rfl
    · exact ⟨.lt, rfl⟩
    · exact ⟨.eq, rfl⟩
    · exact ⟨.gt, rfl⟩
  · rintro ⟨o, rfl⟩
    cases o <;> decide

theorem ne_like_of_mem_strict {c : Comparison} (h : c ∈ strict) : c ≠ like := by
  rintro rfl
  exact absurd h (by decide)

theorem holds_ofOrder_iff (o p : Ordering) : (ofOrder o).holds p = true ↔ o = p := by
  cases o <;> cases p <;> decide

/-- No two strict operators hold in one order. -/
theorem eq_of_holds {c d : Comparison} (hc : c ∈ strict) (hd : d ∈ strict) {o : Ordering} (ho : c.holds o = true)
    (ho' : d.holds o = true) : c = d := by
  obtain ⟨p, rfl⟩ := (mem_strict_iff c).mp hc
  obtain ⟨q, rfl⟩ := (mem_strict_iff d).mp hd
  rw [(holds_ofOrder_iff p o).mp ho, (holds_ofOrder_iff q o).mp ho']

theorem existsUnique_holds (o : Ordering) : ∃! c, c ∈ strict ∧ c.holds o = true := by
  have hmem : ofOrder o ∈ strict := (mem_strict_iff _).mpr ⟨o, rfl⟩
  have hholds : (ofOrder o).holds o = true := (holds_ofOrder_iff o o).mpr rfl
  exact ⟨ofOrder o, ⟨hmem, hholds⟩, fun c hc => eq_of_holds hc.1 hmem hc.2 hholds⟩

theorem holds_lessOrEqual (o : Ordering) : lessOrEqual.holds o = (less.holds o || equal.holds o) := by
  cases o <;> rfl

theorem holds_greaterOrEqual (o : Ordering) : greaterOrEqual.holds o = (greater.holds o || equal.holds o) := by
  cases o <;> rfl

theorem holds_notEqual (o : Ordering) : notEqual.holds o = (less.holds o || greater.holds o) := by
  cases o <;> rfl

end Comparison

/-- The ways to say a truth value. -/
inductive Arg.Means : Arg → Bool → Prop
  | bool (b : Bool) : Means (.bool b) b
  | digit (b : Bool) : Means (.int (if b then 1 else 0)) b
  | word (b : Bool) : Means (.text (if b then "true" else "false")) b
  | digitText (b : Bool) : Means (.text (if b then "1" else "0")) b

namespace Condition

theorem truth?_of_means {v : Arg} {b : Bool} (h : v.Means b) : truth? v = some b := by
  cases h <;> cases b <;> rfl

theorem means_of_truth? {v : Arg} {b : Bool} (h : truth? v = some b) : v.Means b := by
  cases v with
  | bool c =>
    obtain rfl : c = b := Option.some.inj h
    exact .bool c
  | int n =>
    simp only [truth?] at h
    split at h
    · rename_i hn
      cases h
      exact hn ▸ .digit false
    · split at h
      · rename_i hn
        cases h
        exact hn ▸ .digit true
      · cases h
  | float x => cases h
  | text s =>
    simp only [truth?] at h
    split at h
    · rename_i hs
      cases h
      rcases hs with rfl | rfl
      · exact .word true
      · exact .digitText true
    · split at h
      · rename_i hs
        cases h
        rcases hs with rfl | rfl
        · exact .word false
        · exact .digitText false
      · cases h

theorem truth?_eq_none_iff (v : Arg) : truth? v = none ↔ ∀ b, ¬v.Means b := by
  rw [Option.eq_none_iff_forall_ne_some]
  exact forall_congr' fun b => not_congr ⟨means_of_truth?, truth?_of_means⟩

/-- The order of a cell and an argument by which the operators go. -/
def order? (v : Arg) : Cell → Option Ordering
  | .text s => some (compareText s v)
  | .number m => v.number?.bind m.compare?
  | .bool _ | .missing => none

theorem matchesCell_eq_order {column : String} {op : Comparison} {v : Arg} (hop : op ≠ .like) {cell : Cell}
    (hcell : cell.bool? = none) : matchesCell ⟨column, op, v⟩ cell = (order? v cell).any op.holds := by
  unfold matchesCell
  rw [if_neg hop]
  cases cell with
  | missing => rfl
  | text s => rfl
  | bool b => cases hcell
  | number m =>
    simp only [order?]
    cases v.number?.bind m.compare? <;> rfl

theorem matchesCell_missing (column : String) (op : Comparison) (v : Arg) :
    matchesCell ⟨column, op, v⟩ .missing = false := by
  cases op <;> rfl

theorem existsUnique_matchesCell (column : String) {v : Arg} {cell : Cell} (hcell : cell.bool? = none)
    (h : (order? v cell).isSome = true) : ∃! op, op ∈ Comparison.strict ∧ matchesCell ⟨column, op, v⟩ cell = true := by
  obtain ⟨o, ho⟩ := Option.isSome_iff_exists.mp h
  have hmatch : ∀ op, (op ∈ Comparison.strict ∧ matchesCell ⟨column, op, v⟩ cell = true) ↔
      op ∈ Comparison.strict ∧ op.holds o = true := by
    intro op
    refine and_congr_right fun hop => ?_
    rw [matchesCell_eq_order (Comparison.ne_like_of_mem_strict hop) hcell, ho, Option.any_some]
  exact (existsUnique_congr fun op => hmatch op).mpr (Comparison.existsUnique_holds o)

/-- An operator that holds wherever one of two others does matches what either matches. -/
theorem matchesCell_eq_or {column : String} {v : Arg} {op c d : Comparison} (hop : op ≠ .like) (hc : c ≠ .like)
    (hd : d ≠ .like) (h : ∀ o, op.holds o = (c.holds o || d.holds o)) {cell : Cell} (hcell : cell.bool? = none) :
    matchesCell ⟨column, op, v⟩ cell = (matchesCell ⟨column, c, v⟩ cell || matchesCell ⟨column, d, v⟩ cell) := by
  rw [matchesCell_eq_order hop hcell, matchesCell_eq_order hc hcell, matchesCell_eq_order hd hcell]
  cases order? v cell with
  | none => rfl
  | some o => exact h o

theorem order?_number_eq_none_iff (v : Arg) (m : Number) :
    order? v (.number m) = none ↔ v.number? = none ∨ m = .real .nan ∨ v.number? = some (.real .nan) := by
  simp only [order?]
  cases v.number? with
  | none => simp
  | some n => simp [Number.compare?_eq_none_iff]

section Bool

variable (column : String) (v : Arg) (b : Bool)

theorem matchesCell_bool_equal : matchesCell ⟨column, .equal, v⟩ (.bool b) = (truth? v).any (b == ·) := by
  simp only [matchesCell, reduceCtorEq, if_false]
  cases truth? v <;> rfl

theorem matchesCell_bool_notEqual : matchesCell ⟨column, .notEqual, v⟩ (.bool b) = (truth? v).any (b != ·) := by
  simp only [matchesCell, reduceCtorEq, if_false]
  cases truth? v <;> rfl

/-- Booleans have no order. -/
theorem matchesCell_bool_of_order {op : Comparison}
    (hop : op ∈ [Comparison.less, .greater, .lessOrEqual, .greaterOrEqual]) :
    matchesCell ⟨column, op, v⟩ (.bool b) = false := by
  simp only [List.mem_cons, List.not_mem_nil, or_false] at hop
  rcases hop with rfl | rfl | rfl | rfl <;> simp [matchesCell]

end Bool

/-- No two strict operators match one cell, booleans included. -/
theorem eq_of_matchesCell {column : String} {v : Arg} {cell : Cell} {c d : Comparison} (hc : c ∈ Comparison.strict)
    (hd : d ∈ Comparison.strict) (h : matchesCell ⟨column, c, v⟩ cell = true)
    (h' : matchesCell ⟨column, d, v⟩ cell = true) : c = d := by
  cases hcell : cell.bool? with
  | none =>
    rw [matchesCell_eq_order (Comparison.ne_like_of_mem_strict hc) hcell, Option.any_eq_true] at h
    rw [matchesCell_eq_order (Comparison.ne_like_of_mem_strict hd) hcell, Option.any_eq_true] at h'
    obtain ⟨o, ho, hholds⟩ := h
    obtain ⟨p, hp, hholds'⟩ := h'
    obtain rfl : o = p := Option.some.inj (ho.symm.trans hp)
    exact Comparison.eq_of_holds hc hd hholds hholds'
  | some b =>
    obtain rfl : cell = .bool b := by
      cases cell <;> simp_all [Cell.bool?]
    have hequal : ∀ {op : Comparison}, op ∈ Comparison.strict →
        matchesCell ⟨column, op, v⟩ (.bool b) = true → op = .equal := by
      intro op hop hm
      simp only [Comparison.strict, List.mem_cons, List.not_mem_nil, or_false] at hop
      rcases hop with rfl | rfl | rfl
      · rw [matchesCell_bool_of_order column v b (by simp)] at hm
        cases hm
      · rfl
      · rw [matchesCell_bool_of_order column v b (by simp)] at hm
        cases hm
    rw [hequal hc h, hequal hd h']

section Cells

variable (column : String) (v : Arg) (cell : Cell)

/-- Whether a cell is before or behind an argument. -/
def standsApart : Bool := matchesCell ⟨column, .less, v⟩ cell || matchesCell ⟨column, .greater, v⟩ cell

variable {column v cell}

theorem bool?_of_standsApart (h : standsApart column v cell = true) : cell.bool? = none := by
  cases cell with
  | bool b => simp [standsApart, matchesCell_bool_of_order] at h
  | _ => rfl

theorem matchesCell_notEqual :
    matchesCell ⟨column, .notEqual, v⟩ cell =
      (standsApart column v cell || (cell.bool?.isSome && matchesCell ⟨column, .notEqual, v⟩ cell)) := by
  cases hcell : cell.bool? with
  | none =>
    rw [matchesCell_eq_or (by decide) (by decide) (by decide) Comparison.holds_notEqual hcell]
    simp [standsApart]
  | some b =>
    cases happart : standsApart column v cell with
    | false => rfl
    | true =>
      rw [bool?_of_standsApart happart] at hcell
      cases hcell

end Cells

end Condition

namespace Query

variable {R : Type} [Row R]

/-- The rows of which a condition holds. -/
def heldRows (rows : List R) (c : Condition) : List R := rows.filter c.holdsOf

/-- A query selects the rows of which its only condition holds. -/
theorem select?_andWhere (rows : List R) (c : Condition) :
    ((ofRows rows).andWhere c).select? = some (heldRows rows c) := by
  have hholds : ∀ row : R, Clauses.holdOf (Clauses.and [] c) row = c.holdsOf row := fun row => by
    simp [Clauses.holdOf, Clauses.and]
  exact congrArg some (List.filter_congr fun row _ => hholds row)

/-- The rows that have a truth value in a column. -/
def isBoolAt (column : String) (row : R) : Bool := (Row.cell row column).bool?.isSome

theorem perm_filter_or {α : Type} {p q r : α → Bool} (hor : ∀ x, r x = (p x || q x))
    (hnot : ∀ x, p x = true → q x = false) (xs : List α) : (xs.filter p ++ xs.filter q).Perm (xs.filter r) := by
  have hp : (xs.filter r).filter p = xs.filter p := by
    rw [List.filter_filter]
    refine List.filter_congr fun x _ => ?_
    rw [hor]
    cases p x <;> simp
  have hq : (xs.filter r).filter (fun x => !p x) = xs.filter q := by
    rw [List.filter_filter]
    refine List.filter_congr fun x _ => ?_
    rw [hor]
    cases hx : p x with
    | true => simp [hnot x hx]
    | false => simp
  rw [← hp, ← hq]
  exact List.filter_append_perm p (xs.filter r)

section Selections

variable (column : String) (v : Arg) (rows : List R)

theorem pairwise_disjoint_heldRows :
    (Comparison.strict.map fun op => heldRows rows ⟨column, op, v⟩).Pairwise List.Disjoint := by
  have hnodup : Comparison.strict.Nodup := by decide
  rw [List.pairwise_map]
  refine hnodup.imp_of_mem fun hc hd hne => ?_
  intro row hrow hrow'
  exact hne (Condition.eq_of_matchesCell hc hd (List.mem_filter.mp hrow).2 (List.mem_filter.mp hrow').2)

/-- What is different is less or greater, but for truth values. -/
theorem perm_heldRows_notEqual :
    (heldRows rows ⟨column, .less, v⟩ ++ heldRows rows ⟨column, .greater, v⟩ ++
        (heldRows rows ⟨column, .notEqual, v⟩).filter (isBoolAt column)).Perm
      (heldRows rows ⟨column, .notEqual, v⟩) := by
  let before := fun row : R => Condition.holdsOf ⟨column, .less, v⟩ row
  let behind := fun row : R => Condition.holdsOf ⟨column, .greater, v⟩ row
  let different := fun row : R => Condition.holdsOf ⟨column, .notEqual, v⟩ row
  have hapart : (rows.filter before ++ rows.filter behind).Perm (rows.filter fun row => before row || behind row) := by
    refine perm_filter_or (fun _ => rfl) (fun row hrow => ?_) rows
    rw [Bool.eq_false_iff]
    intro hrow'
    have h : Comparison.less = .greater := Condition.eq_of_matchesCell (by decide) (by decide) hrow hrow'
    cases h
  have hall : ((rows.filter fun row => before row || behind row) ++
      rows.filter fun row => isBoolAt column row && different row).Perm (rows.filter different) := by
    refine perm_filter_or (fun _ => Condition.matchesCell_notEqual) (fun row hrow => ?_) rows
    have hbool : (Row.cell row column).bool? = none := Condition.bool?_of_standsApart hrow
    simp [hbool]
  simp only [heldRows, List.filter_filter]
  exact (hapart.append_right _).trans hall

end Selections

end Query

/-- The operators share out the cells that have an order to an argument. A missing cell is matched by none, a text by
exactly one of `<`, `=` and `>`, a number by exactly one where the argument is a number too and none by any of the six
where it is not; the other three match what two of these do. A boolean has equality only, with what stands for a boolean.
So the rows that `<`, `=` and `>` select are all different, and together, but for booleans, those that `!=` and `=` do. -/
theorem Condition.operators_partition (column : String) (v : Arg) :
    let holds := fun (op : Comparison) (cell : Cell) => matchesCell ⟨column, op, v⟩ cell
    (∀ op, holds op .missing = false) ∧
    (∀ s, ∃! op, op ∈ Comparison.strict ∧ holds op (.text s) = true) ∧
    (∀ m n, v.number? = some n → m ≠ .real .nan → n ≠ .real .nan →
      ∃! op, op ∈ Comparison.strict ∧ holds op (.number m) = true) ∧
    (∀ m, v.number? = none ∨ m = .real .nan ∨ v.number? = some (.real .nan) →
      ∀ op, op ≠ .like → holds op (.number m) = false) ∧
    (∀ cell : Cell, cell.bool? = none →
      holds .lessOrEqual cell = (holds .less cell || holds .equal cell) ∧
      holds .greaterOrEqual cell = (holds .greater cell || holds .equal cell) ∧
      holds .notEqual cell = (holds .less cell || holds .greater cell)) ∧
    (∀ b w, v.Means w →
      (holds .equal (.bool b) = true ↔ b = w) ∧ holds .notEqual (.bool b) = !holds .equal (.bool b)) ∧
    (∀ b, (∀ w, ¬v.Means w) → holds .equal (.bool b) = false ∧ holds .notEqual (.bool b) = false) ∧
    (∀ b, ∀ op ∈ [Comparison.less, .greater, .lessOrEqual, .greaterOrEqual], holds op (.bool b) = false) ∧
    ∀ {R : Type} [Row R] (rows : List R), ∃ selected : Comparison → List R,
      (∀ op, ((Query.ofRows rows).andWhere ⟨column, op, v⟩).select? = some (selected op)) ∧
      (Comparison.strict.map selected).Pairwise List.Disjoint ∧
      ((selected .less ++ selected .equal ++ selected .greater) ++
          (selected .notEqual).filter (Query.isBoolAt column)).Perm
        (selected .notEqual ++ selected .equal) := by
  intro holds
  refine ⟨fun op => matchesCell_missing column op v, fun s => existsUnique_matchesCell column rfl rfl,
    fun m n hn hm hnan => ?_, fun m hm op hop => ?_, fun cell hcell => ⟨?_, ?_, ?_⟩, fun b w hw => ?_,
    fun b hw => ?_, fun b op hop => matchesCell_bool_of_order column v b hop, fun rows =>
    ⟨fun op => Query.heldRows rows ⟨column, op, v⟩, fun op => Query.select?_andWhere rows _, ?_, ?_⟩⟩
  · have hsome : order? v (.number m) ≠ none := by
      rw [Ne, order?_number_eq_none_iff, hn]
      simp [hm, hnan]
    exact existsUnique_matchesCell column rfl (Option.isSome_iff_ne_none.mpr hsome)
  · have hnone : order? v (.number m) = none := (order?_number_eq_none_iff v m).mpr hm
    change matchesCell _ _ = false
    rw [matchesCell_eq_order hop rfl, hnone]
    rfl
  · exact matchesCell_eq_or (by decide) (by decide) (by decide) Comparison.holds_lessOrEqual hcell
  · exact matchesCell_eq_or (by decide) (by decide) (by decide) Comparison.holds_greaterOrEqual hcell
  · exact matchesCell_eq_or (by decide) (by decide) (by decide) Comparison.holds_notEqual hcell
  · simp only [holds, matchesCell_bool_equal, matchesCell_bool_notEqual, truth?_of_means hw, Option.any_some]
    exact ⟨beq_iff_eq, rfl⟩
  · simp only [holds, matchesCell_bool_equal, matchesCell_bool_notEqual, (truth?_eq_none_iff v).mpr hw]
    exact ⟨rfl, rfl⟩
  · exact Query.pairwise_disjoint_heldRows column v rows
  · -- `=` is moved behind the others, where both sides have it
    have hall := (Query.perm_heldRows_notEqual column v rows).append_right (Query.heldRows rows ⟨column, .equal, v⟩)
    refine List.Perm.trans ?_ hall
    simp only [List.append_assoc]
    refine List.Perm.append_left _ ?_
    rw [← List.append_assoc _ _ (Query.heldRows rows ⟨column, .equal, v⟩)]
    exact List.perm_append_comm

end QueryGate
