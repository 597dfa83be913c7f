import Mathlib.Data.String.Basic
import QueryGate.Data.Record
import QueryGate.Proofs.Number.Order
import QueryGate.Proofs.Table.Sorting
import QueryGate.Table.Query

/-! The order of a selection. Where the values of every ordering column are of one kind, a selection is the stable sort of
the matching rows in the lexicographic order of the columns, and nothing else: `select_stable_sort`. The sort only asks
about rows that match, so its comparison need not be an order on all rows. -/
namespace QueryGate

namespace Cell

/-- The order of the values of one kind. A missing value comes behind every other. -/
inductive Below : Cell → Cell → Prop
  | text {s t : String} (h : s < t) : Below (text s) (text t)
  | bool : Below (bool false) (bool true)
  | whole {m n : Int64} (h : m.toInt < n.toInt) : Below (number (.whole m)) (number (.whole n))
  | missing {x : Cell} (h : x.isMissing = false) : Below x missing

/-- Cells that are all texts, all truth values or all whole numbers, but for missing values. -/
inductive Uniform (cells : List Cell) : Prop
  | texts (h : ∀ x ∈ cells, x = missing ∨ ∃ s, x = text s)
  | bools (h : ∀ x ∈ cells, x = missing ∨ ∃ b, x = bool b)
  | wholes (h : ∀ x ∈ cells, x = missing ∨ ∃ n, x = number (.whole n))

theorem Below.trans {x y z : Cell} (h : Below x y) (h' : Below y z) : Below x z := by
  cases h with
  | text h =>
    cases h' with
    | text h' => exact .text (lt_trans h h')
    | missing _ => exact .missing rfl
  | bool =>
    cases h' with
    | missing _ => exact .missing rfl
  | whole h =>
    cases h' with
    | whole h' => exact .whole (Int.lt_trans h h')
    | missing _ => exact .missing rfl
  | missing _ =>
    cases h' with
    | missing h' => cases h'

theorem Below.compare? {x y : Cell} (h : Below x y) :
    x.compare? y = some .lt ∧ y.compare? x = some .gt := by
  cases h with
  | text h => exact ⟨congrArg some (compare_lt_iff_lt.mpr h), congrArg some (compare_gt_iff_gt.mpr h)⟩
  | bool => exact ⟨rfl, rfl⟩
  | whole h => exact ⟨congrArg some (compare_lt_iff_lt.mpr h), congrArg some (compare_gt_iff_gt.mpr h)⟩
  | missing h => cases x <;> first | exact ⟨rfl, rfl⟩ | cases h

theorem compare?_swap (x y : Cell) : y.compare? x = (x.compare? y).map Ordering.swap := by
  cases x with
  | missing => cases y <;> rfl
  | text s =>
    cases y with
    | text t => exact congrArg some Std.OrientedOrd.eq_swap
    | _ => rfl
  | bool a =>
    cases y with
    | bool b => cases a <;> cases b <;> rfl
    | _ => rfl
  | number m =>
    cases y with
    | number n => exact Number.compare?_swap n m
    | _ => rfl

/-- A value is not told apart from itself; the undefined number has no order at all. -/
theorem compare?_self (x : Cell) : x.compare? x = some .eq ∨ x.compare? x = none := by
  cases x with
  | missing => exact .inl rfl
  | text s => exact .inl (congrArg some (compare_eq_iff_eq.mpr rfl))
  | bool b => exact .inl (congrArg some (compare_eq_iff_eq.mpr rfl))
  | number n =>
    cases n with
    | whole n => exact .inl (congrArg some (compare_eq_iff_eq.mpr rfl))
    | real x =>
      change x.compare? x = _ ∨ x.compare? x = none
      unfold Binary64.compare?
      cases x.position? with
      | none => exact .inr rfl
      | some i => exact .inl (congrArg some (compare_eq_iff_eq.mpr rfl))

theorem Uniform.trichotomy {cells : List Cell} (h : Uniform cells) {x y : Cell} (hx : x ∈ cells) (hy : y ∈ cells) :
    Below x y ∨ x = y ∨ Below y x := by
  -- whatever the kind is, a missing value and another one are in order
  have hmissing : ∀ x y : Cell, x = missing ∨ y = missing → Below x y ∨ x = y ∨ Below y x := by
    rintro x y (rfl | rfl)
    · cases y <;> first | exact .inr (.inl rfl) | exact .inr (.inr (.missing rfl))
    · cases x <;> first | exact .inr (.inl rfl) | exact .inl (.missing rfl)
  cases h with
  | texts h =>
    rcases h x hx with rfl | ⟨s, rfl⟩
    · exact hmissing _ _ (.inl rfl)
    rcases h y hy with rfl | ⟨t, rfl⟩
    · exact hmissing _ _ (.inr rfl)
    rcases lt_trichotomy s t with hlt | rfl | hlt
    · exact .inl (.text hlt)
    · exact .inr (.inl rfl)
    · exact .inr (.inr (.text hlt))
  | bools h =>
    rcases h x hx with rfl | ⟨a, rfl⟩
    · exact hmissing _ _ (.inl rfl)
    rcases h y hy with rfl | ⟨b, rfl⟩
    · exact hmissing _ _ (.inr rfl)
    cases a <;> cases b <;> first | exact .inr (.inl rfl) | exact .inl .bool | exact .inr (.inr .bool)
  | wholes h =>
    rcases h x hx with rfl | ⟨m, rfl⟩
    · exact hmissing _ _ (.inl rfl)
    rcases h y hy with rfl | ⟨n, rfl⟩
    · exact hmissing _ _ (.inr rfl)
    rcases lt_trichotomy m.toInt n.toInt with hlt | heq | hlt
    · exact .inl (.whole hlt)
    · exact .inr (.inl (by rw [Int64.toInt_inj.mp heq]))
    · exact .inr (.inr (.whole hlt))

end Cell

/-- The order of two values in a direction. -/
def Direction.Ahead : Direction → Cell → Cell → Prop
  | ascending, x, y => x.Below y
  | descending, x, y => y.Below x

namespace Direction

theorem Ahead.trans {d : Direction} {x y z : Cell} (h : d.Ahead x y) (h' : d.Ahead y z) : d.Ahead x z := by
  cases d with
  | ascending => exact Cell.Below.trans h h'
  | descending => exact Cell.Below.trans h' h

theorem Ahead.compare? {d : Direction} {x y : Cell} (h : d.Ahead x y) :
    (x.compare? y).map d.apply = some .lt ∧ (y.compare? x).map d.apply = some .gt := by
  cases d with
  | ascending =>
    obtain ⟨hlt, hgt⟩ := Cell.Below.compare? h
    rw [hlt, hgt]
    exact ⟨rfl, rfl⟩
  | descending =>
    obtain ⟨hlt, hgt⟩ := Cell.Below.compare? h
    rw [hlt, hgt]
    exact ⟨rfl, rfl⟩

theorem ahead_or_eq_or_ahead {cells : List Cell} (h : Cell.Uniform cells) (d : Direction) {x y : Cell} (hx : x ∈ cells)
    (hy : y ∈ cells) : d.Ahead x y ∨ x = y ∨ d.Ahead y x := by
  cases d with
  | ascending => exact h.trichotomy hx hy
  | descending =>
    rcases h.trichotomy hx hy with hlt | heq | hlt
    · exact .inr (.inr hlt)
    · exact .inr (.inl heq)
    · exact .inl hlt

end Direction

namespace Query

variable {R : Type} [Row R]

/-- The lexicographic order of rows by columns. -/
def Before : List (String × Direction) → R → R → Prop
  | [], _, _ => False
  | (column, d) :: rest, a, b =>
    d.Ahead (Row.cell a column) (Row.cell b column) ∨ Row.cell a column = Row.cell b column ∧ Before rest a b

/-- Whether two rows have the same values in all ordering columns. -/
def tied (orderings : List (String × Direction)) (a b : R) : Bool :=
  orderings.all fun o => Row.cell a o.1 = Row.cell b o.1

/-- Rows whose values in the ordering columns are of one kind, column by column. -/
def Sortable (orderings : List (String × Direction)) (rows : List R) : Prop :=
  ∀ o ∈ orderings, Cell.Uniform (rows.map (Row.cell · o.1))

@[simp] theorem tied_self (orderings : List (String × Direction)) (a : R) : tied orderings a a = true := by
  simp [tied]

theorem tied_cons (column : String) (d : Direction) (rest : List (String × Direction)) (a b : R) :
    tied ((column, d) :: rest) a b = true ↔ Row.cell a column = Row.cell b column ∧ tied rest a b = true := by
  simp [tied]

theorem tied_of_tied_of_tied {orderings : List (String × Direction)} {row a b : R} (ha : tied orderings row a = true)
    (hb : tied orderings row b = true) : tied orderings a b = true := by
  simp only [tied, List.all_eq_true, decide_eq_true_eq] at ha hb ⊢
  exact fun o ho => (ha o ho).symm.trans (hb o ho)

theorem compareRows_cons_of_eq {column : String} {a b : R} (h : Row.cell a column = Row.cell b column)
    (d : Direction) (rest : List (String × Direction)) :
    compareRows ((column, d) :: rest) a b = compareRows rest a b := by
  rcases Cell.compare?_self (Row.cell b column) with hself | hself
  · cases d <;> simp [compareRows, h, hself, Direction.apply]
  · simp [compareRows, h, hself]

theorem compareRows_of_before {orderings : List (String × Direction)} {a b : R} (h : Before orderings a b) :
    compareRows orderings a b = .lt ∧ compareRows orderings b a = .gt := by
  induction orderings with
  | nil => exact h.elim
  | cons o rest ih =>
    obtain ⟨column, d⟩ := o
    rcases h with hahead | ⟨heq, hrest⟩
    · obtain ⟨hlt, hgt⟩ := hahead.compare?
      simp [compareRows, hlt, hgt]
    · rw [compareRows_cons_of_eq heq, compareRows_cons_of_eq heq.symm]
      exact ih hrest

theorem compareRows_of_tied {orderings : List (String × Direction)} {a b : R} (h : tied orderings a b = true) :
    compareRows orderings a b = .eq := by
  induction orderings with
  | nil => rfl
  | cons o rest ih =>
    obtain ⟨heq, hrest⟩ := (tied_cons o.1 o.2 rest a b).mp h
    exact (compareRows_cons_of_eq heq o.2 rest).trans (ih hrest)

theorem before_or_tied_or_before {orderings : List (String × Direction)} {rows : List R}
    (h : Sortable orderings rows) {a b : R} (ha : a ∈ rows) (hb : b ∈ rows) :
    Before orderings a b ∨ tied orderings a b = true ∨ Before orderings b a := by
  induction orderings with
  | nil => exact .inr (.inl rfl)
  | cons o rest ih =>
    obtain ⟨column, d⟩ := o
    have hcolumn : Cell.Uniform (rows.map (Row.cell · column)) := h (column, d) List.mem_cons_self
    have ha' : Row.cell a column ∈ rows.map (Row.cell · column) := List.mem_map_of_mem ha
    have hb' : Row.cell b column ∈ rows.map (Row.cell · column) := List.mem_map_of_mem hb
    rcases d.ahead_or_eq_or_ahead hcolumn ha' hb' with hlt | heq | hlt
    · exact .inl (.inl hlt)
    · rcases ih fun o ho => h o (List.mem_cons_of_mem _ ho) with hlt | htied | hlt
      · exact .inl (.inr ⟨heq, hlt⟩)
      · exact .inr (.inl ((tied_cons ..).mpr ⟨heq, htied⟩))
      · exact .inr (.inr (.inr ⟨heq.symm, hlt⟩))
    · exact .inr (.inr (.inl hlt))

theorem before_or_tied_trans {orderings : List (String × Direction)} {a b c : R}
    (h : Before orderings a b ∨ tied orderings a b = true) (h' : Before orderings b c ∨ tied orderings b c = true) :
    Before orderings a c ∨ tied orderings a c = true := by
  induction orderings with
  | nil => exact .inr rfl
  | cons o rest ih =>
    obtain ⟨column, d⟩ := o
    have hcases : ∀ {a b : R}, Before ((column, d) :: rest) a b ∨ tied ((column, d) :: rest) a b = true →
        d.Ahead (Row.cell a column) (Row.cell b column) ∨
          Row.cell a column = Row.cell b column ∧ (Before rest a b ∨ tied rest a b = true) := by
      intro a b h
      rw [tied_cons] at h
      rcases h with (hahead | ⟨heq, hrest⟩) | ⟨heq, hrest⟩
      · exact .inl hahead
      · exact .inr ⟨heq, .inl hrest⟩
      · exact .inr ⟨heq, .inr hrest⟩
    rcases hcases h with hab | ⟨hab, hrest⟩ <;> rcases hcases h' with hbc | ⟨hbc, hrest'⟩
    · exact .inl (.inl (hab.trans hbc))
    · exact .inl (.inl (hbc ▸ hab))
    · exact .inl (.inl (hab ▸ hbc))
    · rcases ih hrest hrest' with hac | hac
      · exact .inl (.inr ⟨hab.trans hbc, hac⟩)
      · exact .inr ((tied_cons ..).mpr ⟨hab.trans hbc, hac⟩)

/-- Two rows are told apart in the same way from both sides, whatever is in their columns. -/
theorem compareRows_swap (orderings : List (String × Direction)) (a b : R) :
    compareRows orderings b a = (compareRows orderings a b).swap := by
  induction orderings with
  | nil => rfl
  | cons o rest ih =>
    obtain ⟨column, d⟩ := o
    simp only [compareRows]
    rw [Cell.compare?_swap]
    cases (Row.cell a column).compare? (Row.cell b column) with
    | none => exact ih
    | some o => cases d <;> cases o <;> first | exact ih | rfl

section Sorted

variable {orderings : List (String × Direction)} {rows : List R} (h : Sortable orderings rows)
include h

theorem compareRows_ne_gt_iff {a b : R} (ha : a ∈ rows) (hb : b ∈ rows) :
    compareRows orderings a b ≠ .gt ↔ Before orderings a b ∨ tied orderings a b = true := by
  rcases before_or_tied_or_before h ha hb with hlt | htied | hlt
  · simp [compareRows_of_before hlt, hlt]
  · simp [compareRows_of_tied htied, htied]
  · have hgt := (compareRows_of_before hlt).2
    refine iff_of_false (fun hne => hne hgt) ?_
    rintro (hba | hba)
    · rw [(compareRows_of_before hba).1] at hgt
      cases hgt
    · rw [compareRows_of_tied hba] at hgt
      cases hgt

theorem not_before_iff {a b : R} (ha : a ∈ rows) (hb : b ∈ rows) :
    ¬Before orderings b a ↔ compareRows orderings a b ≠ .gt := by
  rw [compareRows_ne_gt_iff h ha hb]
  constructor
  · intro hnot
    rcases before_or_tied_or_before h ha hb with hlt | htied | hlt
    · exact .inl hlt
    · exact .inr htied
    · exact absurd hlt hnot
  · intro hle hlt
    exact (compareRows_ne_gt_iff h ha hb).mpr hle (compareRows_of_before hlt).2

/-- Columns of one kind are put in order. -/
theorem orders_of_sortable : Orders (compareRows orderings) rows where
  swap a _ b _ := compareRows_swap orderings a b
  trans a ha b hb c hc hab hbc := by
    rw [compareRows_ne_gt_iff h ha hb] at hab
    rw [compareRows_ne_gt_iff h hb hc] at hbc
    exact (compareRows_ne_gt_iff h ha hc).mpr (before_or_tied_trans hab hbc)

end Sorted

theorem orders_nil (rows : List R) : Orders (compareRows []) rows := orders_of_sortable (by simp [Sortable])

/-- Sorting by no column at all keeps every row in its place. -/
theorem ordered?_eq_sort? (q : Query R) : q.ordered? = sort? (compareRows q.orderings) q.matched := by
  unfold ordered?
  cases h : q.orderings with
  | nil =>
    have hpairwise : q.matched.Pairwise fun a b : R => (compareRows [] a b != .gt) = true :=
      List.pairwise_of_forall_mem_list fun a _ b _ => rfl
    rw [sort?_of_orders (orders_nil _), List.mergeSort_of_pairwise hpairwise]
    rfl
  | cons o rest => rfl

theorem ordered?_of_orders {q : Query R} (h : Orders (compareRows q.orderings) q.matched) :
    q.ordered? = some (q.matched.mergeSort fun a b => compareRows q.orderings a b != .gt) :=
  q.ordered?_eq_sort?.trans (sort?_of_orders h)

/-- Ordering neither loses a row nor repeats one. -/
theorem perm_of_ordered? {q : Query R} {all : List R} (h : q.ordered? = some all) : all.Perm q.matched :=
  perm_of_sort? (q.ordered?_eq_sort?.symm.trans h)

theorem Window.cut_sublist {α : Type} (w : Option Window) (xs : List α) : (Window.cut w xs).Sublist xs := by
  cases w with
  | none => exact List.Sublist.refl xs
  | some w => exact (List.take_sublist _ _).trans (List.drop_sublist _ _)

/-- All rows that a query selects, in order, whatever its window. -/
def selection? (q : Query R) : Option (List R) := select? { q with window := none }

theorem selection?_eq (q : Query R) : q.selection? = q.ordered? := Option.map_id'

theorem select?_eq (q : Query R) : q.select? = q.selection?.map (Window.cut q.window) := by rw [selection?_eq]; rfl

/-- A selection is the stable sort of the matching rows, cut to the window. Where the values of each ordering column
are of one kind, the whole selection holds the matching rows, none before one that is ahead of it, with rows that agree
in all ordering columns in the order of the table. No other list does. A window cuts it, and the count is its length,
whatever the orderings and the window. -/
theorem select_stable_sort (q : Query R) (h : Sortable q.orderings q.matched) :
    let matching := q.rows.filter q.clauses.holdOf
    ∃ all, { q with window := none }.select? = some all ∧
    all.Perm matching ∧
    all.Pairwise (fun a b => ¬Before q.orderings b a) ∧
    (∀ row, all.filter (tied q.orderings row) = matching.filter (tied q.orderings row)) ∧
    (∀ rows : List R, rows.Perm matching → rows.Pairwise (fun a b => ¬Before q.orderings b a) →
      (∀ row, rows.filter (tied q.orderings row) = matching.filter (tied q.orderings row)) → rows = all) ∧
    (∀ w : Window, { q with window := some w }.select? = some ((all.drop w.offset.toNat).take w.limit.toNat)) ∧
    ∀ orderings window, count { q with orderings, window } = all.length := by
  intro matching
  let all := matching.mergeSort fun a b => compareRows q.orderings a b != .gt
  have horders : Orders (compareRows q.orderings) matching := orders_of_sortable h
  have hordered : q.ordered? = some all := ordered?_of_orders horders
  have hperm : all.Perm matching := List.mergeSort_perm _ _
  have hsorted : all.Pairwise fun a b => ¬Before q.orderings b a :=
    horders.pairwise_mergeSort.imp_of_mem fun ha hb =>
      (not_before_iff h (hperm.mem_iff.mp ha) (hperm.mem_iff.mp hb)).mpr
  have hstable : ∀ row, all.filter (tied q.orderings row) = matching.filter (tied q.orderings row) := by
    intro row
    refine horders.filter_mergeSort fun a ha b hb hra hrb => ?_
    rw [compareRows_of_tied (tied_of_tied_of_tied hra hrb)]
    exact Ordering.noConfusion
  refine ⟨all, q.selection?_eq.trans hordered, hperm, hsorted, hstable, fun rows hrows hpairwise hfilter => ?_,
    fun w => ?_, fun orderings window => hperm.length_eq.symm⟩
  · refine eq_of_perm_of_filter (Before q.orderings) (tied q.orderings) (hrows.trans hperm.symm)
      (fun row _ => tied_self q.orderings row) (fun a ha b hb => ?_) hpairwise hsorted fun row _ => ?_
    · exact before_or_tied_or_before h (hrows.mem_iff.mp ha) (hrows.mem_iff.mp hb)
    · rw [hfilter, hstable]
  · exact congrArg (Option.map (Window.cut (some w))) hordered

/-- Two columns in two directions, a row that lacks a value, and two rows that agree in both columns. -/
theorem select_of_two_columns :
    let row := fun (id : Int) (name : String) (score : List (String × Data)) =>
      Data.record ([("id", .int id), ("name", .text name)] ++ score)
    let r₁ := row 1 "b" [("score", .int 2)]
    let r₂ := row 2 "c" []
    let r₃ := row 3 "a" [("score", .int 2)]
    let r₄ := row 4 "b" [("score", .int 2)]
    let q := ((Query.ofRows [r₁, r₂, r₃, r₄]).orderBy "score" .descending).orderBy "name" .ascending
    Sortable q.orderings q.matched ∧ q.select? = some [r₂, r₃, r₁, r₄] ∧
      [r₂, r₃, r₁, r₄].Pairwise (fun a b => ¬Before q.orderings b a) ∧
      (q.limitOffset 2 1).select? = some [r₃, r₁] ∧ (q.limitOffset 2 1).count = 4 := by
  intro row r₁ r₂ r₃ r₄ q
  have hscores : q.matched.map (Row.cell · "score") =
      [.number (.whole 2), .missing, .number (.whole 2), .number (.whole 2)] := by decide +kernel
  have hnames : q.matched.map (Row.cell · "name") = [.text "b", .text "c", .text "a", .text "b"] := by decide +kernel
  have hsortable : Sortable q.orderings q.matched := by
    intro o ho
    have ho : o = ("score", .descending) ∨ o = ("name", .ascending) := by simpa [q, orderBy, ofRows] using ho
    rcases ho with rfl | rfl
    · rw [hscores]
      exact .wholes (by simp)
    · rw [hnames]
      exact .texts (by simp)
  let le := fun a b : Data => compareRows q.orderings a b != .gt
  have hle : le r₁ r₂ = false ∧ le r₃ r₄ = true ∧ le r₂ r₃ = true ∧ le r₁ r₃ = false ∧ le r₁ r₄ = true := by
    decide +kernel
  have hsort : [r₁, r₂, r₃, r₄].mergeSort le = [r₂, r₃, r₁, r₄] := by
    simp [List.mergeSort, List.MergeSort.Internal.splitInTwo_fst, List.MergeSort.Internal.splitInTwo_snd, hle]
  have hselect : q.select? = some [r₂, r₃, r₁, r₄] := by
    have hordered : q.select? = some ([r₁, r₂, r₃, r₄].mergeSort le) :=
      q.selection?_eq.trans (ordered?_of_orders (orders_of_sortable hsortable))
    rw [hordered, hsort]
  obtain ⟨all, hall, -, hsorted, -, -, hwindow, hcount⟩ := select_stable_sort q hsortable
  obtain rfl : all = [r₂, r₃, r₁, r₄] := Option.some.inj (hall.symm.trans hselect)
  exact ⟨hsortable, hselect, hsorted, hwindow ⟨2, 1⟩, hcount q.orderings (some ⟨2, 1⟩)⟩

/-- A number, a text and a number are in no order, and stay where they are. -/
example : (((ofRows [Data.record [("a", .int 2)], .record [("a", .text "x")], .record [("a", .int 1)]]).orderBy "a"
    .ascending).select?.map fun rows => rows.map (Row.cell · "a")) =
      some [.number (.whole 2), .text "x", .number (.whole 1)] := by decide +kernel

end Query
end QueryGate
