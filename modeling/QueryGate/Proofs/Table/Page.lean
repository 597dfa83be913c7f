import QueryGate.Proofs.PageInfo
import QueryGate.Proofs.Table.Order
import QueryGate.Proofs.Table.Steps

/-! Pages of a query in memory: the rows of a page are those at the places that it names, in the whole selection. Where
the sort gives up there is no selection, and asking for a page ends in a panic. -/
namespace QueryGate

variable {R : Type}

namespace Query

variable [Row R]

theorem selection?_perm {q : Query R} {all : List R} (h : q.selection? = some all) : all.Perm q.matched :=
  perm_of_ordered? (q.selection?_eq.symm.trans h)

theorem length_selection? {q : Query R} {all : List R} (h : q.selection? = some all) : all.length = q.count :=
  (selection?_perm h).length_eq

theorem count_le (q : Query R) : q.count ≤ q.rows.length := List.length_filter_le _ _

theorem length_selection?_le {q : Query R} {all : List R} (h : q.selection? = some all) : all.length ≤ q.rows.length :=
  length_selection? h ▸ q.count_le

theorem run_fetch (q : Query R) : fetch.run q = (q.select?.elim (.error .panic) .ok, q) := by
  have hget : (get : Action Failure (Query R) (Query R)).run q = (.ok q, q) := rfl
  rw [fetch, Action.run_bind, hget]
  dsimp only
  cases q.select? <;> rfl

end Query

namespace Gate

variable [Row R]

/-- The page that is asked for, out of all rows that are selected. -/
def pageOf (g : Gate (Query R)) (all : List R) : Page R where
  rows := (all.drop (PageInfo.skipped g.currentPage g.perPage).toNat).take g.perPage.toNat
  info := .of g.currentPage g.perPage (UInt64.ofNat g.progress.backend.count)

theorem currentRows_eq (g : Gate (Query R)) :
    g.currentRows = g.progress.backend.selection?.elim (.error (.backend .fetch .panic)) fun all =>
      .ok (g.pageOf all) := by
  let window := g.progress.backend.limitOffset g.perPage (PageInfo.skipped g.currentPage g.perPage)
  have hstages : g.currentRows = ((Query.fetch.run window).1.mapError (GateError.backend .fetch)).bind fun rows =>
      .ok ⟨rows, .of g.currentPage g.perPage (UInt64.ofNat g.progress.backend.count)⟩ := rfl
  have hselect : window.select? = g.progress.backend.selection?.map (Query.Window.cut window.window) :=
    window.select?_eq
  rw [hstages, Query.run_fetch, hselect]
  cases g.progress.backend.selection? <;> rfl

/-- Nothing fails but the sort. -/
theorem paginate_standard {g : Gate (Query R)} (hc : g.catalog = .standard) :
    g.paginate.1 = g.filter.2.progress.backend.selection?.elim (.error (.backend .fetch .panic)) fun all =>
      .ok (g.filter.2.pageOf all) := by
  rw [paginate_of_filter_ok (filter_standard_ok hc), currentRows_eq]

theorem paginate_of_selection? {g : Gate (Query R)} (hc : g.catalog = .standard) {all : List R}
    (h : g.filter.2.progress.backend.selection? = some all) : g.paginate.1 = .ok (g.filter.2.pageOf all) := by
  rw [paginate_standard hc, h, Option.elim_some]

theorem paginate_of_selection?_none {g : Gate (Query R)} (hc : g.catalog = .standard)
    (h : g.filter.2.progress.backend.selection? = none) : g.paginate.1 = .error (.backend .fetch .panic) := by
  rw [paginate_standard hc, h, Option.elim_none]

theorem paginate_eq_ok_iff {g : Gate (Query R)} (hc : g.catalog = .standard) {page : Page R} :
    g.paginate.1 = .ok page ↔
      ∃ all, g.filter.2.progress.backend.selection? = some all ∧ g.filter.2.pageOf all = page := by
  rw [paginate_standard hc]
  cases g.filter.2.progress.backend.selection? <;> simp

theorem exists_paginate_of_orders {g : Gate (Query R)} (hc : g.catalog = .standard)
    (h : Orders (Query.compareRows g.filter.2.progress.backend.orderings) g.filter.2.progress.backend.matched) :
    ∃ page, g.paginate.1 = .ok page :=
  ⟨_, paginate_of_selection? hc ((Query.selection?_eq _).trans (Query.ordered?_of_orders h))⟩

theorem one_le_currentPage {B : Type} (g : Gate B) : 1 ≤ g.currentPage.toNat := by
  change 1 ≤ (if g.settings.page (g.params.first? g.settings.pageParam) ≤ 1 then (1 : UInt64) else _).toNat
  split
  · exact Nat.le_refl 1
  · rename_i h
    rw [UInt64.le_iff_toNat_le] at h
    exact Nat.le_of_not_le h

theorem rows_filter_standard {g : Gate (Query R)} (hc : g.catalog = .standard) :
    g.filter.2.progress.backend.rows = g.progress.backend.rows := by
  rw [backend_filter_standard hc, Query.Step.foldl_apply_eq]

theorem window_filter_standard {g : Gate (Query R)} (hc : g.catalog = .standard) :
    g.filter.2.progress.backend.window = g.progress.backend.window := by
  rw [backend_filter_standard hc, Query.Step.foldl_apply_eq]

theorem pageOf_total {g : Gate (Query R)} {all : List R} (h : g.progress.backend.selection? = some all)
    (hrows : g.progress.backend.rows.length < UInt64.size) : (g.pageOf all).info.total.toNat = all.length := by
  have hle := Query.length_selection?_le h
  rw [Query.length_selection? h] at hle ⊢
  exact UInt64.toNat_ofNat_of_lt' (by omega)

/-- The rows of a page and its place agree. Only the sort may give up, and then a panic ends the run; where the orderings
put the rows in order it does not. Otherwise a page is fetched, and nothing but the pass before it changes the gate. Its
rows are those from its first to its last place in the whole selection, none if it lies behind the last row. The
differences that are taken never fall below zero. -/
theorem paginate_rows_at_place (q : Query R) (params : Params) (settings : Settings) (allowed : Option AllowList)
    (report : List Outcome) (h : q.rows.length < UInt64.size - 1) :
    let g : Gate (Query R) := ⟨.standard, params, settings, ⟨q, allowed, report⟩⟩
    let final := g.filter.2.progress.backend
    let selection := { final with window := none }.select?
    g.filter.1 = .ok () ∧ g.paginate.2 = g.filter.2 ∧ final.window = q.window ∧ 1 ≤ g.currentPage ∧
    (Orders (Query.compareRows final.orderings) final.matched → ∃ all, selection = some all) ∧
    (selection = none → g.paginate.1 = .error (.backend .fetch .panic)) ∧
    ∀ all, selection = some all → ∃ page, g.paginate.1 = .ok page ∧
      page.info.total.toNat = all.length ∧ page.info.perPage = g.perPage ∧ page.info.page = g.currentPage ∧
      1 ≤ page.info.first ∧ page.info.offset.toNat + 1 = page.info.first.toNat ∧
      page.rows = page.info.rowsOf all ∧ page.rows.length = page.info.last.toNat + 1 - page.info.first.toNat := by
  intro g final selection
  have hc : g.catalog = .standard := rfl
  have hrows : final.rows = q.rows := rows_filter_standard hc
  have hordered : selection = final.ordered? := final.selection?_eq
  refine ⟨filter_standard_ok hc, g.paginate_snd, window_filter_standard hc, g.one_le_currentPage, fun horders => ?_,
    fun hnone => ?_, fun all hall => ?_⟩
  · exact ⟨_, hordered.trans (Query.ordered?_of_orders horders)⟩
  · exact paginate_of_selection?_none hc hnone
  have htotal : (g.filter.2.pageOf all).info.total.toNat = all.length := pageOf_total hall (by rw [hrows]; omega)
  have hsize : all.length < UInt64.size - 1 := by
    have hle : all.length ≤ final.rows.length := Query.length_selection?_le hall
    rw [hrows] at hle
    omega
  have hplace : (g.filter.2.pageOf all).rows = (g.filter.2.pageOf all).info.rowsOf all :=
    (PageInfo.rowsOf_of g.filter.2.one_le_currentPage htotal hsize).symm
  have hfirst : 1 ≤ (g.filter.2.pageOf all).info.first.toNat := PageInfo.one_le_first_of ..
  have hlast : (g.filter.2.pageOf all).info.last.toNat ≤ all.length := by
    have hmin : (g.filter.2.pageOf all).info.last.toNat = _ := PageInfo.last_of_toNat ..
    rw [hmin, ← htotal]
    exact Nat.min_le_right ..
  refine ⟨g.filter.2.pageOf all, paginate_of_selection? hc hall, htotal, rfl, rfl, hfirst, PageInfo.offset_of_toNat ..,
    hplace, ?_⟩
  rw [hplace, PageInfo.length_rowsOf _ _ hfirst hlast]

/-- The last page that can be named, of the largest size; the bounds leave no size to ask for. -/
theorem paginate_rows_at_place_of_largest_numbers :
    let q : Query Data := .ofRows [.map [], .map [], .map []]
    let settings : Settings := {
      defaultPage := 18446744073709551615
      defaultPerPage := 18446744073709551615
      minPerPage := 2
      maxPerPage := 1 }
    let params : Params := .ofList [("perPage", .ok [.int 3]), ("where", .ok [.text "age", .text "<>", .int 3])]
    let g : Gate (Query Data) := ⟨.standard, params, settings, ⟨q, none, []⟩⟩
    q.rows.length < UInt64.size - 1 ∧ ∃ page, g.paginate.1 = .ok page ∧
      page.info = ⟨18446744073709551615, 18446744073709551615, 1, 3, 18446744073709551615, 3⟩ ∧ page.rows = [] := by
  intro q settings params g
  have hsize : q.rows.length < UInt64.size - 1 := by decide
  have hselection : g.filter.2.progress.backend.selection? = some q.rows := rfl
  obtain ⟨-, -, -, -, -, -, hpages⟩ := paginate_rows_at_place q params settings none [] hsize
  obtain ⟨page, hpage, -, -, -, -, -, -, hlength⟩ := hpages q.rows hselection
  obtain rfl : g.filter.2.pageOf q.rows = page := Except.ok.inj ((paginate_of_selection? rfl hselection).symm.trans hpage)
  have hinfo : (g.filter.2.pageOf q.rows).info =
      ⟨18446744073709551615, 18446744073709551615, 1, 3, 18446744073709551615, 3⟩ := by decide +kernel
  rw [hinfo] at hlength
  exact ⟨hsize, _, hpage, hinfo, List.eq_nil_of_length_eq_zero hlength⟩

/-- Whole numbers and one text. -/
def mixedRows : List Data :=
  [.int 0, .int 1, .int 4, .int 5, .int 0, .int 8, .int 2, .text "x", .int 8, .int 1, .int 7, .int 0, .int 7, .int 9,
    .int 3, .int 3, .int 7, .int 4, .int 2, .int 5, .int 7].map fun v => .record [("a", v)]

/-- Sorting by a column with a text among its numbers gives up, so that there is no page. -/
theorem paginate_panics_of_mixed_column :
    let params : Params := .ofList [("sort", .ok [.text "a", .int 1])]
    let g : Gate (Query Data) := ⟨.standard, params, {}, ⟨.ofRows mixedRows, none, []⟩⟩
    mixedRows.length < UInt64.size - 1 ∧ g.paginate.1 = .error (.backend .fetch .panic) := by
  intro params g
  have hselection : g.filter.2.progress.backend.selection? = none := by decide +kernel
  exact ⟨by decide, paginate_of_selection?_none rfl hselection⟩

end Gate
end QueryGate
