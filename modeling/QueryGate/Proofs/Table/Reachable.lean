import QueryGate.Proofs.Table.Paging

/-! Rows that can be paged to. A row behind the first page is on the page that its position gives; the first page itself is
there to be asked for only as the default. -/
namespace QueryGate

variable {R : Type}

/-- Whether a page has a row at its position in the whole selection, counted from zero. -/
def Page.Shows (page : Page R) (i : ℕ) (row : R) : Prop :=
  page.info.offset.toNat ≤ i ∧ page.rows[i - page.info.offset.toNat]? = some row

theorem Page.mem_rows_iff {page : Page R} {row : R} : row ∈ page.rows ↔ ∃ i, page.Shows i row := by
  rw [List.mem_iff_getElem?]
  constructor
  · rintro ⟨k, hk⟩
    exact ⟨page.info.offset.toNat + k, Nat.le_add_right _ _, by rwa [Nat.add_sub_cancel_left]⟩
  · rintro ⟨i, -, hi⟩
    exact ⟨_, hi⟩

theorem RawValue.exists_int_spells {n : ℕ} (h : n ≤ UInt64.size / 2 - 1) :
    ∃ i : Int64, (RawValue.scalar (.int i)).Spells n :=
  ⟨.ofInt n, .number _ (Decimal.toDigits h).toInt_ofInt⟩

namespace Gate

/-- A default behind the first page keeps the first page from being asked for. -/
theorem one_lt_currentPage {B : Type} {g : Gate B} (h : 1 < g.settings.defaultPage.toNat) : 1 < g.currentPage.toNat := by
  have hdefault : 1 < max g.settings.defaultPage.toNat 1 := Nat.lt_of_lt_of_le h (Nat.le_max_left _ _)
  have hpage := g.settings.max_page_toNat_eq (g.params.first? g.settings.pageParam)
  cases hsubmitted : (g.params.first? g.settings.pageParam).bind Arg.integer? with
  | none =>
    rw [hsubmitted] at hpage
    exact hpage ▸ hdefault
  | some i =>
    rw [hsubmitted] at hpage
    by_cases hi : 1 < i.toInt
    · have hlt : 1 < i.toInt.toNat := Int.lt_toNat.mpr hi
      simp only [if_pos hi] at hpage
      exact hpage ▸ hlt
    · simp only [if_neg hi] at hpage
      exact hpage ▸ hdefault

theorem currentPage_toNat_of_lt {B : Type} {g : Gate B} {raw : RawParams} {v : RawValue} {n : ℕ}
    (hp : g.params = raw.parse g.settings.scalars) (hget : raw.get? g.settings.pageParam = some v) (hv : v.Spells n)
    (hn : 1 < n) : g.currentPage.toNat = n := by
  obtain ⟨i, hi, hin⟩ := RawParams.first?_parse hget hv g.settings.scalars
  have hpage := g.settings.max_page_toNat_eq (g.params.first? g.settings.pageParam)
  rw [currentPage, hpage, hp, hi]
  dsimp only
  rw [if_pos (by omega), hin, Int.toNat_natCast]

/-- The size of a page does not depend on which page is asked for, if the two come under different names. -/
theorem perPage_insert_page {B : Type} (catalog : Catalog B) (settings : Settings) (p : Progress B)
    (h : settings.pageParam ≠ settings.perPageParam) (raw : RawParams) (v : RawValue) :
    perPage ⟨catalog, RawParams.parse settings.scalars (raw.insert settings.pageParam v), settings, p⟩ =
      perPage ⟨catalog, RawParams.parse settings.scalars raw, settings, p⟩ := by
  have hget : (RawParams.parse settings.scalars (raw.insert settings.pageParam v)).get? settings.perPageParam =
      (RawParams.parse settings.scalars raw).get? settings.perPageParam := by
    rw [RawParams.parse, RawParams.parse, OrderedMap.get?_mapValues, OrderedMap.get?_mapValues, OrderedMap.get?_insert,
      if_neg h.symm]
  simp only [perPage, Params.first?, Params.args?, hget]

variable [Row R]

/-- A page has the rows at the positions that its number and its size give, wherever its sums are stopped. -/
theorem shows_pageOf_iff {g : Gate (Query R)} {all : List R} (hsize : all.length < UInt64.size) (i : ℕ) (row : R) :
    (g.pageOf all).Shows i row ↔ all[i]? = some row ∧
      (g.currentPage.toNat - 1) * g.perPage.toNat ≤ i ∧
      i < (g.currentPage.toNat - 1) * g.perPage.toNat + g.perPage.toNat := by
  have hoffset : (g.pageOf all).info.offset.toNat + 1 = (g.pageOf all).info.first.toNat := PageInfo.offset_of_toNat ..
  have hfirst : (g.pageOf all).info.first.toNat = _ := PageInfo.first_of_toNat ..
  have hrows : (g.pageOf all).rows[i - (g.pageOf all).info.offset.toNat]? = _ := List.getElem?_take
  rw [Page.Shows, hrows, PageInfo.skipped_toNat _ _ g.one_le_currentPage, List.getElem?_drop]
  generalize (g.currentPage.toNat - 1) * g.perPage.toNat = front at hfirst ⊢
  by_cases hstop : front < UInt64.size - 1
  · have hfront : (g.pageOf all).info.offset.toNat = front := by omega
    have hskip : min front (UInt64.size - 1) = front := by omega
    rw [hfront, hskip]
    by_cases hin : front ≤ i
    · have hi : front + (i - front) = i := by omega
      rw [hi]
      by_cases hend : i - front < g.perPage.toNat
      · rw [if_pos hend]
        exact ⟨fun h => ⟨h.2, hin, by omega⟩, fun h => ⟨hin, h.1⟩⟩
      · rw [if_neg hend]
        exact iff_of_false (fun h => nomatch h.2) fun h => hend (by omega)
    · exact iff_of_false (fun h => hin h.1) fun h => hin h.2.1
  · -- there is no row behind the place at which a sum is stopped
    have hnone : ∀ k, all[min front (UInt64.size - 1) + k]? = none := fun k => List.getElem?_eq_none (by omega)
    refine iff_of_false (fun h => ?_) fun h => ?_
    · have hsome := h.2
      rw [hnone, ite_self] at hsome
      cases hsome
    · have hlt : i < all.length := (List.getElem?_eq_some_iff.mp h.1).1
      omega

/-- A row that is selected once is on the page of its position and on no other. -/
theorem mem_rows_pageOf_iff {g : Gate (Query R)} {all : List R} {k : ℕ} {row : R} (hsize : all.length < UInt64.size)
    (hnodup : all.Nodup) (hk : all[k]? = some row) :
    row ∈ (g.pageOf all).rows ↔ (g.currentPage.toNat - 1) * g.perPage.toNat ≤ k ∧
      k < (g.currentPage.toNat - 1) * g.perPage.toNat + g.perPage.toNat := by
  rw [Page.mem_rows_iff]
  constructor
  · rintro ⟨i, hi⟩
    obtain ⟨hrow, hin⟩ := (shows_pageOf_iff hsize i row).mp hi
    have hlt := (List.getElem?_eq_some_iff.mp hrow).1
    rwa [(List.getElem?_inj hlt hnodup).mp (hrow.trans hk.symm)] at hin
  · exact fun hin => ⟨k, (shows_pageOf_iff hsize k row).mpr ⟨hk, hin⟩⟩

/-- Which rows can be paged to, with the page and its size asked for under different names, of those that come out of the
sort; where the orderings put the rows in order it does not give up. A row behind the first page is on the page that its
position gives, however that number is submitted. A row of the first page is on page one, but that is taken only as the
default: with a default behind it, nothing that is submitted for the page leads there. -/
theorem paginate_reaches_row (q : Query R) (raw : RawParams) (settings : Settings) (ds : List Declaration)
    (hrows : q.rows.length < UInt64.size) (hparams : settings.pageParam ≠ settings.perPageParam) :
    let base := (ofRaw q .standard raw settings).registerAll ds
    let gate := fun v => (ofRaw q .standard (raw.insert settings.pageParam v) settings).registerAll ds
    let size := base.perPage.toNat
    let final := base.filter.2.progress.backend
    let selection := { final with window := none }.select?
    (Orders (Query.compareRows final.orderings) final.matched → ∃ all, selection = some all) ∧
    (1 ≤ size → ∀ all, selection = some all → ∀ (i : ℕ) (row : R), all[i]? = some row →
      (size ≤ i ∨ settings.defaultPage ≤ 1 →
        (∀ v : RawValue, v.Spells (i / size + 1) → ∃ page, (gate v).paginate.1 = .ok page ∧ page.Shows i row) ∧
        (i / size + 1 ≤ UInt64.size / 2 - 1 → ∃ n : Int64, (RawValue.scalar (.int n)).Spells (i / size + 1))) ∧
      (i < size → 1 < settings.defaultPage →
        ∀ v page, (gate v).paginate.1 = .ok page → ¬ page.Shows i row)) := by
  intro base gate size final selection
  refine ⟨fun horders => ⟨_, final.selection?_eq.trans (Query.ordered?_of_orders horders)⟩, ?_⟩
  intro hsize all hall i row hrow
  obtain ⟨allowed, hraw⟩ := exists_allowed q .standard settings ds
  have hgate : ∀ v, gate v = _ := fun v => hraw (raw.insert settings.pageParam v)
  have hbase : base = _ := hraw raw
  have hpaginate : ∀ v, (gate v).paginate.1 = .ok ((gate v).filter.2.pageOf all) := paginate_insert_page hall
  have hper : ∀ v, (gate v).filter.2.perPage.toNat = size := by
    intro v
    have hsame : (gate v).perPage = base.perPage := by
      rw [hgate, hbase]
      exact perPage_insert_page _ _ _ hparams raw v
    exact congrArg UInt64.toNat hsame
  have hcount : all.length < UInt64.size := length_lt_of_registerAll hall hrows
  have hshows : ∀ v, ((gate v).filter.2.pageOf all).Shows i row ↔
      ((gate v).filter.2.currentPage.toNat - 1) * size ≤ i ∧
        i < ((gate v).filter.2.currentPage.toNat - 1) * size + size := by
    intro v
    rw [shows_pageOf_iff hcount, hper]
    exact and_iff_right hrow
  refine ⟨fun hreach => ⟨fun v hv => ⟨_, hpaginate v, ?_⟩, fun hle => ?_⟩, fun hfirst hdefault v page hpage => ?_⟩
  · have hget : (raw.insert settings.pageParam v).get? settings.pageParam = some v := by
      rw [OrderedMap.get?_insert, if_pos rfl]
    have hcurrent : (gate v).filter.2.currentPage.toNat = i / size + 1 := by
      rw [hgate]
      rcases hreach with hbehind | hdefault
      · have hquotient : 1 ≤ i / size := (Nat.le_div_iff_mul_le hsize).mpr (by omega)
        exact currentPage_toNat_of_lt rfl hget hv (by omega)
      · exact currentPage_toNat rfl hget hv hdefault (Nat.le_add_left 1 _)
    rw [hshows, hcurrent, Nat.add_sub_cancel]
    exact ⟨Nat.div_mul_le_self i size, Nat.lt_div_mul_add hsize⟩
  · exact RawValue.exists_int_spells hle
  · obtain rfl : (gate v).filter.2.pageOf all = page := Except.ok.inj ((hpaginate v).symm.trans hpage)
    have hcurrent : 1 < (gate v).filter.2.currentPage.toNat := by
      rw [hgate]
      exact one_lt_currentPage hdefault
    have hfront : size ≤ ((gate v).filter.2.currentPage.toNat - 1) * size := Nat.le_mul_of_pos_left _ (by omega)
    rw [hshows]
    omega

/-- Two rows on a page and the second page as the default: the third row is on the page that its digits ask for, the
first one on none. -/
theorem paginate_reaches_row_behind_late_default :
    let q : Query Data := .ofRows [.map [(.text "a", .int 0)], .map [(.text "a", .int 1)], .map [(.text "a", .int 2)]]
    let raw : RawParams := .ofList [("orderBy", .text "[a]")]
    let settings : Settings := { defaultPage := 2, defaultPerPage := 2 }
    let gate := fun v => (ofRaw q .standard (raw.insert "page" v) settings).registerAll []
    q.rows.length < UInt64.size ∧ settings.pageParam ≠ settings.perPageParam ∧
      (∃ page, (gate (.text "2")).paginate.1 = .ok page ∧ page.Shows 2 (.map [(.text "a", .int 2)])) ∧
      ∀ v page, (gate v).paginate.1 = .ok page → ¬ page.Shows 0 (.map [(.text "a", .int 0)]) := by
  intro q raw settings gate
  have hsize : q.rows.length < UInt64.size := by decide
  have hparams : settings.pageParam ≠ settings.perPageParam := by decide
  have hselection : ((ofRaw q .standard raw settings).registerAll []).filter.2.progress.backend.selection? =
      some q.rows := rfl
  have h := (paginate_reaches_row q raw settings [] hsize hparams).2 (by decide) q.rows hselection
  have hspells : (RawValue.text "2").Spells 2 := .text (.bare (Decimal.toDigits (n := 2) (by decide)))
  have hplace : 2 / ((ofRaw q .standard raw settings).registerAll []).perPage.toNat + 1 = 2 := by decide
  have hthird := (h 2 (.map [(.text "a", .int 2)]) rfl).1 (.inl (by decide))
  have hfirst := (h 0 (.map [(.text "a", .int 0)]) rfl).2 (by decide) (by decide)
  rw [hplace] at hthird
  exact ⟨hsize, hparams, hthird.1 _ hspells, hfirst⟩

/-- Not every row can be paged to. With one row on a page and the second page as the default, no page has the first row;
with one name for the page and its size, none has the second. -/
theorem paginate_misses_rows :
    let first : Data := .map [(.text "a", .int 0)]
    let second : Data := .map [(.text "a", .int 1)]
    let q : Query Data := .ofRows [first, second]
    let raw : RawParams := .ofList []
    let late : Settings := { defaultPage := 2, defaultPerPage := 1 }
    let shared : Settings := { perPageParam := "page", defaultPerPage := 1 }
    let gate := fun settings raw => (ofRaw q .standard raw settings).registerAll []
    (∀ settings ∈ [late, shared], settings.minPerPage ≤ settings.maxPerPage ∧ (gate settings raw).perPage = 1 ∧
        { (gate settings raw).filter.2.progress.backend with window := none }.select? = some [first, second]) ∧
      (∀ v page, (gate late (raw.insert "page" v)).paginate.1 = .ok page → first ∉ page.rows) ∧
      ∀ v page, (gate shared (raw.insert "page" v)).paginate.1 = .ok page → second ∉ page.rows := by
  intro first second q raw late shared gate
  have hall : ∀ settings ∈ [late, shared],
      (gate settings raw).filter.2.progress.backend.selection? = some [first, second] := by
    rintro settings (_ | ⟨_, _ | ⟨_, ⟨⟩⟩⟩) <;> rfl
  have hmem : ∀ settings ∈ [late, shared], ∀ v page (k : ℕ) row,
      let g := gate settings (raw.insert settings.pageParam v)
      g.paginate.1 = .ok page → [first, second][k]? = some row → row ∈ page.rows →
      (g.currentPage.toNat - 1) * g.perPage.toNat ≤ k ∧
        k < (g.currentPage.toNat - 1) * g.perPage.toNat + g.perPage.toNat := by
    intro settings hsettings v page k row g hpage hk hrow
    obtain rfl : g.filter.2.pageOf [first, second] = page :=
      Except.ok.inj ((paginate_insert_page (hall settings hsettings) v).symm.trans hpage)
    have hnodup : [first, second].Nodup := by simp [first, second]
    exact (mem_rows_pageOf_iff (by decide) hnodup hk).mp hrow
  refine ⟨?_, fun v page hpage hrow => ?_, fun v page hpage hrow => ?_⟩
  · rintro settings (_ | ⟨_, _ | ⟨_, ⟨⟩⟩⟩) <;> exact ⟨by decide, by decide, rfl⟩
  · obtain ⟨hlow, hhigh⟩ := hmem late (by simp) v page 0 first hpage rfl hrow
    have hcurrent : 1 < (gate late (raw.insert late.pageParam v)).currentPage.toNat :=
      one_lt_currentPage (show 1 < late.defaultPage.toNat by decide)
    rcases Nat.mul_eq_zero.mp (Nat.le_zero.mp hlow) with hzero | hzero <;> omega
  · obtain ⟨hlow, hhigh⟩ := hmem shared (by simp) v page 1 second hpage rfl hrow
    have hcurrent := shared.max_page_toNat_eq ((gate shared (raw.insert "page" v)).params.first? "page")
    have hper := shared.perPage_toNat_eq ((gate shared (raw.insert "page" v)).params.first? "page")
    change (gate shared (raw.insert shared.pageParam v)).currentPage.toNat = _ at hcurrent
    change (gate shared (raw.insert shared.pageParam v)).perPage.toNat = _ at hper
    rw [hcurrent, hper] at hlow hhigh
    clear hcurrent hper
    generalize ((gate shared (raw.insert "page" v)).params.first? "page").bind Arg.integer? = submitted at hlow hhigh
    cases submitted with
    | none => exact absurd hhigh (by decide)
    | some i =>
      have hone : UInt64.toNat 1 = 1 := rfl
      have hhundred : UInt64.toNat 100 = 100 := rfl
      simp only [shared, hone, hhundred, Nat.max_self] at hlow hhigh
      by_cases hi : 1 < i.toInt
      · rw [if_pos hi] at hlow
        have hn : 2 ≤ i.toInt.toNat := by omega
        have hfront : 1 ≤ i.toInt.toNat - 1 := by omega
        split at hlow
        · have hmul := Nat.mul_le_mul hfront hn
          omega
        · omega
      · rw [if_neg hi] at hhigh
        split at hhigh <;> omega

end Gate
end QueryGate
