import QueryGate.Proofs.Gate.Declared
import QueryGate.Proofs.Settings
import QueryGate.Proofs.Table.Page

/-! Paging through: the pages of a request, from the first to the last, hold the whole selection between them, every row
once and in its place. -/
namespace QueryGate
namespace Gate

section Request

variable {B : Type} {g : Gate B} {raw : RawParams} {v : RawValue} {n : Nat}

theorem currentPage_toNat (hp : g.params = raw.parse g.settings.scalars)
    (hget : raw.get? g.settings.pageParam = some v) (hv : v.Spells n) (hdefault : g.settings.defaultPage ≤ 1)
    (hn : 1 ≤ n) : g.currentPage.toNat = n := by
  obtain ⟨i, hi, hin⟩ := RawParams.first?_parse hget hv g.settings.scalars
  rw [← hp] at hi
  exact g.settings.max_page_toNat hdefault hi hin hn

theorem perPage_toNat (hp : g.params = raw.parse g.settings.scalars)
    (hget : raw.get? g.settings.perPageParam = some v) (hv : v.Spells n) (hmin : g.settings.minPerPage.toNat ≤ n)
    (hmax : n ≤ g.settings.maxPerPage.toNat) : g.perPage.toNat = n := by
  obtain ⟨i, hi, hin⟩ := RawParams.first?_parse hget hv g.settings.scalars
  rw [← hp] at hi
  exact g.settings.perPage_toNat hi hin hmin hmax

/-- Which page is asked for makes no difference to the backend. -/
theorem backend_filter_insert_page (hp : g.params = raw.parse g.settings.scalars) (v : RawValue) :
    (filter { g with
        params := RawParams.parse g.settings.scalars (raw.insert g.settings.pageParam v) }).2.progress.backend =
      g.filter.2.progress.backend := by
  have hkeep : OrderedMap.keep (RawParams.parse g.settings.scalars (raw.insert g.settings.pageParam v))
      (fun key => !g.settings.isPaging key) = g.params.keep fun key => !g.settings.isPaging key := by
    rw [hp, RawParams.parse, RawParams.parse, ← OrderedMap.mapValues_keep, ← OrderedMap.mapValues_keep,
      OrderedMap.keep_insert (by simp [Settings.isPaging])]
  obtain ⟨r, hr⟩ := g.filter_of_keep_not_paging hkeep
  rw [hr]
  rfl

theorem backend_filter_registerAll_insert_page (b : B) (catalog : Catalog B) (settings : Settings)
    (ds : List Declaration) (raw : RawParams) (v : RawValue) :
    ((ofRaw b catalog (raw.insert settings.pageParam v) settings).registerAll ds).filter.2.progress.backend =
      ((ofRaw b catalog raw settings).registerAll ds).filter.2.progress.backend := by
  obtain ⟨allowed, hraw⟩ := exists_allowed b catalog settings ds
  rw [hraw, hraw]
  exact backend_filter_insert_page (g := ⟨catalog, raw.parse settings.scalars, settings, ⟨b, allowed, []⟩⟩) rfl v

end Request

variable {R : Type} [Row R]

/-- No sum is stopped on the pages that there are. -/
theorem pageOf_rows_of_le_last {g : Gate (Query R)} {all : List R} {p size : Nat}
    (hsize : all.length < UInt64.size) (hcurrent : g.currentPage.toNat = p) (hper : g.perPage.toNat = size)
    (hpos : 1 ≤ size) (hp : 1 ≤ p) (hlast : p ≤ (all.length + size - 1) / size) :
    (g.pageOf all).rows = (all.drop ((p - 1) * size)).take size := by
  have hlt : (p - 1) * size < all.length := mul_lt_of_lt_ceil hpos (by omega)
  have hskipped : (PageInfo.skipped g.currentPage g.perPage).toNat = (p - 1) * size := by
    rw [PageInfo.skipped_toNat _ _ (by rwa [hcurrent]), hcurrent, hper]
    omega
  rw [pageOf, hskipped, hper]

theorem pageOf_lastPage {g : Gate (Query R)} {all : List R} {size : Nat}
    (h : g.progress.backend.selection? = some all) (hrows : g.progress.backend.rows.length < UInt64.size)
    (hper : g.perPage.toNat = size) (hsize : 1 ≤ size) :
    (g.pageOf all).info.lastPage.toNat = (all.length + size - 1) / size := by
  have hlast : (g.pageOf all).info.lastPage.toNat = _ := PageInfo.lastPage_of_toNat (by rwa [hper])
  rw [hlast, hper]
  exact congrArg (fun n => (n + size - 1) / size) (pageOf_total h hrows)

section Registered

variable (q : Query R) (raw : RawParams) (settings : Settings) (ds : List Declaration)

theorem catalog_registerAll :
    ((ofRaw q .standard raw settings).registerAll ds).catalog = .standard := by
  rw [registerAll_eq]
  rfl

theorem rows_filter_registerAll :
    ((ofRaw q .standard raw settings).registerAll ds).filter.2.progress.backend.rows = q.rows := by
  rw [rows_filter_standard (catalog_registerAll q raw settings ds), registerAll_eq]
  rfl

variable {q raw settings ds} {all : List R}
  (hall : ((ofRaw q .standard raw settings).registerAll ds).filter.2.progress.backend.selection? = some all)
include hall

theorem selection?_insert_page (v : RawValue) :
    ((ofRaw q .standard (raw.insert settings.pageParam v) settings).registerAll ds).filter.2.progress.backend.selection? =
      some all := by
  rw [backend_filter_registerAll_insert_page]
  exact hall

/-- Whatever page is asked for, it is cut out of the same rows. -/
theorem paginate_insert_page (v : RawValue) :
    let g := (ofRaw q .standard (raw.insert settings.pageParam v) settings).registerAll ds
    g.paginate.1 = .ok (g.filter.2.pageOf all) :=
  paginate_of_selection? (catalog_registerAll ..) (selection?_insert_page hall v)

theorem length_lt_of_registerAll (hrows : q.rows.length < UInt64.size) : all.length < UInt64.size := by
  have hle := Query.length_selection?_le hall
  rw [rows_filter_registerAll] at hle
  exact Nat.lt_of_le_of_lt hle hrows

end Registered

/-- Paging through loses and repeats nothing. Whatever page is asked for, the query is the same. Only its sort may give
up, and then every page ends in a panic; where the orderings put the rows in order it does not. Otherwise the total and the
number of the last page are the same too. If the pages up to the last one are asked for by their numbers, the rows of all
of them one behind the other are the whole selection; every page is full but for the last one, which is not empty. There
are no more rows than 64 bits can count, and no larger page numbers than an argument can hold. -/
theorem paginate_through (q : Query R) (raw : RawParams) (settings : Settings) (ds : List Declaration) (size : Nat)
    (submitted : Nat → RawValue) (hrows : q.rows.length < UInt64.size) (hdefault : settings.defaultPage ≤ 1)
    (hparams : settings.pageParam ≠ settings.perPageParam)
    (hsize : ∃ v, raw.get? settings.perPageParam = some v ∧ v.Spells size) (hpos : 1 ≤ size)
    (hmin : settings.minPerPage.toNat ≤ size) (hmax : size ≤ settings.maxPerPage.toNat) :
    let base := (ofRaw q .standard raw settings).registerAll ds
    let gate := fun v => (ofRaw q .standard (raw.insert settings.pageParam v) settings).registerAll ds
    let final := base.filter.2.progress.backend
    let selection := { final with window := none }.select?
    (∀ v, (gate v).filter.2.progress.backend = final) ∧
    (Orders (Query.compareRows final.orderings) final.matched → ∃ all, selection = some all) ∧
    (selection = none → ∀ v, (gate v).paginate.1 = .error (.backend .fetch .panic)) ∧
    ∀ all, selection = some all →
      let last := (all.length + size - 1) / size
      (∀ v, ∃ page, (gate v).paginate.1 = .ok page ∧ page.info.total.toNat = all.length ∧
        page.info.lastPage.toNat = last) ∧
      ((∀ p, 1 ≤ p → p ≤ last → (submitted p).Spells p) →
        ∃ page : Nat → Page R,
          (∀ p, 1 ≤ p → p ≤ last →
            (gate (submitted p)).paginate.1 = .ok (page p) ∧
              (page p).info.page.toNat = p ∧ (page p).info.perPage.toNat = size ∧
              1 ≤ (page p).rows.length ∧ (page p).rows.length ≤ size ∧ (p < last → (page p).rows.length = size)) ∧
          (List.range' 1 last).flatMap (fun p => (page p).rows) = all) := by
  intro base gate final selection
  obtain ⟨given, hgiven, hspells⟩ := hsize
  obtain ⟨allowed, hraw⟩ := exists_allowed q .standard settings ds
  have hgate : ∀ v, gate v = _ := fun v => hraw (raw.insert settings.pageParam v)
  have hfinal : ∀ v, (gate v).filter.2.progress.backend = final :=
    backend_filter_registerAll_insert_page q .standard settings ds raw
  refine ⟨hfinal, fun horders => ?_, fun hnone v => ?_, fun all hall => ?_⟩
  · exact ⟨_, final.selection?_eq.trans (Query.ordered?_of_orders horders)⟩
  · exact paginate_of_selection?_none (catalog_registerAll ..) (by rw [hfinal]; exact hnone)
  intro last
  have hselection : ∀ v, (gate v).filter.2.progress.backend.selection? = some all := selection?_insert_page hall
  have hpaginate : ∀ v, (gate v).paginate.1 = .ok ((gate v).filter.2.pageOf all) := paginate_insert_page hall
  have hlength : all.length < UInt64.size := length_lt_of_registerAll hall hrows
  have hcount : ∀ v, (gate v).filter.2.progress.backend.rows.length < UInt64.size := by
    intro v
    rw [rows_filter_registerAll]
    exact hrows
  have hper : ∀ v, (gate v).filter.2.perPage.toNat = size := by
    intro v
    have hget : (raw.insert settings.pageParam v).get? settings.perPageParam = some given := by
      rw [OrderedMap.get?_insert, if_neg hparams.symm]
      exact hgiven
    rw [hgate]
    exact perPage_toNat rfl hget hspells hmin hmax
  refine ⟨fun v => ⟨_, hpaginate v, ?_, ?_⟩, fun hsubmitted => ?_⟩
  · exact pageOf_total (hselection v) (hcount v)
  · exact pageOf_lastPage (hselection v) (hcount v) (hper v) hpos
  have hcurrent : ∀ p, 1 ≤ p → p ≤ last → (gate (submitted p)).filter.2.currentPage.toNat = p := by
    intro p hp hle
    have hget : (raw.insert settings.pageParam (submitted p)).get? settings.pageParam = some (submitted p) := by
      rw [OrderedMap.get?_insert, if_pos rfl]
    rw [hgate]
    exact currentPage_toNat rfl hget (hsubmitted p hp hle) hdefault hp
  have hwindow : ∀ p, 1 ≤ p → p ≤ last →
      ((gate (submitted p)).filter.2.pageOf all).rows = (all.drop ((p - 1) * size)).take size := fun p hp hle =>
    pageOf_rows_of_le_last hlength (hcurrent p hp hle) (hper (submitted p)) hpos hp hle
  refine ⟨fun p => (gate (submitted p)).filter.2.pageOf all, fun p hp hle => ?_, ?_⟩
  · have hlength := length_window all hpos hp hle
    rw [← hwindow p hp hle] at hlength
    exact ⟨hpaginate _, hcurrent p hp hle, hper _, hlength⟩
  · calc (List.range' 1 last).flatMap (fun p => ((gate (submitted p)).filter.2.pageOf all).rows)
        = (List.range' 1 last).flatMap fun p => (all.drop ((p - 1) * size)).take size := by
          refine List.flatMap_congr fun p hp => ?_
          rw [List.mem_range'_1] at hp
          exact hwindow p hp.1 (by omega)
      _ = all := flatMap_windows all hpos

/-- Three rows, two on a page. The size comes in brackets, the first page as a number and the second one as its
digits; the request itself asks for a page in no well-formed way. -/
theorem paginate_through_two_pages :
    let q : Query Data := .ofRows [.map [], .map [], .map []]
    let raw : RawParams := .ofList [("page", .text "["), ("perPage", .text "[2]"), ("where", .text "[age, <>, 3]")]
    let submitted := fun p : Nat =>
      if p = 1 then RawValue.scalar (.int 1) else .text (String.ofList (Nat.toDigits 10 p))
    let gate := fun v => (ofRaw q .standard (raw.insert "page" v) {}).registerAll []
    let final := ((ofRaw q .standard raw {}).registerAll []).filter.2.progress.backend
    q.rows.length < UInt64.size ∧ (∃ v, raw.get? "perPage" = some v ∧ v.Spells 2) ∧
      { final with window := none }.select? = some final.matched ∧ final.count = 3 ∧
      (∀ p, 1 ≤ p → p ≤ 2 → (submitted p).Spells p) ∧
      ∃ page : Nat → Page Data, (gate (submitted 1)).paginate.1 = .ok (page 1) ∧
        (gate (submitted 2)).paginate.1 = .ok (page 2) ∧ (page 1).rows.length = 2 ∧
        (page 1).rows ++ (page 2).rows = final.matched := by
  intro q raw submitted gate final
  have htwo : Decimal 2 ['2'] := Decimal.toDigits (n := 2) (by decide)
  have hsize : ∃ v, raw.get? "perPage" = some v ∧ v.Spells 2 := ⟨.text "[2]", rfl, .text (.bracketed htwo)⟩
  have hspells : ∀ p, 1 ≤ p → p ≤ 2 → (submitted p).Spells p := by
    intro p hp hle
    by_cases h1 : p = 1
    · subst h1
      exact .number 1 rfl
    · simp only [submitted, if_neg h1]
      exact .text (.bare (Decimal.toDigits (Nat.le_trans hle (by decide))))
  have horderings : final.orderings.isEmpty = true := by decide +kernel
  have hselection : final.selection? = some final.matched := final.selection?_eq.trans (if_pos horderings)
  have hcount : final.count = 3 := by decide +kernel
  obtain ⟨-, -, -, h⟩ := paginate_through q raw {} [] 2 submitted (by decide) (by decide) (by decide) hsize (by decide)
    (by decide) (by decide)
  have hpages := (h final.matched hselection).2
  rw [show final.matched.length = 3 from hcount] at hpages
  obtain ⟨page, hpage, hrows⟩ := hpages hspells
  obtain ⟨hfirst, -, -, -, -, hfull⟩ := hpage 1 (by decide) (by decide)
  obtain ⟨hsecond, -⟩ := hpage 2 (by decide) (by decide)
  refine ⟨by decide, hsize, hselection, hcount, hspells, page, hfirst, hsecond, hfull (by decide), ?_⟩
  rw [← List.append_nil (page 2).rows]
  exact hrows

/-- Paging through rows that are sorted by a column of numbers with a text among them ends at the first page. -/
theorem paginate_first_page_panics :
    let raw : RawParams := .ofList [("sort", .text "[a,1]"), ("perPage", .text "7")]
    let gate := fun v => (ofRaw (Query.ofRows mixedRows) .standard (raw.insert "page" v) {}).registerAll []
    mixedRows.length < UInt64.size ∧ (∃ v, raw.get? "perPage" = some v ∧ v.Spells 7) ∧
      (RawValue.text "1").Spells 1 ∧ (gate (.text "1")).paginate.1 = .error (.backend .fetch .panic) := by
  intro raw gate
  have hselection : (gate (.text "1")).filter.2.progress.backend.selection? = none := by decide +kernel
  exact ⟨by decide, ⟨.text "7", rfl, .text (.bare (Decimal.toDigits (n := 7) (by decide)))⟩,
    .text (.bare (Decimal.toDigits (n := 1) (by decide))), paginate_of_selection?_none rfl hselection⟩

end Gate
end QueryGate
