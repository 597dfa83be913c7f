import QueryGate.Proofs.Gate.Alike
import QueryGate.Proofs.Table.Page

/-! Requests whose parameters come in another order. The turns of one operation see nothing of the others but the
query, and no operation looks at that before it answers: `run_under`. Requests that keep the order of the conditions and
the order of the sorting therefore come to the same query, with the same budgets and the same report. -/
namespace QueryGate

variable {R : Type} {settings : Settings}

/-- The parameters for some operations, in their order. -/
def under (names : List String) (es : List (String × Parsed)) : List (String × Parsed) :=
  es.filter fun e => decide (Operation.nameOf e.1 ∈ names)

theorem under_under_of_mem {name : String} (names : List String) (h : name ∈ names) (es : List (String × Parsed)) :
    under [name] (under names es) = under [name] es := by
  unfold under
  rw [List.filter_filter]
  refine List.filter_congr fun e _ => ?_
  by_cases he : Operation.nameOf e.1 = name
  · simp [he, h]
  · simp [he]

theorem under_filter (names : List String) (p : String × Parsed → Bool) (es : List (String × Parsed)) :
    under names (es.filter p) = (under names es).filter p := by
  unfold under
  rw [List.filter_filter, List.filter_filter]
  exact List.filter_congr fun e _ => Bool.and_comm ..

namespace Turn

variable [Row R]

/-- The standard operations answer without a look at the query. -/
theorem answer_congr (settings : Settings) {t u : Turn (Query R)} (hkey : t.key = u.key) (hvalue : t.value = u.value)
    (hgrant : t.before.grant t.name = u.before.grant t.name) :
    t.recorded Catalog.standard settings = u.recorded Catalog.standard settings ∧
      (t.after Catalog.standard settings).2.grant t.name = (u.after Catalog.standard settings).2.grant t.name := by
  have hverdict : t.verdict Catalog.standard settings = u.verdict Catalog.standard settings :=
    verdict_congr hkey hvalue hgrant
  have hname : t.name = u.name := congrArg Operation.nameOf hkey
  have hanswer : t.recorded Catalog.standard settings = u.recorded Catalog.standard settings ∧
      t.succeeds Catalog.standard settings = u.succeeds Catalog.standard settings := by
    unfold recorded succeeds
    rw [hverdict, hkey, hname]
    cases hv : u.verdict Catalog.standard settings with
    | page => exact ⟨rfl, rfl⟩
    | skip reason => exact ⟨rfl, rfl⟩
    | call op args =>
      cases answers_of_call hv with
      | takes s hs hr => simp [hr]
      | refuses e hs hr => simp [hr]
  refine ⟨hanswer.1, ?_⟩
  rw [grant_after, grant_after, hanswer.2, hgrant, hname]

end Turn

namespace Progress

variable [Row R]

/-- What a pass adds to the report. -/
def outcomes (settings : Settings) (p : Progress (Query R)) (es : List (String × Parsed)) : List Outcome :=
  (turns Catalog.standard settings p es).flatMap (Turn.recorded Catalog.standard settings)

theorem outcomes_cons (settings : Settings) (p : Progress (Query R)) (e : String × Parsed)
    (rest : List (String × Parsed)) :
    let t : Turn (Query R) := ⟨e.1, e.2, p⟩
    outcomes settings p (e :: rest) =
      t.recorded Catalog.standard settings ++ outcomes settings (t.after Catalog.standard settings).2 rest := by
  unfold outcomes
  rw [(run_cons_standard settings p e rest).2, List.flatMap_cons]

/-- The turns of one operation go as if the request had no other parameters, whatever query they find. -/
theorem run_under (settings : Settings) (name : String) {p q : Progress (Query R)} (h : p.grant name = q.grant name)
    (es : List (String × Parsed)) :
    (run Catalog.standard settings p es).2.grant name =
        (run Catalog.standard settings q (under [name] es)).2.grant name ∧
      (outcomes settings p es).filter (fun o => o.operation == name) = outcomes settings q (under [name] es) := by
  induction es generalizing p q with
  | nil => exact ⟨h, rfl⟩
  | cons e rest ih =>
    let t : Turn (Query R) := ⟨e.1, e.2, p⟩
    have hoperation : ∀ o ∈ t.recorded Catalog.standard settings, o.operation = Operation.nameOf e.1 :=
      fun o ho => (Turn.entry_of_mem_recorded ho).2
    rw [(run_cons_standard settings p e rest).1, outcomes_cons, List.filter_append]
    by_cases hn : Operation.nameOf e.1 = name
    · -- both passes have this turn, with the same grant and perhaps other queries
      subst hn
      have hunder : under [Operation.nameOf e.1] (e :: rest) = e :: under [Operation.nameOf e.1] rest :=
        List.filter_cons_of_pos (by simp)
      have hall : (t.recorded Catalog.standard settings).filter (fun o => o.operation == Operation.nameOf e.1) =
          t.recorded Catalog.standard settings :=
        List.filter_eq_self.mpr fun o ho => by simp [hoperation o ho]
      obtain ⟨hrecorded, hgrant⟩ := Turn.answer_congr settings (t := t) (u := ⟨e.1, e.2, q⟩) rfl rfl h
      obtain ⟨hlast, hrest⟩ := ih hgrant
      rw [hunder, (run_cons_standard settings q e _).1, outcomes_cons, hall, hrest]
      exact ⟨hlast, congrArg (· ++ _) hrecorded⟩
    · -- only the first pass has this turn, which neither records nor spends anything under the name
      have hunder : under [name] (e :: rest) = under [name] rest := List.filter_cons_of_neg (by simpa using hn)
      have hnone : (t.recorded Catalog.standard settings).filter (fun o => o.operation == name) = [] :=
        List.filter_eq_nil_iff.mpr fun o ho => by simpa [hoperation o ho] using hn
      have hgrant : (t.after Catalog.standard settings).2.grant name = q.grant name := by
        rw [t.grant_after, if_neg fun hs => hn hs.2]
        exact h
      rw [hunder, hnone]
      exact ih hgrant

/-- Without an operation of the name, nothing is granted or spent, and each turn stands for itself. -/
theorem run_of_get?_eq_none (settings : Settings) {name : String}
    (h : (Catalog.standard : Catalog (Query R)).get? name = none) (p : Progress (Query R)) (es : List (String × Parsed))
    (hes : ∀ e ∈ es, Operation.nameOf e.1 = name) :
    (run Catalog.standard settings p es).2.grant name = p.grant name ∧
      outcomes settings p es = es.flatMap fun e => Turn.recorded Catalog.standard settings ⟨e.1, e.2, p⟩ := by
  have hstep : ∀ t : Turn (Query R), t.before.grant name = p.grant name →
      (t.after Catalog.standard settings).2.grant name = p.grant name := by
    intro t ht
    rw [t.grant_after, if_neg, ht]
    rintro ⟨hs, rfl⟩
    obtain ⟨op, args, hv⟩ := Turn.exists_call_of_succeeds hs
    obtain ⟨-, -, hc, -⟩ := (t.verdict_eq_call_iff op args).mp hv
    rw [h] at hc
    cases hc
  obtain ⟨hlast, hturns⟩ := run_invariant (P := fun s => s.grant name = p.grant name) hstep rfl es
  have hentries : (turns Catalog.standard settings p es).map Turn.entry = es :=
    (turns_of_run_ok (run_standard_ok settings p es)).1
  refine ⟨hlast, ?_⟩
  conv_rhs => rw [← hentries, List.flatMap_map]
  refine List.flatMap_congr fun t ht => ?_
  have hname : t.name = name := hes t.entry (hentries ▸ List.mem_map_of_mem ht)
  exact (Turn.answer_congr settings (t := t) (u := ⟨t.key, t.value, p⟩) rfl rfl (by rw [hname]; exact hturns t ht)).1

section Order

variable {es es' : List (String × Parsed)} (hperm : es.Perm es')
  (hsame : ∀ name, ((Catalog.standard : Catalog (Query R)).get? name).isSome = true → under [name] es = under [name] es')
include hperm hsame

theorem run_perm_under (settings : Settings) (p : Progress (Query R)) (name : String) :
    (run Catalog.standard settings p es).2.grant name = (run Catalog.standard settings p es').2.grant name ∧
      ((outcomes settings p es).filter fun o => o.operation == name).Perm
        ((outcomes settings p es').filter fun o => o.operation == name) := by
  obtain ⟨hlast, houtcomes⟩ := run_under settings name (p := p) rfl es
  obtain ⟨hlast', houtcomes'⟩ := run_under settings name (p := p) rfl es'
  rw [hlast, hlast', houtcomes, houtcomes']
  cases hc : (Catalog.standard : Catalog (Query R)).get? name with
  | some op =>
    rw [hsame name (by rw [hc]; rfl)]
    exact ⟨rfl, List.Perm.refl _⟩
  | none =>
    have hname : ∀ es : List (String × Parsed), ∀ e ∈ under [name] es, Operation.nameOf e.1 = name :=
      fun es e he => by simpa [under] using (List.mem_filter.mp he).2
    obtain ⟨hkept, heach⟩ := run_of_get?_eq_none settings hc p _ (hname es)
    obtain ⟨hkept', heach'⟩ := run_of_get?_eq_none settings hc p _ (hname es')
    rw [hkept, hkept', heach, heach']
    exact ⟨rfl, (hperm.filter _).flatMap_right _⟩

/-- The reports are put together from those of the single operations. -/
theorem outcomes_perm (settings : Settings) (p : Progress (Query R)) :
    (outcomes settings p es).Perm (outcomes settings p es') := by
  refine List.perm_iff_count.mpr fun o => ?_
  have hcount : ∀ report : List Outcome,
      report.count o = (report.filter fun o' => o'.operation == o.operation).count o :=
    fun report => (List.count_filter (by simp)).symm
  rw [hcount (outcomes settings p es), hcount (outcomes settings p es')]
  exact (run_perm_under hperm hsame settings p o.operation).2.count_eq o

end Order

end Progress

/-- The steps of some kinds come from the parameters for their operations. -/
theorem filterMap_ofParam?_under {β : Type} {names : List String} {view : Query.Step → Option β}
    (h : ∀ s, (view s).isSome = true → s.operation ∈ names) (settings : Settings) (es : List (String × Parsed)) :
    (es.filterMap (Query.Step.ofParam? settings)).filterMap view =
      ((under names es).filterMap (Query.Step.ofParam? settings)).filterMap view := by
  unfold under
  rw [List.filterMap_filterMap, List.filterMap_filterMap, List.filterMap_filter]
  refine List.filterMap_congr fun e _ => ?_
  split
  · rfl
  · rename_i hnot
    cases hs : Query.Step.ofParam? settings e with
    | none => rfl
    | some s =>
      rw [Option.bind_some, ← Option.not_isSome_iff_eq_none]
      intro hview
      have hname : s.operation = Operation.nameOf e.1 := Query.Step.name_of_ofParam? hs
      exact hnot (by simpa [hname] using h s hview)

namespace Gate

theorem under_appliedParams {B : Type} {g g' : Gate B}
    (htells : tells g.filter.2.progress.report Outcome.isApplied = tells g'.filter.2.progress.report Outcome.isApplied)
    {names : List String} (h : under names g.params.entries = under names g'.params.entries) :
    under names g.appliedParams.entries = under names g'.appliedParams.entries := by
  change under names (g.params.entries.filter _) = under names (g'.params.entries.filter _)
  rw [under_filter, under_filter, h, htells]

variable [Row R]

/-- Conditions and sorting reach different parts of the query. -/
theorem backend_filter_of_under {g g' : Gate (Query R)} (hc : g.catalog = .standard) (hc' : g'.catalog = .standard)
    (hsettings : g.settings = g'.settings) (hquery : g.progress.backend = g'.progress.backend)
    (hconditions : under ["where", "orWhere"] g.appliedParams.entries =
      under ["where", "orWhere"] g'.appliedParams.entries)
    (hsorting : under ["sort"] g.appliedParams.entries = under ["sort"] g'.appliedParams.entries) :
    g.filter.2.progress.backend = g'.filter.2.progress.backend := by
  have hlinks : ∀ s : Query.Step, s.link?.isSome = true → s.operation ∈ ["where", "orWhere"] := by
    intro s hs
    cases s with
    | sort column d => cases hs
    | andWhere c => exact List.mem_cons_self
    | orWhere c => exact List.mem_cons_of_mem _ List.mem_cons_self
  have horderings : ∀ s : Query.Step, s.ordering?.isSome = true → s.operation ∈ ["sort"] := by
    intro s hs
    cases s with
    | sort column d => exact List.mem_cons_self
    | andWhere c => cases hs
    | orWhere c => cases hs
  rw [backend_filter_standard hc, backend_filter_standard hc', Query.Step.foldl_apply_eq, Query.Step.foldl_apply_eq,
    filterMap_ofParam?_under hlinks, filterMap_ofParam?_under horderings, hconditions, hsorting,
    ← filterMap_ofParam?_under hlinks, ← filterMap_ofParam?_under horderings, hsettings, hquery]

/-- A page is asked for in the same way wherever in the request that stands. -/
theorem currentRows_of_perm {B Row : Type} [Backend B Row] {g g' : Gate B} (hsettings : g.settings = g'.settings)
    (hperm : g.params.entries.Perm g'.params.entries) (hbackend : g.progress.backend = g'.progress.backend) :
    g.currentRows = g'.currentRows := by
  have hfirst : ∀ key, g.params.first? key = g'.params.first? key := by
    intro key
    simp only [Params.first?, Params.args?, OrderedMap.get?_congr hperm]
  refine currentRows_congr hbackend ?_ ?_
  · simp only [currentPage, hsettings, hfirst]
  · simp only [perPage, hsettings, hfirst]

/-- The order of the parameters matters within the conditions, and within the sorting, and nowhere else. Both requests end
in the same way, with a page wherever the orderings put the rows in order. -/
theorem paginate_interleaved (q : Query R) (settings : Settings) (allowed : Option AllowList) (report : List Outcome)
    {params params' : Params} (hperm : params.entries.Perm params'.entries)
    (hconditions : under ["where", "orWhere"] params.entries = under ["where", "orWhere"] params'.entries)
    (hsorting : under ["sort"] params.entries = under ["sort"] params'.entries) :
    let g : Gate (Query R) := ⟨.standard, params, settings, ⟨q, allowed, report⟩⟩
    let g' := { g with params := params' }
    g.filter.1 = .ok () ∧ g'.filter.1 = .ok () ∧
    g.filter.2.progress.backend = g'.filter.2.progress.backend ∧
    (∀ name, g.filter.2.remaining? name = g'.filter.2.remaining? name) ∧
    g.filter.2.progress.report.Perm g'.filter.2.progress.report ∧
    g.paginate.1 = g'.paginate.1 ∧
    (Orders (Query.compareRows g.filter.2.progress.backend.orderings) g.filter.2.progress.backend.matched →
      ∃ page, g.paginate.1 = .ok page) := by
  intro g g'
  -- the report comes first: what it tells picks the parameters that reach the query
  have hsame : ∀ name, ((Catalog.standard : Catalog (Query R)).get? name).isSome = true →
      under [name] params.entries = under [name] params'.entries := by
    intro name hname
    obtain ⟨op, hc⟩ := Option.isSome_iff_exists.mp hname
    rcases Catalog.cases_of_get?_standard hc with ⟨rfl, -⟩ | ⟨rfl, -⟩ | ⟨rfl, -⟩
    · rw [← under_under_of_mem ["where", "orWhere"] (by simp), hconditions, under_under_of_mem _ (by simp)]
    · rw [← under_under_of_mem ["where", "orWhere"] (by simp), hconditions, under_under_of_mem _ (by simp)]
    · exact hsorting
  have hreport : g.filter.2.progress.report.Perm g'.filter.2.progress.report := by
    rw [report_filter, report_filter]
    exact Progress.outcomes_perm hperm hsame settings g.fresh
  have htells : tells g.filter.2.progress.report Outcome.isApplied =
      tells g'.filter.2.progress.report Outcome.isApplied := funext fun key => hreport.any_eq
  have hbackend : g.filter.2.progress.backend = g'.filter.2.progress.backend :=
    backend_filter_of_under rfl rfl rfl rfl (under_appliedParams htells hconditions)
      (under_appliedParams htells hsorting)
  have hrows : g.filter.2.currentRows = g'.filter.2.currentRows := currentRows_of_perm rfl hperm hbackend
  have hok : g.filter.1 = .ok () := filter_standard_ok rfl
  have hok' : g'.filter.1 = .ok () := filter_standard_ok rfl
  refine ⟨hok, hok', hbackend, fun name => ?_, hreport, ?_, exists_paginate_of_orders rfl⟩
  · exact Progress.remaining?_congr (Progress.run_perm_under hperm hsame settings g.fresh name).1
  · rw [paginate_of_filter_ok hok, paginate_of_filter_ok hok', hrows]

/-- A request that sorts first and one that filters first. The budget for sorting is used up in both by the same
parameter, and one key is under no operation at all. -/
theorem paginate_interleaved_of_two_orders :
    let rows := [10, 20, 30, 40].map fun age : Int => Data.record [("age", .int age)]
    let sorting : List (String × Parsed) :=
      [("sort_1", .ok [.text "age", .int (-1)]), ("perPage", .ok [.int 2]), ("sort_2", .ok [.text "age", .int 1])]
    let filtering : List (String × Parsed) :=
      [("where", .ok [.text "age", .text ">", .int 10]), ("group", .ok []),
        ("orWhere", .ok [.text "age", .text "=", .int 10]), ("where_2", .ok [.text "age", .text "<", .int 10])]
    let any := fun n : Nat => List.replicate n (RuleSet.single .any)
    let allowed := ((AllowList.allow .empty "where" (any 3) 5).allow "orWhere" (any 3) 1).allow "sort" (any 2) 1
    let params : Params := .ofList (sorting ++ filtering)
    let params' : Params := .ofList (filtering ++ sorting)
    let g : Gate (Query Data) := ⟨.standard, params, {}, ⟨.ofRows rows, some allowed, []⟩⟩
    let g' := { g with params := params' }
    params.entries.Perm params'.entries ∧
      under ["where", "orWhere"] params.entries = under ["where", "orWhere"] params'.entries ∧
      under ["sort"] params.entries = under ["sort"] params'.entries ∧
      g.filter.2.progress.report.Perm g'.filter.2.progress.report ∧
      g.filter.2.progress.report.map Outcome.key = ["sort_1", "sort_2", "where", "group", "orWhere", "where_2"] ∧
      g'.filter.2.progress.report.map Outcome.key = ["where", "group", "orWhere", "where_2", "sort_1", "sort_2"] ∧
      g'.filter.2.progress.backend.orderings = [("age", .descending)] ∧ g'.filter.2.remaining? "where" = some 3 ∧
      ∃ page, g.paginate.1 = .ok page ∧ g'.paginate.1 = .ok page ∧ page.info.total = 3 := by
  intro rows sorting filtering any allowed params params' g g'
  have hentries : params.entries = sorting ++ filtering := OrderedMap.entries_ofList (by decide)
  have hentries' : params'.entries = filtering ++ sorting := OrderedMap.entries_ofList (by decide)
  have hperm : params.entries.Perm params'.entries := by
    rw [hentries, hentries']
    exact List.perm_append_comm
  have hconditions : under ["where", "orWhere"] params.entries = under ["where", "orWhere"] params'.entries := by
    rw [hentries, hentries']
    rfl
  have hsorting : under ["sort"] params.entries = under ["sort"] params'.entries := by
    rw [hentries, hentries']
    rfl
  obtain ⟨-, -, hbackend, hremaining, hreport, hsame, hexists⟩ :=
    paginate_interleaved (.ofRows rows) {} (some allowed) [] hperm hconditions hsorting
  obtain ⟨page, hpage⟩ := hexists (by decide +kernel)
  refine ⟨hperm, hconditions, hsorting, hreport, by decide +kernel, by decide +kernel, ?_, ?_, page, hpage,
    hsame.symm.trans hpage, ?_⟩
  · rw [← hbackend]
    decide +kernel
  · rw [← hremaining]
    decide +kernel
  · obtain ⟨all, -, rfl⟩ := (paginate_eq_ok_iff rfl).mp hpage
    change (PageInfo.of _ _ (UInt64.ofNat g.filter.2.progress.backend.count)).total = 3
    decide +kernel

end Gate
end QueryGate
