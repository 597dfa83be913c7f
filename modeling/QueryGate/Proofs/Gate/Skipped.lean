import QueryGate.Proofs.Table.Page

/-! Skipped parameters are inert. Where operations leave the backend as it is when they cannot use their arguments, a
request without the parameters that a pass skips gives the same page, and leaves the gate the same but for the
report. -/
namespace QueryGate

variable {B Row : Type} {catalog : Catalog B} {settings : Settings}

/-- Operations that leave the backend as it is whenever they cannot use their arguments. -/
def Operation.Clean (op : Operation B) : Prop :=
  ∀ args b e b' bad, (op.run args).run b = (.error e, b') → e.argument? = .ok bad → b' = b

def Catalog.Clean (c : Catalog B) : Prop := ∀ name op, c.get? name = some op → op.Clean

theorem Catalog.standard_clean (R : Type) [QueryGate.Row R] : (Catalog.standard : Catalog (Query R)).Clean := by
  intro name op h args b e b' bad hr _
  cases (Query.Step.answers_standard h args).2 with
  | takes s _ hrun =>
    rw [hrun] at hr
    cases hr
  | refuses _ _ hrun =>
    rw [hrun] at hr
    cases hr
    rfl

namespace Turn

/-- Whether a turn is reported as skipped. -/
def isSkipped (catalog : Catalog B) (settings : Settings) (t : Turn B) : Bool :=
  (t.recorded catalog settings).any fun o => !o.isApplied

theorem after_of_isSkipped (hc : catalog.Clean) {t : Turn B} (h : t.isSkipped catalog settings = true) :
    ∃ r, t.after catalog settings = (.ok (), t.before.reporting r) := by
  have he : Effect catalog settings t (t.after catalog settings) := t.effect_after
  generalize t.after catalog settings = r at he ⊢
  cases he with
  | page hv => simp [isSkipped, recorded, hv] at h
  | skip hv => exact ⟨_, rfl⟩
  | applied hv hr => simp [isSkipped, recorded, hv, hr, Outcome.isApplied] at h
  | refused hv hr hbad =>
    obtain ⟨-, -, hget, -, -⟩ := (t.verdict_eq_call_iff _ _).mp hv
    rw [hc _ _ hget _ _ _ _ _ hr hbad]
    exact ⟨_, rfl⟩
  | failed hv hr hbad => simp [isSkipped, recorded, hv, hr, hbad] at h

theorem filter_recorded (t : Turn B) :
    (t.recorded catalog settings).filter Outcome.isApplied =
      if t.isSkipped catalog settings then [] else t.recorded catalog settings := by
  rcases (t.recorded_cases : (t.succeeds catalog settings = true ∧ _) ∨ _) with ⟨-, hr⟩ | ⟨-, hr⟩
  · simp [isSkipped, hr, Outcome.isApplied]
  · rw [List.filter_eq_nil_iff.mpr (by simpa using hr), isSkipped]
    cases hs : t.recorded catalog settings with
    | nil => rfl
    | cons o os => simp [hr o (by simp [hs])]

/-- A page that is asked for by a well-formed value is never reported. -/
theorem isSkipped_of_page {t : Turn B} {args : Args} (hv : t.value = .ok args)
    (hp : settings.isPaging t.key = true) : t.isSkipped catalog settings = false := by
  simp [isSkipped, recorded, verdict, hv, hp]

end Turn

namespace Progress

/-- A pass over the parameters that were not skipped goes the same way, with the same things applied. -/
theorem run_unskipped (hc : catalog.Clean) {p : Progress B} {es : List (String × Parsed)}
    (hok : (run catalog settings p es).1 = .ok ()) (report : List Outcome) :
    run catalog settings (p.reporting report)
        (((turns catalog settings p es).filter fun t => !t.isSkipped catalog settings).map Turn.entry) =
      (.ok (), (run catalog settings p es).2.reporting (report ++
        ((turns catalog settings p es).flatMap (Turn.recorded catalog settings)).filter Outcome.isApplied)) := by
  induction es generalizing p report with
  | nil => simp [run, turns]
  | cons e rest ih =>
    let t : Turn B := ⟨e.1, e.2, p⟩
    rcases ha : t.after catalog settings with ⟨x | u, q⟩
    · rw [run_cons_of_error ha] at hok
      cases hok
    rw [run_cons_of_ok ha] at hok ⊢
    rw [turns_cons_of_ok ha, List.flatMap_cons, List.filter_append, Turn.filter_recorded]
    change run catalog settings _ (((t :: _).filter _).map _) = _
    cases hs : t.isSkipped catalog settings with
    | true =>
      -- a skipped turn leaves a longer report and nothing else, and no later turn reads the report
      obtain ⟨r, hr⟩ := Turn.after_of_isSkipped hc hs
      obtain rfl : q = p.reporting r := congrArg Prod.snd (ha.symm.trans hr)
      rw [List.filter_cons_of_neg (by simp [hs])]
      exact ih hok report
    | false =>
      have hr : (Turn.mk t.entry.1 t.entry.2 (p.reporting report)).after catalog settings =
          (.ok (), q.reporting (report ++ t.recorded catalog settings)) := by
        refine (t.after_reporting report).trans ?_
        rw [ha]
      rw [List.filter_cons_of_pos (by simp [hs]), List.map_cons, run_cons_of_ok hr, ih hok]
      simp [t]

end Progress

namespace Gate

/-- The parameters that the next pass does not report as skipped. -/
def unskippedParams (g : Gate B) : Params :=
  g.params.keep fun key => !tells g.filter.2.progress.report (fun o => !o.isApplied) key

theorem filter_unskippedParams {g : Gate B} (hc : g.catalog.Clean) (hok : g.filter.1 = .ok ()) :
    Gate.filter { g with params := g.unskippedParams } =
      (.ok (), { g with
        params := g.unskippedParams
        progress := g.filter.2.progress.reporting (g.filter.2.progress.report.filter Outcome.isApplied) }) := by
  have hentries : g.unskippedParams.entries = _ := entries_keep_tells hok not fun o => !o.isApplied
  refine filter_of_run ?_
  rw [hentries, report_filter]
  exact Progress.run_unskipped hc hok []

/-- What is left out of a parameter that asks for a page is no value that could be read. -/
theorem first?_unskippedParams {g : Gate B} (hok : g.filter.1 = .ok ()) {key : String}
    (hp : g.settings.isPaging key = true) : g.unskippedParams.first? key = g.params.first? key := by
  have hkeep : g.unskippedParams.get? key = _ := g.params.get?_keep _ key
  unfold Params.first? Params.args?
  rw [hkeep]
  cases hget : g.params.get? key with
  | none => simp
  | some value =>
    cases value with
    | error m => split <;> rename_i h <;> split at h <;> simp_all
    | ok args =>
      obtain ⟨pre, post, hmem, -⟩ := List.lookup_eq_some_iff.mp hget
      have hentry : (key, Except.ok args) ∈ g.turns.map Turn.entry := by
        rw [show g.turns.map Turn.entry = g.params.entries from (Progress.turns_of_run_ok hok).1, hmem]
        simp
      obtain ⟨t, ht, he⟩ := List.mem_map.mp hentry
      have hkey : t.key = key := congrArg Prod.fst he
      have hnot : t.isSkipped g.catalog g.settings = false := by
        rw [← hkey] at hp
        exact Turn.isSkipped_of_page (congrArg Prod.snd he) hp
      rw [Turn.isSkipped, ← tells_of_mem_turns ht, hkey] at hnot
      rw [hnot]
      rfl

/-- Skipped parameters are inert. Without the parameters that a pass reports as skipped, the request gives the same
page and leaves the same backend and the same budgets, and the report is what was applied before. It makes no
difference whether they are left out before or after their values are parsed. The standard operations over queries in
memory are clean. -/
theorem paginate_unskippedParams :
    (∀ (R : Type) [QueryGate.Row R], (Catalog.standard : Catalog (Query R)).Clean) ∧
    ∀ (B Row : Type) [Backend B Row] (g : Gate B) (page : Page Row), g.catalog.Clean → g.paginate.1 = .ok page →
      let rest : Gate B := { g with params := g.unskippedParams }
      let last := g.paginate.2.progress
      rest.paginate.1 = .ok page ∧
        rest.paginate.2.progress = { last with report := last.report.filter Outcome.isApplied } ∧
        ∀ raw : RawParams, g.params = raw.parse g.settings.scalars →
          rest.params = RawParams.parse g.settings.scalars
            (raw.keep fun key => !tells last.report (fun o => !o.isApplied) key) := by
  refine ⟨Catalog.standard_clean, ?_⟩
  intro B Row _ g page hc hpage rest last
  have hok : g.filter.1 = .ok () := filter_ok_of_paginate_ok hpage
  have hlast : last = g.filter.2.progress := congrArg progress g.paginate_snd
  have hfilter : rest.filter = _ := filter_unskippedParams hc hok
  have hrest : rest.paginate = _ := paginate_of_filter_ok (congrArg Prod.fst hfilter)
  have hfirst : ∀ key, g.settings.isPaging key = true → rest.params.first? key = g.params.first? key :=
    fun key => first?_unskippedParams hok
  rw [paginate_of_filter_ok hok] at hpage
  rw [hrest, hfilter, hlast]
  refine ⟨?_, rfl, ?_⟩
  · rw [← hpage]
    refine currentRows_congr rfl ?_ ?_
    · exact congrArg (max · 1) (congrArg g.settings.page (hfirst _ (by simp [Settings.isPaging])))
    · exact congrArg g.settings.perPage (hfirst _ (by simp [Settings.isPaging]))
  · intro raw hraw
    have hkeep : rest.params = OrderedMap.keep g.params fun key =>
        !tells g.filter.2.progress.report (fun o => !o.isApplied) key := rfl
    rw [hkeep, hraw]
    exact (OrderedMap.mapValues_keep _ raw _).symm

/-- A request with a parameter of every kind that is skipped: one that asks for a page in no well-formed way, an
unknown operation, one that is not declared, one whose arguments are rejected, one of another type than the operation
takes, and one over budget. -/
theorem paginate_unskippedParams_of_mixed_request :
    let params : Params := .ofList [("page", .error (.trailingEscape "[\\]")), ("drop", .ok []), ("orWhere", .ok []),
      ("where_1", .ok [.text "age"]), ("where_2", .ok [.int 1, .text ">", .int 30]),
      ("where_3", .ok [.text "age", .text ">", .int 30]), ("perPage", .ok [.int 5]),
      ("where_4", .ok [.text "age", .text ">", .int 40])]
    let g := (ofParams (Query.ofRows [Data.record [("age", .int 35)]]) .standard params {}).registerAll
      [⟨"where", List.replicate 3 (.single .any), some 1⟩]
    g.catalog.Clean ∧ g.unskippedParams.keys = ["where_3", "perPage"] ∧
      ∃ page, g.paginate.1 = .ok page ∧ page.info = .of 1 5 1 ∧
        (Gate.paginate { g with params := g.unskippedParams }).1 = .ok page := by
  intro params g
  obtain ⟨page, hpage⟩ := exists_paginate_of_orders (g := g) rfl (by decide +kernel)
  obtain ⟨hrest, -⟩ := paginate_unskippedParams.2 (Query Data) Data g page (Catalog.standard_clean Data) hpage
  refine ⟨Catalog.standard_clean Data, by decide +kernel, page, hpage, ?_, hrest⟩
  obtain ⟨all, -, rfl⟩ := (paginate_eq_ok_iff rfl).mp hpage
  change PageInfo.of g.filter.2.currentPage g.filter.2.perPage (UInt64.ofNat g.filter.2.progress.backend.count) = _
  decide +kernel

end Gate
end QueryGate
