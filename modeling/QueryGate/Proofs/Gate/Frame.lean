import Mathlib.Data.List.Nodup
import QueryGate.Proofs.Gate.Pass
import QueryGate.Proofs.OrderedMap

/-! What a pass depends on, and what its report tells. A pass never reads what was reported before, and parameters that
ask for a page change nothing but the report. Since no two parameters have one key, the report tells of each key what
became of its turn. -/
namespace QueryGate

variable {B : Type} {catalog : Catalog B} {settings : Settings}

/-- The same progress with another report. -/
def Progress.reporting (p : Progress B) (report : List Outcome) : Progress B := { p with report }

/-- The same turn after another report. -/
def Turn.reporting (t : Turn B) (report : List Outcome) : Turn B := { t with before := t.before.reporting report }

namespace Turn

theorem after_of_call {t : Turn B} {op : Operation B} {args : Args} (h : t.verdict catalog settings = .call op args) :
    t.after catalog settings =
      match Progress.call op t.before t.key t.name args with
      | (.ok (), p) => (.ok (), p)
      | (.error f, p) => (.error (.operation t.name t.key f), p) := by
  obtain ⟨hv, hp, hc, hd, ha⟩ := (t.verdict_eq_call_iff op args).mp h
  obtain ⟨key, value, p⟩ := t
  subst hv
  change catalog.get? (Operation.nameOf key) = some op at hc
  change p.denial? (Operation.nameOf key) args = none at hd
  change settings.isPaging key = false at hp
  rcases hcall : Progress.call op p key (Operation.nameOf key) args with ⟨f | u, q⟩ <;>
    simp only [after, name, Progress.step, hp, Bool.false_eq_true, if_false, Progress.dispatch, hc, hd, ha, if_true,
      hcall]

/-- A turn ends in one way only. -/
theorem Effect.eq_after {t : Turn B} {r : Except GateError Unit × Progress B} (h : Effect catalog settings t r) :
    t.after catalog settings = r := by
  cases h with
  | page h =>
    have h' : Effect catalog settings t (t.after catalog settings) := t.effect_after
    generalize t.after catalog settings = r at h' ⊢
    cases h' <;> simp_all
  | skip h =>
    have h' : Effect catalog settings t (t.after catalog settings) := t.effect_after
    generalize t.after catalog settings = r at h' ⊢
    cases h' <;> simp_all
  | applied h hr => simp only [after_of_call h, Progress.call, hr]
  | refused h hr he => simp only [after_of_call h, Progress.call, hr, he]
  | failed h hr he => simp only [after_of_call h, Progress.call, hr, he]

theorem after_reporting (t : Turn B) (report : List Outcome) :
    (t.reporting report).after catalog settings =
      ((t.after catalog settings).1,
        (t.after catalog settings).2.reporting (report ++ t.recorded catalog settings)) := by
  have h : Effect catalog settings t (t.after catalog settings) := t.effect_after
  generalize t.after catalog settings = r at h ⊢
  cases h with
  | page h =>
    rw [Effect.eq_after (t := t.reporting report) (.page h)]
    simp only [recorded, h, List.append_nil]
    rfl
  | skip h =>
    rw [Effect.eq_after (t := t.reporting report) (.skip h)]
    simp only [recorded, h]
    rfl
  | applied h hr =>
    rw [Effect.eq_after (t := t.reporting report) (.applied h hr)]
    simp only [recorded, h, hr]
    rfl
  | refused h hr he =>
    rw [Effect.eq_after (t := t.reporting report) (.refused h hr he)]
    simp only [recorded, h, hr, he]
    rfl
  | failed h hr he =>
    rw [Effect.eq_after (t := t.reporting report) (.failed h hr he)]
    simp only [recorded, h, hr, he, List.append_nil]
    rfl

theorem entry_of_mem_recorded {t : Turn B} {o : Outcome} (h : o ∈ t.recorded catalog settings) :
    o.key = t.key ∧ o.operation = t.name := by
  unfold recorded at h
  split at h
  · cases h
  · obtain rfl := List.mem_singleton.mp h
    exact ⟨rfl, rfl⟩
  · split at h
    · obtain rfl := List.mem_singleton.mp h
      exact ⟨rfl, rfl⟩
    · split at h
      · obtain rfl := List.mem_singleton.mp h
        exact ⟨rfl, rfl⟩
      · cases h

/-- Success is what is recorded as applied. -/
theorem recorded_cases (t : Turn B) :
    (t.succeeds catalog settings = true ∧ t.recorded catalog settings = [⟨t.key, t.name, .applied⟩]) ∨
      (t.succeeds catalog settings = false ∧ ∀ o ∈ t.recorded catalog settings, o.isApplied = false) := by
  unfold succeeds recorded
  cases t.verdict catalog settings with
  | page => exact .inr ⟨rfl, by simp⟩
  | skip reason => exact .inr ⟨rfl, by simp [Outcome.isApplied]⟩
  | call op args =>
    rcases h : (op.run args).run t.before.backend with ⟨e | u, b⟩
    · refine .inr ⟨by simp [h, Except.isOk, Except.toBool], ?_⟩
      simp only [h]
      cases e.argument? <;> simp [Outcome.isApplied]
    · exact .inl ⟨by simp [h, Except.isOk, Except.toBool], by simp [h]⟩

theorem any_recorded (t : Turn B) :
    (t.recorded catalog settings).any Outcome.isApplied = t.succeeds catalog settings := by
  rcases t.recorded_cases with ⟨hs, hr⟩ | ⟨hs, hr⟩
  · rw [hs, hr]
    rfl
  · rw [hs]
    simpa using hr

theorem filter_flatMap_recorded (ts : List (Turn B)) :
    (ts.flatMap (recorded catalog settings)).filter Outcome.isApplied =
      (ts.filter (succeeds catalog settings)).map fun t => ⟨t.key, t.name, .applied⟩ := by
  induction ts with
  | nil => rfl
  | cons t rest ih =>
    rw [List.flatMap_cons, List.filter_append, ih]
    rcases t.recorded_cases with ⟨hs, hr⟩ | ⟨hs, hr⟩
    · rw [List.filter_cons_of_pos hs, hr]
      rfl
    · rw [List.filter_cons_of_neg (by simp [hs]), List.filter_eq_nil_iff.mpr (by simpa using hr), List.nil_append]

end Turn

/-- Whether a report has an outcome for a key that passes a test. -/
def tells (report : List Outcome) (test : Outcome → Bool) (key : String) : Bool :=
  report.any fun o => o.key == key && test o

namespace Progress

theorem run_reporting (p : Progress B) (report : List Outcome) (es : List (String × Parsed)) :
    run catalog settings (p.reporting report) es =
      ((run catalog settings p es).1,
        (run catalog settings p es).2.reporting
          (report ++ (turns catalog settings p es).flatMap (Turn.recorded catalog settings))) := by
  induction es generalizing p report with
  | nil => simp [run, turns]
  | cons e rest ih =>
    have hr : Turn.after catalog settings _ = _ := Turn.after_reporting ⟨e.1, e.2, p⟩ report
    rcases ha : (Turn.mk e.1 e.2 p).after catalog settings with ⟨x | u, q⟩
    · rw [ha] at hr
      rw [run_cons_of_error ha, turns_cons_of_error ha, run_cons_of_error hr]
      simp
    · rw [ha] at hr
      rw [run_cons_of_ok ha, turns_cons_of_ok ha, run_cons_of_ok hr, ih]
      simp

/-- Parameters that ask for a page make no difference, well-formed or not, but to the report. -/
theorem run_filter_not_paging (p : Progress B) (es : List (String × Parsed)) :
    ∃ r, run catalog settings p (es.filter fun e => !settings.isPaging e.1) =
      ((run catalog settings p es).1, (run catalog settings p es).2.reporting r) := by
  induction es generalizing p with
  | nil => exact ⟨p.report, rfl⟩
  | cons e rest ih =>
    by_cases hp : settings.isPaging e.1 = true
    · have ha : ∃ r, (Turn.mk e.1 e.2 p).after catalog settings = (.ok (), p.reporting r) := by
        obtain ⟨key, value⟩ := e
        cases value with
        | error m => exact ⟨_, Turn.Effect.eq_after (.skip rfl)⟩
        | ok args => exact ⟨p.report, Turn.Effect.eq_after (.page (by simp [Turn.verdict, hp]))⟩
      obtain ⟨r, ha⟩ := ha
      rw [run_cons_of_ok ha, run_reporting, List.filter_cons_of_neg (by simp [hp])]
      exact ih p
    · rw [List.filter_cons_of_pos (by simpa using hp)]
      rcases ha : (Turn.mk e.1 e.2 p).after catalog settings with ⟨x | u, q⟩
      · rw [run_cons_of_error ha, run_cons_of_error ha]
        exact ⟨q.report, rfl⟩
      · rw [run_cons_of_ok ha, run_cons_of_ok ha]
        exact ih q

theorem run_congr_not_paging (p : Progress B) {es fs : List (String × Parsed)}
    (h : (es.filter fun e => !settings.isPaging e.1) = fs.filter fun e => !settings.isPaging e.1) :
    ∃ r, run catalog settings p fs = ((run catalog settings p es).1, (run catalog settings p es).2.reporting r) := by
  obtain ⟨r, hr⟩ : ∃ r, run catalog settings p _ = _ := run_filter_not_paging p es
  obtain ⟨r', hr'⟩ : ∃ r, run catalog settings p _ = _ := run_filter_not_paging p fs
  rw [h, hr'] at hr
  have hfirst := congrArg Prod.fst hr
  have hsecond := congrArg (fun x : Except GateError Unit × Progress B =>
    x.2.reporting (run catalog settings p fs).2.report) hr
  exact ⟨(run catalog settings p fs).2.report, Prod.ext hfirst hsecond⟩

theorem nodup_turns_keys (p : Progress B) {es : List (String × Parsed)} (h : (es.map Prod.fst).Nodup) :
    ((turns catalog settings p es).map Turn.key).Nodup := by
  have hprefix : (turns catalog settings p es).map Turn.entry <+: es := turns_prefix p es
  have hk := hprefix.sublist.map Prod.fst
  rw [List.map_map] at hk
  exact h.sublist hk

theorem tells_of_mem_turns {p : Progress B} {es : List (String × Parsed)} (h : (es.map Prod.fst).Nodup) {t : Turn B}
    (ht : t ∈ turns catalog settings p es) (test : Outcome → Bool) :
    tells ((turns catalog settings p es).flatMap (Turn.recorded catalog settings)) test t.key =
      (t.recorded catalog settings).any test := by
  rw [Bool.eq_iff_iff, tells, List.any_eq_true, List.any_eq_true]
  constructor
  · rintro ⟨o, ho, hk⟩
    obtain ⟨u, hu, hou⟩ := List.mem_flatMap.mp ho
    simp only [Bool.and_eq_true, beq_iff_eq] at hk
    have hkey : u.key = t.key := (Turn.entry_of_mem_recorded hou).1.symm.trans hk.1
    obtain rfl : u = t := List.inj_on_of_nodup_map (nodup_turns_keys p h) hu ht hkey
    exact ⟨o, hou, hk.2⟩
  · rintro ⟨o, ho, hk⟩
    refine ⟨o, List.mem_flatMap.mpr ⟨t, ht, ho⟩, ?_⟩
    simp [(Turn.entry_of_mem_recorded ho).1, hk]

/-- The parameters of which a report tells something are those of the turns that recorded it. -/
theorem filter_tells {p : Progress B} {es : List (String × Parsed)} (h : (es.map Prod.fst).Nodup)
    (hok : (run catalog settings p es).1 = .ok ()) (f : Bool → Bool) (test : Outcome → Bool) :
    (es.filter fun e =>
        f (tells ((turns catalog settings p es).flatMap (Turn.recorded catalog settings)) test e.1)) =
      ((turns catalog settings p es).filter fun t => f ((t.recorded catalog settings).any test)).map Turn.entry := by
  have hentries := (turns_of_run_ok hok).1
  conv_lhs => rw [← hentries]
  rw [List.filter_map]
  congr 1
  refine List.filter_congr fun t ht => ?_
  rw [← tells_of_mem_turns h ht test, hentries]
  rfl

/-- A pass declares nothing. -/
theorem allowed_of_none {p : Progress B} (h : p.allowed = none) (es : List (String × Parsed)) :
    (run catalog settings p es).2.allowed = none ∧ ∀ t ∈ turns catalog settings p es, t.before.allowed = none := by
  refine run_invariant (P := fun p => p.allowed = none) (fun t ht => ?_) h es
  rw [t.after_allowed, ht]
  split <;> rfl

end Progress

namespace Gate

theorem report_filter (g : Gate B) :
    g.filter.2.progress.report = g.turns.flatMap (Turn.recorded g.catalog g.settings) := by
  have h := Progress.run_append Progress.report (Turn.recorded g.catalog g.settings) Turn.after_report g.fresh
    g.params.entries
  exact h

theorem filter_of_run {g : Gate B} {params : Params} {r : Except GateError Unit} {p : Progress B}
    (h : Progress.run g.catalog g.settings g.fresh params.entries = (r, p)) :
    Gate.filter { g with params } = (r, { g with params, progress := p }) :=
  congrArg (fun x : Except GateError Unit × Progress B => (x.1, (⟨g.catalog, params, g.settings, x.2⟩ : Gate B))) h

/-- Passes over requests that differ only in how they ask for a page differ only in their reports. -/
theorem filter_of_keep_not_paging (g : Gate B) {params : Params}
    (h : params.keep (fun key => !g.settings.isPaging key) = g.params.keep fun key => !g.settings.isPaging key) :
    ∃ r, Gate.filter { g with params } =
      (g.filter.1, { g with params, progress := g.filter.2.progress.reporting r }) := by
  have hentries : params.entries.filter _ = g.params.entries.filter _ := congrArg OrderedMap.entries h
  obtain ⟨r, hr⟩ : ∃ r, Progress.run g.catalog g.settings g.fresh params.entries = _ :=
    Progress.run_congr_not_paging g.fresh hentries.symm
  exact ⟨r, filter_of_run hr⟩

theorem tells_of_mem_turns {g : Gate B} {t : Turn B} (ht : t ∈ g.turns) (test : Outcome → Bool) :
    tells g.filter.2.progress.report test t.key = (t.recorded g.catalog g.settings).any test := by
  rw [report_filter]
  exact Progress.tells_of_mem_turns g.params.distinct ht test

theorem entries_keep_tells {g : Gate B} (hok : g.filter.1 = .ok ()) (f : Bool → Bool) (test : Outcome → Bool) :
    (g.params.keep fun key => f (tells g.filter.2.progress.report test key)).entries =
      (g.turns.filter fun t => f ((t.recorded g.catalog g.settings).any test)).map Turn.entry := by
  rw [report_filter]
  exact Progress.filter_tells g.params.distinct hok f test

/-- The parameters that the next pass applies. -/
def appliedParams (g : Gate B) : Params := g.params.keep (tells g.filter.2.progress.report Outcome.isApplied)

theorem mem_appliedParams (g : Gate B) (e : String × Parsed) :
    e ∈ g.appliedParams.entries ↔
      e ∈ g.params.entries ∧ tells g.filter.2.progress.report Outcome.isApplied e.1 = true :=
  List.mem_filter

/-- Passes over one request that apply the same parameters of each name apply the same parameters. -/
theorem appliedParams_ext {g h : Gate B} (hp : g.params = h.params)
    (hname : ∀ name, g.appliedParams.entries.filter (fun e => Operation.nameOf e.1 == name) =
      h.appliedParams.entries.filter fun e => Operation.nameOf e.1 == name) :
    g.appliedParams.entries = h.appliedParams.entries := by
  have hmem : ∀ e, e ∈ g.appliedParams.entries ↔ e ∈ h.appliedParams.entries := by
    intro e
    have he : e ∈ g.appliedParams.entries.filter (fun e' => Operation.nameOf e'.1 == Operation.nameOf e.1) ↔
        e ∈ h.appliedParams.entries.filter fun e' => Operation.nameOf e'.1 == Operation.nameOf e.1 := by
      rw [hname]
    simpa using he
  change g.params.entries.filter _ = h.params.entries.filter _
  rw [hp]
  refine List.filter_congr fun e he => ?_
  have hiff := hmem e
  rw [mem_appliedParams, mem_appliedParams, hp] at hiff
  rw [Bool.eq_iff_iff]
  exact and_congr_right_iff.mp hiff he

theorem entries_appliedParams {g : Gate B} (hok : g.filter.1 = .ok ()) :
    g.appliedParams.entries = (g.turns.filter (Turn.succeeds g.catalog g.settings)).map Turn.entry := by
  have h := entries_keep_tells hok id Outcome.isApplied
  simp only [id, Turn.any_recorded] at h
  exact h

theorem filter_isApplied_report {g : Gate B} (hok : g.filter.1 = .ok ()) :
    g.filter.2.progress.report.filter Outcome.isApplied =
      g.appliedParams.entries.map fun e => ⟨e.1, Operation.nameOf e.1, .applied⟩ := by
  rw [report_filter, Turn.filter_flatMap_recorded, entries_appliedParams hok, List.map_map]
  rfl

/-- A page is fetched after a pass that comes to its end, and on what that pass leaves. -/
theorem paginate_of_filter_ok {Row : Type} [Backend B Row] {g : Gate B} (h : g.filter.1 = .ok ()) :
    g.paginate = (g.filter.2.currentRows, g.filter.2) := by
  unfold paginate
  rcases hf : g.filter with ⟨e | u, g'⟩
  · rw [hf] at h
    cases h
  · rfl

theorem filter_ok_of_paginate_ok {Row : Type} [Backend B Row] {g : Gate B} {page : Page Row}
    (h : g.paginate.1 = .ok page) : g.filter.1 = .ok () := by
  unfold paginate at h
  rcases hf : g.filter with ⟨e | u, g'⟩
  · rw [hf] at h
    cases h
  · rfl

theorem currentRows_congr {Row : Type} [Backend B Row] {g h : Gate B} (hb : g.progress.backend = h.progress.backend)
    (hpage : g.currentPage = h.currentPage) (hper : g.perPage = h.perPage) : g.currentRows = h.currentRows := by
  simp only [currentRows, hb, hpage, hper]

end Gate
end QueryGate
