import Mathlib.Data.List.Basic
import QueryGate.Proofs.Gate.Account
import QueryGate.Proofs.Gate.Pass

/-! Outcomes. What a pass reports of a parameter is the first that applies of a list of reasons, each with a condition
of its own on the request, on the budgets with which the pass began, and on what was reported before. -/
namespace QueryGate

/-- The calls of an operation that a report tells of. -/
def applied (report : List Outcome) (name : String) : Nat :=
  report.countP fun o => o.isApplied && o.operation == name

@[simp] theorem applied_nil (name : String) : applied [] name = 0 := rfl

theorem applied_append (r s : List Outcome) (name : String) :
    applied (r ++ s) name = applied r name + applied s name :=
  List.countP_append

@[simp] theorem applied_singleton_skipped (key n : String) (reason : SkipReason) (name : String) :
    applied [⟨key, n, .skipped reason⟩] name = 0 := rfl

theorem applied_singleton_applied (key n name : String) :
    applied [⟨key, n, .applied⟩] name = if n = name then 1 else 0 := by
  by_cases h : n = name <;> simp [applied, Outcome.isApplied, h]

namespace Turn

variable {B : Type}

def args (t : Turn B) : Args :=
  match t.value with
  | .ok args => args
  | .error _ => []

/-- A malformed parameter asks for no page, whatever its key. -/
def asksForPage (settings : Settings) (t : Turn B) : Bool := t.value.isOk && settings.isPaging t.key

/-! The reasons against a call, from the most weighty to the least. `start` is the allow-list at the beginning of the
pass. -/

def malformed? (t : Turn B) : Option SkipReason :=
  match t.value with
  | .ok _ => none
  | .error m => some (.malformed m)

def unknown? (catalog : Catalog B) (t : Turn B) : Option SkipReason :=
  if (catalog.get? t.name).isSome then none else some .unknownOperation

def undeclared? (start : Option AllowList) (t : Turn B) : Option SkipReason :=
  start.bind fun l => if (l.get? t.name).isSome then none else some (.denied .notAllowed)

def exhausted? (start : Option AllowList) (t : Turn B) : Option SkipReason :=
  (start.bind (·.get? t.name)).bind fun a =>
    if a.remaining.toNat - applied t.before.report t.name = 0 then some (.denied .budgetExhausted) else none

def rejected? (start : Option AllowList) (t : Turn B) : Option SkipReason :=
  (start.bind (·.get? t.name)).bind fun a => (RuleSet.check? a.rules t.args).map fun v => .denied (.rejected v)

def misfit? (catalog : Catalog B) (t : Turn B) : Option SkipReason :=
  (catalog.get? t.name).bind fun op =>
    if t.args.length = op.arity then none else some (.badArguments (.arity op.arity t.args.length))

/-- The first of the reasons that applies. -/
def reason? (catalog : Catalog B) (start : Option AllowList) (t : Turn B) : Option SkipReason :=
  t.malformed? <|> t.unknown? catalog <|> t.undeclared? start <|> t.exhausted? start <|> t.rejected? start <|>
    t.misfit? catalog

/-- The answer of the operation, and the backend that it leaves, if nothing stands against a call. -/
def answer? (catalog : Catalog B) (settings : Settings) (start : Option AllowList) (t : Turn B) :
    Option (Except OperationError Unit × B) :=
  if t.asksForPage settings ∨ (t.reason? catalog start).isSome then none
  else (catalog.get? t.name).map fun op => (op.run t.args).run t.before.backend

def statusOf? : Except OperationError Unit → Option Status
  | .ok () => some .applied
  | .error (.argument e) => some (.skipped (.badArguments e))
  | .error (.validation v) => some (.skipped (.badArguments (.failed v)))
  | .error (.failure _) => none

def failureOf? : Except OperationError Unit → Option Failure
  | .error (.failure f) => some f
  | _ => none

def status? (catalog : Catalog B) (settings : Settings) (start : Option AllowList) (t : Turn B) : Option Status :=
  (t.reason? catalog start).map .skipped <|> (t.answer? catalog settings start).bind fun r => statusOf? r.1

/-- What the report says of a parameter. Of one that asks for a page it says nothing. -/
def outcome? (catalog : Catalog B) (settings : Settings) (start : Option AllowList) (t : Turn B) : Option Outcome :=
  if t.asksForPage settings then none else (t.status? catalog settings start).map (⟨t.key, t.name, ·⟩)

/-- The failure of the store at which a pass ends. -/
def failure? (catalog : Catalog B) (settings : Settings) (start : Option AllowList) (t : Turn B) : Option Failure :=
  (t.answer? catalog settings start).bind fun r => failureOf? r.1

def leaves (catalog : Catalog B) (settings : Settings) (start : Option AllowList) (t : Turn B) : B :=
  ((t.answer? catalog settings start).map Prod.snd).getD t.before.backend

end Turn

/-- A pass that began with `start` has spent what it reports as applied. -/
structure Spent (start : Option AllowList) (p : Progress B) : Prop where
  restricted : p.allowed.isSome = start.isSome
  accounted : Accounted (fun name => start.bind (·.get? name)) (applied p.report) p.allowed

variable {B : Type} {catalog : Catalog B} {settings : Settings} {start : Option AllowList}

namespace Turn

theorem applied_recorded (t : Turn B) (name : String) :
    applied (t.recorded catalog settings) name =
      if t.succeeds catalog settings = true ∧ t.name = name then 1 else 0 := by
  unfold recorded succeeds
  cases t.verdict catalog settings with
  | page => simp
  | skip reason => simp
  | call op args =>
    rcases hr : (op.run args).run t.before.backend with ⟨e | u, b⟩
    · cases h : e.argument? <;> simp [hr, h, Except.isOk, Except.toBool]
    · simp [hr, applied_singleton_applied, Except.isOk, Except.toBool]

theorem spent_after (catalog : Catalog B) (settings : Settings) {t : Turn B} (h : Spent start t.before) :
    Spent start (t.after catalog settings).2 := by
  have hc : ∀ name, applied (t.after catalog settings).2.report name = applied t.before.report name +
      if t.succeeds catalog settings = true ∧ t.name = name then 1 else 0 := by
    intro name
    rw [after_report, applied_append, applied_recorded]
  refine ⟨?_, ?_⟩
  · rw [after_allowed]
    split
    · simpa using h.restricted
    · exact h.restricted
  · rw [after_allowed]
    by_cases hs : t.succeeds catalog settings = true
    · rw [if_pos hs]
      obtain ⟨op, args, hv⟩ := exists_call_of_succeeds hs
      exact (h.accounted.spend t.name fun a ha => remaining_ne_zero_of_call hv ha).congr_spent fun n => by
        rw [hc]
        simp [hs]
    · rw [if_neg hs]
      exact h.accounted.congr_spent fun n => by
        rw [hc]
        simp [hs]

theorem denial?_map_denied {t : Turn B} (h : Spent start t.before) :
    (t.before.denial? t.name t.args).map SkipReason.denied =
      (t.undeclared? start <|> t.exhausted? start <|> t.rejected? start) := by
  unfold Progress.denial? undeclared? exhausted? rejected?
  cases start with
  | none =>
    have hn : t.before.allowed = none := by simpa using h.restricted
    simp [hn]
  | some l =>
    obtain ⟨l', hl⟩ := Option.isSome_iff_exists.mp h.restricted
    simp only [hl, Option.bind_some, AllowList.denial?]
    cases ha : l.get? t.name with
    | none =>
      have hb := h.accounted.undeclared t.name (by simpa using ha)
      simp only [hl, Option.bind_some] at hb
      simp [hb]
    | some a =>
      obtain ⟨b, hb, hr, hsum⟩ := h.accounted.declared t.name a (by simpa using ha)
      simp only [hl, Option.bind_some] at hb
      simp only [hb, hr, Option.bind_some, Option.isSome_some, if_true]
      have hz : b.remaining = 0 ↔ a.remaining.toNat - applied t.before.report t.name = 0 := by
        rw [← hsum, Nat.add_sub_cancel]
        exact ⟨fun e => by rw [e]; rfl, fun e => UInt32.toNat_inj.mp e⟩
      by_cases he : b.remaining = 0
      · simp [he, hz.mp he]
      · simp [he, mt hz.mpr he, Option.map_map, Function.comp_def]

theorem reason?_of_ok {t : Turn B} (h : Spent start t.before) {as : Args} (hv : t.value = .ok as) :
    t.reason? catalog start =
      (t.unknown? catalog <|> (t.before.denial? t.name as).map .denied <|> t.misfit? catalog) := by
  have hm : t.malformed? = none := by simp [malformed?, hv]
  have ha : t.args = as := by simp [args, hv]
  have hd := denial?_map_denied h
  rw [ha] at hd
  rw [reason?, hm, hd]
  cases t.unknown? catalog with
  | some r => rfl
  | none => cases t.undeclared? start <;> cases t.exhausted? start <;> rfl

theorem verdict_of_asksForPage {t : Turn B} (h : t.asksForPage settings = true) :
    t.verdict catalog settings = .page := by
  unfold asksForPage at h
  unfold verdict
  cases hv : t.value with
  | error m => simp [hv, Except.isOk, Except.toBool] at h
  | ok as => simp [hv, Except.isOk, Except.toBool] at h; simp [h]

theorem verdict_of_reason? {t : Turn B} (hs : Spent start t.before) (hp : t.asksForPage settings = false)
    {r : SkipReason} (hr : t.reason? catalog start = some r) : t.verdict catalog settings = .skip r := by
  unfold verdict
  cases hv : t.value with
  | error m =>
    simp only [reason?, malformed?, hv] at hr
    cases hr
    rfl
  | ok as =>
    have hpage : settings.isPaging t.key = false := by simpa [asksForPage, hv, Except.isOk, Except.toBool] using hp
    have ha : t.args = as := by simp [args, hv]
    rw [reason?_of_ok hs hv, unknown?, misfit?, ha] at hr
    cases hc : catalog.get? t.name with
    | none =>
      rw [hc] at hr
      cases hr
      simp [hpage]
    | some op =>
      cases hd : t.before.denial? t.name as with
      | some d =>
        rw [hc, hd] at hr
        cases hr
        simp [hpage, hd]
      | none =>
        by_cases hl : as.length = op.arity
        · simp [hc, hd, hl] at hr
        · simp only [hc, hd, Option.isSome_some, if_true, Option.map_none, Option.bind_some, if_neg hl] at hr
          cases hr
          simp [hpage, hd, hl]

theorem verdict_of_no_reason {t : Turn B} (hs : Spent start t.before) (hp : t.asksForPage settings = false)
    (hr : t.reason? catalog start = none) :
    ∃ op, catalog.get? t.name = some op ∧ t.verdict catalog settings = .call op t.args := by
  cases hv : t.value with
  | error m => simp [reason?, malformed?, hv] at hr
  | ok as =>
    have hpage : settings.isPaging t.key = false := by simpa [asksForPage, hv, Except.isOk, Except.toBool] using hp
    have ha : t.args = as := by simp [args, hv]
    rw [reason?_of_ok hs hv, unknown?, misfit?, ha] at hr
    cases hc : catalog.get? t.name with
    | none => simp [hc] at hr
    | some op =>
      have hd : t.before.denial? t.name as = none := by
        cases hd : t.before.denial? t.name as with
        | none => rfl
        | some d => simp [hc, hd] at hr
      have hl : as.length = op.arity := by
        refine Decidable.byContradiction fun hl => ?_
        simp [hc, hd, hl] at hr
      rw [ha]
      exact ⟨op, rfl, (t.verdict_eq_call_iff op as).mpr ⟨hv, hpage, hc, hd, hl⟩⟩

/-- The three ways of a turn: it asks for a page, there is a reason to skip it, or its operation is called. -/
theorem answer?_cases (catalog : Catalog B) (settings : Settings) {t : Turn B} (hs : Spent start t.before) :
    (t.asksForPage settings = true ∧ t.verdict catalog settings = .page ∧ t.answer? catalog settings start = none) ∨
    (∃ r, t.asksForPage settings = false ∧ t.reason? catalog start = some r ∧
      t.verdict catalog settings = .skip r ∧ t.answer? catalog settings start = none) ∨
    ∃ op, t.asksForPage settings = false ∧ t.reason? catalog start = none ∧
      t.verdict catalog settings = .call op t.args ∧
      t.answer? catalog settings start = some ((op.run t.args).run t.before.backend) := by
  cases hp : t.asksForPage settings with
  | true => exact .inl ⟨rfl, verdict_of_asksForPage hp, by simp [answer?, hp]⟩
  | false =>
    cases hr : t.reason? catalog start with
    | some r => exact .inr (.inl ⟨r, rfl, rfl, verdict_of_reason? hs hp hr, by simp [answer?, hr]⟩)
    | none =>
      obtain ⟨op, hc, hv⟩ := verdict_of_no_reason hs hp hr
      exact .inr (.inr ⟨op, rfl, rfl, hv, by simp [answer?, hp, hr, hc]⟩)

theorem recorded_eq {t : Turn B} (hs : Spent start t.before) :
    t.recorded catalog settings = (t.outcome? catalog settings start).toList := by
  unfold recorded outcome? status?
  rcases answer?_cases catalog settings hs with ⟨hp, hv, ha⟩ | ⟨r, hp, hr, hv, ha⟩ | ⟨op, hp, hr, hv, ha⟩
  · rw [hv, hp]
    rfl
  · rw [hv, hp, hr]
    rfl
  · rw [hv, hp, hr, ha]
    rcases hrun : (op.run t.args).run t.before.backend with ⟨e | u, b⟩
    · cases e <;> simp [hrun, statusOf?, OperationError.argument?]
    · simp [hrun, statusOf?]

theorem left_eq (catalog : Catalog B) (settings : Settings) {t : Turn B} (hs : Spent start t.before) :
    t.left catalog settings = t.leaves catalog settings start := by
  unfold left leaves
  rcases answer?_cases catalog settings hs with ⟨hp, hv, ha⟩ | ⟨r, hp, hr, hv, ha⟩ | ⟨op, hp, hr, hv, ha⟩
  · rw [hv, ha]
    rfl
  · rw [hv, ha]
    rfl
  · rw [hv, ha]
    rfl

theorem after_fst_eq (catalog : Catalog B) (settings : Settings) {t : Turn B} (hs : Spent start t.before) :
    (t.after catalog settings).1 =
      match t.failure? catalog settings start with
      | none => .ok ()
      | some f => .error (.operation t.name t.key f) := by
  unfold failure?
  have h : Effect catalog settings t (t.after catalog settings) := t.effect_after
  generalize t.after catalog settings = r at h ⊢
  rcases answer?_cases catalog settings hs with ⟨hp, hv, ha⟩ | ⟨r, hp, hr, hv, ha⟩ | ⟨op, hp, hr, hv, ha⟩
  · rw [ha]
    cases h <;> simp_all
  · rw [ha]
    cases h <;> simp_all
  · rw [ha]
    cases h with
    | page h => simp [hv] at h
    | skip h => simp [hv] at h
    | applied h hrun =>
      rw [hv] at h
      cases h
      simp [hrun, failureOf?]
    | @refused _ _ _ e _ h hrun he =>
      rw [hv] at h
      cases h
      cases e <;> simp_all [failureOf?, OperationError.argument?]
    | @failed _ _ _ e _ h hrun he =>
      rw [hv] at h
      cases h
      cases e <;> simp_all [failureOf?, OperationError.argument?]

theorem outcome?_eq_none_iff (catalog : Catalog B) (settings : Settings) {t : Turn B} (hs : Spent start t.before) :
    t.outcome? catalog settings start = none ↔
      t.asksForPage settings = true ∨ (t.failure? catalog settings start).isSome = true := by
  unfold outcome? status? failure?
  rcases answer?_cases catalog settings hs with
    ⟨hp, -, -⟩ | ⟨r, hp, hr, -, ha⟩ | ⟨op, hp, hr, -, ha⟩
  · simp [hp]
  · simp [hp, hr, ha]
  · rw [hp, hr, ha]
    rcases hrun : (op.run t.args).run t.before.backend with ⟨e | u, b⟩
    · cases e <;> simp [statusOf?, failureOf?]
    · simp [statusOf?, failureOf?]

theorem outcome?_entry {t : Turn B} {o : Outcome} (h : t.outcome? catalog settings start = some o) :
    o.key = t.key ∧ o.operation = t.name := by
  unfold outcome? at h
  split at h
  · cases h
  · obtain ⟨s, -, rfl⟩ := Option.map_eq_some_iff.mp h
    exact ⟨rfl, rfl⟩

/-- Where no turn fails, the report has one line for each that does not ask for a page. -/
theorem lines_of_failure?_eq_none {ts : List (Turn B)}
    (h : ∀ t ∈ ts, Spent start t.before ∧ t.failure? catalog settings start = none) :
    (ts.filterMap (Turn.outcome? catalog settings start)).map (fun o => (o.key, o.operation)) =
      (ts.filter fun t => !t.asksForPage settings).map fun t => (t.key, t.name) := by
  induction ts with
  | nil => rfl
  | cons t rest ih =>
    have hrest := ih fun u hu => h u (List.mem_cons_of_mem t hu)
    obtain ⟨hs, hf⟩ := h t List.mem_cons_self
    have hnone := outcome?_eq_none_iff catalog settings hs
    cases ho : t.outcome? catalog settings start with
    | none =>
      have hp : t.asksForPage settings = true := by simpa [hf] using hnone.mp ho
      simp [ho, hp, hrest]
    | some o =>
      have hp : t.asksForPage settings = false := by simpa [ho, hf] using hnone
      obtain ⟨hk, hn⟩ := outcome?_entry ho
      simp [ho, hp, hrest, hk, hn]

end Turn

namespace Progress

theorem spent_turns (catalog : Catalog B) (settings : Settings) {p : Progress B} (h : Spent start p)
    (es : List (String × Parsed)) :
    Spent start (run catalog settings p es).2 ∧ ∀ t ∈ turns catalog settings p es, Spent start t.before :=
  run_invariant (fun _ ht => Turn.spent_after catalog settings ht) h es

theorem report_eq (catalog : Catalog B) (settings : Settings) {p : Progress B} (h : Spent start p)
    (es : List (String × Parsed)) :
    (run catalog settings p es).2.report =
      p.report ++ (turns catalog settings p es).filterMap (Turn.outcome? catalog settings start) := by
  rw [run_append Progress.report (Turn.recorded catalog settings) Turn.after_report p es,
    List.filterMap_eq_flatMap_toList]
  congr 1
  exact List.flatMap_congr fun t ht => Turn.recorded_eq ((spent_turns catalog settings h es).2 t ht)

theorem backend_eq (catalog : Catalog B) (settings : Settings) {p : Progress B} (h : Spent start p)
    (es : List (String × Parsed)) :
    (run catalog settings p es).2.backend =
      ((turns catalog settings p es).getLast?.map (Turn.leaves catalog settings start)).getD p.backend := by
  induction es generalizing p with
  | nil => rfl
  | cons e rest ih =>
    have hleft := Turn.left_eq catalog settings (t := ⟨e.1, e.2, p⟩) h
    have hb : ((Turn.mk e.1 e.2 p).after catalog settings).2.backend = _ := Turn.after_backend _
    have hs := Turn.spent_after catalog settings (t := ⟨e.1, e.2, p⟩) h
    rcases ha : (Turn.mk e.1 e.2 p).after catalog settings with ⟨r | u, q⟩
    · rw [run_cons_of_error ha, turns_cons_of_error ha]
      rw [ha, hleft] at hb
      simpa using hb
    · rw [run_cons_of_ok ha, turns_cons_of_ok ha]
      rw [ha] at hb hs
      rw [ih hs, List.getLast?_cons]
      cases (turns catalog settings q rest).getLast? with
      | none => simpa [hleft] using hb
      | some t => rfl

theorem after_fst_eq_ok_iff {p : Progress B} (h : Spent start p) {es : List (String × Parsed)} {t : Turn B}
    (ht : t ∈ turns catalog settings p es) :
    (t.after catalog settings).1 = .ok () ↔ t.failure? catalog settings start = none := by
  rw [Turn.after_fst_eq catalog settings ((spent_turns catalog settings h es).2 t ht)]
  cases t.failure? catalog settings start <;> simp

theorem failure?_of_run_ok {p : Progress B} (h : Spent start p) {es : List (String × Parsed)}
    (hr : (run catalog settings p es).1 = .ok ()) :
    ∀ t ∈ turns catalog settings p es, t.failure? catalog settings start = none :=
  fun t ht => (after_fst_eq_ok_iff h ht).mp ((turns_of_run_ok hr).2 t ht)

/-- What has been done when a pass fails: the report is that of the parameters before, and the backend is as the
failing operation left it. -/
theorem failure?_of_run_error {p : Progress B} (h : Spent start p) {es : List (String × Parsed)} {e : GateError}
    (hr : (run catalog settings p es).1 = .error e) :
    ∃ pre t rest f,
      turns catalog settings p es = pre ++ [t] ∧ es = (pre ++ [t]).map Turn.entry ++ rest ∧
        (∀ u ∈ pre, u.failure? catalog settings start = none) ∧ t.failure? catalog settings start = some f ∧
        e = .operation t.name t.key f ∧
        (run catalog settings p es).2.report = p.report ++ pre.filterMap (Turn.outcome? catalog settings start) ∧
        (run catalog settings p es).2.backend = t.leaves catalog settings start := by
  obtain ⟨pre, t, hts, hpre, hlast⟩ := turns_of_run_error hr
  have hprefix : (turns catalog settings p es).map Turn.entry <+: es := turns_prefix p es
  obtain ⟨rest, hrest⟩ := hprefix
  have ht : t ∈ turns catalog settings p es := by simp [hts]
  have hst := (spent_turns catalog settings h es).2 t ht
  have hfst := Turn.after_fst_eq catalog settings hst
  rw [hlast] at hfst
  cases hf : t.failure? catalog settings start with
  | none =>
    rw [hf] at hfst
    cases hfst
  | some f =>
    rw [hf] at hfst
    cases hfst
    have hnone : t.outcome? catalog settings start = none :=
      (Turn.outcome?_eq_none_iff catalog settings hst).mpr (.inr (by rw [hf]; rfl))
    refine ⟨pre, t, rest, f, hts, by rw [← hrest, hts], ?_, hf, rfl, ?_, ?_⟩
    · intro u hu
      have hmem : u ∈ turns catalog settings p es := by simp [hts, hu]
      exact (after_fst_eq_ok_iff h hmem).mp (hpre u hu)
    · rw [report_eq catalog settings h, hts]
      simp [hnone]
    · rw [backend_eq catalog settings h, hts]
      simp

end Progress

namespace Gate

theorem spent_fresh (g : Gate B) : Spent g.progress.allowed g.fresh where
  restricted := rfl
  accounted := ⟨fun _ h => h, fun _ a h => ⟨a, h, rfl, rfl⟩⟩

/-- The report of a pass is exact, also of one that ends at a failure. The first facts say what the report, the backend
and the budgets are at each turn and at the end; the others say when the pass fails, and what it has then done. A
report from before the pass makes no difference. -/
theorem filter_report_eq_outcomes (g : Gate B) :
    let start := g.progress.allowed
    let outcome? := Turn.outcome? g.catalog g.settings start
    let failure? := Turn.failure? g.catalog g.settings start
    let leaves := Turn.leaves g.catalog g.settings start
    let last := g.filter.2.progress
    (∀ pre t post, g.turns = pre ++ t :: post →
      t.before.report = pre.filterMap outcome? ∧
        t.before.backend = (pre.getLast?.map leaves).getD g.progress.backend) ∧
    last.report = g.turns.filterMap outcome? ∧
    last.backend = (g.turns.getLast?.map leaves).getD g.progress.backend ∧
    (∀ name, (last.remaining? name).map (fun n => n.toNat + applied last.report name) =
      (g.progress.remaining? name).map UInt32.toNat) ∧
    (∀ t ∈ g.turns, outcome? t = none ↔ t.asksForPage g.settings = true ∨ (failure? t).isSome = true) ∧
    (g.filter.1 = .ok () ↔ ∀ t ∈ g.turns, failure? t = none) ∧
    (g.filter.1 = .ok () → g.turns.map Turn.entry = g.params.entries ∧
      last.report.map (fun o => (o.key, o.operation)) =
        (g.turns.filter fun t => !t.asksForPage g.settings).map fun t => (t.key, t.name)) ∧
    ∀ e, g.filter.1 = .error e → ∃ pre t rest f,
      g.turns = pre ++ [t] ∧ g.params.entries = (pre ++ [t]).map Turn.entry ++ rest ∧
        (∀ u ∈ pre, failure? u = none) ∧ failure? t = some f ∧ e = .operation t.name t.key f ∧
        last.report = pre.filterMap outcome? ∧ last.backend = leaves t := by
  intro start outcome? failure? leaves last
  have hspent := Progress.spent_turns g.catalog g.settings g.spent_fresh g.params.entries
  refine ⟨?_, Progress.report_eq g.catalog g.settings g.spent_fresh g.params.entries,
    Progress.backend_eq g.catalog g.settings g.spent_fresh g.params.entries, ?_, ?_, ?_, ?_,
    fun e => Progress.failure?_of_run_error g.spent_fresh⟩
  · intro pre t post ht
    obtain ⟨hb, hpre⟩ := Progress.before_eq_run ht
    have hr := Progress.report_eq g.catalog g.settings g.spent_fresh (pre.map Turn.entry)
    have hl := Progress.backend_eq g.catalog g.settings g.spent_fresh (pre.map Turn.entry)
    rw [hpre, ← hb] at hr hl
    exact ⟨hr, hl⟩
  · intro name
    rw [Progress.remaining?_eq, Progress.remaining?_eq]
    cases hn : g.progress.allowed.bind (·.get? name) with
    | none =>
      have hb : last.allowed.bind (·.get? name) = none := hspent.1.accounted.undeclared name hn
      rw [hb]
      rfl
    | some a =>
      obtain ⟨b, hb, -, hsum⟩ := hspent.1.accounted.declared name a hn
      change last.allowed.bind (·.get? name) = some b at hb
      rw [hb]
      exact congrArg some hsum
  · exact fun t ht => Turn.outcome?_eq_none_iff g.catalog g.settings (hspent.2 t ht)
  · refine ⟨Progress.failure?_of_run_ok g.spent_fresh, fun h => ?_⟩
    cases hr : g.filter.1 with
    | ok u => rfl
    | error e =>
      obtain ⟨pre, t, -, f, hts, -, -, hf, -⟩ := Progress.failure?_of_run_error g.spent_fresh hr
      change g.turns = pre ++ [t] at hts
      cases (h t (by simp [hts])).symm.trans hf
  · intro h
    refine ⟨(Progress.turns_of_run_ok h).1, ?_⟩
    have hlines := Turn.lines_of_failure?_eq_none fun t ht =>
      ⟨hspent.2 t ht, Progress.failure?_of_run_ok g.spent_fresh h t ht⟩
    exact (congrArg _ (Progress.report_eq g.catalog g.settings g.spent_fresh g.params.entries)).trans hlines

end Gate
end QueryGate
