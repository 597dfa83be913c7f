import QueryGate.Proofs.Gate.Declared
import QueryGate.Proofs.Table.Steps

/-! Declared gates beside undeclared ones. Of the parameters that a gate without an allow-list applies and that pass
the rules of their declarations, a declared gate applies the first ones of each name, as many as its budget allows. -/
namespace QueryGate

variable {R : Type} {settings : Settings}

/-- What an allow-list has left for an operation. -/
def AllowList.budget (l : AllowList) (name : String) : Nat := (l.get? name).elim 0 (·.remaining.toNat)

/-- Whether a parameter spells a step, and passes the rules for its operation. -/
def AllowList.offers (l : AllowList) (settings : Settings) (e : String × Parsed) : Bool :=
  (Query.Step.ofParam? settings e).isSome &&
    match e.2, l.get? (Operation.nameOf e.1) with
    | .ok args, some a => (RuleSet.check? a.rules args).isNone
    | _, _ => false

theorem AllowList.offers_eq {l : AllowList} {ds : List Declaration} {default : UInt32}
    (hl : ∀ name, l.get? name = (Declaration.latest? ds name).map (Declaration.allowance default))
    (settings : Settings) (e : String × Parsed) :
    l.offers settings e = ((Query.Step.ofParam? settings e).isSome && Declaration.admitted ds e) := by
  unfold offers Declaration.admitted
  rw [hl]
  congr 1
  cases e.2 with
  | error m => rfl
  | ok args =>
    cases Declaration.latest? ds (Operation.nameOf e.1) with
    | none => rfl
    | some d =>
      have h := d.admits_iff args
      rw [← Option.isNone_iff_eq_none] at h
      exact (Bool.eq_iff_iff.mpr h).symm

theorem AllowList.budget_eq {l : AllowList} {ds : List Declaration} {default : UInt32}
    (hl : ∀ name, l.get? name = (Declaration.latest? ds name).map (Declaration.allowance default)) (name : String) :
    l.budget name = Declaration.budgetOf ds default name := by
  unfold budget Declaration.budgetOf
  rw [hl]
  cases Declaration.latest? ds name <;> rfl

namespace Turn

/-- A turn has a step if its parameter is offered and the calls reported before did not use up the budget. -/
theorem isSome_step? {l : AllowList} {t : Turn (Query R)} (h : Spent (some l) t.before) :
    (t.step? settings).isSome =
      (l.offers settings t.entry && decide (applied t.before.report t.name < l.budget t.name)) := by
  have hd := denial?_map_denied h
  simp only [undeclared?, exhausted?, rejected?, Option.bind_some] at hd
  change _ = (((Query.Step.ofParam? settings t.entry).isSome &&
    match t.value, l.get? t.name with
    | .ok args, some a => (RuleSet.check? a.rules args).isNone
    | _, _ => false) && decide (applied t.before.report t.name < (l.get? t.name).elim 0 (·.remaining.toNat)))
  cases hv : t.value with
  | error m => simp [step?, Query.Step.ofParam?, entry, hv]
  | ok as =>
    have hargs : t.args = as := by simp [Turn.args, hv]
    unfold step?
    rw [hargs] at hd ⊢
    cases ha : l.get? t.name with
    | none =>
      rw [ha] at hd
      cases hden : t.before.denial? t.name as <;> simp [hden] at hd ⊢
    | some a =>
      rw [ha] at hd
      by_cases hz : a.remaining.toNat - applied t.before.report t.name = 0
      · have hlt : ¬ applied t.before.report t.name < a.remaining.toNat := by omega
        cases hden : t.before.denial? t.name as <;> simp [hden, hz, hlt] at hd ⊢
      · have hlt : applied t.before.report t.name < a.remaining.toNat := by omega
        cases hden : t.before.denial? t.name as <;> cases hcheck : RuleSet.check? a.rules as <;>
          simp [hden, hz, hcheck, hlt] at hd ⊢

end Turn

namespace Progress

variable [Row R]

/-- First come, first served: of the parameters of one name that are offered, a pass applies the first ones, as many as
are left of the budget. -/
theorem succeeding_eq_take {l : AllowList} {p : Progress (Query R)} (h : Spent (some l) p)
    (es : List (String × Parsed)) (name : String) :
    ((turns Catalog.standard settings p es).filter fun t =>
        t.name == name && t.succeeds Catalog.standard settings).map Turn.entry =
      (es.filter fun e => Operation.nameOf e.1 == name && l.offers settings e).take
        (l.budget name - applied p.report name) := by
  induction es generalizing p with
  | nil => simp [turns]
  | cons e rest ih =>
    obtain ⟨key, value⟩ := e
    let t : Turn (Query R) := ⟨key, value, p⟩
    obtain ⟨hok, hsucceeds, -⟩ := t.after_standard settings
    have hs : t.succeeds Catalog.standard settings =
        (l.offers settings (key, value) && decide (applied p.report t.name < l.budget t.name)) :=
      hsucceeds.trans (Turn.isSome_step? h)
    rcases ha : t.after Catalog.standard settings with ⟨x | u, q⟩
    · rw [ha] at hok
      cases hok
    have hspent : Spent (some l) q := by
      have hspent := Turn.spent_after Catalog.standard settings (t := t) h
      rwa [ha] at hspent
    have happlied : applied q.report name =
        applied p.report name + if t.succeeds Catalog.standard settings = true ∧ t.name = name then 1 else 0 := by
      have hr : (t.after Catalog.standard settings).2.report = _ := t.after_report
      rw [ha] at hr
      rw [hr, applied_append, Turn.applied_recorded]
    have hrest := ih hspent
    rw [happlied] at hrest
    rw [turns_cons_of_ok ha]
    change ((t :: turns Catalog.standard settings q rest).filter _).map Turn.entry = _
    by_cases hn : t.name = name
    · have hkey : Operation.nameOf key = name := hn
      rw [hn] at hs
      cases ho : l.offers settings (key, value) with
      | false =>
        rw [ho, Bool.false_and] at hs
        simpa [List.filter_cons, hs, ho] using hrest
      | true =>
        by_cases hb : applied p.report name < l.budget name
        · have hleft : l.budget name - applied p.report name = l.budget name - (applied p.report name + 1) + 1 := by
            omega
          rw [ho, decide_eq_true hb, Bool.true_and] at hs
          simpa [List.filter_cons, hs, ho, hn, hkey, hleft, Turn.entry, t] using hrest
        · have hleft : l.budget name - applied p.report name = 0 := by omega
          rw [ho, decide_eq_false hb, Bool.true_and] at hs
          simpa [List.filter_cons, hs, ho, hkey, hleft] using hrest
    · have hkey : Operation.nameOf key ≠ name := hn
      simpa [List.filter_cons, hn, hkey] using hrest

end Progress

namespace Gate

variable [Row R]

/-- The rules and budgets of a declared gate are those of the latest declarations. -/
theorem exists_allowList (q : Query R) (params : Params) (settings : Settings) {ds : List Declaration} (hds : ds ≠ []) :
    ∃ l, (ofParams q .standard params settings).registerAll ds = ⟨.standard, params, settings, ⟨q, some l, []⟩⟩ ∧
      ∀ name, l.get? name =
        (Declaration.latest? ds name).map (Declaration.allowance settings.defaultMaxCalls) := by
  have hsome : ((ofParams q .standard params settings).registerAll ds).progress.allowed.isSome = true := by
    rw [isSome_allowed_registerAll]
    simp [hds]
  obtain ⟨l, hl⟩ := Option.isSome_iff_exists.mp hsome
  refine ⟨l, by rw [registerAll_eq, hl]; rfl, fun name => ?_⟩
  have hget := get?_registerAll (ofParams q .standard params settings) ds name
  rw [hl] at hget
  simpa [ofParams] using hget

theorem filter_appliedParams_eq_take (q : Query R) (params : Params) (settings : Settings) (l : AllowList)
    (name : String) :
    (Gate.mk .standard params settings ⟨q, some l, []⟩).appliedParams.entries.filter
        (fun e => Operation.nameOf e.1 == name) =
      (params.entries.filter fun e => Operation.nameOf e.1 == name && l.offers settings e).take (l.budget name) := by
  rw [entries_appliedParams (filter_standard_ok rfl), List.filter_map, List.filter_filter]
  exact Progress.succeeding_eq_take (Gate.mk .standard params settings ⟨q, some l, []⟩).spent_fresh params.entries name

theorem tells_eq_isSome_ofParam? (q : Query R) (params : Params) (settings : Settings) {e : String × Parsed}
    (he : e ∈ params.entries) :
    tells (ofParams q .standard params settings).filter.2.progress.report Outcome.isApplied e.1 =
      (Query.Step.ofParam? settings e).isSome := by
  have h := mem_appliedParams (ofParams q .standard params settings) e
  rw [entries_appliedParams_ofParams, List.mem_filter] at h
  rw [Bool.eq_iff_iff]
  exact ((and_congr_right_iff.mp h) he).symm

theorem admits_of_any {d : Declaration} {args : Args} (h : d.rules = List.replicate args.length (.single .any)) :
    d.admits args = true := by
  simp only [Declaration.admits, h, List.length_replicate, beq_self_eq_true, Bool.true_and, List.all_eq_true]
  intro x hx
  have hany : x.1 = .single .any := List.eq_of_mem_replicate (List.of_mem_zip hx).1
  rw [hany]
  rfl

/-- Declarations of all standard operations, without rules to speak of and with budgets for a whole request. -/
def OpenTo (R : Type) [Row R] (ds : List Declaration) (settings : Settings) (size : Nat) : Prop :=
  ∀ name op, (Catalog.standard : Catalog (Query R)).get? name = some op → ∃ d,
    Declaration.latest? ds name = some d ∧ d.rules = List.replicate op.arity (.single .any) ∧
      size ≤ (d.budget settings.defaultMaxCalls).toNat

theorem OpenTo.admitted {ds : List Declaration} {size : Nat} (h : OpenTo R ds settings size) {e : String × Parsed}
    (he : (Query.Step.ofParam? settings e).isSome = true) :
    Declaration.admitted ds e = true ∧
      size ≤ Declaration.budgetOf ds settings.defaultMaxCalls (Operation.nameOf e.1) := by
  obtain ⟨s, hs⟩ := Option.isSome_iff_exists.mp he
  obtain ⟨args, op, hv, -, hc, ha⟩ := Query.Step.operation_of_ofParam? (R := R) hs
  obtain ⟨d, hd, hrules, hsize⟩ := h _ op hc
  rw [← ha] at hrules
  simp only [Declaration.admitted, Declaration.budgetOf, hv, hd]
  exact ⟨admits_of_any hrules, hsize⟩

theorem take_eligible_of_openTo (q : Query R) {params : Params} {ds : List Declaration}
    (h : OpenTo R ds settings params.size) (name : String) :
    (params.entries.filter fun e => Operation.nameOf e.1 == name &&
        (tells (ofParams q .standard params settings).filter.2.progress.report Outcome.isApplied e.1 &&
          Declaration.admitted ds e)).take (Declaration.budgetOf ds settings.defaultMaxCalls name) =
      params.entries.filter fun e => Operation.nameOf e.1 == name && (Query.Step.ofParam? settings e).isSome := by
  have heligible : ∀ e ∈ params.entries, (Operation.nameOf e.1 == name &&
      (tells (ofParams q .standard params settings).filter.2.progress.report Outcome.isApplied e.1 &&
        Declaration.admitted ds e)) = (Operation.nameOf e.1 == name && (Query.Step.ofParam? settings e).isSome) := by
    intro e he
    rw [tells_eq_isSome_ofParam? q params settings he]
    cases hs : (Query.Step.ofParam? settings e).isSome with
    | false => rfl
    | true => rw [(h.admitted hs).1, Bool.and_self]
  rw [List.filter_congr heligible]
  refine List.take_of_length_le ?_
  -- a name of which nothing is offered may have no budget at all
  rcases List.eq_nil_or_concat' (params.entries.filter fun e =>
    Operation.nameOf e.1 == name && (Query.Step.ofParam? settings e).isSome) with hnil | ⟨init, e, hconcat⟩
  · rw [hnil]
    exact Nat.zero_le _
  · have he : e ∈ params.entries.filter fun e =>
        Operation.nameOf e.1 == name && (Query.Step.ofParam? settings e).isSome := by simp [hconcat]
    simp only [List.mem_filter, Bool.and_eq_true, beq_iff_eq] at he
    rw [← he.2.1]
    exact Nat.le_trans (List.length_filter_le _ _) (h.admitted he.2.2).2

/-- Restricted passes are unrestricted ones cut down, first come first served. A parameter is eligible if the gate
without declarations applies it and the declarations admit its arguments. The declared gate applies, of each name, the
first eligible parameters, as many as the budget allows, and nothing else, and it reaches the query that the gate
without declarations reaches on these parameters alone. Where the declarations stop nothing, both gates agree. -/
theorem restricted_filter_first_come (q : Query R) (params : Params) (settings : Settings) (ds : List Declaration)
    (hds : ds ≠ []) :
    let free := ofParams q .standard params settings
    let restricted := free.registerAll ds
    let eligible := fun e : String × Parsed =>
      tells free.filter.2.progress.report Outcome.isApplied e.1 && Declaration.admitted ds e
    free.filter.1 = .ok () ∧ restricted.filter.1 = .ok () ∧
    restricted.filter.2.progress.report.filter Outcome.isApplied =
      (restricted.appliedParams.entries.map fun e => ⟨e.1, Operation.nameOf e.1, .applied⟩) ∧
    (∀ name, restricted.appliedParams.entries.filter (fun e => Operation.nameOf e.1 == name) =
      (params.entries.filter fun e => Operation.nameOf e.1 == name && eligible e).take
        (Declaration.budgetOf ds settings.defaultMaxCalls name)) ∧
    restricted.filter.2.progress.backend =
      (ofParams q .standard restricted.appliedParams settings).filter.2.progress.backend ∧
    (OpenTo R ds settings params.size →
      restricted.filter.2.progress.backend = free.filter.2.progress.backend ∧
        restricted.filter.2.progress.report.filter Outcome.isApplied =
          free.filter.2.progress.report.filter Outcome.isApplied) := by
  intro free restricted eligible
  obtain ⟨l, hl, hget⟩ := exists_allowList q params settings hds
  have hcatalog : restricted.catalog = .standard := congrArg Gate.catalog hl
  have hsettings : restricted.settings = settings := congrArg Gate.settings hl
  have hparams : restricted.params = params := congrArg Gate.params hl
  have hbackend : restricted.progress.backend = q := congrArg (fun g => g.progress.backend) hl
  have hfree : free.filter.1 = .ok () := filter_standard_ok rfl
  have hok : restricted.filter.1 = .ok () := filter_standard_ok hcatalog
  have hfirst : ∀ name, restricted.appliedParams.entries.filter (fun e => Operation.nameOf e.1 == name) =
      (params.entries.filter fun e => Operation.nameOf e.1 == name && eligible e).take
        (Declaration.budgetOf ds settings.defaultMaxCalls name) := by
    intro name
    have htake := filter_appliedParams_eq_take q params settings l name
    rw [← hl, AllowList.budget_eq hget] at htake
    refine htake.trans (congrArg _ (List.filter_congr fun e he => ?_))
    rw [AllowList.offers_eq hget, ← tells_eq_isSome_ofParam? q params settings he]
  have hreach : restricted.filter.2.progress.backend =
      (restricted.appliedParams.entries.filterMap (Query.Step.ofParam? settings)).foldl (fun q s => s.apply q) q := by
    rw [backend_filter_standard hcatalog, hsettings, hbackend]
  refine ⟨hfree, hok, filter_isApplied_report hok, hfirst, ?_, ?_⟩
  · rw [hreach]
    exact (Progress.backend_run_unrestricted settings (p := (ofParams q .standard params settings).fresh) rfl
      restricted.appliedParams.entries).symm
  · intro hopen
    have hsame : restricted.appliedParams.entries = free.appliedParams.entries := by
      refine appliedParams_ext hparams fun name => ?_
      rw [hfirst, entries_appliedParams_ofParams, List.filter_filter]
      exact take_eligible_of_openTo q hopen name
    refine ⟨?_, ?_⟩
    · rw [hreach, hsame]
      exact (backend_filter_standard (g := free) rfl).symm
    · rw [filter_isApplied_report hok, filter_isApplied_report hfree, hsame]

/-- Three conditions where two may be called for, one parameter that lacks arguments, and an ordering that is not
declared; then declarations that stop nothing. -/
theorem restricted_filter_of_two_calls :
    let params : Params := .ofList [("where_1", .ok [.text "age", .text ">", .int 30]), ("where_2", .ok [.text "age"]),
      ("where_3", .ok [.text "age", .text "<", .int 60]), ("sort", .ok [.text "age", .int 1]),
      ("where", .ok [.text "age", .text "<>", .int 45])]
    let free := ofParams (Query.ofRows ([] : List Data)) .standard params {}
    let two : List Declaration := [⟨"where", List.replicate 3 (.single .any), some 2⟩]
    let all : List Declaration := [⟨"sort", List.replicate 2 (.single .any), none⟩,
      ⟨"where", List.replicate 3 (.single .any), some 5⟩, ⟨"orWhere", List.replicate 3 (.single .any), none⟩]
    two ≠ [] ∧ all ≠ [] ∧
      ((free.registerAll two).appliedParams.entries.filter fun e => Operation.nameOf e.1 == "where").map Prod.fst =
        ["where_1", "where_3"] ∧
      (free.registerAll two).appliedParams.entries.filter (fun e => Operation.nameOf e.1 == "sort") = [] ∧
      (free.registerAll all).filter.2.progress.backend = free.filter.2.progress.backend := by
  intro params free two all
  have hopen : OpenTo Data all {} params.size := by
    intro name op h
    rcases Catalog.cases_of_get?_standard h with ⟨rfl, rfl⟩ | ⟨rfl, rfl⟩ | ⟨rfl, rfl⟩
    · exact ⟨⟨"orWhere", _, none⟩, rfl, rfl, by decide⟩
    · exact ⟨⟨"where", _, some 5⟩, rfl, rfl, by decide⟩
    · exact ⟨⟨"sort", _, none⟩, rfl, rfl, by decide⟩
  obtain ⟨-, -, -, hfirst, -⟩ :=
    restricted_filter_first_come (Query.ofRows ([] : List Data)) params {} two (by simp [two])
  obtain ⟨-, -, -, -, -, hsame⟩ :=
    restricted_filter_first_come (Query.ofRows ([] : List Data)) params {} all (by simp [all])
  exact ⟨by simp [two], by simp [all], (congrArg (List.map Prod.fst) (hfirst "where")).trans (by decide +kernel),
    (hfirst "sort").trans (by decide +kernel), (hsame hopen).1⟩

end Gate
end QueryGate
