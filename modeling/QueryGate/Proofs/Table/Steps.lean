import QueryGate.Proofs.Gate.Outcome
import QueryGate.Proofs.Gate.Frame
import QueryGate.Proofs.Table.Request

/-! Passes over a query in memory as lists of steps. Every parameter spells a step or none, whatever the query, and a
pass takes the steps of those parameters that the allow-list lets through. -/
namespace QueryGate

theorem Action.run_bind {ε σ α β : Type} (x : Action ε σ α) (f : α → Action ε σ β) (s : σ) :
    (x >>= f).run s =
      match x.run s with
      | (.ok a, s) => (f a).run s
      | (.error e, s) => (.error e, s) := by
  change (match x.run s with | (r, s) => (ExceptT.bindCont f r) s) = _
  rcases x.run s with ⟨e | a, s⟩ <;> rfl

namespace Query.Step

variable {R : Type}

def conditionOf? (args : Args) : Option Condition := do
  let column ← (args.text 0).toOption
  let operator ← (args.text 1).toOption
  let comparison ← Comparison.ofText? operator
  let value ← (args.get 2).toOption
  some ⟨column, comparison, value⟩

/-- The step that a standard operation takes on its arguments, if it can use them. -/
def ofArgs? (name : String) (args : Args) : Option Step :=
  match name with
  | "sort" => do
    let column ← (args.text 0).toOption
    let n ← (args.number 1).toOption
    some (.sort column (.ofSign n))
  | "where" => (conditionOf? args).map .andWhere
  | "orWhere" => (conditionOf? args).map .orWhere
  | _ => none

def arity (name : String) : Nat := if name = "sort" then 2 else 3

/-- The step that a parameter spells. -/
def ofParam? (settings : Settings) (e : String × Parsed) : Option Step :=
  match e.2 with
  | .error _ => none
  | .ok args =>
    if settings.isPaging e.1 then none
    else if args.length = arity (Operation.nameOf e.1) then ofArgs? (Operation.nameOf e.1) args
    else none

theorem operation_of_ofArgs? {name : String} {args : Args} {s : Step} (h : ofArgs? name args = some s) :
    s.operation = name := by
  unfold ofArgs? at h
  split at h
  · simp only [Option.bind_eq_bind, Option.bind_eq_some_iff, Option.some.injEq] at h
    obtain ⟨column, -, n, -, rfl⟩ := h
    rfl
  · obtain ⟨c, -, rfl⟩ := Option.map_eq_some_iff.mp h
    rfl
  · obtain ⟨c, -, rfl⟩ := Option.map_eq_some_iff.mp h
    rfl
  · cases h

theorem name_of_ofParam? {settings : Settings} {e : String × Parsed} {s : Step} (h : ofParam? settings e = some s) :
    s.operation = Operation.nameOf e.1 := by
  unfold ofParam? at h
  split at h
  · cases h
  · split at h
    · cases h
    · split at h
      · exact operation_of_ofArgs? h
      · cases h

/-- The ways in which an operation may answer: it takes a step, the same for all queries, or it cannot use its
arguments and leaves every query as it is. -/
inductive Answers (step? : Option Step) (action : Action OperationError (Query R) Unit) : Prop
  | takes (s : Step) (h : step? = some s) (hr : ∀ q, action.run q = (.ok (), s.apply q))
  | refuses (e : ArgumentError) (h : step? = none) (hr : ∀ q, action.run q = (.error (.argument e), q))

theorem condition_cases {B : Type} (args : Args) :
    (∃ c, conditionOf? args = some c ∧
      ∀ b : B, (Operation.condition args).run b = (.ok (c.column, c.comparison, c.value), b)) ∨
    conditionOf? args = none ∧ ∃ e, ∀ b : B, (Operation.condition args).run b = (.error (.argument e), b) := by
  unfold conditionOf? Operation.condition
  cases args.text 0 with
  | error e => exact .inr ⟨rfl, e, fun _ => rfl⟩
  | ok column =>
    cases args.text 1 with
    | error e => exact .inr ⟨rfl, e, fun _ => rfl⟩
    | ok operator =>
      have hrun : ∀ (α : Type) (f : String → String → Action OperationError B α) b,
          (do f (← Operation.take (.ok column)) (← Operation.take (.ok operator))).run b = (f column operator).run b :=
        fun _ _ _ => rfl
      simp only [hrun, Except.toOption, Option.bind_eq_bind, Option.bind_some]
      cases Comparison.ofText? operator with
      | none => exact .inr ⟨rfl, _, fun _ => rfl⟩
      | some c =>
        cases args.get 2 with
        | error e => exact .inr ⟨rfl, e, fun _ => rfl⟩
        | ok value => exact .inl ⟨_, rfl, fun _ => rfl⟩

/-- What is done with a condition comes in only once its arguments were read. -/
theorem answers_of_condition (make : Condition → Step) (f : String → Comparison → Arg → Action Failure (Query R) Unit)
    (hf : ∀ c q, (Operation.store (f c.column c.comparison c.value)).run q = (.ok (), (make c).apply q))
    (args : Args) :
    Answers ((conditionOf? args).map make)
      (Operation.condition args >>= fun (column, c, value) => Operation.store (f column c value)) := by
  rcases condition_cases args with ⟨c, hc, hr⟩ | ⟨hc, e, hr⟩
  · exact .takes (make c) (by rw [hc]; rfl) fun q => by
      rw [Action.run_bind, hr]
      exact hf c q
  · exact .refuses e (by rw [hc]; rfl) fun q => by rw [Action.run_bind, hr]

variable [Row R]

theorem answers_sort (args : Args) : Answers (R := R) (ofArgs? "sort" args) (Operation.sort args) := by
  unfold ofArgs? Operation.sort
  cases args.text 0 with
  | error e => exact .refuses e rfl fun _ => rfl
  | ok column =>
    cases args.number 1 with
    | error e => exact .refuses e rfl fun _ => rfl
    | ok n => exact .takes (.sort column (.ofSign n)) rfl fun _ => rfl

theorem answers_standard {name : String} {op : Operation (Query R)} (h : Catalog.standard.get? name = some op)
    (args : Args) : op.arity = arity name ∧ Answers (ofArgs? name args) (op.run args) := by
  rcases Catalog.cases_of_get?_standard h with ⟨rfl, rfl⟩ | ⟨rfl, rfl⟩ | ⟨rfl, rfl⟩
  · exact ⟨rfl, answers_of_condition .orWhere Conditions.orWhere (fun _ _ => rfl) args⟩
  · exact ⟨rfl, answers_of_condition .andWhere Conditions.andWhere (fun _ _ => rfl) args⟩
  · exact ⟨rfl, answers_sort args⟩

/-- A name under which there is no operation spells no step. -/
theorem ofArgs?_of_get?_eq_none {name : String}
    (h : (Catalog.standard : Catalog (Query R)).get? name = none) (args : Args) : ofArgs? name args = none := by
  rw [Catalog.get?_standard] at h
  unfold ofArgs?
  split <;> simp_all

/-- A parameter spells a step only for an operation that takes as many arguments. -/
theorem operation_of_ofParam? {settings : Settings} {e : String × Parsed} {s : Step}
    (h : ofParam? settings e = some s) :
    ∃ args op, e.2 = .ok args ∧ settings.isPaging e.1 = false ∧
      (Catalog.standard : Catalog (Query R)).get? (Operation.nameOf e.1) = some op ∧ args.length = op.arity := by
  unfold ofParam? at h
  split at h
  · cases h
  rename_i args hv
  split at h
  · cases h
  rename_i hp
  split at h
  · rename_i ha
    cases hc : (Catalog.standard : Catalog (Query R)).get? (Operation.nameOf e.1) with
    | none =>
      rw [ofArgs?_of_get?_eq_none hc] at h
      cases h
    | some op => exact ⟨args, op, hv, by simpa using hp, rfl, ha.trans (answers_standard hc args).1.symm⟩
  · cases h

end Query.Step

variable {R : Type} {settings : Settings}

namespace Turn

/-- The step that a turn takes: that of its parameter, unless the allow-list stops it. -/
def step? (settings : Settings) (t : Turn (Query R)) : Option Query.Step :=
  if (t.before.denial? t.name t.args).isSome then none else Query.Step.ofParam? settings t.entry

theorem step?_of_allowed_none {t : Turn (Query R)} (h : t.before.allowed = none) :
    t.step? settings = Query.Step.ofParam? settings t.entry := by
  simp [step?, Progress.denial?, h]

variable [Row R]

theorem answers_of_call {t : Turn (Query R)} {op : Operation (Query R)} {args : Args}
    (h : t.verdict Catalog.standard settings = .call op args) :
    Query.Step.Answers (t.step? settings) (op.run args) := by
  obtain ⟨hv, hp, hc, hd, ha⟩ := (t.verdict_eq_call_iff op args).mp h
  obtain ⟨harity, hanswers⟩ := Query.Step.answers_standard hc args
  have hstep : t.step? settings = Query.Step.ofArgs? t.name args := by
    have hargs : t.args = args := by simp [Turn.args, hv]
    have hlen : args.length = Query.Step.arity (Operation.nameOf t.key) := ha.trans harity
    simp only [step?, hargs, hd, Query.Step.ofParam?, entry, hv, hp, hlen, if_true]
    rfl
  rw [hstep]
  exact hanswers

theorem exists_call_of_step? {t : Turn (Query R)} {s : Query.Step} (h : t.step? settings = some s) :
    ∃ op args, t.verdict Catalog.standard settings = .call op args := by
  unfold step? at h
  split at h
  · cases h
  rename_i hd
  obtain ⟨args, op, hv, hp, hc, ha⟩ := Query.Step.operation_of_ofParam? (R := R) h
  have hargs : t.args = args := by simp only [Turn.args, show t.value = .ok args from hv]
  rw [hargs] at hd
  exact ⟨op, args, (t.verdict_eq_call_iff op args).mpr ⟨hv, hp, hc, by simpa using hd, ha⟩⟩

/-- A turn that has a step takes it, and no other changes the query. The store never fails. -/
theorem after_standard (settings : Settings) (t : Turn (Query R)) :
    (t.after Catalog.standard settings).1 = .ok () ∧
      t.succeeds Catalog.standard settings = (t.step? settings).isSome ∧
      t.left Catalog.standard settings = ((t.step? settings).map (·.apply t.before.backend)).getD t.before.backend := by
  have hnone : (∀ op args, t.verdict Catalog.standard settings ≠ .call op args) → t.step? settings = none := by
    intro hv
    refine Option.eq_none_iff_forall_not_mem.mpr fun s hs => ?_
    obtain ⟨op, args, hc⟩ := exists_call_of_step? hs
    exact hv op args hc
  unfold succeeds left
  cases hv : t.verdict Catalog.standard settings with
  | page =>
    rw [Effect.eq_after (.page hv), hnone (by simp [hv])]
    exact ⟨rfl, rfl, rfl⟩
  | skip reason =>
    rw [Effect.eq_after (.skip hv), hnone (by simp [hv])]
    exact ⟨rfl, rfl, rfl⟩
  | call op args =>
    rw [after_of_call hv]
    cases answers_of_call hv with
    | takes s hs hrun =>
      simp only [Progress.call, hrun, hs]
      exact ⟨trivial, rfl, rfl⟩
    | refuses e hs hrun =>
      simp only [Progress.call, hrun, hs]
      exact ⟨rfl, rfl, rfl⟩

end Turn

namespace Progress

variable [Row R]

/-- A pass goes on after every turn. -/
theorem run_cons_standard (settings : Settings) (p : Progress (Query R)) (e : String × Parsed)
    (rest : List (String × Parsed)) :
    let t : Turn (Query R) := ⟨e.1, e.2, p⟩
    run Catalog.standard settings p (e :: rest) =
        run Catalog.standard settings (t.after Catalog.standard settings).2 rest ∧
      turns Catalog.standard settings p (e :: rest) =
        t :: turns Catalog.standard settings (t.after Catalog.standard settings).2 rest := by
  intro t
  have h : t.after Catalog.standard settings = (.ok (), (t.after Catalog.standard settings).2) :=
    Prod.ext (t.after_standard settings).1 rfl
  exact ⟨run_cons_of_ok h rest, turns_cons_of_ok h rest⟩

theorem run_standard_ok (settings : Settings) (p : Progress (Query R)) (es : List (String × Parsed)) :
    (run Catalog.standard settings p es).1 = .ok () := by
  induction es generalizing p with
  | nil => rfl
  | cons e rest ih =>
    rw [(run_cons_standard settings p e rest).1]
    exact ih _

theorem backend_run_standard (settings : Settings) (p : Progress (Query R)) (es : List (String × Parsed)) :
    (run Catalog.standard settings p es).2.backend =
      ((turns Catalog.standard settings p es).filterMap (Turn.step? settings)).foldl (fun q s => s.apply q)
        p.backend := by
  induction es generalizing p with
  | nil => rfl
  | cons e rest ih =>
    obtain ⟨hrun, hturns⟩ := run_cons_standard settings p e rest
    obtain ⟨-, -, hleft⟩ := Turn.after_standard settings ⟨e.1, e.2, p⟩
    rw [hrun, hturns, ih, Turn.after_backend, hleft]
    cases h : Turn.step? settings ⟨e.1, e.2, p⟩ <;> simp [h]

/-- Without an allow-list a pass takes the steps that its parameters spell. -/
theorem backend_run_unrestricted (settings : Settings) {p : Progress (Query R)} (h : p.allowed = none)
    (es : List (String × Parsed)) :
    (run Catalog.standard settings p es).2.backend =
      (es.filterMap (Query.Step.ofParam? settings)).foldl (fun q s => s.apply q) p.backend := by
  have hentries := (turns_of_run_ok (run_standard_ok settings p es)).1
  rw [backend_run_standard]
  conv_rhs => rw [← hentries, List.filterMap_map]
  congr 1
  exact List.filterMap_congr fun t ht => Turn.step?_of_allowed_none ((allowed_of_none h es).2 t ht)

end Progress

namespace Gate

variable [Row R]

theorem filter_standard_ok {g : Gate (Query R)} (hc : g.catalog = .standard) : g.filter.1 = .ok () := by
  obtain ⟨catalog, params, settings, progress⟩ := g
  subst hc
  exact Progress.run_standard_ok settings _ params.entries

/-- The query that a pass reaches is the one that the parameters it applies spell. -/
theorem backend_filter_standard {g : Gate (Query R)} (hc : g.catalog = .standard) :
    g.filter.2.progress.backend =
      (g.appliedParams.entries.filterMap (Query.Step.ofParam? g.settings)).foldl (fun q s => s.apply q)
        g.progress.backend := by
  rw [entries_appliedParams (filter_standard_ok hc), List.filterMap_map, List.filterMap_filter]
  obtain ⟨catalog, params, settings, progress⟩ := g
  subst hc
  refine (Progress.backend_run_standard settings _ params.entries).trans ?_
  congr 1
  refine List.filterMap_congr fun t _ => ?_
  rw [(t.after_standard settings).2.1]
  unfold Turn.step?
  split <;> simp

theorem backend_filter_unrestricted {g : Gate (Query R)} (hc : g.catalog = .standard) (h : g.progress.allowed = none) :
    g.filter.2.progress.backend =
      (g.params.entries.filterMap (Query.Step.ofParam? g.settings)).foldl (fun q s => s.apply q)
        g.progress.backend := by
  obtain ⟨catalog, params, settings, progress⟩ := g
  subst hc
  exact Progress.backend_run_unrestricted settings (p := (Gate.mk .standard params settings progress).fresh) h
    params.entries

/-- Without an allow-list a pass applies every parameter that spells a step. -/
theorem entries_appliedParams_ofParams (q : Query R) (params : Params) (settings : Settings) :
    (ofParams q .standard params settings).appliedParams.entries =
      params.entries.filter fun e => (Query.Step.ofParam? settings e).isSome := by
  have hok : (ofParams q .standard params settings).filter.1 = .ok () := filter_standard_ok rfl
  have hentries : (ofParams q .standard params settings).turns.map Turn.entry = params.entries :=
    (Progress.turns_of_run_ok hok).1
  rw [entries_appliedParams hok, ← hentries, List.filter_map]
  congr 1
  refine List.filter_congr fun t ht => ?_
  have hnone : t.before.allowed = none := (Progress.allowed_of_none rfl params.entries).2 t ht
  exact (t.after_standard settings).2.1.trans (congrArg Option.isSome (Turn.step?_of_allowed_none hnone))

end Gate
end QueryGate
