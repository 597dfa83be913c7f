import QueryGate.Gate.Basic

/-! A pass as a list of turns: one for each parameter, up to the first at which the store fails. What a turn does is
said once here, by `Effect`; statements about whole passes follow from it by the lemmas at the end. -/
namespace QueryGate

namespace Progress

variable {B : Type}

def remaining? (p : Progress B) (name : String) : Option UInt32 := p.allowed.bind (·.remaining? name)

theorem remaining?_eq (p : Progress B) (name : String) :
    p.remaining? name = (p.allowed.bind (·.get? name)).map Allowance.remaining := by
  unfold remaining?
  cases p.allowed <;> rfl

theorem denial?_eq_none_iff (p : Progress B) (name : String) (args : Args) :
    p.denial? name args = none ↔
      (p.allowed.isSome = true → ∃ a, p.allowed.bind (·.get? name) = some a ∧ a.remaining ≠ 0 ∧
        RuleSet.check? a.rules args = none) := by
  unfold denial?
  cases p.allowed with
  | none => simp
  | some l => simp [AllowList.denial?_eq_none_iff]

end Progress

/-- A parameter when its turn comes, and what the pass has changed before. -/
structure Turn (B : Type) where
  key : String
  value : Parsed
  before : Progress B

/-- What the gate makes of a parameter: nothing if it asks for a page, a reason to skip it, or a call. -/
inductive Verdict (B : Type)
  | page
  | skip (reason : SkipReason)
  | call (op : Operation B) (args : Args)

namespace Turn

variable {B : Type} (catalog : Catalog B) (settings : Settings)

def name (t : Turn B) : String := Operation.nameOf t.key

def entry (t : Turn B) : String × Parsed := (t.key, t.value)

def after (t : Turn B) : Except GateError Unit × Progress B := t.before.step catalog settings t.key t.value

def verdict (t : Turn B) : Verdict B :=
  match t.value with
  | .error m => .skip (.malformed m)
  | .ok args =>
    if settings.isPaging t.key then .page
    else
      match catalog.get? t.name with
      | none => .skip .unknownOperation
      | some op =>
        match t.before.denial? t.name args with
        | some d => .skip (.denied d)
        | none =>
          if args.length = op.arity then .call op args
          else .skip (.badArguments (.arity op.arity args.length))

/-- How a turn ends. A call ends in one of three ways, and only a success is paid for. -/
inductive Effect (t : Turn B) : Except GateError Unit × Progress B → Prop
  | page (h : t.verdict catalog settings = .page) : Effect t (.ok (), t.before)
  | skip {reason : SkipReason} (h : t.verdict catalog settings = .skip reason) :
      Effect t (.ok (), t.before.record t.key t.name (.skipped reason))
  | applied {op : Operation B} {args : Args} {b : B} (h : t.verdict catalog settings = .call op args)
      (hr : (op.run args).run t.before.backend = (.ok (), b)) :
      Effect t (.ok (), Progress.record
        { t.before with backend := b, allowed := t.before.allowed.map (·.consume t.name) } t.key t.name .applied)
  | refused {op : Operation B} {args : Args} {b : B} {e : OperationError} {bad : ArgumentError}
      (h : t.verdict catalog settings = .call op args)
      (hr : (op.run args).run t.before.backend = (.error e, b)) (he : e.argument? = .ok bad) :
      Effect t (.ok (), Progress.record { t.before with backend := b } t.key t.name (.skipped (.badArguments bad)))
  | failed {op : Operation B} {args : Args} {b : B} {e : OperationError} {f : Failure}
      (h : t.verdict catalog settings = .call op args)
      (hr : (op.run args).run t.before.backend = (.error e, b)) (he : e.argument? = .error f) :
      Effect t (.error (.operation t.name t.key f), { t.before with backend := b })

variable {catalog settings}

theorem effect_of_call (t : Turn B) {op : Operation B} {args : Args} (h : t.verdict catalog settings = .call op args) :
    Effect catalog settings t
      (match Progress.call op t.before t.key t.name args with
        | (.ok (), p) => (.ok (), p)
        | (.error f, p) => (.error (.operation t.name t.key f), p)) := by
  unfold Progress.call
  cases hr : (op.run args).run t.before.backend with
  | mk r b =>
    cases r with
    | ok u => exact .applied h hr
    | error e =>
      cases he : e.argument? with
      | ok bad => simpa only [he] using Effect.refused h hr he
      | error f => simpa only [he] using Effect.failed h hr he

theorem effect_after (t : Turn B) : Effect catalog settings t (t.after catalog settings) := by
  obtain ⟨key, value, p⟩ := t
  cases value with
  | error m => exact .skip rfl
  | ok args =>
    simp only [after, Progress.step]
    by_cases hp : settings.isPaging key = true
    · rw [if_pos hp]
      exact .page (by simp [verdict, hp])
    · rw [if_neg hp]
      simp only [Progress.dispatch]
      cases hc : catalog.get? (Operation.nameOf key) with
      | none => exact .skip (by simp [verdict, name, hp, hc])
      | some op =>
        cases hd : p.denial? (Operation.nameOf key) args with
        | some d => exact .skip (by simp [verdict, name, hp, hc, hd])
        | none =>
          by_cases ha : args.length = op.arity
          · simp only [if_pos ha]
            exact effect_of_call ⟨key, .ok args, p⟩ (by simp [verdict, name, hp, hc, hd, ha])
          · simp only [if_neg ha]
            exact .skip (by simp [verdict, name, hp, hc, hd, ha])

theorem verdict_eq_call_iff (t : Turn B) (op : Operation B) (args : Args) :
    t.verdict catalog settings = .call op args ↔
      t.value = .ok args ∧ settings.isPaging t.key = false ∧ catalog.get? t.name = some op ∧
        t.before.denial? t.name args = none ∧ args.length = op.arity := by
  obtain ⟨key, value, p⟩ := t
  unfold verdict
  cases value with
  | error m => simp
  | ok as =>
    simp only [Except.ok.injEq]
    constructor
    · intro h
      split at h
      · cases h
      · rename_i hp
        split at h
        · cases h
        · rename_i hc
          split at h
          · cases h
          · rename_i hd
            split at h
            · cases h
              exact ⟨rfl, by simpa using hp, hc, hd, by assumption⟩
            · cases h
    · rintro ⟨rfl, hp, hc, hd, ha⟩
      simp [hp, hc, hd, ha]

variable (catalog settings)

/-- Whether an operation is called and succeeds. -/
def succeeds (t : Turn B) : Bool :=
  match t.verdict catalog settings with
  | .call op args => ((op.run args).run t.before.backend).1.isOk
  | _ => false

/-- The backend that a turn leaves, also when its operation does not succeed. -/
def left (t : Turn B) : B :=
  match t.verdict catalog settings with
  | .call op args => ((op.run args).run t.before.backend).2
  | _ => t.before.backend

/-- What a turn adds to the report. -/
def recorded (t : Turn B) : List Outcome :=
  match t.verdict catalog settings with
  | .page => []
  | .skip reason => [⟨t.key, t.name, .skipped reason⟩]
  | .call op args =>
    match ((op.run args).run t.before.backend).1 with
    | .ok () => [⟨t.key, t.name, .applied⟩]
    | .error e =>
      match e.argument? with
      | .ok bad => [⟨t.key, t.name, .skipped (.badArguments bad)⟩]
      | .error _ => []

variable {catalog settings}

theorem after_backend (t : Turn B) : (t.after catalog settings).2.backend = t.left catalog settings := by
  have h : Effect catalog settings t (t.after catalog settings) := t.effect_after
  generalize t.after catalog settings = r at h ⊢
  cases h with
  | page h => simp [left, h]
  | skip h => simp [left, h, Progress.record]
  | applied h hr => simp [left, h, hr, Progress.record]
  | refused h hr he => simp [left, h, hr, Progress.record]
  | failed h hr he => simp [left, h, hr]

theorem after_report (t : Turn B) :
    (t.after catalog settings).2.report = t.before.report ++ t.recorded catalog settings := by
  have h : Effect catalog settings t (t.after catalog settings) := t.effect_after
  generalize t.after catalog settings = r at h ⊢
  cases h with
  | page h => simp [recorded, h]
  | skip h => simp [recorded, h, Progress.record]
  | applied h hr => simp [recorded, h, hr, Progress.record]
  | refused h hr he => simp [recorded, h, hr, he, Progress.record]
  | failed h hr he => simp [recorded, h, hr, he]

/-- Budgets change by successful calls alone. -/
theorem after_allowed (t : Turn B) :
    (t.after catalog settings).2.allowed =
      if t.succeeds catalog settings then t.before.allowed.map (·.consume t.name) else t.before.allowed := by
  have h : Effect catalog settings t (t.after catalog settings) := t.effect_after
  generalize t.after catalog settings = r at h ⊢
  cases h with
  | page h => simp [succeeds, h]
  | skip h => simp [succeeds, h, Progress.record]
  | applied h hr => simp [succeeds, h, hr, Progress.record, Except.isOk, Except.toBool]
  | refused h hr he => simp [succeeds, h, hr, Progress.record, Except.isOk, Except.toBool]
  | failed h hr he => simp [succeeds, h, hr, Except.isOk, Except.toBool]

/-- An operation is only called while something is left of its budget. -/
theorem remaining_ne_zero_of_call {t : Turn B} {op : Operation B} {args : Args} {a : Allowance}
    (h : t.verdict catalog settings = .call op args) (ha : t.before.allowed.bind (·.get? t.name) = some a) :
    a.remaining ≠ 0 := by
  obtain ⟨-, -, -, hd, -⟩ := (t.verdict_eq_call_iff op args).mp h
  obtain ⟨l, hl, -⟩ := Option.bind_eq_some_iff.mp ha
  obtain ⟨a', ha', hne, -⟩ := (t.before.denial?_eq_none_iff t.name args).mp hd (by simp [hl])
  rw [ha] at ha'
  cases ha'
  exact hne

theorem exists_call_of_succeeds {t : Turn B} (h : t.succeeds catalog settings = true) :
    ∃ op args, t.verdict catalog settings = .call op args := by
  unfold succeeds at h
  split at h
  · exact ⟨_, _, by assumption⟩
  · cases h

theorem remaining?_ne_zero_of_succeeds {t : Turn B} (h : t.succeeds catalog settings = true) :
    t.before.remaining? t.name ≠ some 0 := by
  obtain ⟨op, args, hv⟩ := exists_call_of_succeeds h
  rw [Progress.remaining?_eq]
  intro h0
  obtain ⟨a, ha, hz⟩ := Option.map_eq_some_iff.mp h0
  exact remaining_ne_zero_of_call hv ha hz

theorem remaining?_after (t : Turn B) (name : String) :
    (t.after catalog settings).2.remaining? name =
      if t.succeeds catalog settings = true ∧ t.name = name then (t.before.remaining? name).map (· - 1)
      else t.before.remaining? name := by
  rw [Progress.remaining?_eq, Progress.remaining?_eq, after_allowed]
  by_cases hs : t.succeeds catalog settings = true
  · rw [if_pos hs]
    cases hl : t.before.allowed with
    | none => simp
    | some l =>
      simp only [Option.map_some, Option.bind_some, AllowList.get?_consume]
      by_cases hn : t.name = name
      · subst hn
        rw [if_pos rfl, if_pos ⟨hs, rfl⟩]
        cases ha : l.get? t.name with
        | none => rfl
        | some a =>
          obtain ⟨op, args, hv⟩ := exists_call_of_succeeds hs
          have hne := remaining_ne_zero_of_call hv (a := a) (by rw [hl]; exact ha)
          simp [hne]
      · rw [if_neg (fun e => hn e.symm), if_neg (fun e => hn e.2)]
  · rw [if_neg hs, if_neg (fun e => hs e.1)]

end Turn

namespace Progress

variable {B : Type} (catalog : Catalog B) (settings : Settings)

/-- The turns of a pass. The last one is that of the parameter at which the store fails, if it does. -/
def turns : Progress B → List (String × Parsed) → List (Turn B)
  | _, [] => []
  | p, (key, value) :: rest =>
    ⟨key, value, p⟩ ::
      match p.step catalog settings key value with
      | (.ok (), p) => turns p rest
      | (.error _, _) => []

variable {catalog settings}

theorem run_cons_of_ok {p q : Progress B} {e : String × Parsed}
    (h : (Turn.mk e.1 e.2 p).after catalog settings = (.ok (), q)) (rest : List (String × Parsed)) :
    run catalog settings p (e :: rest) = run catalog settings q rest := by
  obtain ⟨key, value⟩ := e
  change p.step catalog settings key value = _ at h
  simp only [run, h]

theorem run_cons_of_error {p q : Progress B} {e : String × Parsed} {x : GateError}
    (h : (Turn.mk e.1 e.2 p).after catalog settings = (.error x, q)) (rest : List (String × Parsed)) :
    run catalog settings p (e :: rest) = (.error x, q) := by
  obtain ⟨key, value⟩ := e
  change p.step catalog settings key value = _ at h
  simp only [run, h]

theorem turns_cons_of_ok {p q : Progress B} {e : String × Parsed}
    (h : (Turn.mk e.1 e.2 p).after catalog settings = (.ok (), q)) (rest : List (String × Parsed)) :
    turns catalog settings p (e :: rest) = ⟨e.1, e.2, p⟩ :: turns catalog settings q rest := by
  obtain ⟨key, value⟩ := e
  change p.step catalog settings key value = _ at h
  simp only [turns, h]

theorem turns_cons_of_error {p q : Progress B} {e : String × Parsed} {x : GateError}
    (h : (Turn.mk e.1 e.2 p).after catalog settings = (.error x, q)) (rest : List (String × Parsed)) :
    turns catalog settings p (e :: rest) = [⟨e.1, e.2, p⟩] := by
  obtain ⟨key, value⟩ := e
  change p.step catalog settings key value = _ at h
  simp only [turns, h]

/-- What every turn keeps holds at every turn and at the end of the pass. -/
theorem run_invariant {P : Progress B → Prop} (step : ∀ t : Turn B, P t.before → P (t.after catalog settings).2)
    {p : Progress B} (hp : P p) (es : List (String × Parsed)) :
    P (run catalog settings p es).2 ∧ ∀ t ∈ turns catalog settings p es, P t.before := by
  induction es generalizing p with
  | nil => exact ⟨hp, by simp [turns]⟩
  | cons e rest ih =>
    have hs := step ⟨e.1, e.2, p⟩ hp
    rcases h : (Turn.mk e.1 e.2 p).after catalog settings with ⟨r | u, q⟩
    · rw [run_cons_of_error h, turns_cons_of_error h]
      rw [h] at hs
      exact ⟨hs, by simpa using hp⟩
    · rw [run_cons_of_ok h, turns_cons_of_ok h]
      rw [h] at hs
      exact ⟨(ih hs).1, by simpa using ⟨hp, (ih hs).2⟩⟩

/-- What every turn appends to, the pass appends to turn by turn. -/
theorem run_append {α : Type} (view : Progress B → List α) (emit : Turn B → List α)
    (step : ∀ t : Turn B, view (t.after catalog settings).2 = view t.before ++ emit t)
    (p : Progress B) (es : List (String × Parsed)) :
    view (run catalog settings p es).2 = view p ++ (turns catalog settings p es).flatMap emit := by
  induction es generalizing p with
  | nil => simp [run, turns]
  | cons e rest ih =>
    have hs := step ⟨e.1, e.2, p⟩
    rcases h : (Turn.mk e.1 e.2 p).after catalog settings with ⟨r | u, q⟩
    · rw [run_cons_of_error h, turns_cons_of_error h]
      rw [h] at hs
      simpa using hs
    · rw [run_cons_of_ok h, turns_cons_of_ok h, ih]
      rw [h] at hs
      simp [hs]

/-- A turn finds what a pass over the parameters in front of it leaves. -/
theorem before_eq_run {p : Progress B} {es : List (String × Parsed)} {pre post : List (Turn B)} {t : Turn B}
    (h : turns catalog settings p es = pre ++ t :: post) :
    t.before = (run catalog settings p (pre.map Turn.entry)).2 ∧
      turns catalog settings p (pre.map Turn.entry) = pre := by
  induction es generalizing p pre with
  | nil => simp [turns] at h
  | cons e rest ih =>
    cases pre with
    | nil =>
      refine ⟨?_, rfl⟩
      obtain ⟨key, value⟩ := e
      simp only [turns, List.nil_append, List.cons.injEq] at h
      rw [← h.1]
      rfl
    | cons u pre =>
      rcases ha : (Turn.mk e.1 e.2 p).after catalog settings with ⟨r | r, q⟩
      · rw [turns_cons_of_error ha] at h
        simp at h
      · rw [turns_cons_of_ok ha] at h
        simp only [List.cons_append, List.cons.injEq] at h
        obtain ⟨rfl, h⟩ := h
        have hi := ih h
        rw [List.map_cons, show Turn.entry ⟨e.1, e.2, p⟩ = e from rfl, run_cons_of_ok ha, turns_cons_of_ok ha, hi.2]
        exact ⟨hi.1, rfl⟩

theorem turns_prefix (p : Progress B) (es : List (String × Parsed)) :
    (turns catalog settings p es).map Turn.entry <+: es := by
  induction es generalizing p with
  | nil => simp [turns]
  | cons e rest ih =>
    rcases h : (Turn.mk e.1 e.2 p).after catalog settings with ⟨r | u, q⟩
    · rw [turns_cons_of_error h]
      exact ⟨rest, rfl⟩
    · rw [turns_cons_of_ok h]
      obtain ⟨tail, ht⟩ := ih q
      exact ⟨tail, by simp [Turn.entry, ht]⟩

/-- A pass that comes to its end gives every parameter its turn, and none of them fails. -/
theorem turns_of_run_ok {p : Progress B} {es : List (String × Parsed)} (h : (run catalog settings p es).1 = .ok ()) :
    (turns catalog settings p es).map Turn.entry = es ∧
      ∀ t ∈ turns catalog settings p es, (t.after catalog settings).1 = .ok () := by
  induction es generalizing p with
  | nil => simp [turns]
  | cons e rest ih =>
    rcases ha : (Turn.mk e.1 e.2 p).after catalog settings with ⟨r | u, q⟩
    · rw [run_cons_of_error ha] at h
      simp at h
    · rw [run_cons_of_ok ha] at h
      rw [turns_cons_of_ok ha]
      have hi := ih h
      refine ⟨by simp [Turn.entry, hi.1], ?_⟩
      intro t ht
      rcases List.mem_cons.mp ht with rfl | ht
      · simp [ha]
      · exact hi.2 t ht

/-- A pass that fails does so at its last turn, and what that turn leaves is what the pass leaves. -/
theorem turns_of_run_error {p : Progress B} {es : List (String × Parsed)} {x : GateError}
    (h : (run catalog settings p es).1 = .error x) :
    ∃ pre t, turns catalog settings p es = pre ++ [t] ∧ (∀ u ∈ pre, (u.after catalog settings).1 = .ok ()) ∧
      t.after catalog settings = (.error x, (run catalog settings p es).2) := by
  induction es generalizing p with
  | nil => simp [run] at h
  | cons e rest ih =>
    rcases ha : (Turn.mk e.1 e.2 p).after catalog settings with ⟨r | u, q⟩
    · rw [run_cons_of_error ha] at h ⊢
      rw [turns_cons_of_error ha]
      simp only [Except.error.injEq] at h
      subst h
      exact ⟨[], _, rfl, by simp, ha⟩
    · rw [run_cons_of_ok ha] at h ⊢
      rw [turns_cons_of_ok ha]
      obtain ⟨pre, t, ht, hpre, hlast⟩ := ih h
      refine ⟨⟨e.1, e.2, p⟩ :: pre, t, by rw [ht]; rfl, ?_, hlast⟩
      intro v hv
      rcases List.mem_cons.mp hv with rfl | hv
      · simp [ha]
      · exact hpre v hv

end Progress

namespace Gate

variable {B : Type}

/-- What the next pass begins with. -/
def fresh (g : Gate B) : Progress B := { g.progress with report := [] }

/-- The turns of the next pass. -/
def turns (g : Gate B) : List (Turn B) := Progress.turns g.catalog g.settings g.fresh g.params.entries

/-- The gate in the middle of its next pass, when the first `k` parameters have had their turns. -/
def cut (g : Gate B) (k : Nat) : Gate B :=
  { g with progress := (Progress.run g.catalog g.settings g.fresh (g.params.entries.take k)).2 }

theorem filter_eq (g : Gate B) :
    g.filter =
      ((Progress.run g.catalog g.settings g.fresh g.params.entries).1,
        { g with progress := (Progress.run g.catalog g.settings g.fresh g.params.entries).2 }) := rfl

/-- Fetching a page leaves the gate as the pass before it does. -/
theorem paginate_snd {Row : Type} [Backend B Row] (g : Gate B) : g.paginate.2 = g.filter.2 := by
  unfold paginate
  rcases g.filter with ⟨r | u, h⟩ <;> rfl

end Gate
end QueryGate
