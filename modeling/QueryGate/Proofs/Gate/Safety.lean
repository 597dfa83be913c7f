import Mathlib.Data.List.Induction
import QueryGate.Proofs.Gate.Budget
import QueryGate.Proofs.Operation.Name
import QueryGate.Proofs.Rule.Check

/-! What a gate calls. The calls in the journal of a run are those of the turns that are ready, in the order of the
turns: nothing else is called, and nothing that is ready is left out. -/
namespace QueryGate

open Journal

namespace Journal

theorem latest?_append_calls {calls : List Event} (h : ∀ d, Event.declared d ∉ calls) (journal : List Event)
    (name : String) : latest? (journal ++ calls) name = latest? journal name := by
  have hn : calls.reverse.findSome? (Event.declaration? name) = none := by
    rw [List.findSome?_eq_none_iff]
    intro e he
    cases e with
    | declared d => exact absurd (List.mem_reverse.mp he) (h d)
    | called n args ok => rfl
  rw [latest?, List.reverse_append, List.findSome?_append, hn]
  rfl

end Journal

namespace Turn

variable {B : Type} {catalog : Catalog B} {settings : Settings} {history : List Event}

/-- The conditions of a call. Once an operation was declared, those of its latest declaration come in. -/
structure Ready (history : List Event) (catalog : Catalog B) (settings : Settings) (t : Turn B) (name : String)
    (op : Operation B) (args : Args) : Prop where
  wellFormed : t.value = .ok args
  notPaging : t.key ≠ settings.pageParam ∧ t.key ≠ settings.perPageParam
  named : Operation.Names t.key name
  found : catalog.get? name = some op
  arity : args.length = op.arity
  permitted : (∃ d, .declared d ∈ history) → ∃ d n, latest? history name = some d ∧
    t.before.remaining? name = some n ∧ n ≠ 0 ∧ List.Forall₂ (fun set a => RuleSet.passes set a = true) d.rules args

theorem event?_ne_declared (t : Turn B) (d : Declaration) : t.event? catalog settings ≠ some (.declared d) := by
  unfold event?
  cases t.verdict catalog settings <;> simp

theorem denial?_eq_none_iff_permitted {t : Turn B} {calls : List Event} (hc : ∀ d, Event.declared d ∉ calls)
    (h : Balanced settings (history ++ calls) t.before.allowed) (name : String) (args : Args) :
    t.before.denial? name args = none ↔
      ((∃ d, .declared d ∈ history) → ∃ d n, latest? history name = some d ∧
        t.before.remaining? name = some n ∧ n ≠ 0 ∧
        List.Forall₂ (fun set a => RuleSet.passes set a = true) d.rules args) := by
  have hr : t.before.allowed.isSome = true ↔ ∃ d, .declared d ∈ history := by
    rw [h.restricted]
    simp only [List.mem_append, hc, or_false]
  rw [Progress.denial?_eq_none_iff, ← hr]
  refine imp_congr_right fun _ => ?_
  rw [Progress.remaining?_eq]
  constructor
  · rintro ⟨a, ha, hne, hpass⟩
    cases hl : latest? history name with
    | none =>
      have hu : t.before.allowed.bind (·.get? name) = none :=
        h.undeclared (by rw [latest?_append_calls hc, hl])
      rw [ha] at hu
      cases hu
    | some d =>
      obtain ⟨a', ha', hrules, -⟩ := h.declared (d := d) (by rw [latest?_append_calls hc, hl])
      rw [ha] at ha'
      cases ha'
      exact ⟨d, a.remaining, rfl, by rw [ha]; rfl, hne, hrules ▸ (RuleSet.check?_eq_none_iff _ _).mp hpass⟩
  · rintro ⟨d, n, hl, hn, hne, hpass⟩
    obtain ⟨a, ha, hrules, -⟩ := h.declared (d := d) (by rw [latest?_append_calls hc, hl])
    rw [ha] at hn
    cases hn
    exact ⟨a, ha, hne, (RuleSet.check?_eq_none_iff _ _).mpr (hrules ▸ hpass)⟩

theorem isPaging_eq_false_iff (key : String) :
    settings.isPaging key = false ↔ key ≠ settings.pageParam ∧ key ≠ settings.perPageParam := by
  simp [Settings.isPaging]

theorem ready_iff {t : Turn B} {calls : List Event} (hc : ∀ d, Event.declared d ∉ calls)
    (h : Balanced settings (history ++ calls) t.before.allowed) (name : String) (op : Operation B) (args : Args) :
    Ready history catalog settings t name op args ↔ t.verdict catalog settings = .call op args ∧ t.name = name := by
  rw [verdict_eq_call_iff, isPaging_eq_false_iff]
  constructor
  · intro hr
    obtain rfl : t.name = name := (Operation.names_iff t.key name).mp hr.named
    exact ⟨⟨hr.wellFormed, hr.notPaging, hr.found, (denial?_eq_none_iff_permitted hc h t.name args).mpr hr.permitted,
      hr.arity⟩, rfl⟩
  · rintro ⟨⟨hv, hp, hf, hd, ha⟩, rfl⟩
    exact ⟨hv, hp, (Operation.names_iff t.key t.name).mpr rfl, hf, ha,
      (denial?_eq_none_iff_permitted hc h t.name args).mp hd⟩

theorem event?_eq_some_iff {t : Turn B} {calls : List Event} (hc : ∀ d, Event.declared d ∉ calls)
    (h : Balanced settings (history ++ calls) t.before.allowed) (e : Event) :
    t.event? catalog settings = some e ↔
      ∃ name op args, Ready history catalog settings t name op args ∧
        e = .called name args ((op.run args).run t.before.backend).1.isOk := by
  simp only [ready_iff hc h]
  unfold event?
  cases t.verdict catalog settings with
  | page => simp
  | skip reason => simp
  | call op args =>
    simp only [Option.some.injEq, Verdict.call.injEq]
    constructor
    · rintro rfl
      exact ⟨t.name, op, args, ⟨⟨rfl, rfl⟩, rfl⟩, rfl⟩
    · rintro ⟨name, op', args', ⟨⟨rfl, rfl⟩, rfl⟩, rfl⟩
      rfl

end Turn

namespace Gate

variable {B Row : Type}

/-- At a turn the journal holds what it held before the pass, and calls. -/
theorem balanced_turn {g : Gate B} {journal : List Event} (h : Balanced g.settings journal g.progress.allowed)
    {t : Turn B} (ht : t ∈ g.turns) :
    ∃ calls, (∀ d, Event.declared d ∉ calls) ∧ Balanced g.settings (journal ++ calls) t.before.allowed := by
  obtain ⟨pre, post, hs⟩ := List.append_of_mem ht
  obtain ⟨hb, hpre⟩ := Progress.before_eq_run hs
  have hr : Balanced g.settings (journal ++ _)
      (Progress.run g.catalog g.settings g.fresh (pre.map Turn.entry)).2.allowed :=
    Progress.balanced_run (p := g.fresh) h (pre.map Turn.entry)
  rw [hpre, ← hb] at hr
  refine ⟨_, ?_, hr⟩
  intro d hd
  obtain ⟨u, -, hu⟩ := List.mem_filterMap.mp hd
  exact u.event?_ne_declared d hu

theorem event?_eq_some_iff_ready {g : Gate B} {journal : List Event}
    (h : Balanced g.settings journal g.progress.allowed) {t : Turn B} (ht : t ∈ g.turns) (e : Event) :
    t.event? g.catalog g.settings = some e ↔
      ∃ name op args, t.Ready journal g.catalog g.settings name op args ∧
        e = .called name args ((op.run args).run t.before.backend).1.isOk := by
  obtain ⟨calls, hc, hb⟩ := balanced_turn h ht
  exact Turn.event?_eq_some_iff hc hb e

theorem balanced_after_ofParams [Backend B Row] (backend : B) (catalog : Catalog B) (params : Params)
    (settings : Settings) (ms : List Move) :
    Balanced ((ofParams backend catalog params settings).after ms).settings
      (((ofParams backend catalog params settings).journaled []).notedAfter ms).journal
      ((ofParams backend catalog params settings).after ms).progress.allowed := by
  rw [after_settings]
  exact balanced_after (g := ofParams backend catalog params settings) (Balanced.nil settings) ms

/-- Every call in the journal of a run was made at a turn that was ready for it, in some pass of the run. -/
theorem ready_of_called_mem [Backend B Row] (backend : B) (catalog : Catalog B) (params : Params) (settings : Settings)
    (ms : List Move) {name : String} {args : Args} {ok : Bool}
    (h : .called name args ok ∈ (((ofParams backend catalog params settings).journaled []).notedAfter ms).journal) :
    ∃ pre m post, ms = pre ++ m :: post ∧
      ∃ t ∈ ((ofParams backend catalog params settings).after pre).turns, ∃ op,
        t.Ready (((ofParams backend catalog params settings).journaled []).notedAfter pre).journal
          catalog settings name op args ∧ ok = ((op.run args).run t.before.backend).1.isOk := by
  induction ms using List.reverseRecOn with
  | nil => cases h
  | append_singleton init m ih =>
    have hstep : ((ofParams backend catalog params settings).journaled []).notedAfter (init ++ [m]) =
        (((ofParams backend catalog params settings).journaled []).notedAfter init).notedMove m := by
      rw [notedAfter, List.foldl_append]
      rfl
    rw [hstep, notedAfter_eq, notedMove_journaled, journal_journaled, List.mem_append] at h
    rcases h with h | h
    · obtain ⟨pre, m', post, rfl, hready⟩ := ih h
      exact ⟨pre, m', post ++ [m], by simp, hready⟩
    · refine ⟨init, m, [], rfl, ?_⟩
      have hpass : .called name args ok ∈ ((ofParams backend catalog params settings).after init).turns.filterMap
          (Turn.event? catalog settings) := by
        cases m with
        | register d => simp [events] at h
        | filter =>
          rw [events, after_catalog, after_settings] at h
          exact h
        | paginate =>
          rw [events, after_catalog, after_settings] at h
          exact h
      obtain ⟨t, ht, he⟩ := List.mem_filterMap.mp hpass
      have hiff := event?_eq_some_iff_ready (balanced_after_ofParams backend catalog params settings init) ht
        (.called name args ok)
      rw [after_catalog, after_settings] at hiff
      obtain ⟨name', op, args', hr, heq⟩ := hiff.mp he
      cases heq
      exact ⟨t, ht, op, hr, rfl⟩

/-- A gate calls an operation exactly when a turn is ready for it. With `h` as the gate after any moves that keeps a
journal, and `g` as the one that keeps none: the two agree, every call in the journal was ready, and the next pass
adds the calls of its ready turns in the order of the request. A turn finds what a pass over the parameters before it
leaves, and a pass that comes to its end gives all parameters their turns. -/
theorem calls_eq_ready_turns [Backend B Row] (backend : B) (catalog : Catalog B) (params : Params)
    (settings : Settings) (ms : List Move) :
    let start := ofParams backend catalog params settings
    let g := start.after ms
    let h := (start.journaled []).notedAfter ms
    h = g.journaled h.journal ∧
    (∀ name args ok, .called name args ok ∈ h.journal → ∃ pre m post, ms = pre ++ m :: post ∧
      ∃ t ∈ (start.after pre).turns, ∃ op,
        t.Ready ((start.journaled []).notedAfter pre).journal catalog settings name op args ∧
          ok = ((op.run args).run t.before.backend).1.isOk) ∧
    (∀ d, (h.notedMove (.register d)).journal = h.journal ++ [.declared d]) ∧
    (h.notedMove .filter).journal = h.journal ++ g.turns.filterMap (Turn.event? catalog settings) ∧
    (h.notedMove .paginate).journal = h.journal ++ g.turns.filterMap (Turn.event? catalog settings) ∧
    (∀ t ∈ g.turns, ∀ e, t.event? catalog settings = some e ↔ ∃ name op args,
      t.Ready h.journal catalog settings name op args ∧
        e = .called name args ((op.run args).run t.before.backend).1.isOk) ∧
    (∀ pre t post, g.turns = pre ++ t :: post →
      t.before = (Progress.run catalog settings g.fresh (pre.map Turn.entry)).2) ∧
    g.turns.map Turn.entry <+: params.entries ∧
    (g.filter.1 = .ok () → g.turns.map Turn.entry = params.entries) := by
  intro start g h
  have hg : h = g.journaled h.journal := notedAfter_eq start [] ms
  have hc : g.catalog = catalog := after_catalog start ms
  have hs : g.settings = settings := after_settings start ms
  have hp : g.params = params := after_params start ms
  have hmove : ∀ m, (h.notedMove m).journal = h.journal ++ g.events m := by
    intro m
    rw [hg, notedMove_journaled]
    rfl
  refine ⟨hg, fun name args ok => ready_of_called_mem backend catalog params settings ms, fun d => hmove _, ?_, ?_, ?_,
    ?_, ?_, ?_⟩
  · rw [hmove, ← hc, ← hs]
    rfl
  · rw [hmove, ← hc, ← hs]
    rfl
  · intro t ht e
    have hiff := event?_eq_some_iff_ready (balanced_after_ofParams backend catalog params settings ms) ht e
    rwa [after_catalog, after_settings] at hiff
  · intro pre t post ht
    rw [← hc, ← hs]
    exact (Progress.before_eq_run ht).1
  · rw [← hp]
    exact Progress.turns_prefix g.fresh g.params.entries
  · intro hok
    rw [← hp]
    exact (Progress.turns_of_run_ok hok).1

end Gate
end QueryGate
