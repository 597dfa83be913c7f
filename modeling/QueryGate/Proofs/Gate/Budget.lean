import QueryGate.Proofs.Gate.Account
import QueryGate.Proofs.Gate.Journal

/-! Budgets. What is left of the budget of an operation and its successful calls since it was last declared make up
the number of calls that it was declared with, after any moves and also in the middle of a pass. -/
namespace QueryGate

namespace Event

def declaration? (name : String) : Event → Option Declaration
  | declared d => if d.name = name then some d else none
  | called .. => none

def isSuccess (name : String) : Event → Bool
  | declared _ => false
  | called n _ succeeded => decide (n = name) && succeeded

end Event

namespace Journal

def latest? (journal : List Event) (name : String) : Option Declaration :=
  journal.reverse.findSome? (Event.declaration? name)

/-- The successful calls of an operation since its latest declaration. -/
def successes (journal : List Event) (name : String) : Nat :=
  (journal.reverse.takeWhile fun e => (e.declaration? name).isNone).countP (Event.isSuccess name)

theorem latest?_declared (journal : List Event) (d : Declaration) (name : String) :
    latest? (journal ++ [.declared d]) name = if d.name = name then some d else latest? journal name := by
  by_cases h : d.name = name <;> simp [latest?, Event.declaration?, h]

theorem latest?_called (journal : List Event) (n : String) (args : Args) (ok : Bool) (name : String) :
    latest? (journal ++ [.called n args ok]) name = latest? journal name := by
  simp [latest?, List.findSome?_cons, Event.declaration?]

theorem successes_declared (journal : List Event) (d : Declaration) (name : String) :
    successes (journal ++ [.declared d]) name = if d.name = name then 0 else successes journal name := by
  by_cases h : d.name = name <;> simp [successes, Event.declaration?, Event.isSuccess, h]

theorem successes_called (journal : List Event) (n : String) (args : Args) (ok : Bool) (name : String) :
    successes (journal ++ [.called n args ok]) name =
      successes journal name + if n = name ∧ ok = true then 1 else 0 := by
  by_cases h : n = name ∧ ok = true <;> simp [successes, Event.declaration?, Event.isSuccess, h]

end Journal

open Journal

/-- What the latest declarations in a journal give to an operation. -/
def Journal.given (settings : Settings) (journal : List Event) (name : String) : Option Allowance :=
  (latest? journal name).map fun d => ⟨d.rules, d.budget settings.defaultMaxCalls⟩

/-- The allow-list that a journal accounts for. -/
structure Balanced (settings : Settings) (journal : List Event) (allowed : Option AllowList) : Prop where
  restricted : allowed.isSome = true ↔ ∃ d, Event.declared d ∈ journal
  accounted : Accounted (given settings journal) (successes journal) allowed

namespace Balanced

variable {settings : Settings} {journal : List Event} {allowed : Option AllowList}

theorem undeclared (h : Balanced settings journal allowed) {name : String} (hn : latest? journal name = none) :
    allowed.bind (·.get? name) = none :=
  h.accounted.undeclared name (by rw [given, hn]; rfl)

theorem declared (h : Balanced settings journal allowed) {name : String} {d : Declaration}
    (hd : latest? journal name = some d) :
    ∃ a, allowed.bind (·.get? name) = some a ∧ a.rules = d.rules ∧
      a.remaining.toNat + successes journal name = (d.budget settings.defaultMaxCalls).toNat :=
  h.accounted.declared name _ (by rw [given, hd]; rfl)

theorem nil (settings : Settings) : Balanced settings [] none where
  restricted := by simp
  accounted := ⟨fun _ _ => rfl, fun _ _ h => by cases h⟩

theorem declare (h : Balanced settings journal allowed) (d : Declaration) :
    Balanced settings (journal ++ [.declared d])
      (some ((allowed.getD .empty).allow d.name d.rules (d.budget settings.defaultMaxCalls))) := by
  have hget : ∀ name, (allowed.getD .empty).get? name = allowed.bind (·.get? name) := by
    cases allowed <;> intro name <;> rfl
  refine ⟨by simp, ?_, ?_⟩
  · intro name hn
    rw [given, latest?_declared] at hn
    split at hn
    · cases hn
    · rename_i hne
      rw [Option.bind_some, AllowList.get?_allow, if_neg (fun e => hne e.symm), hget]
      exact h.accounted.undeclared name hn
  · intro name a hd
    rw [given, latest?_declared] at hd
    rw [Option.bind_some, AllowList.get?_allow, successes_declared]
    split at hd
    · rename_i he
      cases hd
      exact ⟨_, by rw [if_pos he.symm], rfl, by simp [he]⟩
    · rename_i hne
      rw [if_neg (fun e => hne e.symm), if_neg hne, hget]
      exact h.accounted.declared name a hd

theorem given_called (settings : Settings) (journal : List Event) (n : String) (args : Args) (ok : Bool) :
    given settings (journal ++ [.called n args ok]) = given settings journal := by
  funext name
  rw [given, latest?_called]
  rfl

/-- A call that does not succeed is free. -/
theorem call (h : Balanced settings journal allowed) (name : String) (args : Args) :
    Balanced settings (journal ++ [.called name args false]) allowed where
  restricted := by simpa using h.restricted
  accounted := by
    rw [given_called]
    exact h.accounted.congr_spent fun n => by simp [successes_called]

theorem succeed (h : Balanced settings journal allowed) (name : String) (args : Args)
    (hleft : ∀ a, allowed.bind (·.get? name) = some a → a.remaining ≠ 0) :
    Balanced settings (journal ++ [.called name args true]) (allowed.map (·.consume name)) where
  restricted := by simpa using h.restricted
  accounted := by
    rw [given_called]
    exact (h.accounted.spend name hleft).congr_spent fun n => by simp [successes_called]

end Balanced

variable {B Row : Type} {catalog : Catalog B} {settings : Settings}

theorem Turn.balanced_after {t : Turn (Journaled B)}
    (h : Balanced settings t.before.backend.journal t.before.allowed) :
    Balanced settings (t.after catalog.journaled settings).2.backend.journal
      (t.after catalog.journaled settings).2.allowed := by
  obtain ⟨key, value, ⟨⟨b, journal⟩, allowed, report⟩⟩ := t
  let u : Turn B := ⟨key, value, ⟨b, allowed, report⟩⟩
  have hs : Turn.after catalog.journaled settings ⟨key, value, ⟨⟨b, journal⟩, allowed, report⟩⟩ =
      ((u.after catalog settings).1,
        (u.after catalog settings).2.journaled (journal ++ (u.event? catalog settings).toList)) :=
    Progress.step_journaled catalog settings u.before journal key value
  rw [hs]
  change Balanced settings (journal ++ (u.event? catalog settings).toList) (u.after catalog settings).2.allowed
  rw [u.after_allowed]
  cases hv : u.verdict catalog settings with
  | page => simpa [Turn.event?, Turn.succeeds, hv] using h
  | skip reason => simpa [Turn.event?, Turn.succeeds, hv] using h
  | call op args =>
    simp only [Turn.event?, Turn.succeeds, hv, Option.toList_some]
    cases ((op.run args).run u.before.backend).1.isOk with
    | false => exact h.call u.name args
    | true => exact h.succeed u.name args fun a ha => Turn.remaining_ne_zero_of_call hv ha

theorem Progress.balanced_run {p : Progress B} {journal : List Event} (h : Balanced settings journal p.allowed)
    (es : List (String × Parsed)) :
    Balanced settings (journal ++ (turns catalog settings p es).filterMap (Turn.event? catalog settings))
      (run catalog settings p es).2.allowed := by
  have hr := run_invariant (P := fun q => Balanced settings q.backend.journal q.allowed)
    (fun t ht => (Turn.balanced_after ht : Balanced settings (t.after catalog.journaled settings).2.backend.journal _))
    (p := p.journaled journal) h es
  rw [run_journaled] at hr
  exact hr.1

namespace Gate

theorem balanced_move [Backend B Row] {g : Gate B} {journal : List Event}
    (h : Balanced g.settings journal g.progress.allowed) (m : Move) :
    Balanced g.settings (journal ++ g.events m) (g.move m).progress.allowed := by
  cases m with
  | register d => exact h.declare d
  | filter => exact Progress.balanced_run (p := g.fresh) h g.params.entries
  | paginate =>
    rw [move, paginate_snd]
    exact Progress.balanced_run (p := g.fresh) h g.params.entries

/-- After any moves the journal accounts for the allow-list. -/
theorem balanced_after [Backend B Row] {g : Gate B} {journal : List Event}
    (h : Balanced g.settings journal g.progress.allowed) (ms : List Move) :
    Balanced g.settings ((g.journaled journal).notedAfter ms).journal (g.after ms).progress.allowed := by
  induction ms generalizing g journal with
  | nil => exact h
  | cons m ms ih =>
    have hs : (g.move m).settings = g.settings := by rw [move_eq]
    simp only [notedAfter, after, List.foldl_cons, notedMove_journaled]
    rw [← hs]
    exact ih (hs ▸ balanced_move h m)

theorem balanced_cut {g : Gate B} {journal : List Event} (h : Balanced g.settings journal g.progress.allowed)
    (k : Nat) : Balanced g.settings ((g.journaled journal).cut k).journal (g.cut k).progress.allowed := by
  rw [cut_journaled]
  exact Progress.balanced_run (p := g.fresh) h (g.params.entries.take k)

theorem remaining?_eq (g : Gate B) (name : String) :
    g.remaining? name = (g.progress.allowed.bind (·.get? name)).map Allowance.remaining :=
  g.progress.remaining?_eq name

theorem journaled_cut_after [Backend B Row] (g : Gate B) (ms : List Move) (k : Nat) :
    ((g.journaled []).notedAfter ms).cut k =
      ((g.after ms).cut k).journaled (((g.journaled []).notedAfter ms).cut k).journal := by
  rw [notedAfter_eq, cut_journaled]
  rfl

theorem balanced_cut_after [Backend B Row] (backend : B) (catalog : Catalog B) (params : Params) (settings : Settings)
    (ms : List Move) (k : Nat) :
    Balanced settings ((((ofParams backend catalog params settings).journaled []).notedAfter ms).cut k).journal
      (((ofParams backend catalog params settings).after ms).cut k).progress.allowed := by
  have h := balanced_after (g := ofParams backend catalog params settings) (Balanced.nil settings) ms
  have hs := after_settings (ofParams backend catalog params settings) ms
  have hc := balanced_cut (g := (ofParams backend catalog params settings).after ms) (hs.symm ▸ h) k
  rw [hs, ← notedAfter_eq] at hc
  exact hc

/-- A pass gives nothing back. -/
theorem remaining?_cut_le (g : Gate B) (k : Nat) {name : String} {n : UInt32} (h : g.remaining? name = some n) :
    ∃ m, (g.cut k).remaining? name = some m ∧ m ≤ n := by
  refine (Progress.run_invariant (P := fun p => ∃ m, p.remaining? name = some m ∧ m ≤ n) ?_ (p := g.fresh)
    ⟨n, h, UInt32.le_refl n⟩ (g.params.entries.take k)).1
  rintro t ⟨m, hm, hle⟩
  rw [Turn.remaining?_after, hm]
  split
  · rename_i hs
    have hne : m ≠ 0 := by
      rintro rfl
      exact Turn.remaining?_ne_zero_of_succeeds hs.1 (hs.2 ▸ hm)
    have hp := toNat_sub_one_add_one hne
    refine ⟨m - 1, rfl, UInt32.le_iff_toNat_le.mpr ?_⟩
    have := UInt32.le_iff_toNat_le.mp hle
    omega
  · exact ⟨m, rfl, hle⟩

/-- Budgets are conserved at every point of every run, with the journal as the account of what was called. Only a
success changes a budget, by one, and only that of its own operation, where something was left. -/
theorem remaining_add_successes [Backend B Row] (backend : B) (catalog : Catalog B) (params : Params)
    (settings : Settings) (ms : List Move) (k : Nat) :
    let start := ofParams backend catalog params settings
    let g := (start.after ms).cut k
    let h := ((start.journaled []).notedAfter ms).cut k
    h = g.journaled h.journal ∧
    (∀ name, latest? h.journal name = none → g.remaining? name = none) ∧
    (∀ name d, latest? h.journal name = some d → ∃ n, g.remaining? name = some n ∧
      n.toNat + successes h.journal name = (d.budget settings.defaultMaxCalls).toNat ∧
      successes h.journal name ≤ (d.budget settings.defaultMaxCalls).toNat) ∧
    (∀ t ∈ (start.after ms).turns,
      (t.succeeds catalog settings = true → t.before.remaining? t.name ≠ some 0) ∧
      ∀ name, (t.after catalog settings).2.remaining? name =
        if t.succeeds catalog settings = true ∧ t.name = name then (t.before.remaining? name).map (· - 1)
        else t.before.remaining? name) ∧
    ∀ name n, (start.after ms).remaining? name = some n → ∃ m, g.remaining? name = some m ∧ m ≤ n := by
  intro start g h
  have hb : Balanced settings h.journal g.progress.allowed := balanced_cut_after backend catalog params settings ms k
  refine ⟨journaled_cut_after start ms k, ?_, ?_, ?_, ?_⟩
  · intro name hn
    rw [remaining?_eq, hb.undeclared hn]
    rfl
  · intro name d hd
    obtain ⟨a, ha, -, hsum⟩ := hb.declared hd
    refine ⟨a.remaining, ?_, hsum, by omega⟩
    rw [remaining?_eq, ha]
    rfl
  · intro t _
    exact ⟨Turn.remaining?_ne_zero_of_succeeds, t.remaining?_after⟩
  · intro name n hn
    exact remaining?_cut_le (start.after ms) k hn

end Gate
end QueryGate
