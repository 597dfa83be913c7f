import QueryGate.Proofs.Gate.Pass
import QueryGate.Proofs.OrderedMap

/-! Gates that keep a journal. Each operation of the catalog writes down that it was called, with what and with which
success, and does what it did before; the journal of a run is then the list of all calls in their order. Writing it
changes nothing else, which is the content of `notedAfter_eq`. -/
namespace QueryGate

/-- Declarations are noted too, so that a journal tells which calls came after one. -/
inductive Event
  | declared (d : Declaration)
  | called (name : String) (args : Args) (succeeded : Bool)

structure Journaled (B : Type) where
  backend : B
  journal : List Event

namespace Journaled

variable {B Row ε α : Type}

/-- A step of the store, which leaves the journal alone. -/
def lift (a : Action ε B α) : Action ε (Journaled B) α :=
  ExceptT.mk fun s => ((a.run s.backend).1, { s with backend := (a.run s.backend).2 })

instance [Backend B Row] : Backend (Journaled B) Row where
  applyOrder column d := lift (Backend.applyOrder column d)
  applyWindow limit offset := lift (Backend.applyWindow limit offset)
  pageInfo perPage page := lift (Backend.pageInfo perPage page)
  fetchRows := lift Backend.fetchRows

end Journaled

variable {B Row : Type}

def Operation.journaled (name : String) (op : Operation B) : Operation (Journaled B) where
  arity := op.arity
  run args := ExceptT.mk fun s =>
    let r := (op.run args).run s.backend
    (r.1, ⟨r.2, s.journal ++ [.called name args r.1.isOk]⟩)

@[simp] theorem Operation.journaled_arity (name : String) (op : Operation B) :
    (op.journaled name).arity = op.arity := rfl

@[simp] theorem Operation.journaled_run (name : String) (op : Operation B) (args : Args) (s : Journaled B) :
    ((op.journaled name).run args).run s =
      (((op.run args).run s.backend).1,
        ⟨((op.run args).run s.backend).2,
          s.journal ++ [.called name args ((op.run args).run s.backend).1.isOk]⟩) := rfl

def Catalog.journaled (c : Catalog B) : Catalog (Journaled B) where
  entries := c.entries.map fun e => (e.1, e.2.journaled e.1)
  distinct := by
    rw [List.map_map]
    exact c.distinct

theorem Catalog.get?_journaled (c : Catalog B) (name : String) :
    c.journaled.get? name = (c.get? name).map (Operation.journaled name) :=
  lookup_map_snd Operation.journaled c.entries name

namespace Progress

def journaled (p : Progress B) (journal : List Event) : Progress (Journaled B) :=
  ⟨⟨p.backend, journal⟩, p.allowed, p.report⟩

@[simp] theorem record_journaled (p : Progress B) (journal : List Event) (key name : String) (status : Status) :
    (p.journaled journal).record key name status = (p.record key name status).journaled journal := rfl

@[simp] theorem denial?_journaled (p : Progress B) (journal : List Event) (name : String) (args : Args) :
    (p.journaled journal).denial? name args = p.denial? name args := rfl

end Progress

variable (catalog : Catalog B) (settings : Settings)

/-- The call that a turn leads to. -/
def Turn.event? (t : Turn B) : Option Event :=
  match t.verdict catalog settings with
  | .call op args => some (.called t.name args ((op.run args).run t.before.backend).1.isOk)
  | _ => none

theorem Progress.call_journaled (op : Operation B) (p : Progress B) (journal : List Event) (key name : String)
    (args : Args) :
    Progress.call (op.journaled name) (p.journaled journal) key name args =
      ((Progress.call op p key name args).1,
        (Progress.call op p key name args).2.journaled
          (journal ++ [.called name args ((op.run args).run p.backend).1.isOk])) := by
  simp only [Progress.call, Operation.journaled_run, Progress.journaled]
  rcases (op.run args).run p.backend with ⟨e | u, b⟩
  · dsimp only
    cases e.argument? <;> rfl
  · rfl

theorem Progress.step_journaled (p : Progress B) (journal : List Event) (key : String) (value : Parsed) :
    (p.journaled journal).step catalog.journaled settings key value =
      ((p.step catalog settings key value).1,
        (p.step catalog settings key value).2.journaled
          (journal ++ ((Turn.mk key value p).event? catalog settings).toList)) := by
  cases value with
  | error m => simp [Progress.step, Turn.event?, Turn.verdict]
  | ok args =>
    simp only [Progress.step, Turn.event?, Turn.verdict, Turn.name]
    by_cases hp : settings.isPaging key = true
    · simp [hp]
    · simp only [hp, Progress.dispatch, Catalog.get?_journaled, Progress.denial?_journaled]
      cases catalog.get? (Operation.nameOf key) with
      | none => simp
      | some op =>
        cases p.denial? (Operation.nameOf key) args with
        | some d => simp
        | none =>
          by_cases ha : args.length = op.arity
          · simp only [Option.map_some, Operation.journaled_arity, ha, Progress.call_journaled]
            rcases Progress.call op p key (Operation.nameOf key) args with ⟨e | u, q⟩ <;> simp
          · simp [ha]

theorem Progress.run_journaled (p : Progress B) (journal : List Event) (es : List (String × Parsed)) :
    Progress.run catalog.journaled settings (p.journaled journal) es =
      ((Progress.run catalog settings p es).1,
        (Progress.run catalog settings p es).2.journaled
          (journal ++ (Progress.turns catalog settings p es).filterMap (Turn.event? catalog settings))) := by
  induction es generalizing p journal with
  | nil => simp [Progress.run, Progress.turns]
  | cons e rest ih =>
    obtain ⟨key, value⟩ := e
    simp only [Progress.run, Progress.turns, Progress.step_journaled]
    rcases p.step catalog settings key value with ⟨x | u, q⟩
    · cases h : Turn.event? catalog settings ⟨key, value, p⟩ <;> simp [h]
    · cases h : Turn.event? catalog settings ⟨key, value, p⟩ <;> simp [h, ih]

/-- What a caller may do with a gate. -/
inductive Move
  | register (d : Declaration)
  | filter
  | paginate

namespace Gate

def move [Backend B Row] (g : Gate B) : Move → Gate B
  | .register d => g.register d
  | .filter => g.filter.2
  | .paginate => g.paginate.2

def after [Backend B Row] (g : Gate B) (ms : List Move) : Gate B := ms.foldl move g

def journaled (g : Gate B) (journal : List Event) : Gate (Journaled B) :=
  ⟨g.catalog.journaled, g.params, g.settings, g.progress.journaled journal⟩

def journal (g : Gate (Journaled B)) : List Event := g.progress.backend.journal

def note (g : Gate (Journaled B)) (d : Declaration) : Gate (Journaled B) :=
  { g with progress := { g.progress with
      backend := { g.progress.backend with journal := g.journal ++ [.declared d] } } }

/-- A move whose declaration is noted. Calls are noted by the operations themselves. -/
def notedMove [Backend B Row] (g : Gate (Journaled B)) : Move → Gate (Journaled B)
  | .register d => (g.register d).note d
  | .filter => g.move .filter
  | .paginate => g.move .paginate

def notedAfter [Backend B Row] (g : Gate (Journaled B)) (ms : List Move) : Gate (Journaled B) := ms.foldl notedMove g

/-- What a move adds to a journal. -/
def events (g : Gate B) : Move → List Event
  | .register d => [.declared d]
  | .filter | .paginate => g.turns.filterMap (Turn.event? g.catalog g.settings)

theorem move_eq [Backend B Row] (g : Gate B) (m : Move) : g.move m = { g with progress := (g.move m).progress } := by
  cases m with
  | register d => rfl
  | filter => rfl
  | paginate =>
    rw [move, paginate_snd]
    rfl

/-- No move changes the request, the catalog or the settings. -/
theorem after_eq [Backend B Row] (g : Gate B) (ms : List Move) :
    g.after ms = { g with progress := (g.after ms).progress } := by
  induction ms generalizing g with
  | nil => rfl
  | cons m ms ih =>
    rw [after, List.foldl_cons, ← after, ih, move_eq]

@[simp] theorem after_catalog [Backend B Row] (g : Gate B) (ms : List Move) : (g.after ms).catalog = g.catalog := by
  rw [after_eq]

@[simp] theorem after_params [Backend B Row] (g : Gate B) (ms : List Move) : (g.after ms).params = g.params := by
  rw [after_eq]

@[simp] theorem after_settings [Backend B Row] (g : Gate B) (ms : List Move) :
    (g.after ms).settings = g.settings := by
  rw [after_eq]

@[simp] theorem journal_journaled (g : Gate B) (journal : List Event) : (g.journaled journal).journal = journal := rfl

theorem filter_journaled (g : Gate B) (journal : List Event) :
    (g.journaled journal).filter =
      (g.filter.1, g.filter.2.journaled (journal ++ g.turns.filterMap (Turn.event? g.catalog g.settings))) := by
  have h := Progress.run_journaled g.catalog g.settings g.fresh journal g.params.entries
  rw [filter_eq, filter_eq]
  simp only [journaled, fresh, Progress.journaled] at h ⊢
  rw [h]
  rfl

theorem cut_journaled (g : Gate B) (journal : List Event) (k : Nat) :
    (g.journaled journal).cut k =
      (g.cut k).journaled (journal ++
        (Progress.turns g.catalog g.settings g.fresh (g.params.entries.take k)).filterMap
          (Turn.event? g.catalog g.settings)) := by
  have h := Progress.run_journaled g.catalog g.settings g.fresh journal (g.params.entries.take k)
  simp only [cut, journaled, fresh, Progress.journaled] at h ⊢
  rw [h]

theorem notedMove_journaled [Backend B Row] (g : Gate B) (journal : List Event) (m : Move) :
    (g.journaled journal).notedMove m = (g.move m).journaled (journal ++ g.events m) := by
  cases m with
  | register d => rfl
  | filter => simp only [notedMove, move, events, filter_journaled]
  | paginate => simp only [notedMove, move, events, paginate_snd, filter_journaled]

/-- A gate that keeps a journal goes through the same states as one that keeps none. -/
theorem notedAfter_eq [Backend B Row] (g : Gate B) (journal : List Event) (ms : List Move) :
    (g.journaled journal).notedAfter ms = (g.after ms).journaled ((g.journaled journal).notedAfter ms).journal := by
  induction ms generalizing g journal with
  | nil => rfl
  | cons m ms ih =>
    simp only [notedAfter, after, List.foldl_cons, notedMove_journaled]
    exact ih (g.move m) _

end Gate
end QueryGate
