import QueryGate.Proofs.Bracket.RoundTrip
import QueryGate.Proofs.Gate.Pass
import QueryGate.Proofs.Operation.Name
import QueryGate.Proofs.Operation.Standard
import QueryGate.Proofs.OrderedMap
import QueryGate.Proofs.Table.Clauses

/-! Requests that spell a query. Every step of building a query can be written as a parameter, and a pass over such
parameters builds the query that the steps build when taken directly. -/
namespace QueryGate

inductive Query.Step
  | sort (column : String) (d : Direction)
  | andWhere (c : Condition)
  | orWhere (c : Condition)

namespace Query.Step

variable {R : Type}

def apply : Step → Query R → Query R
  | sort column d, q => q.orderBy column d
  | andWhere c, q => q.andWhere c
  | orWhere c, q => q.orWhere c

def operation : Step → String
  | sort .. => "sort"
  | andWhere _ => "where"
  | orWhere _ => "orWhere"

def args : Step → Args
  | sort column .ascending => [.text column, .int 1]
  | sort column .descending => [.text column, .int (-1)]
  | andWhere c | orWhere c => [.text c.column, .text c.comparison.text, c.value]

def key (s : Step) (i : Nat) : String := s.operation ++ "_" ++ toString i

/-- The steps as parameters, numbered from `first` on. -/
def request (first : Nat) (steps : List Step) : RawParams :=
  .ofPairs ((steps.zipIdx first).map fun n => (n.1.key n.2, Bracket.render n.1.args))

theorem nameOf_key (s : Step) (i : Nat) : Operation.nameOf (s.key i) = s.operation := by
  have hn : Operation.IsNumbering ('_' :: Nat.toDigits 10 i) :=
    ⟨_, rfl, Nat.toDigits_ne_nil, Text.digits_toDigits i⟩
  have hk : (s.key i).toList = s.operation.toList ++ '_' :: Nat.toDigits 10 i := by
    simp [key]
  rw [Operation.nameOf_of_numbering hn hk, String.ofList_toList]

theorem key_injective {s t : Step} {i j : Nat} (h : s.key i = t.key j) : i = j := by
  have ho : s.operation = t.operation := by rw [← nameOf_key s i, h, nameOf_key]
  have hs := congrArg String.toList h
  simp only [key, ho, String.toList_append, List.append_cancel_left_eq] at hs
  have hd : Nat.toDigits 10 i = Nat.toDigits 10 j := by simpa using hs
  rw [← Binary64.digitsValue_toDigits i, hd, Binary64.digitsValue_toDigits]

theorem nodup_keys (first : Nat) (steps : List Step) :
    ((steps.zipIdx first).map fun n => n.1.key n.2).Nodup := by
  induction steps generalizing first with
  | nil => simp
  | cons s rest ih =>
    rw [List.zipIdx_cons, List.map_cons, List.nodup_cons]
    refine ⟨?_, ih (first + 1)⟩
    intro h
    obtain ⟨⟨t, j⟩, hm, hk⟩ := List.mem_map.mp h
    have hj := List.le_snd_of_mem_zipIdx hm
    have := key_injective hk
    omega

theorem entries_request (first : Nat) (steps : List Step) :
    (request first steps).entries =
      (steps.zipIdx first).map fun n => (n.1.key n.2, RawValue.text (Bracket.render n.1.args)) := by
  unfold request RawParams.ofPairs
  rw [OrderedMap.entries_ofList]
  · simp [Function.comp_def]
  · simpa [Function.comp_def] using nodup_keys first steps

/-- The column that a step puts behind the orderings. -/
def ordering? : Step → Option (String × Direction)
  | sort column d => some (column, d)
  | _ => none

def link? : Step → Option Clauses.Link
  | sort .. => none
  | andWhere c => some (.and c)
  | orWhere c => some (.or c)

/-- Steps that sort and steps that filter do not meet. -/
theorem foldl_apply_eq (steps : List Step) (q : Query R) :
    steps.foldl (fun q s => s.apply q) q =
      { q with
        clauses := (steps.filterMap link?).foldl Clauses.link q.clauses
        orderings := q.orderings ++ steps.filterMap ordering? } := by
  induction steps generalizing q with
  | nil => simp
  | cons s rest ih =>
    rw [List.foldl_cons, ih]
    cases s with
    | sort column d => simp [List.filterMap_cons, apply, orderBy, link?, ordering?]
    | andWhere c => rfl
    | orWhere c => rfl

variable [Row R]

/-- The operation of a step takes its arguments, and does to a query what the step does. -/
theorem exists_operation (s : Step) :
    ∃ op : Operation (Query R), Catalog.standard.get? s.operation = some op ∧ s.args.length = op.arity ∧
      ∀ q, (op.run s.args).run q = (.ok (), s.apply q) := by
  cases s with
  | sort column d =>
    refine ⟨⟨2, Operation.sort⟩, Catalog.get?_standard "sort", by cases d <;> rfl, fun q => ?_⟩
    cases d with
    | ascending => exact (Operation.sort_run column 1 q).trans (by rw [Direction.ofSign_one]; rfl)
    | descending => exact (Operation.sort_run column (-1) q).trans (by rw [Direction.ofSign_neg_one]; rfl)
  | andWhere c => exact ⟨⟨3, Operation.andWhere⟩, Catalog.get?_standard "where", rfl, Operation.andWhere_run c⟩
  | orWhere c => exact ⟨⟨3, Operation.orWhere⟩, Catalog.get?_standard "orWhere", rfl, Operation.orWhere_run c⟩

/-- The turn of a step in a pass without an allow-list. -/
theorem progress_step (s : Step) {settings : Settings} {i : Nat} (hp : settings.isPaging (s.key i) = false)
    (q : Query R) (report : List Outcome) :
    Progress.step Catalog.standard settings ⟨q, none, report⟩ (s.key i) (.ok s.args) =
      (.ok (), ⟨s.apply q, none, report ++ [⟨s.key i, s.operation, .applied⟩]⟩) := by
  obtain ⟨op, hc, hlen, hrun⟩ := s.exists_operation (R := R)
  simp only [Progress.step, hp, Bool.false_eq_true, if_false, nameOf_key, Progress.dispatch, hc, Progress.denial?,
    Option.bind_none, hlen, if_true, Progress.call, hrun]
  rfl

theorem progress_run {settings : Settings} {steps : List (Step × Nat)}
    (hp : ∀ n ∈ steps, settings.isPaging (n.1.key n.2) = false) (q : Query R) (report : List Outcome) :
    Progress.run Catalog.standard settings ⟨q, none, report⟩ (steps.map fun n => (n.1.key n.2, .ok n.1.args)) =
      (.ok (), ⟨steps.foldl (fun q n => n.1.apply q) q, none,
        report ++ steps.map fun n => ⟨n.1.key n.2, n.1.operation, .applied⟩⟩) := by
  induction steps generalizing q report with
  | nil => simp [Progress.run]
  | cons n rest ih =>
    have hn := progress_step n.1 (hp n List.mem_cons_self) q report
    have hrest := ih (fun m hm => hp m (List.mem_cons_of_mem n hm)) (n.1.apply q)
      (report ++ [⟨n.1.key n.2, n.1.operation, .applied⟩])
    rw [List.map_cons, Progress.run, hn]
    simpa using hrest

/-- The parameters of a request are the arguments of its steps, whatever their texts hold. -/
theorem entries_parse_request (first : Nat) {steps : List Step}
    (hf : ∀ s ∈ steps, ∀ a ∈ s.args, a.isFinite = true) :
    ((request first steps).parse .inferred).entries =
      (steps.zipIdx first).map fun n => (n.1.key n.2, .ok n.1.args) := by
  change (request first steps).entries.map _ = _
  rw [entries_request, List.map_map]
  refine List.map_congr_left fun n hn => ?_
  have hs : n.1 ∈ steps := List.fst_mem_of_mem_zipIdx hn
  simp only [Function.comp_apply, RawValue.parse, Bracket.parse_inferred_render (hf n.1 hs)]

/-- A request means the query it spells: with inference, and no name for paging among its keys, all its parameters are
applied, and the query is the one that the steps build. -/
theorem filter_request (rows : List R) (settings : Settings) (first : Nat) (steps : List Step)
    (hs : settings.inferScalars = true)
    (hp : settings.pageParam ∉ (request first steps).keys ∧ settings.perPageParam ∉ (request first steps).keys)
    (hf : ∀ s ∈ steps, ∀ a ∈ s.args, a.isFinite = true) :
    let g := Gate.ofRaw (Query.ofRows rows) Catalog.standard (request first steps) settings
    let q := steps.foldl (fun q s => s.apply q) (Query.ofRows rows)
    g.filter.1 = .ok () ∧
      g.filter.2.progress.report =
        (steps.zipIdx first).map (fun n => ⟨n.1.key n.2, n.1.operation, .applied⟩) ∧
      g.filter.2.progress.backend = q ∧ q.window = none := by
  intro g q
  have hscalars : settings.scalars = .inferred := by rw [Settings.scalars, if_pos hs]
  have hkeys : (request first steps).keys = (steps.zipIdx first).map fun n => n.1.key n.2 := by
    rw [OrderedMap.keys, entries_request, List.map_map]
    rfl
  have hpaging : ∀ n ∈ steps.zipIdx first, settings.isPaging (n.1.key n.2) = false := by
    intro n hn
    have hk : n.1.key n.2 ∈ (request first steps).keys := by
      rw [hkeys]
      exact List.mem_map_of_mem hn
    have hpage : n.1.key n.2 ≠ settings.pageParam := fun e => hp.1 (e ▸ hk)
    have hper : n.1.key n.2 ≠ settings.perPageParam := fun e => hp.2 (e ▸ hk)
    simp [Settings.isPaging, hpage, hper]
  have hentries : g.params.entries = (steps.zipIdx first).map fun n => (n.1.key n.2, .ok n.1.args) := by
    change ((request first steps).parse settings.scalars).entries = _
    rw [hscalars, entries_parse_request first hf]
  have hrun := progress_run hpaging (Query.ofRows rows) []
  have hfold : (steps.zipIdx first).foldl (fun q n => n.1.apply q) (Query.ofRows rows) = q := by
    calc (steps.zipIdx first).foldl (fun q n => n.1.apply q) (Query.ofRows rows)
        = ((steps.zipIdx first).map Prod.fst).foldl (fun q s => s.apply q) (Query.ofRows rows) := by
          rw [List.foldl_map]
      _ = q := by rw [List.zipIdx_map_fst]
  rw [hfold] at hrun
  have hpass : Progress.run g.catalog g.settings g.fresh g.params.entries = (.ok (), ⟨q, none,
      (steps.zipIdx first).map fun n => ⟨n.1.key n.2, n.1.operation, .applied⟩⟩) := by
    rw [hentries]
    exact hrun
  rw [Gate.filter_eq, hpass]
  exact ⟨rfl, rfl, rfl, congrArg Query.window (foldl_apply_eq steps _)⟩

/-- Texts with every mark of the notation in them, one that spells a number, the least integer and a number with a
fraction. -/
theorem filter_request_of_awkward_texts :
    let steps : List Step := [.andWhere ⟨"a,b", .like, .text "['x', \\y]"⟩,
      .orWhere ⟨"", .lessOrEqual, .text "-1.5e3"⟩, .andWhere ⟨"n", .equal, .int (-9223372036854775808)⟩,
      .andWhere ⟨"n", .less, .float (Binary64.ofDecimal true 25 (-1))⟩, .sort "it's" .descending]
    let g := Gate.ofRaw (Query.ofRows ([] : List Data)) Catalog.standard (request 0 steps) { inferScalars := true }
    g.filter.1 = .ok () ∧
      g.filter.2.progress.report.map Outcome.key = ["where_0", "orWhere_1", "where_2", "where_3", "sort_4"] ∧
      g.filter.2.progress.backend.orderings = [("it's", .descending)] ∧
      g.filter.2.progress.backend.clauses.map List.length = [1, 3] := by
  intro steps g
  obtain ⟨hok, hreport, hbackend, -⟩ := filter_request ([] : List Data) { inferScalars := true } 0 steps rfl
    (by decide) (by decide +kernel)
  exact ⟨hok, by rw [hreport]; rfl, by rw [hbackend]; rfl, by rw [hbackend]; rfl⟩

end Query.Step
end QueryGate
