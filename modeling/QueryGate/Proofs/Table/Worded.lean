import QueryGate.Proofs.Table.Repeat
import QueryGate.Proofs.Table.Steps

/-! Values in words. A whole number or truth value and the text that it is written as satisfy the same conditions, so a
request selects the same rows whether its values come with their kinds, are read as texts or are inferred. -/
namespace QueryGate

open QueryGate.Bracket (asText)

namespace Arg

variable {v : Arg}

/-- What an argument is taken for where conditions look at it: its text, its number and its truth value. -/
structure Reads (a b : Arg) : Prop where
  text : a.toText = b.toText
  number : a.number? = b.number?
  truth : Condition.truth? a = Condition.truth? b

theorem number?_int_text (n : Int64) : (text (int n).toText).number? = some (.whole n) := by
  change Number.read? (String.ofList (Binary64.integerText n.toInt)).toList = _
  rw [String.toList_ofList, Number.read?_integerText]

/-- A text with the number of another integer is not the text of this one. -/
theorem toText_int_ne {n : Int64} {s : String} (h : (text s).number? ≠ some (.whole n)) : (int n).toText ≠ s := by
  rintro rfl
  exact h (number?_int_text n)

theorem truth?_int_text (n : Int64) : Condition.truth? (text (int n).toText) = Condition.truth? (int n) := by
  have htrue : (int n).toText ≠ "true" := toText_int_ne (by rw [show (text "true").number? = none by decide]; nofun)
  have hfalse : (int n).toText ≠ "false" := toText_int_ne (by rw [show (text "false").number? = none by decide]; nofun)
  by_cases h0 : n = 0
  · subst h0
    decide +kernel
  by_cases h1 : n = 1
  · subst h1
    decide +kernel
  have hzero : (int n).toText ≠ "0" := by
    refine toText_int_ne ?_
    rw [show (text "0").number? = some (.whole 0) by decide +kernel]
    simpa [eq_comm] using h0
  have hone : (int n).toText ≠ "1" := by
    refine toText_int_ne ?_
    rw [show (text "1").number? = some (.whole 1) by decide +kernel]
    simpa [eq_comm] using h1
  simp [Condition.truth?, h0, h1, htrue, hfalse, hzero, hone]

/-- A truth value, a whole number or a text reads as the text that it is written as. -/
theorem reads_asText (h : v.isFloat = false) : Reads (asText v) v := by
  cases v with
  | bool b => cases b <;> exact ⟨rfl, by decide, by decide⟩
  | int n => exact ⟨rfl, number?_int_text n, truth?_int_text n⟩
  | text s => exact ⟨rfl, rfl, rfl⟩
  | float x => cases h

end Arg

namespace Condition

/-- A condition looks at its value through the three readings only. -/
theorem matchesCell_congr {column : String} {comparison : Comparison} {v w : Arg} (h : v.Reads w) (cell : Cell) :
    (Condition.mk column comparison v).matchesCell cell = (Condition.mk column comparison w).matchesCell cell := by
  have htext : ∀ s, compareText s v = compareText s w := by
    intro s
    simp only [compareText, h.number, h.text]
  simp only [matchesCell, htext, h.text, h.number, h.truth]

/-- The condition with its value in words. -/
def worded (c : Condition) : Condition := { c with value := asText c.value }

theorem matchesCell_worded {c : Condition} (h : c.value.isFloat = false) (cell : Cell) :
    c.worded.matchesCell cell = c.matchesCell cell :=
  matchesCell_congr (Arg.reads_asText h) cell

end Condition

variable {R : Type}

namespace Clauses

variable [Row R]

/-- What the conditions say of a row, group by group. -/
def verdicts (groups : Clauses) (row : R) : List (List Bool) := groups.map fun group => group.map (·.holdsOf row)

theorem holdOf_eq_verdicts (groups : Clauses) (row : R) :
    groups.holdOf row = ((groups.verdicts row).isEmpty || (groups.verdicts row).any (·.all id)) := by
  simp [holdOf, verdicts, List.any_map, List.all_map, Function.comp_def]

variable {groups groups' : Clauses} {c d : Condition} {row : R}

theorem verdicts_and_congr (h : groups.verdicts row = groups'.verdicts row) (hc : c.holdsOf row = d.holdsOf row) :
    (groups.and c).verdicts row = (groups'.and d).verdicts row := by
  have hlen : groups.length = groups'.length := by simpa [verdicts] using congrArg List.length h
  rcases List.eq_nil_or_concat' groups with rfl | ⟨init, group, rfl⟩
  · obtain rfl : groups' = [] := List.length_eq_zero_iff.mp hlen.symm
    simp [Clauses.and, verdicts, hc]
  · rcases List.eq_nil_or_concat' groups' with rfl | ⟨init', group', rfl⟩
    · simp at hlen
    · simp only [verdicts, List.map_append, List.map_cons, List.map_nil] at h
      obtain ⟨hinit, hgroup⟩ := List.append_inj' h rfl
      simp only [and_append_group, verdicts, List.map_append, List.map_cons, List.map_nil, hinit, hc]
      simpa using hgroup

theorem verdicts_or_congr (h : groups.verdicts row = groups'.verdicts row) (hc : c.holdsOf row = d.holdsOf row) :
    (groups.or c).verdicts row = (groups'.or d).verdicts row := by
  unfold verdicts at h ⊢
  simp [Clauses.or, h, hc]

end Clauses

namespace Query

/-- Queries that differ in the wording of their conditions at most: on every row, each condition says the same as the
one at its place. -/
structure Reworded [Row R] (q q' : Query R) : Prop where
  rows : q.rows = q'.rows
  orderings : q.orderings = q'.orderings
  window : q.window = q'.window
  verdicts : ∀ row : R, q.clauses.verdicts row = q'.clauses.verdicts row

theorem Reworded.refl [Row R] (q : Query R) : Reworded q q := ⟨rfl, rfl, rfl, fun _ => rfl⟩

theorem Reworded.select?_eq [Row R] {q q' : Query R} (h : Reworded q q') : q.select? = q'.select? := by
  have halike : Alike q q' :=
    { rows := h.rows
      matching row := by rw [Clauses.holdOf_eq_verdicts, Clauses.holdOf_eq_verdicts, h.verdicts]
      comparing a b := by rw [h.orderings] }
  rw [Query.select?_eq, Query.select?_eq, halike.selection?_eq, h.window]

namespace Step

/-- The step with its value in words. -/
def worded : Step → Step
  | sort column d => sort column d
  | andWhere c => andWhere c.worded
  | orWhere c => orWhere c.worded

/-- Whether a step compares with something else than a binary64 number, which has more than one text. -/
def IsExact : Step → Prop
  | sort _ _ => True
  | andWhere c | orWhere c => c.value.isFloat = false

theorem reworded_apply [Row R] {q q' : Query R} (h : Reworded q q') {s t : Step} (hs : s.IsExact)
    (ht : t = s ∨ t = s.worded) : Reworded (t.apply q) (s.apply q') := by
  cases s with
  | sort column d =>
    obtain rfl : t = sort column d := by rcases ht with rfl | rfl <;> rfl
    exact ⟨h.rows, congrArg (· ++ [(column, d)]) h.orderings, h.window, h.verdicts⟩
  | andWhere c =>
    obtain ⟨c', rfl, hc⟩ : ∃ c', t = andWhere c' ∧ ∀ row : R, c'.holdsOf row = c.holdsOf row := by
      rcases ht with rfl | rfl
      · exact ⟨c, rfl, fun _ => rfl⟩
      · exact ⟨c.worded, rfl, fun row => Condition.matchesCell_worded hs _⟩
    exact ⟨h.rows, h.orderings, h.window, fun row => Clauses.verdicts_and_congr (h.verdicts row) (hc row)⟩
  | orWhere c =>
    obtain ⟨c', rfl, hc⟩ : ∃ c', t = orWhere c' ∧ ∀ row : R, c'.holdsOf row = c.holdsOf row := by
      rcases ht with rfl | rfl
      · exact ⟨c, rfl, fun _ => rfl⟩
      · exact ⟨c.worded, rfl, fun row => Condition.matchesCell_worded hs _⟩
    exact ⟨h.rows, h.orderings, h.window, fun row => Clauses.verdicts_or_congr (h.verdicts row) (hc row)⟩

theorem reworded_foldl [Row R] {steps steps' : List Step}
    (h : List.Forall₂ (fun s t => s.IsExact ∧ (t = s ∨ t = s.worded)) steps steps') {q q' : Query R}
    (hq : Reworded q q') :
    Reworded (steps'.foldl (fun q s => s.apply q) q) (steps.foldl (fun q s => s.apply q) q') := by
  induction h generalizing q q' with
  | nil => exact hq
  | cons hs _ ih => exact ih (reworded_apply hq hs.1 hs.2)

theorem ofArgs?_sort (column : String) {a : Arg} {n : Number} (h : a.number? = some n) :
    ofArgs? "sort" [.text column, a] = some (sort column (.ofSign n)) := by
  have hnumber : Args.number [.text column, a] 1 = .ok n := by
    unfold Args.number Args.view
    simp [Args.get, h, bind, Except.bind]
  change ((Args.number [.text column, a] 1).toOption.bind fun n => some (sort column (.ofSign n))) = _
  rw [hnumber]
  rfl

theorem ofArgs?_args (s : Step) : ofArgs? s.operation s.args = some s := by
  cases s with
  | sort column d =>
    cases d with
    | ascending => exact (ofArgs?_sort column rfl).trans (by rw [Direction.ofSign_one])
    | descending => exact (ofArgs?_sort column rfl).trans (by rw [Direction.ofSign_neg_one])
  | andWhere c => obtain ⟨column, comparison, value⟩ := c; cases comparison <;> rfl
  | orWhere c => obtain ⟨column, comparison, value⟩ := c; cases comparison <;> rfl

/-- Read as texts, the arguments of a step give the step with its value in words. -/
theorem ofArgs?_texts (s : Step) : ofArgs? s.operation (s.args.map asText) = some s.worded := by
  cases s with
  | sort column d =>
    cases d with
    | ascending => exact (ofArgs?_sort column (Arg.number?_int_text 1)).trans (by rw [Direction.ofSign_one]; rfl)
    | descending => exact (ofArgs?_sort column (Arg.number?_int_text (-1))).trans (by rw [Direction.ofSign_neg_one]; rfl)
  | andWhere c => obtain ⟨column, comparison, value⟩ := c; cases comparison <;> rfl
  | orWhere c => obtain ⟨column, comparison, value⟩ := c; cases comparison <;> rfl

theorem length_args (s : Step) : s.args.length = arity s.operation := by
  cases s with
  | sort column d => cases d <;> rfl
  | andWhere c => rfl
  | orWhere c => rfl

/-- Whether a text in bracket notation spells the arguments of a step: with inference it is read as them, and without
as the texts that they are written as. -/
structure SpelledBy (s : Step) (raw : String) : Prop where
  inferred : Bracket.parse .inferred raw = .ok s.args
  verbatim : Bracket.parse .verbatim raw = .ok (s.args.map asText)

theorem isFinite_of_mem_args {s : Step} (h : s.IsExact) : ∀ a ∈ s.args, a.isFinite = true := by
  have hvalue : ∀ v : Arg, v.isFloat = false → v.isFinite = true := by
    intro v hv
    cases v with
    | float x => cases hv
    | bool b => rfl
    | int n => rfl
    | text s => rfl
  cases s with
  | sort column d => cases d <;> simp [args, Arg.isFinite]
  | andWhere c => simpa [args, Arg.isFinite] using hvalue c.value h
  | orWhere c => simpa [args, Arg.isFinite] using hvalue c.value h

/-- The text that a step is rendered as spells it. -/
theorem spelledBy_render {s : Step} (h : s.IsExact) : s.SpelledBy (Bracket.render s.args) :=
  ⟨Bracket.parse_inferred_render (isFinite_of_mem_args h), Bracket.parse_verbatim_render.1 s.args⟩

end Step

/-- A parameter that asks for a step, with a text that spells its arguments. -/
structure Line where
  key : String
  step : Step
  text : String
  named : Operation.nameOf key = step.operation
  exact : step.IsExact
  spelled : step.SpelledBy text

namespace Line

/-- A line with the text that its arguments are rendered as. -/
def rendered (key : String) (s : Step) (named : Operation.nameOf key = s.operation) (exact : s.IsExact) : Line :=
  ⟨key, s, Bracket.render s.args, named, exact, Step.spelledBy_render exact⟩

/-- The ways to submit a line: its arguments with their kinds, or its text. -/
inductive SubmittedAs (l : Line) : String × RawValue → Prop
  | list : SubmittedAs l (l.key, .list l.step.args)
  | text : SubmittedAs l (l.key, .text l.text)
  | scalar : SubmittedAs l (l.key, .scalar (.text l.text))

/-- However a line is submitted and read, it spells its step, up to the wording of the value. -/
theorem ofParam?_of_submittedAs {l : Line} {e : String × RawValue} (h : l.SubmittedAs e) {settings : Settings}
    (hp : settings.isPaging l.key = false) :
    ∃ t, Step.ofParam? settings (e.1, e.2.parse settings.scalars) = some t ∧ (t = l.step ∨ t = l.step.worded) := by
  have hkey : e.1 = l.key := by cases h <;> rfl
  have htext : Bracket.parse settings.scalars l.text = .ok l.step.args ∨
      Bracket.parse settings.scalars l.text = .ok (l.step.args.map asText) := by
    cases settings.scalars with
    | inferred => exact .inl l.spelled.inferred
    | verbatim => exact .inr l.spelled.verbatim
  have hvalue : e.2.parse settings.scalars = .ok l.step.args ∨
      e.2.parse settings.scalars = .ok (l.step.args.map asText) := by
    cases h with
    | list => exact .inl rfl
    | text => exact htext
    | scalar => exact htext
  have hread : ∀ args : Args, args.length = l.step.args.length →
      Step.ofParam? settings (e.1, .ok args) = Step.ofArgs? l.step.operation args := by
    intro args hlen
    simp only [Step.ofParam?, hkey, hp, Bool.false_eq_true, if_false, l.named, hlen, l.step.length_args, if_true]
  rcases hvalue with hv | hv
  · exact ⟨l.step, by rw [hv, hread _ rfl, Step.ofArgs?_args], .inl rfl⟩
  · exact ⟨l.step.worded, by rw [hv, hread _ (List.length_map _), Step.ofArgs?_texts], .inr rfl⟩

theorem steps_of_submitted {lines : List Line} {es : List (String × RawValue)}
    (h : List.Forall₂ SubmittedAs lines es) {settings : Settings} (hp : ∀ l ∈ lines, settings.isPaging l.key = false) :
    List.Forall₂ (fun s t => s.IsExact ∧ (t = s ∨ t = s.worded)) (lines.map Line.step)
      ((es.map fun e => (e.1, e.2.parse settings.scalars)).filterMap (Step.ofParam? settings)) := by
  induction h with
  | nil => exact .nil
  | @cons l e _ _ hl _ ih =>
    obtain ⟨t, ht, hor⟩ := ofParam?_of_submittedAs hl (hp l List.mem_cons_self)
    rw [List.map_cons, List.map_cons, List.filterMap_cons_some ht]
    exact .cons ⟨l.exact, hor⟩ (ih fun m hm => hp m (List.mem_cons_of_mem l hm))

end Line
end Query

variable [Row R]

/-- A request selects the same rows, namely those of its steps taken directly, whether its lines come with the kinds of
their values, are read as texts or are inferred. -/
theorem Gate.select_filter_of_submitted (q : Query R) (settings : Settings) {lines : List Query.Line} {raw : RawParams}
    (h : List.Forall₂ Query.Line.SubmittedAs lines raw.entries)
    (hp : ∀ l ∈ lines, settings.isPaging l.key = false) :
    let g := Gate.ofRaw q .standard raw settings
    g.filter.1 = .ok () ∧
      g.filter.2.progress.backend.select? = (lines.foldl (fun q l => l.step.apply q) q).select? := by
  intro g
  refine ⟨filter_standard_ok rfl, ?_⟩
  have hbackend : g.filter.2.progress.backend =
      ((raw.entries.map fun e => (e.1, e.2.parse settings.scalars)).filterMap (Query.Step.ofParam? settings)).foldl
        (fun q s => s.apply q) q :=
    backend_filter_unrestricted (g := g) rfl rfl
  have hreworded := Query.Step.reworded_foldl (Query.Line.steps_of_submitted h hp)
    (Query.Reworded.refl q)
  rw [hbackend, hreworded.select?_eq, List.foldl_map]

/-- A whole number or a truth value and the text that it is written as satisfy the same conditions. So a request that
compares with such values selects the same rows, namely those of its steps taken directly, whether its lines come with
the kinds of their values, are read as texts or are inferred. -/
theorem typed_and_worded_alike :
    (∀ (column : String) (comparison : Comparison) (cell : Cell),
      (∀ n : Int64, (Condition.mk column comparison (.text (Arg.int n).toText)).matchesCell cell =
        (Condition.mk column comparison (.int n)).matchesCell cell) ∧
      ∀ b : Bool, (Condition.mk column comparison (.text (Arg.bool b).toText)).matchesCell cell =
        (Condition.mk column comparison (.bool b)).matchesCell cell) ∧
    ∀ {R : Type} [Row R] (q : Query R) (settings : Settings) (lines : List Query.Line) (raw : RawParams),
      List.Forall₂ Query.Line.SubmittedAs lines raw.entries → (∀ l ∈ lines, settings.isPaging l.key = false) →
      let g := Gate.ofRaw q .standard raw settings
      g.filter.1 = .ok () ∧
        g.filter.2.progress.backend.select? = (lines.foldl (fun q l => l.step.apply q) q).select? := by
  constructor
  · intro column comparison cell
    exact ⟨fun n => Condition.matchesCell_congr (Arg.reads_asText (v := .int n) rfl) cell,
      fun b => Condition.matchesCell_congr (Arg.reads_asText (v := .bool b) rfl) cell⟩
  · intro R _ q settings lines raw h hp
    exact Gate.select_filter_of_submitted q settings h hp

/-- A number and a truth value, with their kinds and in brackets that are read in both ways: the one among bare words, the
other rendered. -/
theorem typed_and_worded_alike_of_three_requests :
    let age : Query.Line := ⟨"where_1", .andWhere ⟨"age", .greater, .int 18⟩, "[age,>,18]", by decide +kernel, rfl,
      ⟨by decide +kernel, by decide +kernel⟩⟩
    let active : Query.Line := .rendered "orWhere" (.orWhere ⟨"active", .equal, .bool true⟩) (by decide +kernel) rfl
    let typed : RawParams := .ofList [("where_1", .list [.text "age", .text ">", .int 18]),
      ("orWhere", .list [.text "active", .text "=", .bool true])]
    let written : RawParams := .ofPairs [("where_1", "[age,>,18]"), ("orWhere", "['active','=',true]")]
    let rows : List Data := [.map [(.text "age", .text "9")], .map [(.text "age", .text "20")],
      .map [(.text "active", .bool true)]]
    let selected (raw : RawParams) (infer : Bool) : Option (List Data) :=
      (Gate.ofRaw (Query.ofRows rows) .standard raw { inferScalars := infer }).filter.2.progress.backend.select?
    List.Forall₂ Query.Line.SubmittedAs [age, active] typed.entries ∧
      List.Forall₂ Query.Line.SubmittedAs [age, active] written.entries ∧
      selected typed false = some (rows.drop 1) ∧ selected written false = some (rows.drop 1) ∧
      selected written true = some (rows.drop 1) := by
  intro age active typed written rows selected
  have htyped : List.Forall₂ Query.Line.SubmittedAs [age, active] typed.entries := .cons .list (.cons .list .nil)
  have hwritten : List.Forall₂ Query.Line.SubmittedAs [age, active] written.entries := by
    have hactive : "['active','=',true]" = active.text := by decide +kernel
    change List.Forall₂ _ _ [("where_1", RawValue.text age.text), ("orWhere", RawValue.text "['active','=',true]")]
    rw [hactive]
    exact .cons .text (.cons .text .nil)
  have hpaging : ∀ infer, ∀ l ∈ [age, active], ({ inferScalars := infer } : Settings).isPaging l.key = false := by
    decide +kernel
  have hdirect : ([age, active].foldl (fun q l => l.step.apply q) (Query.ofRows rows)).select? = some (rows.drop 1) := rfl
  have hall : ∀ raw infer, List.Forall₂ Query.Line.SubmittedAs [age, active] raw.entries →
      selected raw infer = some (rows.drop 1) := fun raw infer h =>
    (typed_and_worded_alike.2 (Query.ofRows rows) { inferScalars := infer } [age, active] raw h (hpaging infer)).2.trans
      hdirect
  exact ⟨htyped, hwritten, hall typed false htyped, hall written false hwritten, hall written true hwritten⟩

end QueryGate
