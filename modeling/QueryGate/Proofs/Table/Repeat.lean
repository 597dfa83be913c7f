import QueryGate.Proofs.Gate.Journal
import QueryGate.Proofs.Table.Page

/-! Passes that are repeated. A pass puts all its conditions and orderings behind those that are there, each time anew.
A query that has them already means the same with them twice: `Alike.foldl_twice`. So the passes before it make no
difference to a page. -/
namespace QueryGate

variable {R : Type} [Row R]

namespace Query

theorem compareRows_append (os ps : List (String × Direction)) (a b : R) :
    compareRows (os ++ ps) a b = (compareRows os a b).then (compareRows ps a b) := by
  induction os with
  | nil => rfl
  | cons o rest ih =>
    obtain ⟨column, d⟩ := o
    simp only [List.cons_append, compareRows]
    rcases (Cell.compare? (Row.cell a column) (Row.cell b column)).map d.apply with _ | o
    · exact ih
    · cases o with
      | lt => rfl
      | eq => exact ih
      | gt => rfl

/-- Orderings that come once more never decide anything. -/
theorem compareRows_append_twice (os ps : List (String × Direction)) (a b : R) :
    compareRows (os ++ ps ++ ps) a b = compareRows (os ++ ps) a b := by
  rw [compareRows_append, compareRows_append]
  cases compareRows os a b <;> cases compareRows ps a b <;> rfl

/-- Queries over the same rows that match and order them in the same way. -/
structure Alike (q q' : Query R) : Prop where
  rows : q.rows = q'.rows
  matching : ∀ row : R, q.clauses.holdOf row = q'.clauses.holdOf row
  comparing : ∀ a b : R, compareRows q.orderings a b = compareRows q'.orderings a b

namespace Alike

variable {q q' q'' : Query R}

theorem refl (q : Query R) : Alike q q := ⟨rfl, fun _ => rfl, fun _ _ => rfl⟩

theorem trans (h : Alike q q') (h' : Alike q' q'') : Alike q q'' where
  rows := h.rows.trans h'.rows
  matching row := (h.matching row).trans (h'.matching row)
  comparing a b := (h.comparing a b).trans (h'.comparing a b)

theorem matched_eq (h : Alike q q') : q.matched = q'.matched := by
  unfold matched
  rw [h.rows]
  exact List.filter_congr fun row _ => h.matching row

theorem selection?_eq (h : Alike q q') : q.selection? = q'.selection? := by
  have hcompare : compareRows q.orderings = compareRows q'.orderings := funext₂ h.comparing
  rw [Query.selection?_eq, Query.selection?_eq, ordered?_eq_sort?, ordered?_eq_sort?, hcompare, h.matched_eq]

theorem foldl_twice (steps : List Step) (q : Query R) :
    Alike (steps.foldl (fun q s => s.apply q) (steps.foldl (fun q s => s.apply q) q))
      (steps.foldl (fun q s => s.apply q) q) := by
  rw [Step.foldl_apply_eq steps q, Step.foldl_apply_eq]
  exact {
    rows := rfl
    matching := Clauses.holdOf_foldl_link_twice _ _
    comparing := compareRows_append_twice _ _ }

/-- Any number of times does as much as once. -/
theorem iterate_foldl (steps : List Step) (q : Query R) (n : Nat) :
    Alike ((fun q => steps.foldl (fun q s => s.apply q) q)^[n + 1] q) (steps.foldl (fun q s => s.apply q) q) := by
  induction n with
  | zero => exact refl _
  | succ n ih =>
    rw [Function.iterate_succ_apply', Function.iterate_succ_apply'] at *
    exact (foldl_twice steps _).trans ih

end Alike

end Query

namespace Gate

/-- What is fetched depends on what the query means only. -/
theorem currentRows_of_alike {g h : Gate (Query R)} (hparams : g.params = h.params) (hsettings : g.settings = h.settings)
    (halike : Query.Alike g.progress.backend h.progress.backend) : g.currentRows = h.currentRows := by
  have hpage : g.currentPage = h.currentPage := by simp only [currentPage, hparams, hsettings]
  have hper : g.perPage = h.perPage := by simp only [perPage, hparams, hsettings]
  have hof : ∀ all, g.pageOf all = h.pageOf all := by
    intro all
    simp only [pageOf, Query.count, hpage, hper, halike.matched_eq]
  rw [currentRows_eq, currentRows_eq, halike.selection?_eq]
  simp only [hof]

/-- A move that declares nothing is a pass. -/
theorem move_of_not_register {g : Gate (Query R)} {m : Move} (h : ∀ d, m ≠ .register d) : g.move m = g.filter.2 := by
  cases m with
  | register d => exact absurd rfl (h d)
  | filter => rfl
  | paginate => exact g.paginate_snd

theorem backend_after_passes {g : Gate (Query R)} (hc : g.catalog = .standard) (hn : g.progress.allowed = none)
    {ms : List Move} (h : ∀ m ∈ ms, ∀ d, m ≠ .register d) :
    (g.after ms).progress.allowed = none ∧ (g.after ms).progress.backend =
      (fun q => (g.params.entries.filterMap (Query.Step.ofParam? g.settings)).foldl (fun q s => s.apply q) q)^[ms.length]
        g.progress.backend := by
  induction ms generalizing g with
  | nil => exact ⟨hn, rfl⟩
  | cons m ms ih =>
    have hpass : g.filter.2.progress.backend = _ := backend_filter_unrestricted hc hn
    have hnone : g.filter.2.progress.allowed = none := (Progress.allowed_of_none (p := g.fresh) hn g.params.entries).1
    have hrest := ih (g := g.filter.2) hc hnone fun m' hm => h m' (List.mem_cons_of_mem m hm)
    rw [hpass] at hrest
    rw [after, List.foldl_cons, move_of_not_register (h m List.mem_cons_self), List.length_cons,
      Function.iterate_succ_apply]
    exact hrest

/-- Asking a gate without an allow-list for a page ends in the same way after any number of passes, even though each of
them puts all that the parameters spell behind what is there. It ends with a page wherever the orderings put the rows in
order. -/
theorem paginate_after_passes (q : Query R) (params : Params) (settings : Settings) (ms : List Move)
    (h : ∀ m ∈ ms, ∀ d, m ≠ .register d) :
    let g := ofParams q .standard params settings
    let steps := params.entries.filterMap (Query.Step.ofParam? settings)
    let final := g.filter.2.progress.backend
    (g.after ms).paginate.1 = g.paginate.1 ∧
      (Orders (Query.compareRows final.orderings) final.matched → ∃ page, g.paginate.1 = .ok page) ∧
      (g.after ms).progress.backend = (fun q => steps.foldl (fun q s => s.apply q) q)^[ms.length] q := by
  intro g steps final
  have hc : (g.after ms).catalog = .standard := after_catalog g ms
  obtain ⟨hn, hbackend⟩ := backend_after_passes (g := g) rfl rfl h
  refine ⟨?_, exists_paginate_of_orders rfl, hbackend⟩
  -- the page is fetched after one more pass, so even the first one comes after a pass
  have honce : g.filter.2.progress.backend = steps.foldl (fun q s => s.apply q) q :=
    backend_filter_unrestricted rfl rfl
  have hagain : (g.after ms).filter.2.progress.backend =
      (fun q => steps.foldl (fun q s => s.apply q) q)^[ms.length + 1] q := by
    rw [backend_filter_unrestricted hc hn, hbackend, Function.iterate_succ_apply', after_params, after_settings]
    rfl
  have halike : Query.Alike (g.after ms).filter.2.progress.backend g.filter.2.progress.backend := by
    rw [honce, hagain]
    exact Query.Alike.iterate_foldl steps q ms.length
  have hrows : (g.after ms).filter.2.currentRows = g.filter.2.currentRows :=
    currentRows_of_alike (after_params g ms) (after_settings g ms) halike
  rw [paginate_of_filter_ok (filter_standard_ok hc), paginate_of_filter_ok (filter_standard_ok rfl), hrows]

/-- Conditions that join the group in front of them, in the first pass that of the query and then one of their own. -/
theorem paginate_after_three_passes :
    let row := fun age : Int => Data.record [("age", .int age)]
    let condition := fun (operator : String) (age : Int64) => [Arg.text "age", .text operator, .int age]
    let q := (Query.ofRows ([10, 20, 30, 40].map row)).andWhere ⟨"age", .less, .int 35⟩
    let params : Params := .ofList [("where", .ok (condition ">" 15)), ("orWhere", .ok (condition "=" 40)),
      ("sort", .ok [.text "age", .int (-1)]), ("where_2", .ok (condition "<" 50))]
    let ms : List Move := [.filter, .paginate, .filter]
    let g := ofParams q .standard params {}
    (∀ m ∈ ms, ∀ d, m ≠ .register d) ∧
      (∃ page, g.paginate.1 = .ok page ∧ (g.after ms).paginate.1 = .ok page ∧ page.info.total = 3) ∧
      (g.after ms).progress.backend.clauses.map List.length = [2, 3, 3, 2] ∧
      (g.after ms).progress.backend.orderings = List.replicate 3 ("age", .descending) := by
  intro row condition q params ms g
  have hms : ∀ m ∈ ms, ∀ d, m ≠ .register d := by simp [ms]
  obtain ⟨hsame, hexists, -⟩ := paginate_after_passes q params {} ms hms
  have horders : Orders (Query.compareRows g.filter.2.progress.backend.orderings) g.filter.2.progress.backend.matched := by
    decide +kernel
  obtain ⟨page, hpage⟩ := hexists horders
  refine ⟨hms, ⟨page, hpage, hsame.trans hpage, ?_⟩, ?_, ?_⟩
  · obtain ⟨all, -, rfl⟩ := (paginate_eq_ok_iff rfl).mp hpage
    change (PageInfo.of _ _ (UInt64.ofNat g.filter.2.progress.backend.count)).total = 3
    decide +kernel
  · decide +kernel
  · decide +kernel

end Gate
end QueryGate
