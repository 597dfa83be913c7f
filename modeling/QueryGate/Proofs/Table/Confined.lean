import Mathlib.Data.List.Perm.Subperm
import QueryGate.Proofs.Gate.Safety
import QueryGate.Proofs.Table.Page

/-! Confined gates. A condition that is joined to a query only narrows it. Who may not call `orWhere` therefore never
sees a row that the query did not match from the start, whatever a request asks for. -/
namespace QueryGate

open Journal

variable {R : Type}

theorem Journal.declared_of_latest? {journal : List Event} {name : String} {d : Declaration}
    (h : latest? journal name = some d) : .declared d ∈ journal ∧ d.name = name := by
  obtain ⟨e, he, hd⟩ := List.exists_of_findSome?_eq_some h
  cases e with
  | declared d' =>
    simp only [Event.declaration?, Option.ite_none_right_eq_some, Option.some.injEq] at hd
    obtain ⟨hn, rfl⟩ := hd
    exact ⟨List.mem_reverse.mp he, hn⟩
  | called n args ok => cases hd

theorem Gate.declared_mem_events_iff {B : Type} (g : Gate B) (m : Move) (d : Declaration) :
    .declared d ∈ g.events m ↔ m = .register d := by
  cases m with
  | register e => simp [events, eq_comm]
  | filter => simp [events, Turn.event?_ne_declared]
  | paginate => simp [events, Turn.event?_ne_declared]

/-- A step that a pass of a restricted gate takes is one of a declared operation. -/
theorem Gate.exists_declared_of_step? {g : Gate (Query R)} {journal : List Event}
    (h : Balanced g.settings journal g.progress.allowed) (hr : ∃ d, .declared d ∈ journal) {t : Turn (Query R)}
    (ht : t ∈ g.turns) {s : Query.Step} (hs : t.step? g.settings = some s) :
    ∃ d, .declared d ∈ journal ∧ d.name = s.operation := by
  unfold Turn.step? at hs
  split at hs
  · cases hs
  rename_i hnot
  have hdenial : t.before.denial? t.name t.args = none := by simpa using hnot
  obtain ⟨calls, hc, hb⟩ := balanced_turn h ht
  obtain ⟨d, -, hlatest, -⟩ := (Turn.denial?_eq_none_iff_permitted hc hb t.name t.args).mp hdenial hr
  obtain ⟨hd, hname⟩ := declared_of_latest? hlatest
  exact ⟨d, hd, hname.trans (Query.Step.name_of_ofParam? hs).symm⟩

section Narrowing

variable [Row R]

/-- Without any clause all rows are matched, so this holds of the first condition too. -/
theorem Clauses.holdOf_of_and {groups : Clauses} {c : Condition} {row : R} (h : (groups.and c).holdOf row = true) :
    groups.holdOf row = true := by
  rcases List.eq_nil_or_concat' groups with rfl | ⟨init, group, rfl⟩
  · rfl
  · rw [and_append_group, holdOf_append_group, List.all_append, Bool.or_eq_true, Bool.and_eq_true] at h
    rw [holdOf_append_group, Bool.or_eq_true]
    exact h.imp_right And.left

namespace Query

theorem matched_andWhere_sublist (q : Query R) (c : Condition) : (q.andWhere c).matched.Sublist q.matched :=
  List.monotone_filter_right q.rows fun _ => Clauses.holdOf_of_and

theorem Step.matched_apply_sublist {s : Step} (h : s.operation ≠ "orWhere") (q : Query R) :
    (s.apply q).matched.Sublist q.matched := by
  cases s with
  | sort column d => exact List.Sublist.refl _
  | andWhere c => exact q.matched_andWhere_sublist c
  | orWhere c => exact absurd rfl h

theorem Step.matched_foldl_sublist {steps : List Step} (h : ∀ s ∈ steps, s.operation ≠ "orWhere") (q : Query R) :
    (steps.foldl (fun q s => s.apply q) q).matched.Sublist q.matched := by
  induction steps generalizing q with
  | nil => exact List.Sublist.refl _
  | cons s rest ih =>
    have hs : (s.apply q).matched.Sublist q.matched := matched_apply_sublist (h s List.mem_cons_self) q
    exact (ih (fun t ht => h t (List.mem_cons_of_mem s ht)) (s.apply q)).trans hs

end Query

end Narrowing

/-- What the owner of a gate over a query does: a move, or a condition of its own on the query. -/
inductive Use
  | move (m : Move)
  | andWhere (c : Condition)

namespace Use

def declaration? : Use → Option Declaration
  | move (.register d) => some d
  | _ => none

theorem declaration?_move_eq_some_iff (m : Move) (d : Declaration) :
    (move m).declaration? = some d ↔ m = .register d := by
  cases m <;> simp [declaration?]

def isPass : Use → Bool
  | move .filter | move .paginate => true
  | _ => false

/-- No pass comes before the first declaration, and no declaration is about `orWhere`. -/
structure Confined (us : List Use) : Prop where
  restricted : ∀ u ∈ us.takeWhile fun u => u.declaration?.isNone, u.isPass = false
  declared : ∀ u ∈ us, ∀ d ∈ u.declaration?, d.name ≠ "orWhere"

theorem declaration?_of_isPass {u : Use} (h : u.isPass = true) : u.declaration? = none := by
  cases u with
  | move m =>
    cases m with
    | register d => cases h
    | filter => rfl
    | paginate => rfl
  | andWhere c => cases h

/-- A pass comes behind some declaration. -/
theorem Confined.exists_declaration {pre post : List Use} {u : Use} (h : Confined (pre ++ u :: post))
    (hu : u.isPass = true) : ∃ v ∈ pre, ∃ d, v.declaration? = some d := by
  by_contra hnot
  have hnone : ∀ v ∈ pre, v.declaration?.isNone = true := by
    intro v hv
    rw [Option.isNone_iff_eq_none, Option.eq_none_iff_forall_ne_some]
    exact fun d hd => hnot ⟨v, hv, d, hd⟩
  have hmem : u ∈ (pre ++ u :: post).takeWhile fun u => u.declaration?.isNone := by
    rw [List.takeWhile_append_of_pos hnone, List.takeWhile_cons_of_pos (by simp [declaration?_of_isPass hu])]
    simp
  rw [h.restricted u hmem] at hu
  cases hu

end Use

namespace Gate

variable [Row R]

def use (g : Gate (Query R)) : Use → Gate (Query R)
  | .move m => g.move m
  | .andWhere c => { g with progress := { g.progress with backend := g.progress.backend.andWhere c } }

def afterUses (g : Gate (Query R)) (us : List Use) : Gate (Query R) := us.foldl use g

theorem afterUses_append (g : Gate (Query R)) (us vs : List Use) :
    g.afterUses (us ++ vs) = (g.afterUses us).afterUses vs := List.foldl_append

theorem use_eq (g : Gate (Query R)) (u : Use) : g.use u = { g with progress := (g.use u).progress } := by
  cases u with
  | move m => exact g.move_eq m
  | andWhere c => rfl

theorem afterUses_eq (g : Gate (Query R)) (us : List Use) :
    g.afterUses us = { g with progress := (g.afterUses us).progress } := by
  induction us generalizing g with
  | nil => rfl
  | cons u us ih =>
    rw [afterUses, List.foldl_cons, ← afterUses, ih, use_eq]

@[simp] theorem afterUses_catalog (g : Gate (Query R)) (us : List Use) : (g.afterUses us).catalog = g.catalog := by
  rw [afterUses_eq]

/-- A journal that accounts for a gate goes on through every use, with its declarations. -/
theorem exists_journal_use {g : Gate (Query R)} {journal : List Event}
    (h : Balanced g.settings journal g.progress.allowed) (u : Use) :
    ∃ added, Balanced (g.use u).settings (journal ++ added) (g.use u).progress.allowed ∧
      ∀ d, .declared d ∈ added ↔ u.declaration? = some d := by
  have hs : (g.use u).settings = g.settings := by rw [use_eq]
  rw [hs]
  cases u with
  | move m =>
    refine ⟨g.events m, balanced_move h m, fun d => ?_⟩
    rw [declared_mem_events_iff, Use.declaration?_move_eq_some_iff]
  | andWhere c => exact ⟨[], by simpa [use] using h, by simp [Use.declaration?]⟩

theorem exists_journal_afterUses {g : Gate (Query R)} {journal : List Event}
    (h : Balanced g.settings journal g.progress.allowed) (us : List Use) :
    ∃ added, Balanced (g.afterUses us).settings (journal ++ added) (g.afterUses us).progress.allowed ∧
      ∀ d, .declared d ∈ added ↔ ∃ u ∈ us, u.declaration? = some d := by
  induction us generalizing g journal with
  | nil => exact ⟨[], by simpa [afterUses] using h, by simp⟩
  | cons u us ih =>
    obtain ⟨first, hfirst, hu⟩ := exists_journal_use h u
    obtain ⟨added, hadded, hus⟩ := ih hfirst
    refine ⟨first ++ added, ?_, fun d => by simp [hu, hus]⟩
    rw [List.append_assoc] at hadded
    exact hadded

theorem matched_filter_sublist {g : Gate (Query R)} {journal : List Event} (hc : g.catalog = .standard)
    (h : Balanced g.settings journal g.progress.allowed) (hr : ∃ d, .declared d ∈ journal)
    (hn : ∀ d, .declared d ∈ journal → d.name ≠ "orWhere") :
    g.filter.2.progress.backend.matched.Sublist g.progress.backend.matched := by
  obtain ⟨catalog, params, settings, progress⟩ := g
  subst hc
  have hrun := Progress.backend_run_standard settings (Gate.mk .standard params settings progress).fresh params.entries
  rw [filter_eq]
  dsimp only
  rw [hrun]
  refine Query.Step.matched_foldl_sublist (fun s hs => ?_) _
  obtain ⟨t, ht, hst⟩ := List.mem_filterMap.mp hs
  obtain ⟨d, hd, hname⟩ := exists_declared_of_step? h hr ht hst
  rw [← hname]
  exact hn d hd

/-- Every use of a confined gate narrows its query or leaves it as it is. -/
theorem matched_use_sublist {g : Gate (Query R)} {journal : List Event} (hc : g.catalog = .standard)
    (h : Balanced g.settings journal g.progress.allowed) {u : Use}
    (hr : u.isPass = true → ∃ d, .declared d ∈ journal) (hn : ∀ d, .declared d ∈ journal → d.name ≠ "orWhere") :
    (g.use u).progress.backend.matched.Sublist g.progress.backend.matched := by
  cases u with
  | move m =>
    cases m with
    | register d => exact List.Sublist.refl _
    | filter => exact matched_filter_sublist hc h (hr rfl) hn
    | paginate =>
      change g.paginate.2.progress.backend.matched.Sublist _
      rw [paginate_snd]
      exact matched_filter_sublist hc h (hr rfl) hn
  | andWhere c => exact g.progress.backend.matched_andWhere_sublist c

theorem pageOf_rows_subperm {g : Gate (Query R)} {all : List R} (h : g.progress.backend.selection? = some all) :
    (g.pageOf all).rows.Subperm g.progress.backend.matched :=
  ((List.take_sublist _ _).trans (List.drop_sublist _ _)).subperm.trans (Query.selection?_perm h).subperm

theorem pageOf_total_le (g : Gate (Query R)) (all : List R) :
    (g.pageOf all).info.total.toNat ≤ g.progress.backend.count := by
  change (UInt64.ofNat g.progress.backend.count).toNat ≤ _
  rw [UInt64.toNat_ofNat']
  exact Nat.mod_le _ _

section Run

variable {post : List Use} (q : Query R) (params : Params) (settings : Settings) (pre : List Use)

theorem matched_afterUses_use_sublist {u : Use} (h : Use.Confined (pre ++ u :: post)) :
    let g := (ofParams q .standard params settings).afterUses pre
    (g.use u).progress.backend.matched.Sublist g.progress.backend.matched := by
  intro g
  obtain ⟨journal, hb, hd⟩ := exists_journal_afterUses (g := ofParams q .standard params settings)
    (Balanced.nil settings) pre
  refine matched_use_sublist (afterUses_catalog _ _) hb (fun hu => ?_) fun d hmem => ?_
  · obtain ⟨v, hv, d, hvd⟩ := h.exists_declaration hu
    exact ⟨d, (hd d).mpr ⟨v, hv, hvd⟩⟩
  · obtain ⟨v, hv, hvd⟩ := (hd d).mp hmem
    exact h.declared v (List.mem_append_left _ hv) d hvd

theorem matched_afterUses_sublist (mid : List Use) (h : Use.Confined (pre ++ (mid ++ post))) :
    ((ofParams q .standard params settings).afterUses (pre ++ mid)).progress.backend.matched.Sublist
      ((ofParams q .standard params settings).afterUses pre).progress.backend.matched := by
  induction mid generalizing pre with
  | nil => rw [List.append_nil]
  | cons u mid ih =>
    have hfirst := matched_afterUses_use_sublist q params settings pre h
    have hrest := ih (pre ++ [u]) (by simpa using h)
    rw [List.append_assoc, List.singleton_append, afterUses_append _ pre [u]] at hrest
    exact hrest.trans hfirst

end Run

/-- A gate stays confined to its first query. If it is restricted before its first pass and no declaration is about
`orWhere`, then whatever the request asks for and whatever else is done with the gate, a page holds no row that the
query does not match, and none more often, and counts no more rows in all. What is matched only shrinks in time. There is a
page wherever the orderings put the rows in order. -/
theorem paginate_confined (q : Query R) (params : Params) (settings : Settings) (us : List Use)
    (h : Use.Confined us) :
    let start := ofParams q .standard params settings
    (∀ pre post, us = pre ++ .move .paginate :: post →
      let g := start.afterUses pre
      let final := g.filter.2.progress.backend
      (∀ page, g.paginate.1 = .ok page → page.rows.Subperm q.matched ∧ page.info.total.toNat ≤ q.count) ∧
      (Orders (Query.compareRows final.orderings) final.matched → ∃ page, g.paginate.1 = .ok page)) ∧
    ∀ pre mid post, us = pre ++ (mid ++ post) →
      (start.afterUses (pre ++ mid)).progress.backend.matched.Sublist
        (start.afterUses pre).progress.backend.matched := by
  intro start
  refine ⟨fun pre post hus => ?_, fun pre mid post hus =>
    matched_afterUses_sublist q params settings pre mid (hus ▸ h)⟩
  subst hus
  intro g final
  have hc : g.catalog = .standard := afterUses_catalog start pre
  refine ⟨fun page hpage => ?_, exists_paginate_of_orders hc⟩
  have hbefore : g.progress.backend.matched.Sublist q.matched :=
    matched_afterUses_sublist q params settings [] pre h
  have hpass : final.matched.Sublist g.progress.backend.matched := by
    have huse := matched_afterUses_use_sublist q params settings pre h
    change g.filter.2.progress.backend.matched.Sublist _
    rw [← paginate_snd]
    exact huse
  have hbase : final.matched.Sublist q.matched := hpass.trans hbefore
  obtain ⟨all, hall, rfl⟩ := (paginate_eq_ok_iff hc).mp hpage
  exact ⟨(pageOf_rows_subperm hall).trans hbase.subperm,
    Nat.le_trans (g.filter.2.pageOf_total_le all) hbase.length_le⟩

/-- Two groups of conditions, and a request for all rows under a key with a suffix. The gate is restricted after a
condition of its own was joined, and declares once more between its passes. -/
theorem paginate_confined_of_request_for_all :
    let rows := [10, 20, 30, 40].map fun age => Data.record [("age", .int age)]
    let q := ((Query.ofRows rows).andWhere ⟨"age", .less, .int 30⟩).orWhere ⟨"age", .equal, .int 40⟩
    let params : Params := .ofList [("orWhere_7", .ok [.text "age", .text ">", .int 0]),
      ("where_1", .ok [.text "age", .text ">", .int 30])]
    let whereOnly : Declaration := ⟨"where", List.replicate 3 (.single .any), some 1⟩
    let first : List Use := [.andWhere ⟨"age", .notEqual, .int 40⟩, .move (.register whereOnly), .move .filter]
    let second : List Use := [.move (.register whereOnly)]
    let start := ofParams q .standard params {}
    Use.Confined (first ++ (second ++ [.move .paginate])) ∧ q.count = 3 ∧
      (∃ page, (start.afterUses (first ++ second)).paginate.1 = .ok page ∧ page.rows.Subperm q.matched ∧
        page.info.total.toNat ≤ 3) ∧
      (start.afterUses (first ++ second)).progress.backend.matched.Sublist
        (start.afterUses first).progress.backend.matched := by
  intro rows q params whereOnly first second start
  have hconfined : Use.Confined (first ++ (second ++ [.move .paginate])) := by
    refine ⟨by decide, ?_⟩
    simp [first, second, whereOnly, Use.declaration?]
  have hcount : q.count = 3 := by decide +kernel
  obtain ⟨hpages, hshrink⟩ := paginate_confined q params {} _ hconfined
  obtain ⟨hlast, hexists⟩ := hpages (first ++ second) [] (List.append_assoc ..).symm
  have horderings : (start.afterUses (first ++ second)).filter.2.progress.backend.orderings = [] := by decide +kernel
  obtain ⟨page, hpage⟩ := hexists (by
    rw [horderings]
    exact Query.orders_nil _)
  obtain ⟨hrows, htotal⟩ := hlast page hpage
  exact ⟨hconfined, hcount, ⟨page, hpage, hrows, hcount ▸ htotal⟩, hshrink first second _ rfl⟩

end Gate
end QueryGate
