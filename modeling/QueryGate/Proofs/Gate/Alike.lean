import QueryGate.Proofs.Gate.Declared
import QueryGate.Proofs.Gate.Frame
import QueryGate.Proofs.Gate.Journal

/-! Gates that a caller cannot tell apart. A turn asks the allow-list only what it has for one operation, so allow-lists
that have the same for each serve alike in every pass, in whatever order they keep it. `Alike.after` follows two such
gates through all that a caller may do with them. -/
namespace QueryGate

variable {B Row : Type} {catalog : Catalog B} {settings : Settings}

namespace Progress

/-- What a gate has for an operation: nothing if it has no allow-list, else the allowance if there is one. -/
def grant (p : Progress B) (name : String) : Option (Option Allowance) := p.allowed.map (·.get? name)

theorem get?_allowed (p : Progress B) (name : String) : p.allowed.bind (·.get? name) = (p.grant name).join := by
  unfold grant
  cases p.allowed <;> rfl

theorem isSome_allowed (p : Progress B) (name : String) : p.allowed.isSome = (p.grant name).isSome := by
  unfold grant
  cases p.allowed <;> rfl

theorem grant_eq (p : Progress B) (name : String) :
    p.grant name = if p.allowed.isSome then some (p.allowed.bind (·.get? name)) else none := by
  unfold grant
  cases p.allowed <;> rfl

theorem denial?_congr {p q : Progress B} {name : String} (h : p.grant name = q.grant name) (args : Args) :
    p.denial? name args = q.denial? name args := by
  unfold grant at h
  unfold denial?
  cases hp : p.allowed with
  | none =>
    cases hq : q.allowed with
    | none => rfl
    | some m => simp [hp, hq] at h
  | some l =>
    cases hq : q.allowed with
    | none => simp [hp, hq] at h
    | some m =>
      have hget : l.get? name = m.get? name := by simpa [hp, hq] using h
      simp only [Option.bind_some, AllowList.denial?, hget]

theorem remaining?_congr {p q : Progress B} {name : String} (h : p.grant name = q.grant name) :
    p.remaining? name = q.remaining? name := by
  rw [remaining?_eq, remaining?_eq, get?_allowed, get?_allowed, h]

/-- A call that is paid for changes what the gate has for its own operation only. -/
theorem grant_consume (p : Progress B) (operation name : String) :
    grant { p with allowed := p.allowed.map (·.consume operation) } name =
      if operation = name then
        (p.grant name).map fun a? => a?.map fun a =>
          { a with remaining := if a.remaining = 0 then 0 else a.remaining - 1 }
      else p.grant name := by
  unfold grant
  cases p.allowed with
  | none => simp
  | some l =>
    by_cases hn : operation = name
    · simp [AllowList.get?_consume, hn]
    · have hne : name ≠ operation := fun e => hn e.symm
      simp [AllowList.get?_consume, hn, hne]

/-- The same query, the same report, and the same for each operation. -/
structure Alike (p q : Progress B) : Prop where
  backend : p.backend = q.backend
  report : p.report = q.report
  grant : ∀ name, p.grant name = q.grant name

namespace Alike

variable {p q : Progress B}

theorem record (h : p.Alike q) (key name : String) (status : Status) :
    (p.record key name status).Alike (q.record key name status) :=
  ⟨h.backend, congrArg (· ++ _) h.report, h.grant⟩

theorem withBackend (h : p.Alike q) (b : B) : Alike { p with backend := b } { q with backend := b } :=
  ⟨rfl, h.report, h.grant⟩

theorem consume (h : p.Alike q) (operation : String) :
    Alike { p with allowed := p.allowed.map (·.consume operation) }
      { q with allowed := q.allowed.map (·.consume operation) } := by
  refine ⟨h.backend, h.report, fun name => ?_⟩
  rw [grant_consume, grant_consume, h.grant]

end Alike

end Progress

namespace Turn

theorem grant_after (t : Turn B) (name : String) :
    (t.after catalog settings).2.grant name =
      if t.succeeds catalog settings = true ∧ t.name = name then
        (t.before.grant name).map fun a? => a?.map fun a =>
          { a with remaining := if a.remaining = 0 then 0 else a.remaining - 1 }
      else t.before.grant name := by
  have hallowed : (t.after catalog settings).2.grant name =
      if t.succeeds catalog settings then
        Progress.grant { t.before with allowed := t.before.allowed.map (·.consume t.name) } name
      else t.before.grant name := by
    unfold Progress.grant
    rw [after_allowed, apply_ite (Option.map _)]
  rw [hallowed, Progress.grant_consume]
  by_cases hs : t.succeeds catalog settings = true <;> simp [hs]

theorem verdict_congr {t u : Turn B} (hkey : t.key = u.key) (hvalue : t.value = u.value)
    (hgrant : t.before.grant t.name = u.before.grant t.name) :
    t.verdict catalog settings = u.verdict catalog settings := by
  have hname : t.name = u.name := congrArg Operation.nameOf hkey
  have hdenial : ∀ args, t.before.denial? u.name args = u.before.denial? u.name args :=
    fun args => Progress.denial?_congr (hname ▸ hgrant) args
  simp only [verdict, hkey, hvalue, hname, hdenial]

theorem after_alike {p q : Progress B} (h : p.Alike q) (key : String) (value : Parsed) :
    ((Turn.mk key value p).after catalog settings).1 = ((Turn.mk key value q).after catalog settings).1 ∧
      ((Turn.mk key value p).after catalog settings).2.Alike ((Turn.mk key value q).after catalog settings).2 := by
  let t : Turn B := ⟨key, value, p⟩
  let u : Turn B := ⟨key, value, q⟩
  have hverdict : t.verdict catalog settings = u.verdict catalog settings := verdict_congr rfl rfl (h.grant _)
  have heffect : Effect catalog settings t (t.after catalog settings) := t.effect_after
  change (t.after catalog settings).1 = (u.after catalog settings).1 ∧
    (t.after catalog settings).2.Alike (u.after catalog settings).2
  generalize t.after catalog settings = r at heffect ⊢
  -- the other turn ends as this one does, since it comes to the same verdict and calls on the same query
  cases heffect with
  | page hv =>
    rw [Effect.eq_after (t := u) (.page (hverdict ▸ hv))]
    exact ⟨rfl, h⟩
  | skip hv =>
    rw [Effect.eq_after (t := u) (.skip (hverdict ▸ hv))]
    exact ⟨rfl, h.record _ _ _⟩
  | applied hv hr =>
    rw [Effect.eq_after (t := u) (.applied (hverdict ▸ hv) (h.backend ▸ hr))]
    exact ⟨rfl, ((h.consume _).withBackend _).record _ _ _⟩
  | refused hv hr he =>
    rw [Effect.eq_after (t := u) (.refused (hverdict ▸ hv) (h.backend ▸ hr) he)]
    exact ⟨rfl, (h.withBackend _).record _ _ _⟩
  | failed hv hr he =>
    rw [Effect.eq_after (t := u) (.failed (hverdict ▸ hv) (h.backend ▸ hr) he)]
    exact ⟨rfl, h.withBackend _⟩

end Turn

namespace Progress

theorem run_alike {p q : Progress B} (h : p.Alike q) (es : List (String × Parsed)) :
    (run catalog settings p es).1 = (run catalog settings q es).1 ∧
      (run catalog settings p es).2.Alike (run catalog settings q es).2 := by
  induction es generalizing p q with
  | nil => exact ⟨rfl, h⟩
  | cons e rest ih =>
    obtain ⟨hresult, hnext⟩ := @Turn.after_alike B catalog settings p q h e.1 e.2
    rcases hp : (Turn.mk e.1 e.2 p).after catalog settings with ⟨x | x, p'⟩ <;>
      rcases hq : (Turn.mk e.1 e.2 q).after catalog settings with ⟨y | y, q'⟩ <;>
      rw [hp, hq] at hresult hnext
    · rw [run_cons_of_error hp, run_cons_of_error hq]
      exact ⟨hresult, hnext⟩
    · cases hresult
    · cases hresult
    · rw [run_cons_of_ok hp, run_cons_of_ok hq]
      exact ih hnext

end Progress

namespace Gate

/-- One request to one catalog, as far along, with the same for each operation. -/
structure Alike (g h : Gate B) : Prop where
  catalog : g.catalog = h.catalog
  params : g.params = h.params
  settings : g.settings = h.settings
  progress : g.progress.Alike h.progress

/-- What a caller sees of two gates, and of the next pass and page, is the same. -/
structure LooksLike [Backend B Row] (g h : Gate B) : Prop where
  settings : g.settings = h.settings
  params : g.params = h.params
  pass : g.filter.1 = h.filter.1
  page : g.paginate.1 = h.paginate.1
  backend : g.progress.backend = h.progress.backend
  report : g.progress.report = h.progress.report
  isRestricted : g.isRestricted = h.isRestricted
  remaining? : ∀ name, g.remaining? name = h.remaining? name

theorem grant_register (g : Gate B) (d : Declaration) (name : String) :
    (g.register d).progress.grant name =
      some (if name = d.name then some (d.allowance g.settings.defaultMaxCalls) else (g.progress.grant name).join) := by
  rw [Progress.grant_eq, get?_register, Progress.get?_allowed]
  rfl

theorem grant_registerAll (g : Gate B) (ds : List Declaration) (name : String) :
    (g.registerAll ds).progress.grant name =
      if (!ds.isEmpty || g.progress.allowed.isSome) then
        some (((Declaration.latest? ds name).map (Declaration.allowance g.settings.defaultMaxCalls)).or
          (g.progress.allowed.bind (·.get? name)))
      else none := by
  rw [Progress.grant_eq, isSome_allowed_registerAll, get?_registerAll]

/-- Declarations that tell the same of each operation make gates alike. -/
theorem alike_registerAll (g : Gate B) {ds ds' : List Declaration} (hempty : ds.isEmpty = ds'.isEmpty)
    (hlatest : ∀ name, Declaration.latest? ds name = Declaration.latest? ds' name) :
    (g.registerAll ds).Alike (g.registerAll ds') := by
  have hgrant : ∀ name, (g.registerAll ds).progress.grant name = (g.registerAll ds').progress.grant name := by
    intro name
    rw [grant_registerAll, grant_registerAll, hempty, hlatest]
  refine ⟨?_, ?_, ?_, ?_, ?_, hgrant⟩ <;> rw [registerAll_eq g ds, registerAll_eq g ds']

namespace Alike

variable {g h : Gate B}

theorem register (H : g.Alike h) (d : Declaration) : (g.register d).Alike (h.register d) := by
  refine ⟨H.catalog, H.params, H.settings, H.progress.backend, H.progress.report, fun name => ?_⟩
  rw [grant_register, grant_register, H.settings, H.progress.grant]

theorem filter (H : g.Alike h) : g.filter.1 = h.filter.1 ∧ g.filter.2.Alike h.filter.2 := by
  obtain ⟨catalog, params, settings, p⟩ := g
  obtain ⟨_, _, _, q⟩ := h
  obtain ⟨rfl, rfl, rfl, hp⟩ := H
  -- both passes begin with an empty report
  have hfresh : Progress.Alike { p with report := [] } { q with report := [] } := ⟨hp.backend, rfl, hp.grant⟩
  obtain ⟨hresult, hlast⟩ := Progress.run_alike hfresh params.entries
  exact ⟨hresult, rfl, rfl, rfl, hlast⟩

variable [Backend B Row]

theorem currentRows (H : g.Alike h) : g.currentRows = h.currentRows :=
  currentRows_congr H.progress.backend (by simp only [currentPage, H.settings, H.params])
    (by simp only [perPage, H.settings, H.params])

theorem paginate_fst (H : g.Alike h) : g.paginate.1 = h.paginate.1 := by
  obtain ⟨hresult, hlast⟩ := H.filter
  unfold paginate
  rcases hg : g.filter with ⟨x | x, g'⟩ <;> rcases hh : h.filter with ⟨y | y, h'⟩ <;> rw [hg, hh] at hresult hlast
  · obtain rfl : x = y := Except.error.inj hresult
    rfl
  · cases hresult
  · cases hresult
  · exact hlast.currentRows

theorem move (H : g.Alike h) (m : Move) : (g.move m).Alike (h.move m) := by
  cases m with
  | register d => exact H.register d
  | filter => exact H.filter.2
  | paginate =>
    rw [Gate.move, Gate.move, paginate_snd, paginate_snd]
    exact H.filter.2

/-- Nothing that a caller does makes a difference between gates that are alike. -/
theorem after (H : g.Alike h) (ms : List Move) : (g.after ms).Alike (h.after ms) := by
  induction ms generalizing g h with
  | nil => exact H
  | cons m ms ih => exact ih (H.move m)

theorem looksLike (H : g.Alike h) : g.LooksLike h where
  settings := H.settings
  params := H.params
  pass := H.filter.1
  page := H.paginate_fst
  backend := H.progress.backend
  report := H.progress.report
  isRestricted := by
    rw [isRestricted, isRestricted, Progress.isSome_allowed _ "", Progress.isSome_allowed _ "", H.progress.grant]
  remaining? name := Progress.remaining?_congr (H.progress.grant name)

end Alike

end Gate
end QueryGate
