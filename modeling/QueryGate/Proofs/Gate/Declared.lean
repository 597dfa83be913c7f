import Mathlib.Data.List.Nodup
import QueryGate.Gate.Basic
import QueryGate.Proofs.Rule.Check

/-! Declared gates: what a list of declarations makes of a gate. Of several declarations of one name the last counts. -/
namespace QueryGate
namespace Declaration

def latest? (ds : List Declaration) (name : String) : Option Declaration := ds.reverse.find? (·.name == name)

theorem latest?_cons (d : Declaration) (ds : List Declaration) (name : String) :
    latest? (d :: ds) name = (latest? ds name).or (if d.name = name then some d else none) := by
  by_cases h : d.name = name <;> simp [latest?, h]

theorem mem_of_latest? {ds : List Declaration} {name : String} {d : Declaration} (h : latest? ds name = some d) :
    d ∈ ds ∧ d.name = name :=
  ⟨List.mem_reverse.mp (List.mem_of_find?_eq_some h), by simpa using List.find?_some h⟩

theorem latest?_eq_none_iff {ds : List Declaration} {name : String} :
    latest? ds name = none ↔ name ∉ ds.map Declaration.name := by
  simp [latest?]

section Distinct

variable {ds : List Declaration} (hn : (ds.map Declaration.name).Nodup)
include hn

theorem latest?_eq_some_iff {name : String} {d : Declaration} :
    latest? ds name = some d ↔ d ∈ ds ∧ d.name = name := by
  refine ⟨mem_of_latest?, ?_⟩
  rintro ⟨hd, rfl⟩
  cases hl : latest? ds d.name with
  | none => exact absurd (List.mem_map_of_mem hd) (latest?_eq_none_iff.mp hl)
  | some d' =>
    obtain ⟨hd', hname⟩ := mem_of_latest? hl
    exact congrArg some (List.inj_on_of_nodup_map hn hd' hd hname)

/-- With one declaration for each name it makes no difference which comes last. -/
theorem latest?_perm {ds' : List Declaration} (h : ds.Perm ds') (name : String) :
    latest? ds name = latest? ds' name := by
  have hn' : (ds'.map Declaration.name).Nodup := (h.map Declaration.name).nodup_iff.mp hn
  ext d
  rw [latest?_eq_some_iff hn, latest?_eq_some_iff hn', h.mem_iff]

end Distinct

def allowance (default : UInt32) (d : Declaration) : Allowance := ⟨d.rules, d.budget default⟩

/-- Whether arguments are as many as the rules of a declaration and each passes its own. -/
def admits (d : Declaration) (args : Args) : Bool :=
  args.length == d.rules.length && (d.rules.zip args).all fun x => x.1.passes x.2

theorem admits_iff (d : Declaration) (args : Args) : d.admits args = true ↔ RuleSet.check? d.rules args = none := by
  rw [RuleSet.check?_eq_none_iff, List.forall₂_iff_zip, admits, Bool.and_eq_true, beq_iff_eq, List.all_eq_true]
  exact and_congr eq_comm ⟨fun h _ _ hx => h _ hx, fun h x hx => h hx⟩

/-- Whether the declarations let a parameter through, as far as its arguments are concerned. -/
def admitted (ds : List Declaration) (e : String × Parsed) : Bool :=
  match e.2, latest? ds (Operation.nameOf e.1) with
  | .ok args, some d => d.admits args
  | _, _ => false

/-- The number of calls that the declarations give to an operation. -/
def budgetOf (ds : List Declaration) (default : UInt32) (name : String) : Nat :=
  (latest? ds name).elim 0 fun d => (d.budget default).toNat

end Declaration

namespace Gate

variable {B : Type}

theorem registerAll_eq (g : Gate B) (ds : List Declaration) :
    g.registerAll ds =
      { g with progress := { g.progress with allowed := (g.registerAll ds).progress.allowed } } := by
  induction ds generalizing g with
  | nil => rfl
  | cons d ds ih =>
    rw [registerAll, List.foldl_cons, ← registerAll, ih]
    rfl

theorem get?_register (g : Gate B) (d : Declaration) (name : String) :
    (g.register d).progress.allowed.bind (·.get? name) =
      if name = d.name then some (d.allowance g.settings.defaultMaxCalls)
      else g.progress.allowed.bind (·.get? name) := by
  have hget : (g.progress.allowed.getD .empty).get? name = g.progress.allowed.bind (·.get? name) := by
    cases g.progress.allowed <;> rfl
  rw [← hget]
  exact AllowList.get?_allow ..

theorem get?_registerAll (g : Gate B) (ds : List Declaration) (name : String) :
    (g.registerAll ds).progress.allowed.bind (·.get? name) =
      ((Declaration.latest? ds name).map (Declaration.allowance g.settings.defaultMaxCalls)).or
        (g.progress.allowed.bind (·.get? name)) := by
  induction ds generalizing g with
  | nil => rfl
  | cons d ds ih =>
    rw [registerAll, List.foldl_cons, ← registerAll, ih, get?_register, Declaration.latest?_cons]
    cases Declaration.latest? ds name with
    | some _ => rfl
    | none =>
      by_cases h : d.name = name
      · simp [h, register]
      · have h' : name ≠ d.name := fun e => h e.symm
        simp [h, h']

theorem isSome_allowed_registerAll (g : Gate B) (ds : List Declaration) :
    (g.registerAll ds).progress.allowed.isSome = (!ds.isEmpty || g.progress.allowed.isSome) := by
  induction ds generalizing g with
  | nil => rfl
  | cons d ds ih =>
    rw [registerAll, List.foldl_cons, ← registerAll, ih]
    simp [register]

theorem registerAll_params (g : Gate B) (params : Params) (ds : List Declaration) :
    registerAll { g with params } ds = { g.registerAll ds with params } := by
  induction ds generalizing g with
  | nil => rfl
  | cons d ds ih => exact ih (g.register d)

/-- Declarations make the same allow-list for every request. -/
theorem exists_allowed (b : B) (catalog : Catalog B) (settings : Settings) (ds : List Declaration) :
    ∃ allowed, ∀ raw : RawParams, (ofRaw b catalog raw settings).registerAll ds =
      ⟨catalog, raw.parse settings.scalars, settings, ⟨b, allowed, []⟩⟩ := by
  refine ⟨((ofParams b catalog .empty settings).registerAll ds).progress.allowed, fun raw => ?_⟩
  have h := registerAll_params (ofParams b catalog .empty settings) (raw.parse settings.scalars) ds
  rw [registerAll_eq (ofParams b catalog .empty settings)] at h
  exact h

end Gate
end QueryGate
