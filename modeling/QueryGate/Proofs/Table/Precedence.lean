import Mathlib.Data.List.Forall2
import Mathlib.Data.List.Perm.Basic
import QueryGate.Proofs.Table.Clauses

/-! How a chain of clauses reads: as the formula that it is written as, where `and` binds tighter than `or` and the
operator in front of the first condition does not count. The groups of a chain are the conjunctions of that formula. -/
namespace QueryGate

namespace Clauses.Link

def condition : Link → Condition
  | and c => c
  | or c => c

def isOr : Link → Bool
  | and _ => false
  | or _ => true

end Clauses.Link

/-- Conditions joined by operators, in any shape. -/
inductive Formula
  | condition (c : Condition)
  | and (f g : Formula)
  | or (f g : Formula)

namespace Formula

open Clauses

/-- The condition that a formula is written with first. -/
def first : Formula → Condition
  | condition c => c
  | and f _ => f.first
  | or f _ => f.first

/-- What is written behind the first condition. -/
def behind : Formula → List Link
  | condition _ => []
  | and f g => f.behind ++ .and g.first :: g.behind
  | or f g => f.behind ++ .or g.first :: g.behind

/-- Whether a chain of calls is what a formula is written as. The operator of the first call is not part of it. -/
def Spells (f : Formula) (links : List Link) : Prop := ∃ l, l.condition = f.first ∧ links = l :: f.behind

def isConjunction : Formula → Bool
  | condition _ => true
  | and f g => f.isConjunction && g.isConjunction
  | or _ _ => false

/-- Whether a formula is what its written form means without brackets: nothing joined by `or` is joined by `and` to
something else. -/
def isUnbracketed : Formula → Bool
  | or f g => f.isUnbracketed && g.isUnbracketed
  | f => f.isConjunction

/-- Reads what is written behind a conjunction. An `and` goes on with it, and an `or` ends it. -/
def readBehind (conjunction : Formula) : List Link → Formula
  | [] => conjunction
  | .and c :: rest => readBehind (and conjunction (condition c)) rest
  | .or c :: rest => or conjunction (readBehind (condition c) rest)

/-- The formula that a chain is read as, if there is any condition in it. -/
def ofChain? : List Link → Option Formula
  | [] => none
  | l :: rest => some (readBehind (condition l.condition) rest)

theorem first_readBehind (links : List Link) (f : Formula) : (readBehind f links).first = f.first := by
  induction links generalizing f with
  | nil => rfl
  | cons l rest ih =>
    cases l with
    | and c => exact ih (and f (condition c))
    | or c => rfl

theorem behind_readBehind (links : List Link) (f : Formula) : (readBehind f links).behind = f.behind ++ links := by
  induction links generalizing f with
  | nil => exact (List.append_nil _).symm
  | cons l rest ih =>
    cases l with
    | and c => simp [readBehind, ih, behind, first]
    | or c => simp [readBehind, ih, behind, first, first_readBehind]

theorem isUnbracketed_of_isConjunction {f : Formula} (h : f.isConjunction = true) : f.isUnbracketed = true := by
  cases f with
  | condition c => rfl
  | and f g => exact h
  | or f g => cases h

theorem isUnbracketed_readBehind (links : List Link) {f : Formula} (h : f.isConjunction = true) :
    (readBehind f links).isUnbracketed = true := by
  induction links generalizing f with
  | nil => exact isUnbracketed_of_isConjunction h
  | cons l rest ih =>
    cases l with
    | and c => exact ih (by simp [isConjunction, h])
    | or c =>
      have hrest : (readBehind (condition c) rest).isUnbracketed = true := ih rfl
      simp [readBehind, isUnbracketed, isUnbracketed_of_isConjunction h, hrest]

theorem isUnbracketed_of_ofChain? {links : List Link} {f : Formula} (h : ofChain? links = some f) :
    f.isUnbracketed = true := by
  cases links with
  | nil => cases h
  | cons l rest =>
    cases h
    exact isUnbracketed_readBehind rest rfl

theorem spells_of_ofChain? {links : List Link} {f : Formula} (h : ofChain? links = some f) : f.Spells links := by
  cases links with
  | nil => cases h
  | cons l rest =>
    cases h
    have hfirst : (readBehind (condition l.condition) rest).first = l.condition := first_readBehind rest _
    have hbehind : (readBehind (condition l.condition) rest).behind = rest := behind_readBehind rest _
    exact ⟨l, hfirst.symm, by rw [hbehind]⟩

variable {R : Type} [Row R]

def value (row : R) : Formula → Bool
  | condition c => c.holdsOf row
  | and f g => f.value row && g.value row
  | or f g => f.value row || g.value row

end Formula

namespace Clauses

theorem lead_append_or (links : List Link) (c : Condition) (rest : List Link) :
    lead (links ++ .or c :: rest) = lead links := by
  induction links with
  | nil => rfl
  | cons l links ih =>
    cases l with
    | and d => simp [lead, ih]
    | or d => rfl

theorem begun_append_or (links : List Link) (c : Condition) (rest : List Link) :
    begun (links ++ .or c :: rest) = begun links ++ begun (.or c :: rest) := by
  induction links with
  | nil => rfl
  | cons l links ih =>
    cases l with
    | and d => simpa [begun] using ih
    | or d => simp only [List.cons_append, begun, ih, lead_append_or]

theorem lead_append_of_begun_eq_nil {links : List Link} (h : begun links = []) (rest : List Link) :
    lead (links ++ rest) = lead links ++ lead rest := by
  induction links with
  | nil => rfl
  | cons l links ih =>
    cases l with
    | and d => simp [lead, ih h]
    | or d => cases h

theorem begun_append_of_begun_eq_nil {links : List Link} (h : begun links = []) (rest : List Link) :
    begun (links ++ rest) = begun rest := by
  induction links with
  | nil => rfl
  | cons l links ih =>
    cases l with
    | and d => exact ih h
    | or d => cases h

/-- The groups of a chain are those that it begins, the first condition included. -/
theorem foldl_link_cons (l : Link) (rest : List Link) :
    (l :: rest).foldl link [] = begun (.or l.condition :: rest) := by
  cases l with
  | and c => exact foldl_link_append_group rest [] [c]
  | or c => exact foldl_link_append_group rest [] [c]

theorem ne_nil_of_mem_begun {links : List Link} : ∀ group ∈ begun links, group ≠ [] := by
  induction links with
  | nil => simp [begun]
  | cons l rest ih =>
    cases l with
    | and c => exact ih
    | or c => simpa [begun] using ih

theorem lead_append_flatten_begun (links : List Link) :
    lead links ++ (begun links).flatten = links.map Link.condition := by
  induction links with
  | nil => rfl
  | cons l rest ih =>
    cases l with
    | and c => simpa [lead, begun, Link.condition] using ih
    | or c => simpa [lead, begun, Link.condition] using ih

/-- For each condition of a group, whether the group starts with it. -/
def starts : List Condition → List Bool
  | [] => []
  | _ :: rest => true :: rest.map fun _ => false

theorem lead_append_flatMap_starts_begun (links : List Link) :
    (lead links).map (fun _ => false) ++ (begun links).flatMap starts = links.map Link.isOr := by
  induction links with
  | nil => rfl
  | cons l rest ih =>
    cases l with
    | and c => simpa [lead, begun, Link.isOr] using ih
    | or c => simpa [lead, begun, Link.isOr, starts] using ih

theorem ne_nil_of_mem_foldl_link (links : List Link) : ∀ group ∈ links.foldl link [], group ≠ [] := by
  cases links with
  | nil => simp
  | cons l rest =>
    rw [foldl_link_cons]
    exact ne_nil_of_mem_begun

theorem flatten_foldl_link (links : List Link) : (links.foldl link []).flatten = links.map Link.condition := by
  cases links with
  | nil => rfl
  | cons l rest =>
    rw [foldl_link_cons]
    exact lead_append_flatten_begun (.or l.condition :: rest)

theorem flatMap_starts_foldl_link (links : List Link) :
    (links.foldl link []).flatMap starts = links.zipIdx.map fun x => x.1.isOr || x.2 == 0 := by
  cases links with
  | nil => rfl
  | cons l rest =>
    have hlater : ∀ x ∈ rest.zipIdx 1, (x.1.isOr || x.2 == 0) = x.1.isOr := by
      intro x hx
      have hne : x.2 ≠ 0 := Nat.ne_of_gt (List.le_snd_of_mem_zipIdx hx)
      simp [hne]
    have hrest : (rest.zipIdx 1).map (fun x => x.1.isOr || x.2 == 0) = rest.map Link.isOr :=
      calc (rest.zipIdx 1).map (fun x => x.1.isOr || x.2 == 0)
        _ = (rest.zipIdx 1).map (Link.isOr ∘ Prod.fst) := List.map_congr_left hlater
        _ = rest.map Link.isOr := by rw [← List.map_map, List.zipIdx_map_fst]
    rw [foldl_link_cons, List.zipIdx_cons, List.map_cons, hrest]
    simpa [lead, Link.isOr] using lead_append_flatMap_starts_begun (.or l.condition :: rest)

theorem begun_of_isConjunction {f : Formula} (h : f.isConjunction = true) : begun f.behind = [] := by
  induction f with
  | condition c => rfl
  | and f g hf hg =>
    obtain ⟨h₁, h₂⟩ := Bool.and_eq_true_iff.mp h
    rw [Formula.behind, begun_append_of_begun_eq_nil (hf h₁)]
    exact hg h₂
  | or f g => cases h

section Rows

variable {R : Type} [Row R]

theorem all_of_isConjunction {f : Formula} (h : f.isConjunction = true) (row : R) :
    (f.first :: lead f.behind).all (·.holdsOf row) = f.value row := by
  induction f with
  | condition c => simp [Formula.first, Formula.behind, lead, Formula.value]
  | and f g hf hg =>
    obtain ⟨h₁, h₂⟩ := Bool.and_eq_true_iff.mp h
    have hlead : Formula.first (.and f g) :: lead (Formula.behind (.and f g)) =
        (f.first :: lead f.behind) ++ (g.first :: lead g.behind) := by
      rw [Formula.behind, lead_append_of_begun_eq_nil (begun_of_isConjunction h₁)]
      rfl
    rw [hlead, List.all_append, hf h₁, hg h₂, Formula.value]
  | or f g => cases h

/-- The groups of what is written are the conjunctions of the formula. -/
theorem any_begun_of_isUnbracketed {f : Formula} (h : f.isUnbracketed = true) (row : R) :
    ((begun (.or f.first :: f.behind)).any fun group => group.all (·.holdsOf row)) = f.value row := by
  have hconjunction : ∀ f : Formula, f.isConjunction = true →
      ((begun (.or f.first :: f.behind)).any fun group => group.all (·.holdsOf row)) = f.value row := by
    intro f hf
    rw [begun, begun_of_isConjunction hf, List.any_cons, all_of_isConjunction hf, List.any_nil, Bool.or_false]
  induction f with
  | condition c => exact hconjunction _ h
  | and f g => exact hconjunction _ h
  | or f g hf hg =>
    obtain ⟨h₁, h₂⟩ := Bool.and_eq_true_iff.mp h
    have hbegun : begun (.or (Formula.first (.or f g)) :: Formula.behind (.or f g)) =
        begun (.or f.first :: f.behind) ++ begun (.or g.first :: g.behind) :=
      begun_append_or (.or f.first :: f.behind) g.first g.behind
    rw [hbegun, List.any_append, hf h₁, hg h₂, Formula.value]

theorem holdOf_of_spells {f : Formula} {links : List Link} (h : f.isUnbracketed = true) (hs : f.Spells links)
    (row : R) : holdOf (links.foldl link []) row = f.value row := by
  obtain ⟨l, hl, rfl⟩ := hs
  have hgroups : holdOf (begun (.or f.first :: f.behind)) row =
      (begun (.or f.first :: f.behind)).any fun group => group.all (·.holdsOf row) := rfl
  rw [foldl_link_cons, hl, hgroups, any_begun_of_isUnbracketed h]

theorem any_of_forall₂_perm {groups groups' : Clauses} (h : List.Forall₂ List.Perm groups groups') (row : R) :
    (groups'.any fun group => group.all (·.holdsOf row)) = groups.any fun group => group.all (·.holdsOf row) := by
  induction h with
  | nil => rfl
  | cons hg _ ih => rw [List.any_cons, List.any_cons, hg.all_eq, ih]

/-- Neither the order of the groups nor that of the conditions in a group matters. -/
theorem holdOf_of_perm {groups mid groups' : Clauses} (h : List.Forall₂ List.Perm groups mid) (hp : mid.Perm groups')
    (row : R) : holdOf groups' row = holdOf groups row := by
  have hempty : groups'.isEmpty = groups.isEmpty := by
    rw [Bool.eq_iff_iff, List.isEmpty_iff_length_eq_zero, List.isEmpty_iff_length_eq_zero, ← hp.length_eq, h.length_eq]
  rw [holdOf, holdOf, hempty, ← hp.any_eq, any_of_forall₂_perm h]

/-- A chain of clauses reads as it is written. Its groups hold its conditions in the order of the calls, and a group
starts at the first call and at each `or`. A row satisfies it if it satisfies the formula that the chain is read as, in
which `and` binds tighter than `or`, and every row satisfies a chain without any condition. Any formula that is written
as the chain without brackets has that value, so the first operator does not count, and neither does the order of the
groups or of the conditions in one. -/
theorem holdOf_foldl_link_eq_value (links : List Link) (row : R) :
    let groups := links.foldl link []
    (∀ group ∈ groups, group ≠ []) ∧ groups.flatten = links.map Link.condition ∧
    groups.flatMap starts = links.zipIdx.map (fun x => x.1.isOr || x.2 == 0) ∧
    holdOf groups row = (Formula.ofChain? links).elim true (·.value row) ∧
    (∀ f, Formula.ofChain? links = some f → f.isUnbracketed = true ∧ f.Spells links) ∧
    (∀ f : Formula, f.isUnbracketed = true → f.Spells links → holdOf groups row = f.value row) ∧
    ∀ mid groups' : Clauses, List.Forall₂ List.Perm groups mid → mid.Perm groups' →
      holdOf groups' row = holdOf groups row := by
  intro groups
  have hread : ∀ f : Formula, f.isUnbracketed = true → f.Spells links → holdOf groups row = f.value row :=
    fun f h hs => holdOf_of_spells h hs row
  refine ⟨ne_nil_of_mem_foldl_link links, flatten_foldl_link links, flatMap_starts_foldl_link links, ?_,
    fun f h => ⟨Formula.isUnbracketed_of_ofChain? h, Formula.spells_of_ofChain? h⟩, hread,
    fun mid groups' h hp => holdOf_of_perm h hp row⟩
  cases hf : Formula.ofChain? links with
  | none =>
    cases links with
    | nil => rfl
    | cons l rest => cases hf
  | some f => exact hread f (Formula.isUnbracketed_of_ofChain? hf) (Formula.spells_of_ofChain? hf)

-- The operator in front does not count, and each `or` ends what the conditions before it are joined to.
example (a b c d : Condition) : [.or a, .and b, .or c, .or d].foldl link [] = [[a, b], [c], [d]] := rfl

end Rows

end Clauses
end QueryGate
