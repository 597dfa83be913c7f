import QueryGate.Operation.Basic

/-! The names that parameters ask for: a key without the number behind its last underscore. -/
namespace QueryGate
namespace Operation

/-- An underscore and at least one digit. -/
def IsNumbering (cs : List Char) : Prop :=
  ∃ digits, cs = '_' :: digits ∧ digits ≠ [] ∧ ∀ c ∈ digits, c.isDigit = true

/-- A name is what is left of a key without its numbering, or the whole key if it ends in none. -/
def Names (key name : String) : Prop :=
  (∃ numbering, IsNumbering numbering ∧ key.toList = name.toList ++ numbering) ∨
    key = name ∧ ∀ stem numbering, IsNumbering numbering → key.toList ≠ stem ++ numbering

theorem nameOf_of_numbering {key : String} {stem numbering : List Char} (h : IsNumbering numbering)
    (hk : key.toList = stem ++ numbering) : nameOf key = String.ofList stem := by
  obtain ⟨digits, rfl, hne, hd⟩ := h
  have hr : key.toList.reverse = digits.reverse ++ '_' :: stem.reverse := by simp [hk]
  have hd' : ∀ c ∈ digits.reverse, c.isDigit = true := by simpa using hd
  have ht : key.toList.reverse.takeWhile Char.isDigit = digits.reverse := by
    rw [hr, List.takeWhile_append_of_pos hd', List.takeWhile_cons_of_neg (by decide), List.append_nil]
  have hw : key.toList.reverse.dropWhile Char.isDigit = '_' :: stem.reverse := by
    rw [hr, List.dropWhile_append_of_pos hd', List.dropWhile_cons_of_neg (by decide)]
  simp only [nameOf, ht, hw]
  simp [hne]

theorem nameOf_of_no_numbering {key : String}
    (h : ∀ stem numbering, IsNumbering numbering → key.toList ≠ stem ++ numbering) : nameOf key = key := by
  unfold nameOf
  dsimp only
  split
  · rename_i stem hw
    split
    · rfl
    · rename_i hne
      -- the digits at the end of the key and the underscore before them would be its numbering
      refine absurd ?_ (h stem.reverse ('_' :: (key.toList.reverse.takeWhile Char.isDigit).reverse)
        ⟨_, rfl, by simpa using hne, ?_⟩)
      · have hs := List.takeWhile_append_dropWhile (p := Char.isDigit) (l := key.toList.reverse)
        rw [hw] at hs
        simpa using (congrArg List.reverse hs).symm
      · intro c hc
        have hall := List.all_takeWhile (p := Char.isDigit) (l := key.toList.reverse)
        exact List.all_eq_true.mp hall c (by simpa using hc)
  · rfl

theorem names_iff (key name : String) : Names key name ↔ nameOf key = name := by
  constructor
  · rintro (⟨numbering, hn, hk⟩ | ⟨rfl, h⟩)
    · rw [nameOf_of_numbering hn hk, String.ofList_toList]
    · exact nameOf_of_no_numbering h
  · rintro rfl
    by_cases h : ∃ stem numbering, IsNumbering numbering ∧ key.toList = stem ++ numbering
    · obtain ⟨stem, numbering, hn, hk⟩ := h
      exact .inl ⟨numbering, hn, by rw [nameOf_of_numbering hn hk, String.toList_ofList, hk]⟩
    · simp only [not_exists, not_and] at h
      exact .inr ⟨(nameOf_of_no_numbering h).symm, h⟩

end Operation
end QueryGate
