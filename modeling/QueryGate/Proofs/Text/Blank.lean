import QueryGate.Text.Blank

/-! Removal of blanks: all that stand at the ends of a text, and nothing else. -/
namespace QueryGate
namespace Text

theorem isBlank_of_between {c : Char} (hlow : 32 < c.toNat) (hhigh : c.toNat < 0x85) : isBlank c = false := by
  simp [isBlank, blanks, Ranges.has]
  omega

theorem trimStart_of_head {cs : List Char} (h : ∀ c ∈ cs.head?, isBlank c = false) : trimStart cs = cs := by
  cases cs with
  | nil => rfl
  | cons c rest =>
    have hc : isBlank c = false := h c rfl
    simp [trimStart, hc]

theorem trim_of_ends {cs : List Char} (hh : ∀ c ∈ cs.head?, isBlank c = false)
    (hl : ∀ c ∈ cs.getLast?, isBlank c = false) : trim cs = cs := by
  rw [trim, trimStart_of_head hh]
  have hr : trimStart cs.reverse = cs.reverse := trimStart_of_head (by rwa [List.head?_reverse])
  rw [trimEnd, show cs.reverse.dropWhile isBlank = cs.reverse from hr, List.reverse_reverse]

theorem trim_of_forall {cs : List Char} (h : ∀ c ∈ cs, isBlank c = false) : trim cs = cs :=
  trim_of_ends (fun c hc => h c (List.mem_of_mem_head? hc)) fun c hc => h c (List.mem_of_mem_getLast? hc)

theorem isBlank_of_head?_dropWhile (cs : List Char) : ∀ c ∈ (cs.dropWhile isBlank).head?, isBlank c = false := by
  intro c hc
  have h := List.head?_dropWhile_not isBlank cs
  rw [hc] at h
  exact h

/-- Trimming takes nothing but blanks off the two ends, and all of them. -/
theorem exists_eq_append_trim (cs : List Char) :
    ∃ front back, cs = front ++ (trim cs ++ back) ∧ (∀ c ∈ front ++ back, isBlank c = true) ∧
      (∀ c ∈ (trim cs).head?, isBlank c = false) ∧ ∀ c ∈ (trim cs).getLast?, isBlank c = false := by
  have hsplit : trimStart cs = trim cs ++ ((trimStart cs).reverse.takeWhile isBlank).reverse := by
    rw [trim, trimEnd, ← List.reverse_append, List.takeWhile_append_dropWhile, List.reverse_reverse]
  refine ⟨cs.takeWhile isBlank, ((trimStart cs).reverse.takeWhile isBlank).reverse, ?_, ?_, ?_, ?_⟩
  · rw [← hsplit]
    exact List.takeWhile_append_dropWhile.symm
  · intro c hc
    rw [List.mem_append, List.mem_reverse] at hc
    rcases hc with hc | hc
    · exact List.all_eq_true.mp List.all_takeWhile c hc
    · exact List.all_eq_true.mp List.all_takeWhile c hc
  · intro c hc
    refine isBlank_of_head?_dropWhile cs c ?_
    change c ∈ (trimStart cs).head?
    rw [hsplit, List.head?_append, hc]
    rfl
  · intro c hc
    rw [trim, trimEnd, List.getLast?_reverse] at hc
    exact isBlank_of_head?_dropWhile _ c hc

end Text
end QueryGate
