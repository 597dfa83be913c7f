/-! Contiguous parts of a text. -/
namespace QueryGate
namespace Text

/-- Whether `needle` stands somewhere in a text without a gap. -/
def hasPart (needle : List Char) : List Char → Bool
  | [] => needle.isEmpty
  | c :: rest => needle.isPrefixOf (c :: rest) || hasPart needle rest

theorem hasPart_of_append {needle : List Char} (before after : List Char) :
    hasPart needle (before ++ (needle ++ after)) = true := by
  induction before with
  | nil =>
    cases h : needle ++ after with
    | nil => simp_all [hasPart]
    | cons c rest =>
      have hp : needle.isPrefixOf (c :: rest) = true := by
        rw [List.isPrefixOf_iff_prefix, ← h]
        exact List.prefix_append needle after
      simp [hasPart, hp]
  | cons c before ih => simp [hasPart, ih]

theorem exists_append_of_hasPart {needle cs : List Char} (h : hasPart needle cs = true) :
    ∃ before after, cs = before ++ (needle ++ after) := by
  induction cs with
  | nil => exact ⟨[], [], by simpa [hasPart] using h.symm⟩
  | cons c rest ih =>
    simp only [hasPart, Bool.or_eq_true] at h
    rcases h with h | h
    · obtain ⟨after, ha⟩ := List.isPrefixOf_iff_prefix.1 h
      exact ⟨[], after, ha.symm⟩
    · obtain ⟨before, after, hr⟩ := ih h
      exact ⟨c :: before, after, by rw [hr]; rfl⟩

end Text
end QueryGate
