import QueryGate.Proofs.Text.Lowercase
import QueryGate.Table.Condition

/-! Pattern conditions. A text and a part of it are put into lower case each on its own, so a pattern condition can miss a
part in which the form of a capital sigma depends on the text around it: `matchesCell_like_part`. -/
namespace QueryGate
namespace Condition

theorem matchesCell_like (column : String) (before part after : String) :
    (Condition.mk column .like (.text part)).matchesCell (.text (before ++ part ++ after)) =
      Text.hasPart (Text.lowercase part.toList)
        (Text.lowercase (before.toList ++ (part.toList ++ after.toList))) := by
  rw [← List.append_assoc, ← String.toList_append, ← String.toList_append]
  rfl

/-- A part of a text is found if its capital sigmas have the forms there that they have in the part alone, above all if
there are none. The parts that are found in every text are those that settle the form of each of their capital
sigmas. -/
theorem matchesCell_like_part (column : String) (part : String) :
    (∀ before after : String,
      (∀ x y, part.toList = x ++ '\u03A3' :: y →
        Text.isFinalSigma (x.reverse ++ before.toList.reverse) (y ++ after.toList) = Text.isFinalSigma x.reverse y) →
      (Condition.mk column .like (.text part)).matchesCell (.text (before ++ part ++ after)) = true) ∧
    ('\u03A3' ∉ part.toList → ∀ before after : String,
      (Condition.mk column .like (.text part)).matchesCell (.text (before ++ part ++ after)) = true) ∧
    ((∀ before after : String,
        (Condition.mk column .like (.text part)).matchesCell (.text (before ++ part ++ after)) = true) ↔
      ∀ x y, part.toList = x ++ '\u03A3' :: y → Text.SettledSigma x y) := by
  have hforms : ∀ before after : String,
      (∀ x y, part.toList = x ++ '\u03A3' :: y →
        Text.isFinalSigma (x.reverse ++ before.toList.reverse) (y ++ after.toList) = Text.isFinalSigma x.reverse y) →
      (Condition.mk column .like (.text part)).matchesCell (.text (before ++ part ++ after)) = true := by
    intro before after h
    rw [matchesCell_like]
    exact Text.hasPart_lowercase_of_forms h
  refine ⟨hforms, fun hnone before after => hforms before after fun x y hpart => ?_, ?_⟩
  · exact absurd (by simp [hpart]) hnone
  · simp only [matchesCell_like]
    rw [← Text.hasPart_lowercase_iff_settled]
    constructor
    · intro h before after
      simpa using h (String.ofList before) (String.ofList after)
    · intro h before after
      exact h before.toList after.toList

/-- The capital sigma at the end of the part is final, and in the text it is not. -/
theorem not_matchesCell_like_part :
    ¬∀ before part after : String,
      (Condition.mk "name" .like (.text part)).matchesCell (.text (before ++ part ++ after)) = true := by
  intro h
  exact absurd (h "" "ΑΣ" "Α") (by decide +kernel)

end Condition
end QueryGate
