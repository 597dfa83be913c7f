import QueryGate.Text.Lowercase
import QueryGate.Text.Part

/-! Lower case within a context. All that the text around a part decides about the part's lower case is which of its
capital sigmas are final. In some texts that hold the part this differs from the part alone, unless each of its capital
sigmas is settled by the part itself. -/
namespace QueryGate
namespace Text

/-- Whether a capital sigma between two texts, the first of them in reverse, takes its final form. -/
def isFinalSigma (before rest : List Char) : Bool := startsCased before && !startsCased rest

/-- The lower case of one character between two texts, the first of them in reverse. -/
def lowerAt (before : List Char) (c : Char) (rest : List Char) : List Char :=
  if c = '\u03A3' then [if isFinalSigma before rest then '\u03C2' else '\u03C3'] else lowerChar c

/-- The lower case that a part has between two texts, the first of them in reverse. -/
def lowerWithin : List Char → List Char → List Char → List Char
  | _, [], _ => []
  | before, c :: part, after => lowerAt before c (part ++ after) ++ lowerWithin (c :: before) part after

variable {before before' part after after' : List Char}

theorem lowerFrom_eq_lowerWithin (before part : List Char) : lowerFrom before part = lowerWithin before part [] := by
  induction part generalizing before with
  | nil => rfl
  | cons c part ih =>
    rw [lowerFrom, lowerWithin, ih, List.append_nil]
    rfl

theorem lowerWithin_append (before part rest after : List Char) :
    lowerWithin before (part ++ rest) after =
      lowerWithin before part (rest ++ after) ++ lowerWithin (part.reverse ++ before) rest after := by
  induction part generalizing before with
  | nil => rfl
  | cons c part ih => simp [lowerWithin, ih]

theorem lowerWithin_append_cons (before x : List Char) (c : Char) (y after : List Char) :
    lowerWithin before (x ++ c :: y) after =
      lowerWithin before x (c :: (y ++ after)) ++
        (lowerAt (x.reverse ++ before) c (y ++ after) ++ lowerWithin (c :: (x.reverse ++ before)) y after) := by
  rw [lowerWithin_append, lowerWithin, List.cons_append]

/-- In a whole text a part has the lower case that the texts around it give it. -/
theorem lowercase_append (before part after : List Char) :
    lowercase (before ++ (part ++ after)) =
      lowerWithin [] before (part ++ after) ++
        (lowerWithin before.reverse part after ++ lowerFrom (part.reverse ++ before.reverse) after) := by
  simp [lowercase, lowerFrom_eq_lowerWithin, lowerWithin_append]

/-- Only the capital sigmas of a part look at the texts around it. -/
theorem lowerWithin_congr
    (h : ∀ x y, part = x ++ '\u03A3' :: y →
      isFinalSigma (x.reverse ++ before) (y ++ after) = isFinalSigma (x.reverse ++ before') (y ++ after')) :
    lowerWithin before part after = lowerWithin before' part after' := by
  induction part generalizing before before' with
  | nil => rfl
  | cons c part ih =>
    have htail : lowerWithin (c :: before) part after = lowerWithin (c :: before') part after' := by
      refine ih fun x y hxy => ?_
      simpa using h (c :: x) y (by rw [hxy]; rfl)
    have hhead : lowerAt before c (part ++ after) = lowerAt before' c (part ++ after') := by
      by_cases hc : c = '\u03A3'
      · have hform : isFinalSigma before (part ++ after) = isFinalSigma before' (part ++ after') :=
          h [] part (by rw [hc]; rfl)
        rw [lowerAt, lowerAt, hform]
      · rw [lowerAt, lowerAt, if_neg hc, if_neg hc]
    rw [lowerWithin, lowerWithin, htail, hhead]

/-- A part is found, case aside, in a text where its capital sigmas have the forms that they have in the part alone. -/
theorem hasPart_lowercase_of_forms
    (h : ∀ x y, part = x ++ '\u03A3' :: y →
      isFinalSigma (x.reverse ++ before.reverse) (y ++ after) = isFinalSigma x.reverse y) :
    hasPart (lowercase part) (lowercase (before ++ (part ++ after))) = true := by
  have hwithin : lowerWithin before.reverse part after = lowerWithin [] part [] :=
    lowerWithin_congr fun x y hpart => by simpa using h x y hpart
  rw [lowercase_append, hwithin, lowercase, lowerFrom_eq_lowerWithin]
  exact hasPart_of_append _ _

theorem startsCased_cons (c : Char) (cs : List Char) :
    startsCased (c :: cs) = if isCaseIgnorable c then startsCased cs else isCased c := by
  unfold startsCased
  rw [List.dropWhile_cons]
  cases isCaseIgnorable c <;> rfl

theorem startsCased_append (cs after : List Char) :
    startsCased (cs ++ after) = if cs.all isCaseIgnorable then startsCased after else startsCased cs := by
  induction cs with
  | nil => rfl
  | cons c cs ih =>
    rw [List.cons_append, startsCased_cons, startsCased_cons, ih, List.all_cons]
    cases isCaseIgnorable c <;> rfl

theorem startsCased_of_all {cs : List Char} (h : cs.all isCaseIgnorable = true) : startsCased cs = false := by
  have happend := startsCased_append cs []
  rwa [List.append_nil, if_pos h] at happend

/-- A capital sigma between `x` and `y` that has one form in every text: if all in front of it is looked through, then a
letter comes behind it; and if all behind it is looked through, then no letter is in front of it. -/
def SettledSigma (x y : List Char) : Prop :=
  (x.all isCaseIgnorable = true → startsCased y = true) ∧ (y.all isCaseIgnorable = true → startsCased x.reverse = false)

theorem SettledSigma.isFinalSigma_eq {x y : List Char} (h : SettledSigma x y) (before after : List Char) :
    isFinalSigma (x.reverse ++ before) (y ++ after) = isFinalSigma x.reverse y := by
  unfold isFinalSigma
  rw [startsCased_append, startsCased_append, List.all_reverse]
  by_cases hx : x.all isCaseIgnorable = true
  · have hy : ¬y.all isCaseIgnorable = true := fun hall => by
      simpa [startsCased_of_all hall] using h.1 hx
    rw [if_neg hy, h.1 hx, Bool.not_true, Bool.and_false, Bool.and_false]
  · rw [if_neg hx]
    by_cases hy : y.all isCaseIgnorable = true
    · rw [h.2 hy, Bool.false_and, Bool.false_and]
    · rw [if_neg hy]

/-- Every capital sigma of a part that is final between two texts is so between two others. -/
def KeepsFinal (part before after before' after' : List Char) : Prop :=
  ∀ x y, part = x ++ '\u03A3' :: y → isFinalSigma (x.reverse ++ before) (y ++ after) = true →
    isFinalSigma (x.reverse ++ before') (y ++ after') = true

namespace KeepsFinal

theorem front {x y : List Char} (h : KeepsFinal (x ++ y) before after before' after') :
    KeepsFinal x before (y ++ after) before' (y ++ after') := by
  intro u v huv
  simpa using h u (v ++ y) (by simp [huv])

theorem back {x y : List Char} (h : KeepsFinal (x ++ y) before after before' after') :
    KeepsFinal y (x.reverse ++ before) after (x.reverse ++ before') after' := by
  intro u v huv
  simpa using h (x ++ u) v (by simp [huv])

theorem count_lowerAt_le {c : Char} (h : KeepsFinal (c :: part) before after before' after') :
    (lowerAt before c (part ++ after)).count '\u03C2' ≤ (lowerAt before' c (part ++ after')).count '\u03C2' ∧
      (lowerAt before' c (part ++ after')).count '\u03C3' ≤ (lowerAt before c (part ++ after)).count '\u03C3' := by
  by_cases hc : c = '\u03A3'
  · have hform : isFinalSigma before (part ++ after) = true → isFinalSigma before' (part ++ after') = true :=
      h [] part (by rw [hc]; rfl)
    rw [lowerAt, lowerAt, if_pos hc, if_pos hc]
    revert hform
    cases isFinalSigma before (part ++ after) <;> cases isFinalSigma before' (part ++ after') <;> decide
  · rw [lowerAt, lowerAt, if_neg hc, if_neg hc]
    exact ⟨Nat.le_refl _, Nat.le_refl _⟩

/-- Where more capital sigmas are final, the lower case has more final sigmas and fewer others. -/
theorem count_lowerWithin_le (h : KeepsFinal part before after before' after') :
    (lowerWithin before part after).count '\u03C2' ≤ (lowerWithin before' part after').count '\u03C2' ∧
      (lowerWithin before' part after').count '\u03C3' ≤ (lowerWithin before part after).count '\u03C3' := by
  induction part generalizing before before' with
  | nil => exact ⟨Nat.le_refl _, Nat.le_refl _⟩
  | cons c part ih =>
    have hhead := h.count_lowerAt_le
    have htail := ih (h.back (x := [c]))
    simp only [List.reverse_singleton, List.singleton_append] at htail
    simp only [lowerWithin, List.count_append]
    omega

theorem count_lowerWithin_lt {x y : List Char} (h : KeepsFinal (x ++ '\u03A3' :: y) before after before' after')
    (hplain : isFinalSigma (x.reverse ++ before) (y ++ after) = false)
    (hfinal : isFinalSigma (x.reverse ++ before') (y ++ after') = true) :
    (lowerWithin before (x ++ '\u03A3' :: y) after).count '\u03C2' <
        (lowerWithin before' (x ++ '\u03A3' :: y) after').count '\u03C2' ∧
      (lowerWithin before' (x ++ '\u03A3' :: y) after').count '\u03C3' <
        (lowerWithin before (x ++ '\u03A3' :: y) after).count '\u03C3' := by
  have hx := h.front.count_lowerWithin_le
  have hy := (h.back.back (x := ['\u03A3'])).count_lowerWithin_le
  have hlower : lowerAt (x.reverse ++ before) '\u03A3' (y ++ after) = ['\u03C3'] := by simp [lowerAt, hplain]
  have hlower' : lowerAt (x.reverse ++ before') '\u03A3' (y ++ after') = ['\u03C2'] := by simp [lowerAt, hfinal]
  have hone : ['\u03C3'].count '\u03C2' = 0 ∧ ['\u03C3'].count '\u03C3' = 1 ∧
      ['\u03C2'].count '\u03C2' = 1 ∧ ['\u03C2'].count '\u03C3' = 0 := by decide
  simp only [List.reverse_singleton, List.singleton_append] at hy
  rw [lowerWithin_append_cons, lowerWithin_append_cons, hlower, hlower']
  simp only [List.count_append]
  simp only [List.cons_append] at hx
  omega

end KeepsFinal

theorem count_le_of_hasPart {needle cs : List Char} (h : hasPart needle cs = true) (c : Char) :
    needle.count c ≤ cs.count c := by
  obtain ⟨before, after, rfl⟩ := exists_append_of_hasPart h
  simp only [List.count_append]
  omega

theorem startsCased_append_letter (cs : List Char) :
    startsCased (cs ++ ['a']) = (cs.all isCaseIgnorable || startsCased cs) := by
  have ha : startsCased ['a'] = true := by decide +kernel
  rw [startsCased_append, ha]
  cases cs.all isCaseIgnorable <;> rfl

theorem lowerWithin_letter (before after : List Char) : lowerWithin before ['a'] after = ['a'] := by
  have ha : lowerChar 'a' = ['a'] := by decide +kernel
  simp [lowerWithin, lowerAt, ha]

/-- Behind a letter a capital sigma is final that is not in front of one. -/
theorem not_hasPart_behind_letter {x y : List Char} (hx : x.all isCaseIgnorable = true) (hy : startsCased y = false) :
    hasPart (lowercase (x ++ '\u03A3' :: y)) (lowercase (['a'] ++ ((x ++ '\u03A3' :: y) ++ []))) = false := by
  have hkeeps : KeepsFinal (x ++ '\u03A3' :: y) [] [] ['a'] [] := by
    intro u v _ hfinal
    simp only [List.append_nil, isFinalSigma, Bool.and_eq_true] at hfinal ⊢
    rw [startsCased_append_letter, hfinal.1, Bool.or_true]
    exact ⟨rfl, hfinal.2⟩
  -- no capital sigma stops being final there and one becomes it, so the text has fewer other sigmas than the part
  have hlt := (hkeeps.count_lowerWithin_lt
    (by simp [isFinalSigma, startsCased_of_all (List.all_reverse.trans hx)])
    (by simp [isFinalSigma, startsCased_append_letter, hx, hy])).2
  refine Bool.eq_false_iff.mpr fun h => ?_
  have hle := count_le_of_hasPart h '\u03C3'
  have ha : ['a'].count '\u03C3' = 0 := by decide
  rw [lowercase_append, lowerWithin_letter, lowercase, lowerFrom_eq_lowerWithin] at hle
  simp only [List.reverse_singleton, List.count_append, lowerFrom, List.count_nil] at hle
  omega

/-- In front of a letter a capital sigma is not final that is at the end of a word alone. -/
theorem not_hasPart_before_letter {x y : List Char} (hx : startsCased x.reverse = true)
    (hy : y.all isCaseIgnorable = true) :
    hasPart (lowercase (x ++ '\u03A3' :: y)) (lowercase ([] ++ ((x ++ '\u03A3' :: y) ++ ['a']))) = false := by
  have hkeeps : KeepsFinal (x ++ '\u03A3' :: y) [] ['a'] [] [] := by
    intro u v _ hfinal
    simp only [List.append_nil, isFinalSigma, startsCased_append_letter, Bool.and_eq_true, Bool.not_eq_true',
      Bool.or_eq_false_iff] at hfinal ⊢
    exact ⟨hfinal.1, hfinal.2.2⟩
  -- no capital sigma becomes final there and one stops being it, so the text has fewer final sigmas than the part
  have hlt := (hkeeps.count_lowerWithin_lt
    (by simp [isFinalSigma, startsCased_append_letter, hy])
    (by simp [isFinalSigma, hx, startsCased_of_all hy])).1
  refine Bool.eq_false_iff.mpr fun h => ?_
  have hle := count_le_of_hasPart h '\u03C2'
  have ha : ['a'].count '\u03C2' = 0 := by decide
  rw [lowercase_append, lowerFrom_eq_lowerWithin _ ['a'], lowerWithin_letter, lowercase, lowerFrom_eq_lowerWithin] at hle
  simp only [List.reverse_nil, List.count_append, lowerWithin, List.count_nil] at hle
  omega

/-- A part is found in every text that holds it, case aside, exactly if each of its capital sigmas is settled. -/
theorem hasPart_lowercase_iff_settled (part : List Char) :
    (∀ before after, hasPart (lowercase part) (lowercase (before ++ (part ++ after))) = true) ↔
      ∀ x y, part = x ++ '\u03A3' :: y → SettledSigma x y := by
  constructor
  · rintro h x y rfl
    constructor
    · intro hx
      cases hy : startsCased y with
      | true => rfl
      | false => exact absurd (h _ _) (Bool.eq_false_iff.mp (not_hasPart_behind_letter hx hy))
    · intro hy
      cases hx : startsCased x.reverse with
      | false => rfl
      | true => exact absurd (h _ _) (Bool.eq_false_iff.mp (not_hasPart_before_letter hx hy))
  · intro h before after
    refine hasPart_lowercase_of_forms fun x y hpart => ?_
    exact (h x y hpart).isFinalSigma_eq before.reverse after

end Text
end QueryGate
