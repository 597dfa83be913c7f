import QueryGate.Arg
import QueryGate.Proofs.Binary64.RoundTrip
import QueryGate.Proofs.Text.Blank

/-! Written numbers. What an argument is written as, if it is not a text, is inferred to be that argument. -/
namespace QueryGate

namespace Binary64

theorem Literal.bounds_of_isMark {c : Char} (h : Literal.isMark c = true) : 45 ≤ c.toNat ∧ c.toNat < 102 := by
  simp only [Literal.isMark, Bool.or_eq_true, beq_iff_eq] at h
  rcases h with ((h | rfl) | rfl) | rfl
  · have := Text.bounds_of_isDigit h
    omega
  · decide
  · decide
  · decide

end Binary64

namespace Number

open Binary64

theorem trim_of_isMark {cs : List Char} (h : ∀ c ∈ cs, Literal.isMark c = true) : Text.trim cs = cs :=
  Text.trim_of_forall fun c hc => by
    have := Literal.bounds_of_isMark (h c hc)
    exact Text.isBlank_of_between (by omega) (by omega)

theorem read?_integerText (n : Int64) : read? (integerText n.toInt) = some (.whole n) := by
  rw [read?, trim_of_isMark (Literal.isMark_integerText n.toInt), Text.readInt64_integerText]

theorem read?_text {x : Binary64} (hx : x.isFinite = true) : read? (x.text .exact) = some (.real x) := by
  rw [read?, trim_of_isMark (isMark_text hx)]
  obtain ⟨e, he⟩ := readSigned_text hx (UInt64.size / 2 - 1)
  rw [Text.readInt64, he, Except.map, readDecimal?_text hx]
  rfl

end Number

namespace Arg

open Binary64

/-- Whether there is no infinity and no undefined number in an argument, which have no text to be inferred from. -/
def isFinite : Arg → Bool
  | float x => x.isFinite
  | _ => true

theorem infer_ofList {cs : List Char} (h : ∀ c ∈ cs, Literal.isMark c = true) {x : Number}
    (hx : Number.read? cs = some x) :
    infer (String.ofList cs) =
      match x with
      | .whole n => .int n
      | .real x => .float x := by
  have hword : ∀ w : String, w.toList.any (fun c => !Literal.isMark c) = true → String.ofList cs ≠ w := by
    rintro w hw rfl
    obtain ⟨c, hc, hm⟩ := List.any_eq_true.mp hw
    rw [String.toList_ofList] at hc
    simp [h c hc] at hm
  have htrue : String.ofList cs ≠ "true" := hword "true" (by decide)
  have hfalse : String.ofList cs ≠ "false" := hword "false" (by decide)
  cases x <;>
    simp only [infer, if_neg htrue, if_neg hfalse, String.toList_ofList, Number.trim_of_isMark h, if_true, hx]

theorem infer_integerText (n : Int64) : infer (String.ofList (integerText n.toInt)) = .int n :=
  infer_ofList (Literal.isMark_integerText n.toInt) (Number.read?_integerText n)

theorem infer_text {x : Binary64} (hx : x.isFinite = true) : infer (String.ofList (x.text .exact)) = .float x :=
  infer_ofList (isMark_text hx) (Number.read?_text hx)

end Arg
end QueryGate
