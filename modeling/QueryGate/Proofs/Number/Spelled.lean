import QueryGate.Operation.Standard
import QueryGate.Proofs.Binary64.Grammar
import QueryGate.Proofs.Number.Verdict

/-! Texts that are numbers. Blanks around it aside, a text is a number if it is a decimal literal, a whole one if it is an
integer of 64 bits, and everything that asks for a number takes such texts and no others. -/
namespace QueryGate

open Binary64

/-- The number that a literal stands for: the integer, if it is one of 64 bits, and else the nearest binary64 number. -/
inductive Number.SpelledBy : Number → List Char → Prop
  | whole {n : Int64} {cs : List Char} (h : WritesInteger n.toInt cs) : SpelledBy (.whole n) cs
  | real {d : Binary64.Decimal} {cs : List Char} (h : d.Spells cs) (hout : ∀ n : Int64, ¬WritesInteger n.toInt cs) :
    SpelledBy (.real d.rounded) cs

namespace Number

variable {cs : List Char} {m : Number}

theorem spelledBy_whole_iff {n : Int64} : SpelledBy (.whole n) cs ↔ WritesInteger n.toInt cs :=
  ⟨fun h => by cases h; assumption, .whole⟩

theorem spelledBy_real_iff {x : Binary64} :
    SpelledBy (.real x) cs ↔
      (∃ d : Binary64.Decimal, d.Spells cs ∧ d.rounded = x) ∧ ∀ n : Int64, ¬WritesInteger n.toInt cs := by
  constructor
  · intro h
    cases h with
    | real hd hout => exact ⟨⟨_, hd, rfl⟩, hout⟩
  · rintro ⟨⟨d, hd, rfl⟩, hout⟩
    exact .real hd hout

/-- Every literal stands for a number, and nothing else does. -/
theorem exists_spelledBy_iff : (∃ m, SpelledBy m cs) ↔ ∃ d : Binary64.Decimal, d.Spells cs := by
  constructor
  · rintro ⟨m, h⟩
    cases h with
    | whole h => exact Binary64.Decimal.spells_of_writesInteger h
    | real h _ => exact ⟨_, h⟩
  · rintro ⟨d, hd⟩
    by_cases hin : ∃ n : Int64, WritesInteger n.toInt cs
    · obtain ⟨n, hn⟩ := hin
      exact ⟨_, .whole hn⟩
    · exact ⟨_, .real hd fun n hn => hin ⟨n, hn⟩⟩

theorem read?_eq_some_iff : read? cs = some m ↔ m.SpelledBy (Text.trim cs) := by
  unfold read?
  cases hread : Text.readInt64 (Text.trim cs) with
  | ok n =>
    have hn := Text.readInt64_eq_ok_iff.mp hread
    constructor
    · rintro ⟨⟩
      exact .whole hn
    · rintro (h | ⟨_, hout⟩)
      · rw [← Except.ok.inj (hread.symm.trans (Text.readInt64_eq_ok_iff.mpr h))]
      · exact absurd hn (hout n)
  | error e =>
    have hout : ∀ n : Int64, ¬WritesInteger n.toInt (Text.trim cs) := by
      intro n hn
      rw [Text.readInt64_eq_ok_iff.mpr hn] at hread
      cases hread
    rw [Binary64.Decimal.readDecimal?_eq]
    constructor
    · intro h
      obtain ⟨x, hx, rfl⟩ := Option.map_eq_some_iff.mp h
      obtain ⟨d, hd, rfl⟩ := Option.map_eq_some_iff.mp hx
      exact .real (Binary64.Decimal.read?_eq_some_iff.mp hd) hout
    · rintro (h | ⟨hd, -⟩)
      · exact absurd h (hout _)
      · rw [Binary64.Decimal.read?_eq_some_iff.mpr hd]
        rfl

/-- A literal can be read by a reader of all numbers behind a filter of characters. -/
theorem read?_eq_layers (cs : List Char) :
    read? cs =
      match Text.readInt64 (Text.trim cs) with
      | .ok n => some (.whole n)
      | .error _ =>
        if (Text.trim cs).all Binary64.Decimal.isLiteral && (Text.trim cs).any Char.isDigit then
          (Binary64.read? (Text.trim cs)).map .real
        else none := by
  unfold read?
  rw [readDecimal?_eq_filter_read?]
  cases Text.readInt64 (Text.trim cs) with
  | ok n => rfl
  | error e => simp only [apply_ite (Option.map real), Option.map_none]

/-- The argument that a number is by itself. -/
def toArg : Number → Arg
  | whole n => .int n
  | real x => .float x

theorem number?_toArg (m : Number) : m.toArg.number? = some m := by
  cases m <;> rfl

end Number

namespace Arg

variable {m : Number}

theorem number?_text_eq_some_iff {s : String} : (text s).number? = some m ↔ m.SpelledBy (Text.trim s.toList) :=
  Number.read?_eq_some_iff

theorem isNumeric_text_iff {s : String} :
    (text s).isNumeric = true ↔ ∃ d : Binary64.Decimal, d.Spells (Text.trim s.toList) := by
  rw [isNumeric, Option.isSome_iff_exists, ← Number.exists_spelledBy_iff]
  exact exists_congr fun m => number?_text_eq_some_iff

theorem integer?_text_eq_some_iff {s : String} {n : Int64} :
    (text s).integer? = some n ↔ WritesInteger n.toInt (Text.trim s.toList) := by
  rw [← Number.spelledBy_whole_iff, ← number?_text_eq_some_iff]
  unfold integer?
  cases (text s).number? with
  | none => simp
  | some m => cases m <;> simp

/-- A number is inferred from a token that spells it from end to end. -/
theorem infer_eq_toArg_iff {s : String} :
    infer s = m.toArg ↔ m.SpelledBy (Text.trim s.toList) ∧ Text.trim s.toList = s.toList := by
  rw [← number?_text_eq_some_iff]
  have hword : ∀ b, Arg.bool b ≠ m.toArg := by
    cases m <;> exact fun b => Arg.noConfusion
  have htext : ∀ t, Arg.text t ≠ m.toArg := by
    cases m <;> exact fun t => Arg.noConfusion
  unfold infer
  by_cases htrue : s = "true"
  · subst htrue
    rw [if_pos rfl]
    exact iff_of_false (hword true) fun h => nomatch h.1
  by_cases hfalse : s = "false"
  · subst hfalse
    rw [if_neg htrue, if_pos rfl]
    exact iff_of_false (hword false) fun h => nomatch h.1
  rw [if_neg htrue, if_neg hfalse]
  by_cases htrim : Text.trim s.toList = s.toList
  · rw [if_pos htrim, and_iff_left htrim, number?]
    cases Number.read? s.toList with
    | none => exact iff_of_false (htext s) nofun
    | some k => cases k <;> cases m <;> simp [Number.toArg]
  · rw [if_neg htrim]
    exact iff_of_false (htext s) fun h => htrim h.2

end Arg

namespace Rule

/-- The rules about the number that an argument is or spells. -/
def OfNumbers : Rule → Prop
  | isNumeric | greaterThan _ | atLeast _ | lessThan _ | atMost _ | within _ _ => True
  | _ => False

variable {r : Rule}

theorem OfNumbers.check_congr (h : r.OfNumbers) {a b : Arg} (hab : a.number? = b.number?) : r.check a = r.check b := by
  cases r with
  | isNumeric => simp only [check, Arg.isNumeric, hab]
  | greaterThan _ | atLeast _ | lessThan _ | atMost _ | within _ _ => simp only [check, compares, hab]
  | _ => cases h

theorem OfNumbers.check_eq_false (h : r.OfNumbers) {a : Arg} (ha : a.number? = none) : r.check a = false := by
  cases r with
  | isNumeric => simp only [check, Arg.isNumeric, ha, Option.isSome_none]
  | greaterThan _ | atLeast _ | lessThan _ | atMost _ | within _ _ =>
    simp only [check, compares, ha, Option.bind_none, Bool.false_and]
  | _ => cases h

/-- Such a rule passes the texts that spell a number which it passes. -/
theorem OfNumbers.check_text_iff (h : r.OfNumbers) {s : String} :
    r.check (.text s) = true ↔ ∃ m : Number, m.SpelledBy (Text.trim s.toList) ∧ r.check m.toArg = true := by
  cases hread : (Arg.text s).number? with
  | none =>
    rw [h.check_eq_false hread]
    refine iff_of_false Bool.false_ne_true fun ⟨m, hm, _⟩ => ?_
    rw [Arg.number?_text_eq_some_iff.mpr hm] at hread
    cases hread
  | some m =>
    rw [h.check_congr (hread.trans m.number?_toArg.symm)]
    refine ⟨fun hcheck => ⟨m, Arg.number?_text_eq_some_iff.mp hread, hcheck⟩, fun ⟨k, hk, hcheck⟩ => ?_⟩
    rw [Arg.number?_text_eq_some_iff.mpr hk] at hread
    rwa [← Option.some.inj hread]

end Rule

namespace Operation

variable {B R : Type} [Backend B R] {column s : String}

theorem number_direction (a : Arg) :
    Args.number [.text column, a] 1 =
      match a.number? with
      | some m => .ok m
      | none => .error (.type 1 "number" a.kind) := by
  have hget : Args.get [.text column, a] 1 = .ok a := rfl
  simp only [Args.number, Args.view, hget, bind, Except.bind]
  cases a.number? <;> rfl

theorem sort_text_of_spelledBy {m : Number} (h : m.SpelledBy (Text.trim s.toList)) :
    (sort [.text column, .text s] : Action OperationError B Unit) = store (Backend.applyOrder column (.ofSign m)) := by
  have hnumber : Args.number [.text column, .text s] 1 = .ok m := by
    rw [number_direction, Arg.number?_text_eq_some_iff.mpr h]
  unfold sort
  rw [hnumber]
  rfl

theorem sort_text_of_not_spelled (h : ∀ m : Number, ¬m.SpelledBy (Text.trim s.toList)) :
    (sort [.text column, .text s] : Action OperationError B Unit) =
      throw (.argument (.type 1 "number" "string")) := by
  have hnone : (Arg.text s).number? = none :=
    Option.eq_none_iff_forall_ne_some.mpr fun m hm => h m (Arg.number?_text_eq_some_iff.mp hm)
  have hnumber : Args.number [.text column, .text s] 1 = .error (.type 1 "number" "string") := by
    rw [number_direction, hnone]
    rfl
  unfold sort
  rw [hnumber]
  rfl

end Operation

/-- The texts that are numbers are the decimal literals with blanks around them. It takes an integer reader, a filter of
characters and a reader of all numbers to read them, the last of which knows infinities as well. A text is a whole
number if it is an integer of 64 bits, however many digits it has, a binary64 number if it is any other literal, and
else no number: a literal has a digit and no letters but that of its exponent. Whether a text is numeric, its integer,
the rules about numbers and the direction of a sort go by this; inference does so as well where no blanks surround the
literal. -/
theorem Arg.number?_text_grammar (s : String) :
    (text s).number? =
      (match Text.readInt64 (Text.trim s.toList) with
      | .ok n => some (.whole n)
      | .error _ =>
        if (Text.trim s.toList).all Binary64.Decimal.isLiteral && (Text.trim s.toList).any Char.isDigit then
          (Binary64.read? (Text.trim s.toList)).map .real
        else none) ∧
    let t := Text.trim s.toList
    (∀ n : Int64, (text s).number? = some (.whole n) ↔ WritesInteger n.toInt t) ∧
    (∀ x : Binary64, (text s).number? = some (.real x) ↔
      (∃ d : Binary64.Decimal, d.Spells t ∧ d.rounded = x) ∧ ∀ n : Int64, ¬WritesInteger n.toInt t) ∧
    ((text s).number? = none ↔ ∀ d : Binary64.Decimal, ¬d.Spells t) ∧
    (∀ d : Binary64.Decimal, d.Spells t → (∀ c ∈ t, Binary64.Decimal.isLiteral c = true) ∧ ∃ c ∈ t, c.isDigit = true) ∧
    ((text s).isNumeric = true ↔ ∃ d : Binary64.Decimal, d.Spells t) ∧
    (∀ n : Int64, (text s).integer? = some n ↔ WritesInteger n.toInt t) ∧
    (∀ r : Rule, r.OfNumbers → (r.check (.text s) = true ↔ ∃ m : Number, m.SpelledBy t ∧ r.check m.toArg = true)) ∧
    (∀ {B R : Type} [Backend B R] (column : String),
      (∀ m : Number, m.SpelledBy t →
        (Operation.sort [.text column, .text s] : Action OperationError B Unit) =
          Operation.store (Backend.applyOrder column (.ofSign m))) ∧
      ((∀ d : Binary64.Decimal, ¬d.Spells t) →
        (Operation.sort [.text column, .text s] : Action OperationError B Unit) =
          throw (.argument (.type 1 "number" "string")))) ∧
    ∀ m : Number, infer s = m.toArg ↔ m.SpelledBy t ∧ t = s.toList := by
  refine ⟨Number.read?_eq_layers s.toList, ?_⟩
  intro t
  have hnone : (∀ d : Binary64.Decimal, ¬d.Spells t) ↔ ∀ m : Number, ¬m.SpelledBy t := by
    rw [← not_exists, ← not_exists, Number.exists_spelledBy_iff]
  refine ⟨fun n => ?_, fun x => ?_, ?_, fun d => Binary64.Decimal.Spells.characters, isNumeric_text_iff,
    fun n => integer?_text_eq_some_iff, fun r hr => hr.check_text_iff, ?_, fun m => infer_eq_toArg_iff⟩
  · rw [number?_text_eq_some_iff]
    exact Number.spelledBy_whole_iff
  · rw [number?_text_eq_some_iff]
    exact Number.spelledBy_real_iff
  · rw [hnone, Option.eq_none_iff_forall_ne_some]
    exact forall_congr' fun m => not_congr number?_text_eq_some_iff
  · intro B R _ column
    exact ⟨fun m => Operation.sort_text_of_spelledBy, fun h => Operation.sort_text_of_not_spelled (hnone.mp h)⟩

/-- The first integer beyond 64 bits is still a number, but no whole one. -/
example : (Arg.text " +007 ").number? = some (.whole 7) ∧ (Arg.text "9223372036854775808").isNumeric = true ∧
    (Arg.text "9223372036854775808").integer? = none ∧ (Arg.text "0x7").number? = none := by
  decide +kernel

end QueryGate
