import QueryGate.Proofs.Binary64.Decimal

/-! The grammar of decimal literals. What is read as an integer or as a decimal literal is what the grammar derives, with
the value that it gives. -/
namespace QueryGate
namespace Binary64

/-- A run of at least one digit. -/
structure IsRun (ds : List Char) : Prop where
  ne_nil : ds ≠ []
  digits : ∀ c ∈ ds, c.isDigit = true

inductive WritesSign : Bool → List Char → Prop
  | none : WritesSign false []
  | plus : WritesSign false ['+']
  | minus : WritesSign true ['-']

/-- An integer is a run of digits behind an optional sign. -/
inductive WritesInteger : Int → List Char → Prop
  | signed {negative : Bool} {sign ds : List Char} (hs : WritesSign negative sign) (hd : IsRun ds) :
    WritesInteger (if negative then -digitsValue ds else digitsValue ds) (sign ++ ds)

/-- The digits in front of the point and those behind it. There is a point if there are digits behind it, and there are
digits on at least one side. -/
inductive WritesMantissa : List Char → List Char → List Char → Prop
  | whole {ws : List Char} (hw : IsRun ws) : WritesMantissa ws [] ws
  | pointed {ws fs : List Char} (hw : IsRun ws) (hf : ∀ c ∈ fs, c.isDigit = true) :
    WritesMantissa ws fs (ws ++ '.' :: fs)
  | fraction {fs : List Char} (hf : IsRun fs) : WritesMantissa [] fs ('.' :: fs)

inductive WritesExponent : Int → List Char → Prop
  | none : WritesExponent 0 []
  | marked {c : Char} {e : Int} {cs : List Char} (hc : c = 'e' ∨ c = 'E') (h : WritesInteger e cs) :
    WritesExponent e (c :: cs)

/-- A literal and its exact value: an optional sign, digits with an optional point, and an optional exponent. -/
inductive Decimal.Spells : Decimal → List Char → Prop
  | literal {negative : Bool} {sign ws fs ms es : List Char} {e : Int} (hs : WritesSign negative sign)
    (hm : WritesMantissa ws fs ms) (he : WritesExponent e es) :
    Spells ⟨negative, digitsValue (ws ++ fs), e - fs.length⟩ (sign ++ (ms ++ es))

variable {negative : Bool} {cs sign ws fs ms es : List Char} {i e : Int}

namespace IsRun

theorem exists_cons (h : IsRun cs) : ∃ c rest, cs = c :: rest ∧ c.isDigit = true := by
  obtain ⟨c, rest, rfl⟩ := List.exists_cons_of_ne_nil h.ne_nil
  exact ⟨c, rest, rfl, h.digits c List.mem_cons_self⟩

end IsRun

/-! ### Signs -/

theorem exists_sign (cs : List Char) : ∃ sign, WritesSign (splitSign cs).1 sign ∧ cs = sign ++ (splitSign cs).2 := by
  unfold splitSign
  split
  · exact ⟨_, .minus, rfl⟩
  · exact ⟨_, .plus, rfl⟩
  · exact ⟨_, .none, rfl⟩

theorem splitSign_append {rest : List Char} (hs : WritesSign negative sign)
    (hr : ∀ c ∈ rest.head?, c ≠ '+' ∧ c ≠ '-') : splitSign (sign ++ rest) = (negative, rest) := by
  cases hs with
  | plus => rfl
  | minus => rfl
  | none =>
    rw [List.nil_append]
    unfold splitSign
    split
    · exact absurd rfl (hr '-' rfl).2
    · exact absurd rfl (hr '+' rfl).1
    · rfl

theorem ne_sign_of_isDigit {c : Char} (h : c.isDigit = true) : c ≠ '+' ∧ c ≠ '-' := by
  constructor
  all_goals
    rintro rfl
    cases h

/-! ### Integers -/

theorem readInteger?_eq_some_iff : readInteger? cs = some i ↔ WritesInteger i cs := by
  constructor
  · intro h
    obtain ⟨sign, hs, hcs⟩ := exists_sign cs
    unfold readInteger? at h
    dsimp only at h
    split at h
    · cases h
    · rename_i hrun
      simp only [Bool.or_eq_true, List.isEmpty_iff, Bool.not_eq_true', not_or, Bool.not_eq_false,
        List.all_eq_true] at hrun
      rw [hcs, ← Option.some.inj h]
      exact .signed hs ⟨hrun.1, hrun.2⟩
  · rintro ⟨hs, hd⟩
    obtain ⟨c, rest, rfl, hc⟩ := hd.exists_cons
    have hall : (c :: rest).all Char.isDigit = true := List.all_eq_true.mpr hd.digits
    have hhead : ∀ d ∈ (c :: rest).head?, d ≠ '+' ∧ d ≠ '-' := by
      rintro d ⟨⟩
      exact ne_sign_of_isDigit hc
    have hsplit := splitSign_append hs hhead
    unfold readInteger?
    simp only [hsplit, hall, List.isEmpty_cons, Bool.not_true, Bool.or_self, Bool.false_eq_true, if_false]

theorem readExponent?_eq_some_iff : readExponent? cs = some e ↔ WritesExponent e cs := by
  cases cs with
  | nil =>
    constructor
    · rintro ⟨⟩
      exact .none
    · rintro ⟨⟩
      rfl
  | cons c rest =>
    rw [readExponent?, Option.ite_none_right_eq_some, readInteger?_eq_some_iff]
    constructor
    · rintro ⟨hc, h⟩
      exact .marked hc h
    · rintro ⟨⟩
      exact ⟨by assumption, by assumption⟩

/-! ### Digits and points -/

theorem WritesExponent.ne_of_head (h : WritesExponent e es) : ∀ c ∈ es.head?, c.isDigit = false ∧ c ≠ '.' := by
  cases h with
  | none => nofun
  | marked hc _ =>
    rintro c ⟨⟩
    rcases hc with rfl | rfl <;> decide

theorem WritesMantissa.ne_sign_of_head (h : WritesMantissa ws fs ms) (es : List Char) :
    ∀ c ∈ (ms ++ es).head?, c ≠ '+' ∧ c ≠ '-' := by
  cases h with
  | fraction _ =>
    rintro c ⟨⟩
    decide
  | whole hw =>
    obtain ⟨d, rest, rfl, hd⟩ := hw.exists_cons
    rintro c ⟨⟩
    exact ne_sign_of_isDigit hd
  | pointed hw _ =>
    obtain ⟨d, rest, rfl, hd⟩ := hw.exists_cons
    rintro c ⟨⟩
    exact ne_sign_of_isDigit hd

theorem WritesMantissa.exists_isDigit (h : WritesMantissa ws fs ms) : ∃ c ∈ ms, c.isDigit = true := by
  cases h with
  | whole hw =>
    obtain ⟨c, rest, rfl, hc⟩ := hw.exists_cons
    exact ⟨c, by simp, hc⟩
  | pointed hw _ =>
    obtain ⟨c, rest, rfl, hc⟩ := hw.exists_cons
    exact ⟨c, by simp, hc⟩
  | fraction hf =>
    obtain ⟨c, rest, rfl, hc⟩ := hf.exists_cons
    exact ⟨c, by simp, hc⟩

theorem splitFraction_of_ne_point (h : ∀ c ∈ cs.head?, c ≠ '.') : splitFraction cs = ([], cs) := by
  unfold splitFraction
  split
  · exact absurd rfl (h '.' rfl)
  · rfl

/-- What is read in front of the exponent is all that the digits and the point take up. -/
theorem split_mantissa (hm : WritesMantissa ws fs ms) (he : WritesExponent e es) :
    ((ms ++ es).span Char.isDigit).1 = ws ∧ splitFraction ((ms ++ es).span Char.isDigit).2 = (fs, es) ∧
      (ws.isEmpty && fs.isEmpty) = false := by
  have hhead := he.ne_of_head
  have hdigit : ∀ c ∈ es.head?, c.isDigit = false := fun c hc => (hhead c hc).1
  cases hm with
  | whole hw =>
    rw [span_digits hw.digits hdigit]
    exact ⟨rfl, splitFraction_of_ne_point fun c hc => (hhead c hc).2, by simp [hw.ne_nil]⟩
  | pointed hw hf =>
    rw [List.append_assoc, List.cons_append, span_digits hw.digits (by rintro c ⟨⟩; rfl)]
    exact ⟨rfl, span_digits hf hdigit, by simp [hw.ne_nil]⟩
  | fraction hf =>
    have hspan : ('.' :: fs ++ es).span Char.isDigit = ([], '.' :: fs ++ es) := by
      rw [List.span_eq_takeWhile_dropWhile]
      rfl
    rw [hspan]
    exact ⟨rfl, span_digits hf.digits hdigit, by simp [hf.ne_nil]⟩

theorem exists_mantissa {rest : List Char} (hspan : cs.span Char.isDigit = (ws, rest))
    (hsplit : splitFraction rest = (fs, es)) (hne : ¬(ws.isEmpty && fs.isEmpty) = true) :
    ∃ ms, WritesMantissa ws fs ms ∧ cs = ms ++ es := by
  have hdigits : ∀ (l : List Char), ∀ c ∈ l.takeWhile Char.isDigit, c.isDigit = true := fun l c hc =>
    List.all_eq_true.mp List.all_takeWhile c hc
  rw [List.span_eq_takeWhile_dropWhile] at hspan
  obtain ⟨rfl, rfl⟩ := Prod.mk.inj hspan
  have hcs := List.takeWhile_append_dropWhile (p := Char.isDigit) (l := cs)
  unfold splitFraction at hsplit
  split at hsplit
  · rename_i behind hrest
    rw [List.span_eq_takeWhile_dropWhile] at hsplit
    obtain ⟨rfl, rfl⟩ := Prod.mk.inj hsplit
    have hbehind := List.takeWhile_append_dropWhile (p := Char.isDigit) (l := behind)
    by_cases hw : cs.takeWhile Char.isDigit = []
    · refine ⟨'.' :: behind.takeWhile Char.isDigit, ?_, ?_⟩
      · rw [hw]
        exact .fraction ⟨fun hf => hne (by simp [hw, hf]), hdigits _⟩
      · rw [List.cons_append, hbehind, ← hrest, ← List.nil_append (cs.dropWhile _), ← hw, hcs]
    · refine ⟨_, .pointed ⟨hw, hdigits _⟩ (hdigits behind), ?_⟩
      rw [List.append_assoc, List.cons_append, hbehind, ← hrest, hcs]
  · obtain ⟨rfl, rfl⟩ := Prod.mk.inj hsplit
    exact ⟨_, .whole ⟨fun hw => hne (by simp [hw]), hdigits _⟩, hcs.symm⟩

/-! ### Literals -/

namespace Decimal

variable {d : Decimal}

theorem readMagnitude?_eq_some_iff :
    readMagnitude? negative cs = some d ↔ ∃ ws fs ms e es, WritesMantissa ws fs ms ∧ WritesExponent e es ∧
      cs = ms ++ es ∧ d = ⟨negative, digitsValue (ws ++ fs), e - fs.length⟩ := by
  unfold readMagnitude?
  dsimp only
  constructor
  · intro h
    split at h
    · cases h
    · rename_i hne
      obtain ⟨e, he, rfl⟩ := Option.map_eq_some_iff.mp h
      obtain ⟨ms, hm, hcs⟩ := exists_mantissa rfl rfl hne
      exact ⟨_, _, ms, e, _, hm, readExponent?_eq_some_iff.mp he, hcs, rfl⟩
  · rintro ⟨ws, fs, ms, e, es, hm, he, rfl, rfl⟩
    obtain ⟨hspan, hsplit, hne⟩ := split_mantissa hm he
    rw [hspan, hsplit, hne, if_neg Bool.false_ne_true, readExponent?_eq_some_iff.mpr he]
    rfl

/-- The literals are read, and nothing else, each as its value. -/
theorem read?_eq_some_iff : read? cs = some d ↔ d.Spells cs := by
  unfold read?
  dsimp only
  rw [readMagnitude?_eq_some_iff]
  constructor
  · rintro ⟨ws, fs, ms, e, es, hm, he, hrest, rfl⟩
    obtain ⟨sign, hs, hcs⟩ := exists_sign cs
    have h := Spells.literal hs hm he
    rwa [← hrest, ← hcs] at h
  · rintro ⟨hs, hm, he⟩
    rw [splitSign_append hs (hm.ne_sign_of_head _)]
    exact ⟨_, _, _, _, _, hm, he, rfl, rfl⟩

/-- A literal has no characters but those of literals, and one of its characters is a digit. -/
theorem Spells.characters (h : d.Spells cs) : (∀ c ∈ cs, isLiteral c = true) ∧ ∃ c ∈ cs, c.isDigit = true := by
  refine ⟨isLiteral_of_read? (read?_eq_some_iff.mpr h), ?_⟩
  obtain ⟨hs, hm, he⟩ := h
  obtain ⟨c, hc, hdigit⟩ := hm.exists_isDigit
  exact ⟨c, List.mem_append_right _ (List.mem_append_left _ hc), hdigit⟩

theorem spells_of_writesInteger (h : WritesInteger i cs) : ∃ d : Decimal, d.Spells cs := by
  obtain ⟨hs, hd⟩ := h
  have hliteral := Spells.literal hs (.whole hd) .none
  rw [List.append_nil] at hliteral
  exact ⟨_, hliteral⟩

end Decimal

theorem toLower_of_isLiteral {c : Char} (h : Decimal.isLiteral c = true) : c.toLower ≠ 'i' ∧ c.toLower ≠ 'n' := by
  simp only [Decimal.isLiteral, Bool.or_eq_true, beq_iff_eq] at h
  rcases h with ((((h | rfl) | rfl) | rfl) | rfl) | rfl
  · have hbounds := Text.bounds_of_isDigit h
    have hlower : c.toLower = c := by
      unfold Char.toLower
      refine dif_neg fun hupper => ?_
      have hlow : 65 ≤ c.toNat := UInt32.le_iff_toNat_le.mp hupper.1
      omega
    rw [hlower]
    constructor
    all_goals
      rintro rfl
      cases h
  all_goals decide

/-- No literal begins like the name of an infinity or of the undefined number. -/
theorem read?_of_isLiteral (h : ∀ c ∈ cs, Decimal.isLiteral c = true) : read? cs = readDecimal? cs := by
  obtain ⟨sign, -, hcs⟩ := exists_sign cs
  have hhead : ∀ c rest, (splitSign cs).2.map Char.toLower = c :: rest → c ≠ 'i' ∧ c ≠ 'n' := by
    intro c rest hmap
    obtain ⟨d, tail, hrest, rfl, -⟩ := List.map_eq_cons_iff.mp hmap
    refine toLower_of_isLiteral (h d ?_)
    rw [hcs, hrest]
    simp
  unfold read? readDecimal?
  dsimp only
  split
  · rename_i hname
    exact absurd rfl (hhead _ _ hname).1
  · rename_i hname
    exact absurd rfl (hhead _ _ hname).1
  · rename_i hname
    exact absurd rfl (hhead _ _ hname).2
  · rfl

/-- A reader of all numbers behind a filter of characters reads the decimal literals. -/
theorem readDecimal?_eq_filter_read? (cs : List Char) :
    readDecimal? cs = if cs.all Decimal.isLiteral && cs.any Char.isDigit then read? cs else none := by
  split
  · rename_i h
    rw [Bool.and_eq_true, List.all_eq_true] at h
    rw [read?_of_isLiteral h.1]
  · rename_i h
    rw [Decimal.readDecimal?_eq, Option.map_eq_none_iff, Option.eq_none_iff_forall_ne_some]
    intro d hd
    obtain ⟨hall, hany⟩ := (Decimal.read?_eq_some_iff.mp hd).characters
    exact h (by rw [Bool.and_eq_true, List.all_eq_true, List.any_eq_true]; exact ⟨hall, hany⟩)

end Binary64

namespace Text

open Binary64

theorem map_readDigits_eq_ok_iff {limit : Nat} {excess : IntegerError} {ds : List Char} {f : Nat → Int} {i : Int}
    (hd : IsRun ds) :
    (readDigits limit excess 0 ds).map f = .ok i ↔ digitsValue ds ≤ limit ∧ f (digitsValue ds) = i := by
  constructor
  · intro h
    cases hread : readDigits limit excess 0 ds with
    | error e => simp [hread, Except.map] at h
    | ok n =>
      have hle := (isDigits_of_readDigits hd.ne_nil hread).value_le
      rw [readDigits_of_digits excess hd.digits hle] at h
      exact ⟨hle, Except.ok.inj h⟩
  · rintro ⟨hle, rfl⟩
    rw [readDigits_of_digits excess hd.digits hle]
    rfl

theorem readSigned_append_eq_ok_iff {limit : Nat} {negative : Bool} {sign ds : List Char} {i : Int}
    (hs : WritesSign negative sign) (hd : IsRun ds) :
    readSigned limit (sign ++ ds) = .ok i ↔
      i = (if negative then -digitsValue ds else digitsValue ds : Int) ∧ -(limit + 1) ≤ i ∧ i ≤ limit := by
  obtain ⟨c, rest, rfl, hc⟩ := hd.exists_cons
  cases hs with
  | none =>
    rw [List.nil_append, readSigned_digits hc, map_readDigits_eq_ok_iff hd, Int.ofNat_eq_natCast]
    simp only [Bool.false_eq_true, if_false]
    omega
  | plus =>
    simp only [List.cons_append, List.nil_append, readSigned, map_readDigits_eq_ok_iff hd, Int.ofNat_eq_natCast,
      Bool.false_eq_true, if_false]
    omega
  | minus =>
    simp only [List.cons_append, List.nil_append, readSigned, map_readDigits_eq_ok_iff hd, Int.ofNat_eq_natCast, if_true]
    omega

/-- The integers within bounds are read, and nothing else. -/
theorem readSigned_eq_ok_iff {limit : Nat} {cs : List Char} {i : Int} :
    readSigned limit cs = .ok i ↔ WritesInteger i cs ∧ -(limit + 1) ≤ i ∧ i ≤ limit := by
  constructor
  · intro h
    obtain ⟨sign, hs, hcs⟩ := exists_sign cs
    have hdigits := isDigits_of_readSigned h
    have hd : IsRun (splitSign cs).2 := ⟨hdigits.nonempty, hdigits.digits⟩
    rw [hcs] at h
    obtain ⟨rfl, hbounds⟩ := (readSigned_append_eq_ok_iff hs hd).mp h
    have hwrites := WritesInteger.signed hs hd
    rw [← hcs] at hwrites
    exact ⟨hwrites, hbounds⟩
  · rintro ⟨⟨hs, hd⟩, hbounds⟩
    exact (readSigned_append_eq_ok_iff hs hd).mpr ⟨rfl, hbounds⟩

theorem readInt64_eq_ok_iff {cs : List Char} {n : Int64} : readInt64 cs = .ok n ↔ WritesInteger n.toInt cs := by
  have hlow := n.le_toInt
  have hhigh := n.toInt_lt
  constructor
  · intro h
    unfold readInt64 at h
    cases hread : readSigned (UInt64.size / 2 - 1) cs with
    | error e => simp [hread, Except.map] at h
    | ok i =>
      rw [hread] at h
      obtain rfl := Except.ok.inj h
      obtain ⟨hwrites, hge, hle⟩ := readSigned_eq_ok_iff.mp hread
      simp only [UInt64.size] at hge hle
      rwa [Int64.toInt_ofInt_of_le (by omega) (by omega)]
  · intro h
    have hread : readSigned (UInt64.size / 2 - 1) cs = .ok n.toInt :=
      readSigned_eq_ok_iff.mpr ⟨h, by simp only [UInt64.size]; omega, by simp only [UInt64.size]; omega⟩
    rw [readInt64, hread, Except.map, Int64.ofInt_toInt]

end Text
end QueryGate
