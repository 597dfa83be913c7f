import QueryGate.Proofs.Bracket.RoundTrip

/-! The grammar of bracket notation in two phases. Each character between the brackets has a role, by the quotes and
backslashes in front of it. Then the inside is cut at the commas that separate, and the text of a stretch is what its
quotes and escaping backslashes leave of it. Parsing goes over the inside once and computes exactly this. -/
namespace QueryGate
namespace Bracket

/-- Where the inside of a list has been read to: outside quotes, inside them, or inside them and right behind a
backslash. Quotes that are not closed reach to the end. -/
inductive Place
  | bare | quoted | escape
  deriving DecidableEq

inductive Role
  | text | quote | escape | comma
  deriving DecidableEq

namespace Place

/-- A backslash escapes inside quotes only, a comma separates outside of them only, and whatever is escaped is text. -/
def role : Place → Char → Role
  | bare, c => if c = '\'' then .quote else if c = ',' then .comma else .text
  | quoted, c => if c = '\'' then .quote else if c = '\\' then .escape else .text
  | escape, _ => .text

def next : Place → Char → Place
  | bare, c => if c = '\'' then quoted else bare
  | quoted, c => if c = '\'' then bare else if c = '\\' then escape else quoted
  | escape, _ => quoted

def after (p : Place) (cs : List Char) : Place := cs.foldl next p

/-- The characters of a text, each with its role. -/
def roles (p : Place) : List Char → List (Char × Role)
  | [] => []
  | c :: rest => (c, p.role c) :: roles (p.next c) rest

/-- The place outside or inside quotes. -/
def within (inQuotes : Bool) : Place := if inQuotes then quoted else bare

end Place

/-- A part of the inside of a list, each character with its role. -/
abbrev Stretch := List (Char × Role)

namespace Stretch

def text (s : Stretch) : List Char := (s.filter fun x => x.2 = .text).map Prod.fst

def hasQuote (s : Stretch) : Bool := s.any fun x => x.2 = .quote

def piece (s : Stretch) : Piece := ⟨s.text, s.hasQuote⟩

/-- Only a stretch without quotes is inferred. -/
def toArg (scalars : Scalars) (s : Stretch) : Arg :=
  if scalars = .inferred ∧ s.hasQuote = false then Arg.infer (String.ofList s.text) else .text (String.ofList s.text)

end Stretch

/-- A list without its last member, if that is empty. -/
def dropEmptyLast {α : Type} (empty : α → Bool) (xs : List α) : List α :=
  if xs.getLast?.any empty then xs.dropLast else xs

theorem dropEmptyLast_cons {α : Type} (empty : α → Bool) (x : α) {xs : List α} (h : xs ≠ []) :
    dropEmptyLast empty (x :: xs) = x :: dropEmptyLast empty xs := by
  unfold dropEmptyLast
  rw [List.getLast?_cons_of_ne_nil h, List.dropLast_cons_of_ne_nil h]
  split <;> rfl

theorem map_dropEmptyLast {α β : Type} (f : α → β) (empty : β → Bool) (xs : List α) :
    (dropEmptyLast (fun x => empty (f x)) xs).map f = dropEmptyLast empty (xs.map f) := by
  unfold dropEmptyLast
  rw [List.getLast?_map, Option.any_map, apply_ite (List.map f), List.map_dropLast]

/-- A text cut at the commas that separate. -/
def stretches (p : Place) (cs : List Char) : List Stretch := (p.roles cs).splitOnP fun x => x.2 = .comma

/-- The stretches of the inside of a list that become arguments. -/
def elementStretches (inside : List Char) : List Stretch :=
  dropEmptyLast (fun s => s.text.isEmpty) (stretches .bare inside)

theorem stretches_ne_nil (p : Place) (cs : List Char) : stretches p cs ≠ [] := List.splitOnP_ne_nil _ _

/-- A piece with something read in front of it. -/
def Piece.behind (acc : List Char) (hadQuotes : Bool) (p : Piece) : Piece :=
  ⟨acc.reverse ++ p.text, hadQuotes || p.quoted⟩

/-- The pieces of a text in two phases, where `acc` and `hadQuotes` tell what was read of the first one before. -/
def reading? (p : Place) (hadQuotes : Bool) (acc cs : List Char) : Option (List Piece) :=
  if p.after cs = .escape then none
  else some (dropEmptyLast (fun q => q.text.isEmpty)
    (((stretches p cs).map Stretch.piece).modifyHead (Piece.behind acc hadQuotes)))

theorem reading?_nil {p : Place} (h : p ≠ .escape) (hadQuotes : Bool) (acc : List Char) :
    reading? p hadQuotes acc [] = some (if acc.isEmpty then [] else [⟨acc.reverse, hadQuotes⟩]) := by
  have hs : stretches p [] = [[]] := rfl
  have hp : Piece.behind acc hadQuotes (Stretch.piece []) = ⟨acc.reverse, hadQuotes⟩ := by
    simp [Piece.behind, Stretch.piece, Stretch.text, Stretch.hasQuote]
  have he : p.after [] ≠ .escape := h
  rw [reading?, if_neg he, hs, List.map_singleton, List.modifyHead_cons, hp]
  cases acc <;> simp [dropEmptyLast]

/-- A comma that separates ends a piece. -/
theorem reading?_of_comma {p : Place} {c : Char} (h : p.role c = .comma) (hadQuotes : Bool) (acc rest : List Char) :
    reading? p hadQuotes acc (c :: rest) =
      (reading? (p.next c) false [] rest).map (⟨acc.reverse, hadQuotes⟩ :: ·) := by
  have hs : stretches p (c :: rest) = [] :: stretches (p.next c) rest := by
    simp [stretches, Place.roles, List.splitOnP_cons_eq_if_modifyHead, h]
  have hp : Piece.behind acc hadQuotes (Stretch.piece []) = ⟨acc.reverse, hadQuotes⟩ := by
    simp [Piece.behind, Stretch.piece, Stretch.text, Stretch.hasQuote]
  have hid : Piece.behind [] false = id := rfl
  have hne : (stretches (p.next c) rest).map Stretch.piece ≠ [] := by simp [stretches_ne_nil]
  have he : p.after (c :: rest) = (p.next c).after rest := rfl
  unfold reading?
  rw [he, hs, hid, List.modifyHead_id, List.map_cons, List.modifyHead_cons, hp, dropEmptyLast_cons _ _ hne]
  split <;> rfl

/-- What any other character adds to the piece that it stands in. -/
theorem reading?_of_ne_comma {p : Place} {c : Char} (h : p.role c ≠ .comma) (hadQuotes : Bool)
    (acc rest : List Char) :
    reading? p hadQuotes acc (c :: rest) =
      reading? (p.next c) (hadQuotes || decide (p.role c = .quote)) (if p.role c = .text then c :: acc else acc)
        rest := by
  have hs : stretches p (c :: rest) = (stretches (p.next c) rest).modifyHead ((c, p.role c) :: ·) := by
    simp [stretches, Place.roles, List.splitOnP_cons_eq_if_modifyHead, h]
  have he : p.after (c :: rest) = (p.next c).after rest := rfl
  obtain ⟨s, ss, hss⟩ := List.exists_cons_of_ne_nil (stretches_ne_nil (p.next c) rest)
  have hp : Piece.behind acc hadQuotes (Stretch.piece ((c, p.role c) :: s)) =
      Piece.behind (if p.role c = .text then c :: acc else acc) (hadQuotes || decide (p.role c = .quote)) s.piece := by
    by_cases ht : p.role c = .text
    · simp [Piece.behind, Stretch.piece, Stretch.text, Stretch.hasQuote, ht]
    · simp [Piece.behind, Stretch.piece, Stretch.text, Stretch.hasQuote, ht, Bool.or_assoc]
  unfold reading?
  rw [he, hs, hss]
  simp only [List.modifyHead_cons, List.map_cons, hp]

theorem within_ne_escape (inQuotes : Bool) : Place.within inQuotes ≠ .escape := by
  cases inQuotes <;> decide

/-- The scanner reads as the two phases do, from any place that it comes to. -/
theorem pieces?_eq_reading? (inQuotes hadQuotes : Bool) (acc cs : List Char) :
    pieces? inQuotes hadQuotes acc cs = reading? (.within inQuotes) hadQuotes acc cs := by
  fun_induction pieces? inQuotes hadQuotes acc cs with
  | case1 inQuotes hadQuotes acc => exact (reading?_nil (within_ne_escape inQuotes) hadQuotes acc).symm
  | case2 inQuotes hadQuotes acc rest ih =>
    -- a quote
    have hrole : (Place.within inQuotes).role '\'' = .quote := by cases inQuotes <;> rfl
    have hnext : (Place.within inQuotes).next '\'' = .within (!inQuotes) := by cases inQuotes <;> rfl
    rw [ih, reading?_of_ne_comma (by simp [hrole]), hrole, hnext]
    simp
  | case3 inQuotes hadQuotes acc c _ hc =>
    -- the inside ends at a backslash
    obtain ⟨rfl, rfl⟩ := hc
    rfl
  | case4 inQuotes hadQuotes acc c _ hc d rest ih =>
    -- a backslash, and the character that it escapes
    obtain ⟨rfl, rfl⟩ := hc
    have hbackslash : (Place.within true).role '\\' = .escape := rfl
    have hescaped : ((Place.within true).next '\\').role d = .text := rfl
    rw [ih, reading?_of_ne_comma (by simp [hbackslash]), reading?_of_ne_comma (by simp [hescaped]), hbackslash,
      hescaped]
    simp only [Bool.or_false, reduceCtorEq, decide_false, if_false, if_true]
    rfl
  | case5 inQuotes hadQuotes acc c rest _ _ hc ih =>
    -- a comma outside quotes
    obtain ⟨rfl, rfl⟩ := hc
    rw [ih, reading?_of_comma (by decide)]
    rfl
  | case6 inQuotes hadQuotes acc c rest hq he hc ih =>
    have hrole : (Place.within inQuotes).role c = .text := by cases inQuotes <;> simp_all [Place.within, Place.role]
    have hnext : (Place.within inQuotes).next c = .within inQuotes := by
      cases inQuotes <;> simp_all [Place.within, Place.next]
    rw [ih, reading?_of_ne_comma (by simp [hrole]), hrole, hnext]
    simp

theorem pieces?_eq_elementStretches (cs : List Char) :
    pieces? false false [] cs =
      if Place.bare.after cs = .escape then none else some ((elementStretches cs).map Stretch.piece) := by
  have hid : Piece.behind [] false = id := rfl
  rw [pieces?_eq_reading?, reading?, hid, List.modifyHead_id, id_eq, ← map_dropEmptyLast]
  rfl

theorem inside?_eq (cs : List Char) :
    inside? cs =
      if 2 ≤ cs.length ∧ cs.head? = some '[' ∧ cs.getLast? = some ']' then some cs.tail.dropLast else none := by
  cases cs with
  | nil => rfl
  | cons c rest =>
    cases rest with
    | nil => simp [inside?]
    | cons d rest => simp [inside?, List.getLast?_cons_cons]

theorem any_isBracket_iff (cs : List Char) : cs.any isBracket = true ↔ '[' ∈ cs ∨ ']' ∈ cs := by
  simp only [List.any_eq_true, isBracket, Bool.or_eq_true, beq_iff_eq]
  constructor
  · rintro ⟨c, hc, rfl | rfl⟩
    · exact .inl hc
    · exact .inr hc
  · rintro (h | h)
    · exact ⟨'[', h, .inl rfl⟩
    · exact ⟨']', h, .inr rfl⟩

/-- Parsing computes exactly the grammar, in both ways of taking scalars. With `t` as the text without the blanks around
it: where `t` stands in brackets, the result is an error if the inside ends at a backslash that escapes, and else the
arguments of the stretches between its separating commas, but for a last one without text. Where it does not, any
bracket in it is an error, and a text without one is itself the only argument, with its blanks and never inferred. -/
theorem parse_eq_grammar (scalars : Scalars) (raw : String) :
    let t := Text.trim raw.toList
    let inside := t.tail.dropLast
    (∃ front back, raw.toList = front ++ (t ++ back) ∧ (∀ c ∈ front ++ back, Text.isBlank c = true) ∧
      (∀ c ∈ t.head?, Text.isBlank c = false) ∧ ∀ c ∈ t.getLast?, Text.isBlank c = false) ∧
    parse scalars raw =
      if 2 ≤ t.length ∧ t.head? = some '[' ∧ t.getLast? = some ']' then
        if Place.bare.after inside = .escape then .error (.trailingEscape raw)
        else .ok ((elementStretches inside).map (Stretch.toArg scalars))
      else if '[' ∈ t ∨ ']' ∈ t then .error (.strayBracket raw)
      else .ok [.text raw] := by
  intro t inside
  refine ⟨Text.exists_eq_append_trim raw.toList, ?_⟩
  unfold parse
  simp only [inside?_eq, any_isBracket_iff]
  by_cases hshape : 2 ≤ t.length ∧ t.head? = some '[' ∧ t.getLast? = some ']'
  · rw [if_pos hshape, if_pos hshape]
    simp only [pieces?_eq_elementStretches]
    by_cases hescape : Place.bare.after inside = .escape
    · rw [if_pos hescape, if_pos hescape]
    · rw [if_neg hescape, if_neg hescape]
      change Except.ok (((elementStretches inside).map Stretch.piece).map _) = _
      rw [List.map_map]
      rfl
  · rw [if_neg hshape, if_neg hshape]

example : parse .inferred " [1,'1',a'b,\\',c'd,,'',] " = .ok [.int 1, .text "1", .text "ab,',cd", .text "", .text ""] := by
  decide +kernel

end Bracket
end QueryGate
