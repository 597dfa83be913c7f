import QueryGate.Arg
import QueryGate.Text.Quoted

/-! Bracket notation for argument lists: elements between brackets, cut at the commas that stand outside
quotes. Quotes and the backslashes inside them are not part of an element. -/
namespace QueryGate
namespace Bracket

/-- Whether an element without quotes is taken as text or as the scalar it spells. -/
inductive Scalars
  | verbatim | inferred
  deriving DecidableEq

/-- Both carry the whole text as it was given. -/
inductive Malformed
  | strayBracket (value : String)
  | trailingEscape (value : String)
  deriving DecidableEq

def Malformed.message : Malformed → String
  | .strayBracket value => "stray bracket in " ++ Text.quoted value
  | .trailingEscape value => "trailing escape inside quotes in " ++ Text.quoted value

/-- The text of an element, and whether a quote stood in it. -/
structure Piece where
  text : List Char
  quoted : Bool
  deriving DecidableEq

/-- Cuts the inside of a list. `acc` holds the current piece in reverse. A last piece without text is dropped;
there is no result when the inside ends at a backslash inside quotes. -/
def pieces? (inQuotes hadQuotes : Bool) (acc : List Char) : List Char → Option (List Piece)
  | [] => some (if acc.isEmpty then [] else [⟨acc.reverse, hadQuotes⟩])
  | c :: rest =>
    if c = '\'' then pieces? (!inQuotes) true acc rest
    else if c = '\\' ∧ inQuotes = true then
      match rest with
      | [] => none
      | d :: rest => pieces? inQuotes hadQuotes (d :: acc) rest
    else if c = ',' ∧ inQuotes = false then
      (pieces? false false [] rest).map (⟨acc.reverse, hadQuotes⟩ :: ·)
    else pieces? inQuotes hadQuotes (c :: acc) rest

def Piece.toArg (scalars : Scalars) (p : Piece) : Arg :=
  if scalars = .inferred ∧ p.quoted = false then Arg.infer (String.ofList p.text)
  else .text (String.ofList p.text)

/-- What stands between an opening bracket in front and a closing one at the end. -/
def inside? : List Char → Option (List Char)
  | [] => none
  | c :: rest => if c = '[' ∧ rest.getLast? = some ']' then some rest.dropLast else none

def isBracket (c : Char) : Bool := c == '[' || c == ']'

/-- A text in brackets is a list; one without any bracket is itself the only argument. Blanks around the whole
are ignored, but stay part of a sole argument. -/
def parse (scalars : Scalars) (raw : String) : Except Malformed (List Arg) :=
  let trimmed := Text.trim raw.toList
  match inside? trimmed with
  | some inner =>
    match pieces? false false [] inner with
    | some ps => .ok (ps.map (·.toArg scalars))
    | none => .error (.trailingEscape raw)
  | none => if trimmed.any isBracket then .error (.strayBracket raw) else .ok [.text raw]

end Bracket
end QueryGate
