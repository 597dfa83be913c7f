import QueryGate.Bracket.Basic

/-! Argument lists written in bracket notation. Texts are always quoted, so that reading with inference gives
back the arguments with their kinds. -/
namespace QueryGate
namespace Bracket

def escaped (c : Char) : List Char := if c = '\'' ∨ c = '\\' then ['\\', c] else [c]

def element : Arg → List Char
  | .text s => '\'' :: s.toList.flatMap escaped ++ ['\'']
  | .float x => x.text .exact
  | a => a.toText.toList

/-- Elements with commas between them, and one more behind a last empty text, which would be dropped without. -/
def elements : List Arg → List Char
  | [] => []
  | [a] => element a ++ if a = .text "" then [','] else []
  | a :: rest => element a ++ ',' :: elements rest

def render (args : List Arg) : String := String.ofList ('[' :: elements args ++ [']'])

end Bracket
end QueryGate
