import QueryGate.Table.Query
import QueryGate.Text.Quoted

/-! The text of a query in diagnostics. -/
namespace QueryGate
namespace Query

/-- A name with a body in braces. -/
def describeRecord (name : String) (fields : List (String × String)) : String :=
  name ++ " \x7b " ++ String.intercalate ", " (fields.map fun f => f.1 ++ ": " ++ f.2) ++ " \x7d"

def describeList (items : List String) : String := "[" ++ String.intercalate ", " items ++ "]"

def describeComparison : Comparison → String
  | .equal => "Eq"
  | .notEqual => "Ne"
  | .less => "Lt"
  | .greater => "Gt"
  | .lessOrEqual => "Lte"
  | .greaterOrEqual => "Gte"
  | .like => "Like"

def describeDirection : Direction → String
  | .ascending => "Asc"
  | .descending => "Desc"

def describeArg : Arg → String
  | .bool b => "Bool(" ++ (Arg.bool b).toText ++ ")"
  | .int n => "Int(" ++ (Arg.int n).toText ++ ")"
  | .float x => "Float(" ++ String.ofList (x.text .exact) ++ ")"
  | .text s => "Str(" ++ Text.quoted s ++ ")"

def describeCondition (c : Condition) : String :=
  describeRecord "Condition"
    [("column", Text.quoted c.column), ("cmp", describeComparison c.comparison), ("value", describeArg c.value)]

def describeClauses (groups : Clauses) : String :=
  describeRecord "Clauses" [("groups", describeList (groups.map fun g => describeList (g.map describeCondition)))]

def describeOrdering (o : String × Direction) : String :=
  "(" ++ Text.quoted o.1 ++ ", " ++ describeDirection o.2 ++ ")"

def describeWindow : Option Window → String
  | none => "None"
  | some w =>
    "Some(" ++ describeRecord "Window" [("limit", toString w.limit), ("offset", toString w.offset)] ++ ")"

def describeRows (n : Nat) : String := describeRecord "MemoryTable" [("rows", toString n)]

def describe {R : Type} (q : Query R) : String :=
  describeRecord "MemoryQuery" [
    ("rows", toString q.rows.length),
    ("clauses", describeClauses q.clauses),
    ("orderings", describeList (q.orderings.map describeOrdering)),
    ("window", describeWindow q.window)]

end Query
end QueryGate
