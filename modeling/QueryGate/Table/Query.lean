import QueryGate.Backend
import QueryGate.Table.Condition

/-! Queries over a fixed list of rows: the rows that satisfy the clauses, in order, cut to a window. -/
namespace QueryGate

structure Window where
  limit : UInt64
  offset : UInt64
  deriving DecidableEq

structure Query (R : Type) where
  rows : List R
  clauses : Clauses
  orderings : List (String × Direction)
  window : Option Window

namespace Query

variable {R : Type}

def ofRows (rows : List R) : Query R := ⟨rows, [], [], none⟩

def andWhere (q : Query R) (c : Condition) : Query R := { q with clauses := q.clauses.and c }

def orWhere (q : Query R) (c : Condition) : Query R := { q with clauses := q.clauses.or c }

def orderBy (q : Query R) (column : String) (d : Direction) : Query R :=
  { q with orderings := q.orderings ++ [(column, d)] }

def limitOffset (q : Query R) (limit offset : UInt64) : Query R := { q with window := some ⟨limit, offset⟩ }

variable [Row R]

/-- The order of two rows by the first column that tells them apart. A column on which they have no order does
not. -/
def compareRows (orderings : List (String × Direction)) (a b : R) : Ordering :=
  match orderings with
  | [] => .eq
  | (column, d) :: rest =>
    match (Cell.compare? (Row.cell a column) (Row.cell b column)).map d.apply with
    | some .lt => .lt
    | some .gt => .gt
    | _ => compareRows rest a b

/-- The rows that satisfy the clauses, in the order in which they were given. -/
def matched (q : Query R) : List R := q.rows.filter q.clauses.holdOf

/-- The rows that satisfy the clauses, sorted if there is anything to sort by. -/
def ordered? (q : Query R) : Option (List R) :=
  if q.orderings.isEmpty then some q.matched else sort? (compareRows q.orderings) q.matched

def Window.cut {α : Type} (w : Option Window) (xs : List α) : List α :=
  match w with
  | some w => (xs.drop w.offset.toNat).take w.limit.toNat
  | none => xs

/-- The rows of a query, in order and cut to its window. There are none to be had where the sort gives up. -/
def select? (q : Query R) : Option (List R) := q.ordered?.map (Window.cut q.window)

/-- The number of rows that satisfy the clauses, whatever the window. -/
def count (q : Query R) : Nat := q.matched.length

/-- A change of a query, which never fails. -/
def change {ε : Type} (f : Query R → Query R) : Action ε (Query R) Unit := modify f

def read {ε α : Type} (f : Query R → α) : Action ε (Query R) α := do return f (← get)

/-- The rows of a query. A sort that gives up brings down the whole run. -/
def fetch : Action Failure (Query R) (List R) := do
  match (← get).select? with
  | some rows => return rows
  | none => throw .panic

instance : Conditions (Query R) R where
  applyOrder column d := change (·.orderBy column d)
  applyWindow limit offset := change (·.limitOffset limit offset)
  pageInfo perPage page := read fun q => .of page perPage (UInt64.ofNat q.count)
  fetchRows := fetch
  andWhere column c value := change (·.andWhere ⟨column, c, value⟩)
  orWhere column c value := change (·.orWhere ⟨column, c, value⟩)

end Query
end QueryGate
