/-! The arithmetic of pages, in steps of 64 bits. -/
namespace QueryGate

namespace Word

def largest : UInt64 := UInt64.ofNat (UInt64.size - 1)

/-- A difference, a sum and a product that stop at the ends of the range. -/
def difference (a b : UInt64) : UInt64 := if b ≤ a then a - b else 0

def sum (a b : UInt64) : UInt64 := if a.toNat + b.toNat < UInt64.size then a + b else largest

def product (a b : UInt64) : UInt64 := if a.toNat * b.toNat < UInt64.size then a * b else largest

/-- A quotient rounded up. -/
def ceilDiv (a b : UInt64) : UInt64 := if a % b = 0 then a / b else a / b + 1

end Word

/-- Where a page lies among all rows: its first and last row count from one. -/
structure PageInfo where
  page : UInt64
  perPage : UInt64
  lastPage : UInt64
  total : UInt64
  first : UInt64
  last : UInt64
  deriving DecidableEq

namespace PageInfo

open Word

/-- The number of rows in front of a page. There is no page before the first, so nothing stops the difference. -/
def skipped (page perPage : UInt64) : UInt64 := product (page - 1) perPage

/-- Rows are counted from one even on a page behind the last row. Pages without rows have no last page. -/
def of (page perPage total : UInt64) : PageInfo where
  page := page
  perPage := perPage
  lastPage := if perPage = 0 then 0 else ceilDiv total perPage
  total := total
  first := sum (product (difference page 1) perPage) 1
  last := min (product page perPage) total

def offset (info : PageInfo) : UInt64 := info.first - 1

end PageInfo

/-- The rows of a page with its place. -/
structure Page (Row : Type) where
  rows : List Row
  info : PageInfo

end QueryGate
