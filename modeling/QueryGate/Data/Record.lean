import QueryGate.Data.Basic

/-! Records: data with named fields, given as a map or as the list of the fields in order, of which the last ones
may be left out. -/
namespace QueryGate

/-- The fields that were given. -/
structure Fields where
  given : List (String × Data)

namespace Data

def bool? : Data → Option Bool
  | bool b => some b
  | _ => none

def word32? : Data → Option UInt32
  | int i => if 0 ≤ i ∧ i < UInt32.size then some (UInt32.ofNat i.toNat) else none
  | _ => none

def word64? : Data → Option UInt64
  | int i => if 0 ≤ i ∧ i < UInt64.size then some (UInt64.ofNat i.toNat) else none
  | _ => none

def items? : Data → Option (List Data)
  | list items => some items
  | _ => none

/-- The fields of a record with given names. Other entries of a map are passed over; a list may not be longer than
the record. -/
def fields? (names : List String) : Data → Option Fields
  | map entries => some ⟨names.filterMap fun name => (field? entries name).map (name, ·)⟩
  | list items => if items.length ≤ names.length then some ⟨names.zip items⟩ else none
  | _ => none

def record (fields : List (String × Data)) : Data := map (fields.map fun f => (text f.1, f.2))

end Data

namespace Fields

def get? (fs : Fields) (name : String) : Option Data := fs.given.lookup name

/-- A field that has to be given. -/
def require {α : Type} (fs : Fields) (name : String) (read : Data → Option α) : Option α :=
  (fs.get? name).bind read

/-- A field that may be left out, but does not read as just anything when it is given. -/
def orDefault {α : Type} (fs : Fields) (name : String) (read : Data → Option α) (default : α) : Option α :=
  match fs.get? name with
  | some d => read d
  | none => some default

end Fields
end QueryGate
