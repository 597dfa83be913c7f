import QueryGate.Data.Json
import QueryGate.Params.Basic

/-! Parameters submitted as one structured object: an array is an argument list, a string is a text in bracket
notation, and any other scalar stands for itself. -/
namespace QueryGate

def RawValue.ofData? : Data → Option RawValue
  | .text s => some (.text s)
  | .list items => (items.mapM Data.arg?).map .list
  | d => d.arg?.map .scalar

namespace RawParams

/-- The last of several values under one name counts, at the place of the first. -/
def ofData? : Data → Option RawParams
  | .map entries => do
    let pairs ← entries.mapM fun e => do
      let key ← e.1.text?
      let value ← RawValue.ofData? e.2
      some (key, value)
    some (.ofList pairs)
  | _ => none

def ofJson? (text : String) : Option RawParams := (Json.read? text).bind ofData?

end RawParams
end QueryGate
