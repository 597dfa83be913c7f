import QueryGate.Data.Record
import QueryGate.Settings.Basic

/-! Settings as data: a record in which every field may be left out. -/
namespace QueryGate
namespace Settings

def fieldNames : List String :=
  ["page_param", "per_page_param", "default_page", "default_per_page", "min_per_page", "max_per_page",
   "default_max_calls", "infer_scalars"]

def ofData? (d : Data) : Option Settings := do
  let fields ← d.fields? fieldNames
  let default : Settings := {}
  some {
    pageParam := ← fields.orDefault "page_param" Data.text? default.pageParam
    perPageParam := ← fields.orDefault "per_page_param" Data.text? default.perPageParam
    defaultPage := ← fields.orDefault "default_page" Data.word64? default.defaultPage
    defaultPerPage := ← fields.orDefault "default_per_page" Data.word64? default.defaultPerPage
    minPerPage := ← fields.orDefault "min_per_page" Data.word64? default.minPerPage
    maxPerPage := ← fields.orDefault "max_per_page" Data.word64? default.maxPerPage
    defaultMaxCalls := ← fields.orDefault "default_max_calls" Data.word32? default.defaultMaxCalls
    inferScalars := ← fields.orDefault "infer_scalars" Data.bool? default.inferScalars }

def toData (s : Settings) : Data :=
  .record [
    ("page_param", .text s.pageParam),
    ("per_page_param", .text s.perPageParam),
    ("default_page", .int s.defaultPage.toNat),
    ("default_per_page", .int s.defaultPerPage.toNat),
    ("min_per_page", .int s.minPerPage.toNat),
    ("max_per_page", .int s.maxPerPage.toNat),
    ("default_max_calls", .int s.defaultMaxCalls.toNat),
    ("infer_scalars", .bool s.inferScalars)]

end Settings
end QueryGate
