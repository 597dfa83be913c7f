import QueryGate.Declaration
import QueryGate.Gate.Basic
import QueryGate.Settings.Schema
import QueryGate.Yaml.Shape

/-! Configurations: the settings of a gate and the operations that it declares, each of them once. -/
namespace QueryGate

inductive ConfigError
  | unreadable | malformed
  | duplicateOperation (name : String)
  deriving DecidableEq

namespace ConfigError

def message : ConfigError → String
  | unreadable => "failed to read the configuration"
  | malformed => "invalid configuration"
  | duplicateOperation name => "operation '" ++ name ++ "' is declared more than once"

end ConfigError

/-- The first of some names that stands among the earlier ones, those in `seen` included. -/
def firstRepeated? (seen : List String) : List String → Option String
  | [] => none
  | name :: rest => if name ∈ seen then some name else firstRepeated? (name :: seen) rest

theorem firstRepeated?_eq_none_iff {seen names : List String} :
    firstRepeated? seen names = none ↔ names.Nodup ∧ ∀ name ∈ names, name ∉ seen := by
  induction names generalizing seen with
  | nil => simp [firstRepeated?]
  | cons name rest ih =>
    by_cases h : name ∈ seen
    · simp [firstRepeated?, h]
    · simp only [firstRepeated?, h, if_false, ih, List.nodup_cons, List.mem_cons, not_or, forall_eq_or_imp,
        not_false_eq_true, true_and]
      constructor
      · rintro ⟨hn, hs⟩
        exact ⟨⟨fun hm => (hs name hm).1 rfl, hn⟩, fun x hx => (hs x hx).2⟩
      · rintro ⟨⟨hm, hn⟩, hs⟩
        exact ⟨hn, fun x hx => ⟨fun e => hm (e ▸ hx), hs x hx⟩⟩

structure Config where
  settings : Settings
  declarations : List Declaration
  distinct : (declarations.map Declaration.name).Nodup

namespace Config

/-- Refuses declarations of which two have one name. -/
def of (settings : Settings) (declarations : List Declaration) : Except ConfigError Config :=
  match h : firstRepeated? [] (declarations.map Declaration.name) with
  | some name => .error (.duplicateOperation name)
  | none => .ok ⟨settings, declarations, (firstRepeated?_eq_none_iff.mp h).1⟩

def isRestricted (c : Config) : Bool := !c.declarations.isEmpty

/-- The gate for one request, with these settings and declarations. -/
def gate {B : Type} (c : Config) (backend : B) (catalog : Catalog B) (raw : RawParams) : Gate B :=
  (Gate.ofRaw backend catalog raw c.settings).registerAll c.declarations

def settingsShape : Yaml.Shape :=
  .record [
    ("page_param", .text),
    ("per_page_param", .text),
    ("default_page", .word),
    ("default_per_page", .word),
    ("min_per_page", .word),
    ("max_per_page", .word),
    ("default_max_calls", .word),
    ("infer_scalars", .bool)]

def declarationShape : Yaml.Shape :=
  .record [("name", .text), ("rules", .list .any), ("max_calls", .optionalWord)]

def shape : Yaml.Shape := .record [("settings", settingsShape), ("operations", .list declarationShape)]

def declarations? (d : Data) : Option (List Declaration) := d.items?.bind (·.mapM Declaration.ofData?)

/-- The parts of a configuration; either may be left out. -/
def parts? (d : Data) : Option (Settings × List Declaration) := do
  let fields ← d.fields? ["settings", "operations"]
  some (← fields.orDefault "settings" Settings.ofData? {}, ← fields.orDefault "operations" declarations? [])

/-- The configuration that a document holds. -/
def ofYaml (text : String) : Except ConfigError Config :=
  match (shape.read? text).bind parts? with
  | some (settings, declarations) => of settings declarations
  | none => .error .malformed

/-- The configuration of a file, of which nothing is known if it cannot be read. -/
def ofFile (content : Option String) : Except ConfigError Config :=
  match content with
  | some text => ofYaml text
  | none => .error .unreadable

end Config
end QueryGate
