import QueryGate.Data.Basic
import QueryGate.Rule.RuleSet

/-! Rules and rule sets as data. A rule without parameters is its name, any other a map of one entry from its name
to its parameters. A rule set is one rule or a list of slots, and a slot one rule or a list of rules. -/
namespace QueryGate

/-- The names of the rules, in the order in which a number may stand for one. -/
def ruleNames : List String :=
  ["any", "is_int", "is_string", "is_numeric", "contains", "greater_than", "at_least", "less_than",
   "at_most", "within", "in", "not_in", "matches"]

/-- The entry of a list of names that a key picks, by name or by position. -/
def pick? (names : List String) : Data → Option String
  | .text s => if names.contains s then some s else none
  | .int i => if i < 0 then none else names[i.toNat]?
  | _ => none

/-- The ends of a range among the entries of a map. No end is given twice; keys of other texts or positions are
passed over, keys of other kinds refused. -/
def rangeOf? (min max : Option Number) : List (Data × Data) → Option (Number × Number)
  | [] => do some (← min, ← max)
  | (key, value) :: rest =>
    match pick? ["min", "max"] key with
    | some "min" => if min.isSome then none else value.number?.bind fun n => rangeOf? (some n) max rest
    | some _ => if max.isSome then none else value.number?.bind fun n => rangeOf? min (some n) rest
    | none =>
      match key with
      | .text _ => rangeOf? min max rest
      | .int i => if i < 0 then none else rangeOf? min max rest
      | _ => none

namespace Rule

/-- Where a rule stands: by itself, or in a rule set, where a range may also be a list of its two ends. -/
inductive Place
  | alone | inSet
  deriving DecidableEq

/-- A rule without parameters, whose content may be left out or empty. -/
def bare? (r : Rule) : Option Data → Option Rule
  | none => some r
  | some .null => some r
  | some _ => none

def range? (place : Place) : Data → Option Rule
  | .map entries => (rangeOf? none none entries).map fun ends => within ends.1 ends.2
  | .list [lo, hi] =>
    if place = .inSet then do some (within (← lo.number?) (← hi.number?)) else none
  | _ => none

def ofNamed? (place : Place) (name : String) (content : Option Data) : Option Rule :=
  match name with
  | "any" => bare? any content
  | "is_int" => bare? isInt content
  | "is_string" => bare? isText content
  | "is_numeric" => bare? isNumeric content
  | "contains" => (content.bind Data.text?).map contains
  | "greater_than" => (content.bind Data.number?).map greaterThan
  | "at_least" => (content.bind Data.number?).map atLeast
  | "less_than" => (content.bind Data.number?).map lessThan
  | "at_most" => (content.bind Data.number?).map atMost
  | "within" => content.bind (range? place)
  | "in" => (content.bind Data.args?).map oneOf
  | "not_in" => (content.bind Data.args?).map noneOf
  | "matches" => (content.bind Data.text?).bind ofPattern?
  | _ => none

def ofData? (place : Place) : Data → Option Rule
  | .text name => ofNamed? place name none
  | .map [(key, content)] => do ofNamed? place (← pick? ruleNames key) (some content)
  | _ => none

def entry (name : String) (content : Data) : Data := .map [(.text name, content)]

/-- The data of a rule; a custom rule has none. -/
def toData? : Rule → Option Data
  | any => some (.text "any")
  | isInt => some (.text "is_int")
  | isText => some (.text "is_string")
  | isNumeric => some (.text "is_numeric")
  | contains needle => some (entry "contains" (.text needle))
  | greaterThan limit => some (entry "greater_than" (.ofNumber limit))
  | atLeast limit => some (entry "at_least" (.ofNumber limit))
  | lessThan limit => some (entry "less_than" (.ofNumber limit))
  | atMost limit => some (entry "at_most" (.ofNumber limit))
  | within min max =>
    some (entry "within" (.map [(.text "min", .ofNumber min), (.text "max", .ofNumber max)]))
  | oneOf members => some (entry "in" (.list (members.map .ofArg)))
  | noneOf members => some (entry "not_in" (.list (members.map .ofArg)))
  | matching pattern => some (entry "matches" (.text pattern.source))
  | custom _ _ => none

end Rule

namespace Slot

def ofData? (d : Data) : Option Slot :=
  match Rule.ofData? .inSet d with
  | some r => some (rule r)
  | none =>
    match d with
    | .list items => (items.mapM (Rule.ofData? .inSet)).map anyOf
    | _ => none

def toData? : Slot → Option Data
  | rule r => r.toData?
  | anyOf rs => (rs.mapM Rule.toData?).map .list

end Slot

namespace RuleSet

def ofData? (d : Data) : Option RuleSet :=
  match Rule.ofData? .inSet d with
  | some r => some (single r)
  | none =>
    match d with
    | .list items => (items.mapM Slot.ofData?).map all
    | _ => none

def toData? : RuleSet → Option Data
  | single r => r.toData?
  | all slots => (slots.mapM Slot.toData?).map .list

end RuleSet
end QueryGate
