import QueryGate.Arg
import QueryGate.Regex.Automaton
import QueryGate.Regex.Reader
import QueryGate.Text.Part
import QueryGate.Text.Quoted

/-! Rules: named tests of a single argument. A rule never fails; an argument of a kind that a rule is not about does
not pass it, and neither does one on which a custom test gives an error. -/
namespace QueryGate

/-- The source of a regular expression together with the expression that it stands for. -/
structure Pattern where
  source : String
  regex : Regex
  compiled : Regex.read? source = some regex

namespace Pattern

def ofSource? (source : String) : Option Pattern :=
  match h : Regex.read? source with
  | some regex => some ⟨source, regex, h⟩
  | none => none

theorem ofSource?_source (p : Pattern) : ofSource? p.source = some p := by
  obtain ⟨source, regex, h⟩ := p
  unfold ofSource?
  split
  · rename_i r hr
    have : r = regex := Option.some.inj (hr.symm.trans h)
    subst this
    rfl
  · rename_i hr
    exact absurd (hr.symm.trans h) (by simp)

end Pattern

inductive Rule
  | any | isInt | isText | isNumeric
  | contains (needle : String)
  | greaterThan (limit : Number) | atLeast (limit : Number) | lessThan (limit : Number) | atMost (limit : Number)
  | within (min max : Number)
  | oneOf (members : List Arg) | noneOf (members : List Arg)
  | matching (pattern : Pattern)
  | custom (name : String) (test : Arg → Except String Bool)

namespace Rule

/-- Compares the numeric view of an argument with a limit. -/
def compares (a : Arg) (limit : Number) (accept : Ordering → Bool) : Bool :=
  match a.number?.bind (·.compare? limit) with
  | some o => accept o
  | none => false

def holdsText (a : Arg) (test : String → Bool) : Bool :=
  match a.text? with
  | some s => test s
  | none => false

def check : Rule → Arg → Bool
  | any, _ => true
  | isInt, a => a.isInt
  | isText, a => a.isText
  | isNumeric, a => a.isNumeric
  | contains needle, a => holdsText a fun s => Text.hasPart needle.toList s.toList
  | greaterThan limit, a => compares a limit (· == .gt)
  | atLeast limit, a => compares a limit (· != .lt)
  | lessThan limit, a => compares a limit (· == .lt)
  | atMost limit, a => compares a limit (· != .gt)
  | within min max, a => compares a min (· != .lt) && compares a max (· != .gt)
  | oneOf members, a => members.any (·.same a)
  | noneOf members, a => !members.any (·.same a)
  | matching pattern, a => holdsText a pattern.regex.isMatch
  | custom _ test, a =>
    match test a with
    | .ok passed => passed
    | .error _ => false

/-- The text of a rule in a message. -/
def text : Rule → String
  | any => "any"
  | isInt => "is_int"
  | isText => "is_string"
  | isNumeric => "is_numeric"
  | contains needle => "contains(" ++ Text.quoted needle ++ ")"
  | greaterThan limit => "> " ++ String.ofList limit.text
  | atLeast limit => ">= " ++ String.ofList limit.text
  | lessThan limit => "< " ++ String.ofList limit.text
  | atMost limit => "<= " ++ String.ofList limit.text
  | within min max => "within(" ++ String.ofList min.text ++ ", " ++ String.ofList max.text ++ ")"
  | oneOf members => "in(" ++ toString members.length ++ " values)"
  | noneOf members => "not_in(" ++ toString members.length ++ " values)"
  | matching pattern => "matches(" ++ Text.quoted pattern.source ++ ")"
  | custom name _ => name

/-- Reads a pattern; there is no rule for one that does not read. -/
def ofPattern? (source : String) : Option Rule := (Pattern.ofSource? source).map matching

end Rule
end QueryGate
