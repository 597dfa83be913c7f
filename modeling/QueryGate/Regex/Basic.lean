import QueryGate.Regex.Words

/-! Regular expressions over characters, with assertions about the place between two characters. -/
namespace QueryGate
namespace Regex

/-- Whether words are made of ASCII characters only. -/
inductive Alphabet
  | unicode | ascii
  deriving DecidableEq

def Alphabet.isWord : Alphabet → Option Char → Bool
  | unicode, some c => wordChars.has c.toNat
  | ascii, some c => asciiWordChars.has c.toNat
  | _, none => false

/-- Assertions about a place. The two of line ends with carriage returns take the pair of carriage return and line
feed as one end. -/
inductive Look
  | textStart | textEnd | lineStart | lineEnd | pairedLineStart | pairedLineEnd
  | boundary (a : Alphabet) | notBoundary (a : Alphabet)
  | wordStart (a : Alphabet) | wordEnd (a : Alphabet) | noWordBefore (a : Alphabet) | noWordAfter (a : Alphabet)
  deriving DecidableEq

/-- Whether an assertion holds between two characters; at an end of the text there is none on one side. -/
def Look.holds (before after : Option Char) : Look → Bool
  | textStart => before.isNone
  | textEnd => after.isNone
  | lineStart => before.isNone || before == some '\n'
  | lineEnd => after.isNone || after == some '\n'
  | pairedLineStart => before.isNone || before == some '\n' || (before == some '\r' && after != some '\n')
  | pairedLineEnd => after.isNone || after == some '\r' || (after == some '\n' && before != some '\r')
  | boundary a => a.isWord before != a.isWord after
  | notBoundary a => a.isWord before == a.isWord after
  | wordStart a => !a.isWord before && a.isWord after
  | wordEnd a => a.isWord before && !a.isWord after
  | noWordBefore a => !a.isWord before
  | noWordAfter a => !a.isWord after

end Regex

/-- Groups are numbered, and a repetition knows whether it is lazy; neither bears on whether there is a match. -/
inductive Regex
  | empty
  | chars (s : Regex.CharSet)
  | look (l : Regex.Look)
  | cat (a b : Regex)
  | alt (a b : Regex)
  | rep (a : Regex) (least : Nat) (most : Option Nat) (isLazy : Bool)
  | group (number : Nat) (a : Regex)
  deriving DecidableEq

end QueryGate
