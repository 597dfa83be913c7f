import QueryGate.Regex.Symbols

/-! Characters of identifiers. -/
namespace QueryGate
namespace Regex

def otherIdentifierStart : CharSet :=
  ⟨[(0x1885, 0x1886), (0x2118, 0x2118), (0x212E, 0x212E), (0x309B, 0x309C)]⟩

/-- Characters at the start of an identifier. -/
def identifierStart : CharSet :=
  (letters ∪ letterNumbers ∪ otherIdentifierStart) \ (patternSyntax ∪ patternBlanks)

def otherIdentifierContinue : CharSet :=
  ⟨[(0xB7, 0xB7), (0x387, 0x387), (0x1369, 0x1371), (0x19DA, 0x19DA), (0x200C, 0x200D),
    (0x30FB, 0x30FB), (0xFF65, 0xFF65)]⟩

/-- Characters of an identifier behind its start. -/
def identifierContinue : CharSet :=
  (identifierStart ∪ nonspacingMarks ∪ spacingMarks ∪ decimalNumbers ∪ connectorPunctuation ∪
    otherIdentifierContinue) \ (patternSyntax ∪ patternBlanks)

/-- Characters that start an identifier, and no longer do in compatible forms. -/
def unstableStart : CharSet :=
  ⟨[(0x37A, 0x37A), (0xE33, 0xE33), (0xEB3, 0xEB3), (0x309B, 0x309C), (0xFC5E, 0xFC63),
    (0xFDFA, 0xFDFB), (0xFE70, 0xFE70), (0xFE72, 0xFE72), (0xFE74, 0xFE74), (0xFE76, 0xFE76),
    (0xFE78, 0xFE78), (0xFE7A, 0xFE7A), (0xFE7C, 0xFE7C), (0xFE7E, 0xFE7E), (0xFF9E, 0xFF9F)]⟩

def stableIdentifierStart : CharSet := identifierStart \ unstableStart

def unstableContinue : CharSet :=
  ⟨[(0x37A, 0x37A), (0x309B, 0x309C), (0xFC5E, 0xFC63), (0xFDFA, 0xFDFB), (0xFE70, 0xFE70),
    (0xFE72, 0xFE72), (0xFE74, 0xFE74), (0xFE76, 0xFE76), (0xFE78, 0xFE78), (0xFE7A, 0xFE7A),
    (0xFE7C, 0xFE7C), (0xFE7E, 0xFE7E)]⟩

def stableIdentifierContinue : CharSet := identifierContinue \ unstableContinue

def mathIdentifierStart : CharSet :=
  ⟨[(0x2202, 0x2202), (0x2207, 0x2207), (0x221E, 0x221E), (0x1D6C1, 0x1D6C1), (0x1D6DB, 0x1D6DB),
    (0x1D6FB, 0x1D6FB), (0x1D715, 0x1D715), (0x1D735, 0x1D735), (0x1D74F, 0x1D74F),
    (0x1D76F, 0x1D76F), (0x1D789, 0x1D789), (0x1D7A9, 0x1D7A9), (0x1D7C3, 0x1D7C3)]⟩

/-- Superscripts and subscripts that continue a mathematical identifier. -/
def mathIdentifierScripts : CharSet :=
  ⟨[(0xB2, 0xB3), (0xB9, 0xB9), (0x2070, 0x2070), (0x2074, 0x207E), (0x2080, 0x208E)]⟩

def mathIdentifierContinue : CharSet := mathIdentifierStart ∪ mathIdentifierScripts

end Regex
end QueryGate
