import QueryGate.Regex.Letters
import QueryGate.Regex.Marks

/-! The characters that words are made of. -/
namespace QueryGate
namespace Regex

/-- Letters, marks, decimal digits, connecting punctuation and join controls. -/
def wordChars : CharSet :=
  alphabetic ∪ marks ∪ decimalNumbers ∪ connectorPunctuation ∪ joinControls

def asciiWordChars : CharSet := ⟨[(0x30, 0x39), (0x41, 0x5A), (0x5F, 0x5F), (0x61, 0x7A)]⟩

def asciiDigits : CharSet := ⟨[(0x30, 0x39)]⟩

def asciiBlanks : CharSet := ⟨[(0x9, 0xD), (0x20, 0x20)]⟩

end Regex
end QueryGate
