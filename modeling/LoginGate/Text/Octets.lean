/-
# Octets and their one-byte reading

Headers, query strings and bodies travel as octets.  Some of them are read one octet to a character,
`U+0000` to `U+00FF`; `ofLatin1` goes the other way for texts that fit.
-/

namespace LoginGate

/-- A sequence of octets. -/
abbrev Octets := List UInt8

namespace Octets

/-- The text with one character for each octet. -/
def latin1 (b : Octets) : String :=
  String.ofList (b.map fun o => Char.ofNat o.toNat)

/-- The octets of a text whose characters lie below `U+0100`; the other characters lose their high
bits. -/
def ofLatin1 (s : String) : Octets :=
  s.toList.map fun c => UInt8.ofNat c.toNat

/-- The characters all fit into an octet each. -/
def fitsLatin1 (s : String) : Bool :=
  s.toList.all fun c => c.toNat < 0x100

end Octets
end LoginGate
