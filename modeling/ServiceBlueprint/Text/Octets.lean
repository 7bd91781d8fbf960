/-!
# Texts as octets

The octets of a text are its UTF-8 form.
-/

namespace ServiceBlueprint.Text

def toOctets (s : String) : List Nat :=
  s.toUTF8.toList.map (·.toNat)

/-- The text with the given UTF-8 form, if there is one. -/
def ofOctets? (octets : List Nat) : Option String :=
  String.fromUTF8? (ByteArray.mk (octets.map UInt8.ofNat).toArray)

end ServiceBlueprint.Text
