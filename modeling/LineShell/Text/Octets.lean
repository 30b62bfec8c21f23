import LineShell.Path
import LineShell.Text.Utf8
/-!
Bytes written as texts: one character, with a code below 256, stands for each byte. Scripts work on
such texts, because they look at bytes and not at the characters that these may encode.
-/

namespace LineShell.Octets

def ofBytes (bytes : Bytes) : String :=
  String.ofList (bytes.map fun byte => Char.ofNat byte.toNat)

def toBytes (octets : String) : Bytes :=
  octets.toList.map fun c => UInt8.ofNat c.toNat

def ofText (text : String) : String :=
  ofBytes (utf8 text)

/-- The path that some bytes spell. Bytes that encode no text are taken as they are. -/
def toPath (octets : String) : Path :=
  ⟨(ofUtf8? (toBytes octets)).getD octets⟩

theorem toBytes_ofBytes (bytes : Bytes) : toBytes (ofBytes bytes) = bytes := by
  have octet (byte : UInt8) : UInt8.ofNat (Char.ofNat byte.toNat).toNat = byte := by
    have small : byte.toNat < 256 := byte.toNat_lt
    have valid : byte.toNat.isValidChar := Or.inl (by omega)
    rw [Char.ofNat, dif_pos valid]
    exact UInt8.ofNat_toNat
  rw [toBytes, ofBytes, String.toList_ofList, List.map_map]
  exact (List.map_congr_left fun byte _ => octet byte).trans (List.map_id bytes)

end LineShell.Octets
