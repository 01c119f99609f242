/-!
# Text as bytes

Files and streams hold bytes; text is their UTF-8 reading, which some sequences do not have.
-/

namespace ShipManifest.Text

/-- A sequence of bytes. -/
abbrev Bytes := List UInt8

/-- The UTF-8 form of a text. -/
def encode (s : String) : Bytes :=
  s.toUTF8.data.toList

/-- The text whose UTF-8 form the bytes are, if they are one. -/
def decode? (bytes : Bytes) : Option String :=
  String.fromUTF8? ⟨bytes.toArray⟩

theorem decode?_encode (s : String) : decode? (encode s) = some s := by
  have hb : (⟨(encode s).toArray⟩ : ByteArray) = s.toUTF8 := by simp [encode]
  simp only [decode?, hb, String.fromUTF8?, String.toUTF8]
  simp [String.isValidUTF8, String.fromUTF8]

theorem encode_of_decode? {bytes : Bytes} {s : String} (h : decode? bytes = some s) : encode s = bytes := by
  simp only [decode?, String.fromUTF8?] at h
  split at h
  · cases h; simp [encode, String.fromUTF8, String.toUTF8]
  · cases h

end ShipManifest.Text
