import Bayeux.Codec.Basic
import Bayeux.Proofs.Gzip.Container

set_option autoImplicit false

namespace Bayeux

theorem Gzip.decompress_compress (data : ByteArray) : decompress (compress data) = .ok data := by
  simpa using (isMember_compress data).decompress_append ByteArray.empty

namespace Codec

@[simp] theorem gunzip_compress (data : ByteArray) : gunzip (Gzip.compress data) = .ok data := by
  simp [gunzip, Gzip.decompress_compress]

theorem fromUTF8?_toUTF8 (text : String) : String.fromUTF8? text.toUTF8 = some text := by
  have valid : text.toUTF8.IsValidUTF8 := text.isValidUTF8
  rw [String.fromUTF8?, dif_pos valid]
  rfl

theorem gunzipText_eq (bytes : ByteArray) :
    gunzipText bytes =
      (gunzip bytes).bind fun data => (String.fromUTF8? data).elim (.error .utf8) .ok := by
  rw [gunzipText]
  rcases gunzip bytes with e | data
  · rfl
  · simp only [Except.bind]
    cases String.fromUTF8? data <;> rfl

@[simp] theorem gunzipText_compress (text : String) :
    gunzipText (Gzip.compress text.toUTF8) = .ok text := by
  rw [gunzipText_eq, gunzip_compress, Except.bind, fromUTF8?_toUTF8, Option.elim]

end Codec

end Bayeux
