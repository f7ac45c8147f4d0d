import Bayeux.Proofs.Gzip.RoundTrip
import Bayeux.Proofs.Gzip.Stored

set_option autoImplicit false

namespace Bayeux.Codec

open Gzip

theorem gunzipText_damaged {bytes : ByteArray} {e : CodecError} (damaged : gunzip bytes = .error e) :
    gunzipText bytes = .error e := by
  rw [gunzipText_eq, damaged]
  rfl

/-- Whatever stream a member has for its data, the data is read back from it and nothing of what
follows; as a text it is read where it is one. -/
theorem gunzip_member (data : ByteArray) :
    IsMember (compress data) data ∧
    ∀ bytes, IsMember bytes data → hasMagic bytes = true ∧ ∀ rest,
      gunzip (bytes ++ rest) = .ok data ∧
      (∀ text : String, text.toUTF8 = data → gunzipText (bytes ++ rest) = .ok text) ∧
      (¬ data.IsValidUTF8 → gunzipText (bytes ++ rest) = .error .utf8) := by
  refine ⟨isMember_compress data, fun bytes member => ⟨member.hasMagic, fun rest => ?_⟩⟩
  have read : gunzip (bytes ++ rest) = .ok data := by
    rw [gunzip, member.decompress_append rest, mapError_ok]
  refine ⟨read, ?_, fun invalid => ?_⟩
  · rintro text rfl
    rw [gunzipText_eq, read, Except.bind, fromUTF8?_toUTF8, Option.elim]
  · rw [gunzipText_eq, read, Except.bind, String.fromUTF8?, dif_neg invalid, Option.elim]

theorem storedMember_read :
    IsMember (storedMember [0x6f, 0x6b]) "ok".toUTF8 ∧
    gunzipText (storedMember [0x6f, 0x6b] ++ storedMember [0xff]) = .ok "ok" ∧
    IsMember (storedMember [0xff]) [0xff].toByteArray ∧
    ¬ [0xff].toByteArray.IsValidUTF8 ∧
    gunzipText (storedMember [0xff] ++ [0x1f].toByteArray) = .error .utf8 := by
  have word : IsMember (storedMember [0x6f, 0x6b]) "ok".toUTF8 := isMember_storedMember (by decide)
  have byte : IsMember (storedMember [0xff]) [0xff].toByteArray := isMember_storedMember (by decide)
  have invalid : ¬ [0xff].toByteArray.IsValidUTF8 := by decide
  exact ⟨word, (((gunzip_member _).2 _ word).2 _).2.1 "ok" rfl, byte, invalid,
    (((gunzip_member _).2 _ byte).2 _).2.2 invalid⟩

/-- A member that is cut anywhere, or whose checksum or length is changed, is read neither as data
nor as a text. -/
theorem gunzip_damaged (data : ByteArray) :
    IsMember (compress data) data ∧
    (∀ front last, IsMember (front ++ last) data → last.size ≠ 0 →
      gunzip front = .error (.damaged (cutDamage (front ++ last).size front.size)) ∧
        gunzipText front = .error (.damaged (cutDamage (front ++ last).size front.size))) ∧
    ∀ front last tail, IsMember (front ++ last) data → last.size = 8 → tail.size = 8 →
      tail ≠ last →
      gunzip (front ++ tail) = .error (.damaged .checksum) ∧
        gunzipText (front ++ tail) = .error (.damaged .checksum) := by
  refine ⟨isMember_compress data, fun front last member cut => ?_,
    fun front last tail member eight whole changed => ?_⟩
  · have refused :
        gunzip front = .error (.damaged (cutDamage (front ++ last).size front.size)) := by
      rw [gunzip, member.decompress_cut cut, mapError_error]
    exact ⟨refused, gunzipText_damaged refused⟩
  · have refused : gunzip (front ++ tail) = .error (.damaged .checksum) := by
      rw [gunzip, member.decompress_changed eight whole changed, mapError_error]
    exact ⟨refused, gunzipText_damaged refused⟩

theorem storedMember_refused :
    let front := headed (storedStream [0x6f, 0x6b])
    let last := (trailer [0x6f, 0x6b]).toByteArray
    let longer := [0, 0, 0, 0, 3, 0, 0, 0].toByteArray
    IsMember (front ++ last) "ok".toUTF8 ∧ last.size = 8 ∧ longer ≠ last ∧
    gunzip front = .error (.damaged .truncated) ∧
    gunzip (front ++ longer) = .error (.damaged .checksum) := by
  intro front last longer
  have member : IsMember (front ++ last) "ok".toUTF8 := by
    have stored : IsMember (storedMember [0x6f, 0x6b]) "ok".toUTF8 := isMember_storedMember (by decide)
    have split : storedMember [0x6f, 0x6b] = front ++ last := by
      rw [← headed_append, List.toList_data_toByteArray]
      rfl
    rwa [split] at stored
  have size : last.size = 8 := rfl
  have changed : longer ≠ last := by
    intro same
    have fifth := congrArg (·.data[4]?) same
    simp [longer, last, trailer, littleEndian] at fifth
  exact ⟨member, size, changed, ((gunzip_damaged _).2.1 front last member (by decide)).1,
    ((gunzip_damaged _).2.2 front last longer member size rfl changed).1⟩

end Bayeux.Codec
