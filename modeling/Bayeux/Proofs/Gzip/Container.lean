import Bayeux.Gzip.Member
import Bayeux.Proofs.Gzip.Bits
import Bayeux.Proofs.Gzip.Extension
import Bayeux.Proofs.Gzip.Matching

set_option autoImplicit false

namespace Bayeux.Gzip

/-- The stream inflates to the data, and what is left over of it is less than a byte. -/
def Deflates (stream : List UInt8) (data : Array UInt8) : Prop :=
  ∃ fill : List Bool, fill.length < 8 ∧ inflate (bitsOf stream) = some (data, fill)

def headed (body : List UInt8) : ByteArray := (plainHeader ++ body).toByteArray

-- A member for the data: how its stream codes them is left open.
def IsMember (bytes data : ByteArray) : Prop :=
  ∃ stream, Deflates stream data.data ∧ bytes = headed (stream ++ trailer data.data.toList)

theorem deflates_deflate (data : Array UInt8) : Deflates (deflate data).toList data := by
  obtain ⟨fill, short, packed⟩ := bitsOf_packInto #[] (deflateBits (symbolsOf data))
  have bits : bitsOf (deflate data).toList = deflateBits (symbolsOf data) ++ fill := by
    simpa [deflate, bitsOf] using packed
  have body := inflate_deflateBits (symbolsOf data) (symbolsOf_covers data).encodable fill
  exact ⟨fill, short, by rw [bits, body, expand_symbolsOf]⟩

theorem isMember_compress (data : ByteArray) : IsMember (compress data) data := by
  refine ⟨_, deflates_deflate data.data, ?_⟩
  ext1
  simp [compress, headed]

@[simp] theorem length_trailer (data : List UInt8) : (trailer data).length = 8 := by
  simp [trailer]

section Stream

variable {stream : List UInt8} {data : Array UInt8} (deflates : Deflates stream data)

include deflates

theorem Deflates.ne_nil : stream ≠ [] := by
  rintro rfl
  obtain ⟨fill, -, inflated⟩ := deflates
  simp [bitsOf, inflate, inflateBlocks, readBits] at inflated

-- What follows the stream is what is left over, up to the last bits of the stream.
theorem Deflates.inflate_append (tail : List UInt8) :
    ∃ fill : List Bool, fill.length < 8 ∧
      inflate (bitsOf (stream ++ tail)) = some (data, fill ++ bitsOf tail) := by
  obtain ⟨fill, short, inflated⟩ := deflates
  refine ⟨fill, short, ?_⟩
  rw [bitsOf_append]
  exact Gzip.inflate_append _ _ _ _ inflated (by simp)

-- A stream that is cut has no end: with one the whole stream would end there too, and the bytes cut
-- off would be left over.
theorem Deflates.inflate_take {n : Nat} (cut : n < stream.length) :
    inflate (bitsOf (stream.take n)) = none := by
  obtain ⟨fill, short, inflated⟩ := deflates
  cases ended : inflate (bitsOf (stream.take n)) with
  | none => rfl
  | some found =>
    have longer := Gzip.inflate_append _ found.2 (bitsOf (stream.drop n)) found.1 ended (by simp)
    rw [← bitsOf_append, List.take_append_drop, inflated, Option.some.injEq, Prod.mk.injEq] at longer
    have lengths := congrArg List.length longer.2
    simp only [List.length_append, length_bitsOf, List.length_drop] at lengths
    omega

end Stream

theorem skipHeader_headed (body : List UInt8) : skipHeader (headed body).data.toList = .ok body := by
  simp [headed, skipHeader, plainHeader, hasFlag]
  rfl

theorem decompress_headed_nil : decompress (headed []) = .error .truncated := by
  simp [decompress, skipHeader_headed, bind, Except.bind]

theorem decompress_headed {body : List UInt8} (present : body ≠ []) :
    decompress (headed body) =
      match inflate (bitsOf body) with
      | none => .error .body
      | some (data, bits) => checkTrailer data (body.drop (body.length - bits.length / 8)) := by
  have entered : decompress (headed body) =
      if body.isEmpty then .error .truncated
      else
        match inflate (bitsOf body) with
        | none => .error .body
        | some (data, bits) => checkTrailer data (body.drop (body.length - bits.length / 8)) := by
    rw [decompress, skipHeader_headed]
    rfl
  rw [entered, if_neg (by simpa using present)]

-- The reader takes exactly the stream before it looks at the trailer.
theorem decompress_stream {stream : List UInt8} {data : Array UInt8}
    (deflates : Deflates stream data) (tail : List UInt8) :
    decompress (headed (stream ++ tail)) = checkTrailer data tail := by
  have present : stream ++ tail ≠ [] := by simp [deflates.ne_nil]
  obtain ⟨fill, short, inflated⟩ := deflates.inflate_append tail
  have left : (fill ++ bitsOf tail).length / 8 = tail.length := by
    simp only [List.length_append, length_bitsOf]
    omega
  rw [decompress_headed present, inflated]
  simp only [left]
  rw [List.length_append, Nat.add_sub_cancel, List.drop_left]

theorem checkTrailer_trailer (data : Array UInt8) (rest : List UInt8) :
    checkTrailer data (trailer data.toList ++ rest) = .ok ⟨data⟩ := by
  have long : ¬ (trailer data.toList ++ rest).length < 8 := by
    simp only [List.length_append, length_trailer]
    omega
  have first : (trailer data.toList ++ rest).take 8 = trailer data.toList :=
    List.take_left' (length_trailer data.toList)
  rw [checkTrailer, if_neg long, if_pos first]

theorem checkTrailer_short (data : Array UInt8) {tail : List UInt8} (short : tail.length < 8) :
    checkTrailer data tail = .error .truncated := by
  rw [checkTrailer, if_pos short]

theorem checkTrailer_changed (data : Array UInt8) {tail : List UInt8} (whole : tail.length = 8)
    (changed : tail ≠ trailer data.toList) : checkTrailer data tail = .error .checksum := by
  have all : tail.take 8 = tail := List.take_of_length_le (Nat.le_of_eq whole)
  rw [checkTrailer, if_neg (by omega), all, if_neg changed]

def cutDamage (size n : Nat) : Damage :=
  if plainHeader.length < n ∧ n + 8 < size then .body else .truncated

theorem skipHeader_short {bytes : List UInt8} (short : bytes.length < 10) :
    skipHeader bytes = .error .truncated := by
  unfold skipHeader
  split
  next =>
    simp only [List.length_cons] at short
    omega
  next => rfl

@[simp] theorem length_plainHeader : plainHeader.length = 10 := rfl

theorem size_headed (body : List UInt8) : (headed body).size = 10 + body.length := by
  rw [headed, List.size_toByteArray, List.length_append, length_plainHeader]

theorem headed_append (body : List UInt8) (rest : ByteArray) :
    headed (body ++ rest.data.toList) = headed body ++ rest := by
  apply ByteArray.ext
  apply Array.ext'
  simp [headed, ByteArray.data_append]

theorem headed_take (body : List UInt8) (n : Nat) :
    (headed body).extract 0 (10 + n) = headed (body.take n) := by
  have taken : (plainHeader ++ body).take (10 + n) = plainHeader ++ body.take n :=
    @List.take_length_add_append _ plainHeader body n
  ext1
  simp [headed, taken]

section Cut

variable {stream tail : List UInt8} {data : Array UInt8} (deflates : Deflates stream data)

theorem decompress_cut_header {body : List UInt8} {n : Nat} (cut : n < 10) :
    decompress ((headed body).extract 0 n) = .error .truncated := by
  have short : ((headed body).extract 0 n).data.toList.length < 10 := by
    simp
    omega
  rw [decompress, skipHeader_short short]
  rfl

include deflates

theorem decompress_cut_stream {n : Nat} (some : 0 < n) (cut : n < stream.length) :
    decompress (headed ((stream ++ tail).take n)) = .error .body := by
  have body : (stream ++ tail).take n = stream.take n :=
    List.take_append_of_le_length (Nat.le_of_lt cut)
  have present : stream.take n ≠ [] := by simp [deflates.ne_nil, Nat.ne_of_gt some]
  rw [body, decompress_headed present, deflates.inflate_take cut]

theorem decompress_cut_trailer {n : Nat} (whole : stream.length ≤ n)
    (cut : n < stream.length + 8) :
    decompress (headed ((stream ++ tail).take n)) = .error .truncated := by
  obtain ⟨m, rfl⟩ := Nat.exists_eq_add_of_le whole
  have short : (tail.take m).length < 8 := by
    rw [List.length_take]
    omega
  rw [List.take_length_add_append, decompress_stream deflates, checkTrailer_short data short]

end Cut

section Member

variable {bytes data : ByteArray} (member : IsMember bytes data)

include member

theorem IsMember.hasMagic : hasMagic bytes = true := by
  obtain ⟨stream, -, rfl⟩ := member
  simp [Gzip.hasMagic, headed, plainHeader]

theorem IsMember.decompress_append (rest : ByteArray) : decompress (bytes ++ rest) = .ok data := by
  obtain ⟨stream, deflates, rfl⟩ := member
  rw [← headed_append, List.append_assoc, decompress_stream deflates, checkTrailer_trailer]

end Member

section Damaged

variable {front last data : ByteArray} (member : IsMember (front ++ last) data)

include member

theorem IsMember.decompress_cut (cut : last.size ≠ 0) :
    decompress front = .error (cutDamage (front ++ last).size front.size) := by
  obtain ⟨stream, deflates, same⟩ := member
  have size := size_headed (stream ++ trailer data.data.toList)
  rw [← same, ByteArray.size_append, List.length_append, length_trailer] at size
  have taken : front = (headed (stream ++ trailer data.data.toList)).extract 0 front.size := by
    rw [← same, ByteArray.extract_append_eq_left rfl]
  rw [ByteArray.size_append, size]
  generalize front.size = n at taken size
  rw [taken]
  rcases Nat.lt_or_ge n 10 with inHeader | behind
  · rw [decompress_cut_header inHeader, cutDamage, if_neg]
    simp only [length_plainHeader]
    omega
  obtain ⟨m, rfl⟩ := Nat.exists_eq_add_of_le behind
  rw [headed_take]
  rcases Nat.eq_zero_or_pos m with rfl | positive
  · exact decompress_headed_nil
  rcases Nat.lt_or_ge m stream.length with inStream | inTrailer
  · rw [decompress_cut_stream deflates positive inStream, cutDamage, if_pos]
    simp only [length_plainHeader]
    omega
  · rw [decompress_cut_trailer deflates inTrailer (by omega), cutDamage, if_neg]
    omega

theorem IsMember.decompress_changed {tail : ByteArray} (eight : last.size = 8)
    (whole : tail.size = 8) (changed : tail ≠ last) :
    decompress (front ++ tail) = .error .checksum := by
  obtain ⟨stream, deflates, same⟩ := member
  have trailed := headed_append stream (trailer data.data.toList).toByteArray
  rw [List.data_toByteArray] at trailed
  rw [trailed] at same
  obtain ⟨rfl, rfl⟩ := (ByteArray.append_eq_append_iff_of_size_eq_right (by simp [eight])).mp same
  rw [← headed_append, decompress_stream deflates]
  refine checkTrailer_changed _ whole fun same => changed ?_
  ext1
  simp [← same]

end Damaged

end Bayeux.Gzip
