import Bayeux.Codec.Behavior
import Bayeux.Proofs.Json.Integers

set_option autoImplicit false

namespace Bayeux.Codec

open Json

theorem generate_eq (fields : JsonMap) : generate fields = (Json.object fields).text := rfl

-- The object itself is one of the containers that the reader counts.
theorem fits_iff {fields : JsonMap} :
    (Json.object fields).depth ≤ maxDepth ↔ ∀ v ∈ fields.values, v.depth ≤ 126 := by
  rw [Json.depth, maxDepth, Nat.succ_le_succ_iff, membersDepth_le_iff]

section Whole

variable {fields : JsonMap} (sorted : fields.Sorted)
  (whole : ∀ v ∈ fields.values, v.Holds Number.IsInteger)

include sorted whole

theorem holds_object : (Json.object fields).Holds Number.IsInteger :=
  ⟨sorted, membersHold_iff.mpr whole⟩

theorem parse_generate_fits (shallow : ∀ v ∈ fields.values, v.depth ≤ 126) :
    parse (generate fields) = .ok fields := by
  have ordered := holds_object sorted whole
  have stable := ordered.reread fun _ whole => whole.reread
  have read := (parse_text_ok_iff ordered).mpr ⟨stable, fits_iff.mpr shallow⟩
  simp only [parse, generate_eq, read]

theorem parse_generate_deep (deep : ¬ ∀ v ∈ fields.values, v.depth ≤ 126) :
    ∃ position, parse (generate fields) =
      .error (.parse ⟨"recursion limit exceeded", some position⟩) := by
  have ordered := holds_object sorted whole
  have stable := ordered.reread fun _ whole => whole.reread
  rw [← fits_iff, Nat.not_le] at deep
  obtain ⟨position, read⟩ := parse_text_deep ordered stable deep
  exact ⟨position, by simp only [parse, generate_eq, read]⟩

/-- What is written of whole numbers, texts and containers is read back as it was as long as no
field nests more than 126 containers, whatever the codec was asked before. -/
theorem parse_generate (before after : List CodecCall) :
    ∃ text, Behavior.faithful.generate before fields = .ok text ∧
      ((∀ v ∈ fields.values, v.depth ≤ 126) → Behavior.faithful.parse after text = .ok fields) ∧
      ((¬ ∀ v ∈ fields.values, v.depth ≤ 126) → ∃ position, Behavior.faithful.parse after text =
        .error (.parse ⟨"recursion limit exceeded", some position⟩)) :=
  ⟨generate fields, rfl, parse_generate_fits sorted whole, parse_generate_deep sorted whole⟩

end Whole

def mixedFields : JsonMap :=
  [("", .string "a\"b\\c\n\x01😀"),
   ("ends", .array [.number (.int (-2 ^ 63)), .number (.int (2 ^ 64 - 1))]),
   ("é", .object [("a", .array []), ("b", .null)])]

theorem mixedFields_roundTrip : mixedFields.Sorted ∧
    (∀ v ∈ mixedFields.values, v.Holds Number.IsInteger) ∧
    ∃ text, Behavior.faithful.generate [] mixedFields = .ok text ∧
      Behavior.faithful.parse [] text = .ok mixedFields := by
  have sorted : mixedFields.Sorted := by
    unfold Table.Sorted
    decide
  have inner : Table.Sorted [("a", Json.array []), ("b", .null)] := by
    unfold Table.Sorted
    decide
  have whole : ∀ v ∈ mixedFields.values, v.Holds Number.IsInteger := by
    simp [mixedFields, Table.values, Json.Holds, ItemsHold, MembersHold, Number.IsInteger,
      Number.InRange, inner]
  obtain ⟨text, generated, parsed, -⟩ := parse_generate sorted whole [] []
  exact ⟨sorted, whole, text, generated, parsed (by decide)⟩

end Bayeux.Codec
