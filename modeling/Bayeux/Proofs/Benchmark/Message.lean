import Bayeux.Benchmark.Basic
import Bayeux.Proofs.Codec.RoundTrip
import Bayeux.Proofs.Json.Reading
import Bayeux.Proofs.Text.Numeral

set_option autoImplicit false

namespace Bayeux

namespace Text

theorem utf8ByteSize_digits {cs : List Char} (digits : ∀ c ∈ cs, c.isDigit = true) :
    (String.ofList cs).utf8ByteSize = cs.length := by
  induction cs with
  | nil => rfl
  | cons c rest ih =>
    obtain ⟨digit, digits⟩ := List.forall_mem_cons.mp digits
    have narrow : c.utf8Size = 1 := by
      obtain ⟨-, high⟩ := (isDigit_iff c).mp digit
      rw [Char.utf8Size_eq_one_iff]
      exact UInt32.le_iff_toNat_le.mpr (by simpa using by omega)
    rw [← List.singleton_append, String.ofList_append, String.utf8ByteSize_append, ih digits,
      ← String.singleton_eq_ofList, String.utf8ByteSize_singleton, narrow, List.length_append]
    rfl

theorem utf8ByteSize_toString (n : Nat) :
    (toString n).utf8ByteSize = (Nat.toDigits 10 n).length := by
  rw [Nat.toString_eq_ofList_toDigits]
  exact utf8ByteSize_digits fun c member =>
    Nat.isDigit_of_mem_toDigits (by decide) (by decide) member

end Text

namespace Json

def Unescaped (s : String) : Prop := ∀ c ∈ s.toList, escapeChar c = [c]

theorem flatMap_escapeChar {cs : List Char} (unescaped : ∀ c ∈ cs, escapeChar c = [c]) :
    cs.flatMap escapeChar = cs := by
  induction cs with
  | nil => rfl
  | cons c rest ih =>
    obtain ⟨first, others⟩ := List.forall_mem_cons.mp unescaped
    rw [List.flatMap_cons, first, ih others, List.singleton_append]

theorem stringChars_of_unescaped {s : String} (unescaped : Unescaped s) :
    stringChars s = '"' :: (s.toList ++ ['"']) := by
  rw [stringChars, flatMap_escapeChar unescaped]

theorem unescaped_of_all {s : String} (all : s.toList.all fun c => escapeChar c = [c]) :
    Unescaped s :=
  fun c member => of_decide_eq_true (List.all_eq_true.mp all c member)

theorem Unescaped.append {s t : String} (first : Unescaped s) (second : Unescaped t) :
    Unescaped (s ++ t) := by
  intro c member
  rw [String.toList_append, List.mem_append] at member
  exact member.elim (first c) (second c)

theorem unescaped_toString (n : Nat) : Unescaped (toString n) := by
  intro c member
  rw [Nat.toString_eq_ofList_toDigits, String.toList_ofList] at member
  have digit : c.isDigit := Nat.isDigit_of_mem_toDigits (by decide) (by decide) member
  obtain ⟨low, -⟩ := (Text.isDigit_iff c).mp digit
  rw [escapeChar, if_neg, if_neg, if_neg]
  · omega
  · rintro rfl
    exact absurd digit (by decide)
  · rintro rfl
    exact absurd digit (by decide)

end Json

namespace Benchmark

open Json

def messageFields (payload : JsonMap) (number : String) : JsonMap :=
  [(FieldName.channel, .string ("/inventory/managedObjects/" ++ number)),
    (FieldName.clientId, .string clientId),
    (FieldName.data, .object payload),
    (FieldName.id, .string number)]

def messageText (payload : JsonMap) (number : String) : String :=
  Codec.generate (messageFields payload number)

section Text

variable (payload : JsonMap)

theorem messageText_eq (number : String) (unescaped : Unescaped number) :
    messageText payload number =
      "\x7b\"channel\":\"/inventory/managedObjects/" ++ number ++
        "\",\"clientId\":\"cometd-bench\",\"data\":" ++ (Json.object payload).text ++
        ",\"id\":\"" ++ number ++ "\"\x7d" := by
  have channel : Unescaped ("/inventory/managedObjects/" ++ number) :=
    .append (unescaped_of_all (by decide)) unescaped
  apply String.toList_injective
  simp only [messageText, messageFields, Codec.generate, Json.text, chars, memberChars,
    stringChars_of_unescaped unescaped, stringChars_of_unescaped channel, String.toList_append,
    String.toList_ofList, List.append_assoc, List.cons_append]
  rfl

-- The bytes of the text of message `i`: those without the digits of its number, and the digits,
-- which are written twice.
def messageSize (i : Nat) : Nat :=
  (messageText payload "").utf8ByteSize + 2 * (Nat.toDigits 10 i).length

theorem utf8ByteSize_messageText (i : Nat) :
    (messageText payload (toString i)).utf8ByteSize = messageSize payload i := by
  rw [messageSize, messageText_eq payload _ (unescaped_toString i), messageText_eq payload "" nofun]
  simp only [String.utf8ByteSize_append, Text.utf8ByteSize_toString, String.utf8ByteSize_empty]
  omega

end Text

theorem parse_messageText {payload : JsonMap} (whole : (Json.object payload).Holds Number.IsInteger)
    (shallow : (Json.object payload).depth ≤ 126) (number : String) :
    Codec.parse (messageText payload number) = .ok (messageFields payload number) := by
  have sorted : (messageFields payload number).Sorted := by
    show List.Pairwise (· < ·)
      [FieldName.channel, FieldName.clientId, FieldName.data, FieldName.id]
    decide
  refine Codec.parse_generate_fits sorted ?_ ?_
  · simpa [messageFields, Table.values, Json.Holds] using whole
  · simpa [messageFields, Table.values, Json.depth] using shallow

theorem inRange_inventoryUpdate : (Json.object inventoryUpdate).InRange := by
  simp only [inventoryUpdate, referenceList, objectUrl, Json.InRange, Json.Holds, ItemsHold,
    MembersHold, Table.Sorted]
  decide +kernel

theorem inRange_of_loadPayload {benchmark : Benchmark} {folder : Folder} {payload : JsonMap}
    (loaded : benchmark.loadPayload folder = .ok payload) : (Json.object payload).InRange := by
  unfold loadPayload at loaded
  split at loaded
  · cases loaded
    exact inRange_inventoryUpdate
  split at loaded
  · cases loaded
  next text _ =>
    cases read : Json.parse text with
    | error problem => simp [Codec.parse, read] at loaded
    | ok v =>
      cases v <;> simp [Codec.parse, read] at loaded
      exact loaded ▸ inRange_of_parse read

end Benchmark

end Bayeux
