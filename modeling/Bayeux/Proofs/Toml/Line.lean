import Bayeux.Proofs.Toml.Quoted
import Bayeux.Toml.Parser

set_option autoImplicit false

namespace Bayeux.Toml

variable {quoted rest : List Char} {text : String} {draft : Draft}

theorem quote_of_readQuoted (read : readQuoted quoted = some (text, rest)) :
    ∃ more, quoted = '"' :: more ∨ quoted = '\'' :: more := by
  unfold readQuoted at read
  split at read
  · exact ⟨_, .inl rfl⟩
  · exact ⟨_, .inr rfl⟩
  · exact ⟨_, .inl rfl⟩
  · exact ⟨_, .inr rfl⟩
  · exact nomatch read

theorem readValue_quoted (read : readQuoted quoted = some (text, rest)) (fuel room : Nat) :
    readValue (fuel + 1) room quoted = some (.text text, rest) := by
  obtain ⟨more, rfl | rfl⟩ := quote_of_readQuoted read
  · simp [readValue, read]
  · simp [readValue, read]

theorem skipBlank_quoted (read : readQuoted quoted = some (text, rest)) :
    skipBlank quoted = quoted := by
  obtain ⟨more, rfl | rfl⟩ := quote_of_readQuoted read
  · rfl
  · rfl

theorem readLines_nil (fuel : Nat) (draft : Draft) : readLines fuel draft [] = some draft.root := by
  cases fuel <;> rfl

def thresholdKey : List Char := "message.zip_message_size_threshold".toList

def thresholdLine (quoted : List Char) : String :=
  String.ofList (thresholdKey ++ " = ".toList ++ quoted)

theorem readKey_threshold (quoted : List Char) :
    readKey (thresholdKey ++ " = ".toList ++ quoted) =
      some (["message"], "zip_message_size_threshold", '=' :: ' ' :: quoted) := rfl

theorem addKey_threshold (text : String) :
    addKey ["message"] "zip_message_size_threshold" (.text text) (.table .header []) =
      some (.table .header
        [("message", .table .dotted [("zip_message_size_threshold", .text text)])]) := rfl

theorem readEntry_threshold (read : readQuoted quoted = some (text, [])) :
    readEntry .start (thresholdKey ++ " = ".toList ++ quoted) =
      some (⟨.table .header
        [("message", .table .dotted [("zip_message_size_threshold", .text text)])], []⟩, []) := by
  have equals : takeChar '=' ('=' :: ' ' :: quoted) = some (' ' :: quoted) := rfl
  have blank : skipBlank (' ' :: quoted) = quoted := skipBlank_quoted read
  simp only [readEntry, readKey_threshold, equals, blank, Option.bind_eq_bind, Option.bind_some,
    readValue_quoted read, Draft.start, change, addKey_threshold, Option.pure_def]

theorem parse_thresholdLine (read : readQuoted quoted = some (text, [])) :
    parse (thresholdLine quoted) = some (.table .header
      [("message", .table .dotted [("zip_message_size_threshold", .text text)])]) := by
  have line : readLines ((thresholdKey ++ " = ".toList ++ quoted).length + 1) .start
      (thresholdKey ++ " = ".toList ++ quoted) =
        (readEntry .start (thresholdKey ++ " = ".toList ++ quoted)).bind fun step =>
          (skipLine step.2).bind (readLines (thresholdKey ++ " = ".toList ++ quoted).length step.1) := by
    rfl
  have unmarked : parse (thresholdLine quoted) =
      readLines ((thresholdKey ++ " = ".toList ++ quoted).length + 1) .start
        (thresholdKey ++ " = ".toList ++ quoted) := by
    rw [parse, thresholdLine, String.toList_ofList]
    rfl
  rw [unmarked, line, readEntry_threshold read]
  exact readLines_nil _ _

end Bayeux.Toml
