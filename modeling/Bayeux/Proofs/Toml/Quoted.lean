import Bayeux.Proofs.Json.Strings
import Bayeux.Toml.Text

set_option autoImplicit false

namespace Bayeux.Toml

def quoteChar (c : Char) : List Char :=
  if c = '"' then ['\\', '"']
  else if c = '\\' then ['\\', '\\']
  else if isTextChar c then [c]
  else ['\\', 'u', '0', '0', Json.hexDigit (c.toNat / 16), Json.hexDigit c.toNat]

def quoteChars (s : String) : List Char := '"' :: (s.toList.flatMap quoteChar ++ ['"'])

theorem toNat_of_not_isTextChar {c : Char} (other : isTextChar c = false) : c.toNat < 0x80 := by
  simp only [isTextChar, Bool.or_eq_false_iff, Bool.and_eq_false_iff, decide_eq_false_iff_not] at other
  rcases other.2 with small | delete
  · have : c.toNat < 0x20 := by
      simpa [Char.le_def, UInt32.le_iff_toNat_le] using small
    omega
  · have : c = '\x7f' := by simpa using delete
    subst this
    decide

theorem readText_code {c : Char} (small : c.toNat < 0x80) (done rest : List Char) :
    readText basicForm .plain done
        ('\\' :: 'u' :: '0' :: '0' :: Json.hexDigit (c.toNat / 16) :: Json.hexDigit c.toNat :: rest) =
      readText basicForm .plain (c :: done) rest := by
  have zero : Text.hexValue? '0' = some 0 := by decide
  have value : 16 * (c.toNat / 16 % 16) + c.toNat % 16 = c.toNat := by omega
  have point : isCodePoint c.toNat = true := by
    simp only [isCodePoint, Bool.or_eq_true, decide_eq_true_eq]
    omega
  simp [readText, basicForm, escaped, coded, zero, Json.hexValue?_hexDigit, value, point]

theorem readText_quoteChar (c : Char) (done rest : List Char) :
    readText basicForm .plain done (quoteChar c ++ rest) =
      readText basicForm .plain (c :: done) rest := by
  by_cases quote : c = '"'
  · subst quote
    simp [quoteChar, readText, basicForm, escaped]
  by_cases backslash : c = '\\'
  · subst backslash
    simp [quoteChar, readText, basicForm, escaped]
  cases plain : isTextChar c with
  | true => simp [quoteChar, quote, backslash, plain, readText, basicForm]
  | false =>
    simpa [quoteChar, quote, backslash, plain] using
      readText_code (toNat_of_not_isTextChar plain) done rest

theorem readText_flatMap (cs done rest : List Char) :
    readText basicForm .plain done (cs.flatMap quoteChar ++ '"' :: rest) =
      some (String.ofList (done.reverse ++ cs), rest) := by
  induction cs generalizing done with
  | nil => simp [readText, basicForm]
  | cons c cs ih =>
    rw [List.flatMap_cons, List.append_assoc, readText_quoteChar, ih]
    simp

theorem head_quoteChar (c : Char) : ∃ d rest, quoteChar c = d :: rest ∧ d ≠ '"' := by
  unfold quoteChar
  split
  · exact ⟨_, _, rfl, by decide⟩
  next notQuote =>
    split
    · exact ⟨_, _, rfl, by decide⟩
    · split
      · exact ⟨_, _, rfl, notQuote⟩
      · exact ⟨_, _, rfl, by decide⟩

theorem readQuoted_quoteChars (s : String) : readQuoted (quoteChars s) = some (s, []) := by
  have basic : readBasic (s.toList.flatMap quoteChar ++ ['"']) = some (s, []) := by
    rw [readBasic, readText_flatMap]
    simp
  cases chars : s.toList with
  | nil =>
    rw [chars] at basic
    simpa [quoteChars, chars, readQuoted] using basic
  | cons c cs =>
    obtain ⟨d, rest, first, other⟩ := head_quoteChar c
    rw [chars] at basic
    simp only [List.flatMap_cons, first, List.cons_append] at basic
    simp only [quoteChars, chars, List.flatMap_cons, first, List.cons_append]
    rw [readQuoted]
    · exact basic
    · rintro more same
      exact other (List.cons.inj same).1

end Bayeux.Toml
