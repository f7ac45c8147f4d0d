import Bayeux.Proofs.Text.Numeral
import Bayeux.Text.LowerCase

set_option autoImplicit false

namespace Bayeux.Text

theorem smallLetters_of_isDigit {c : Char} (digit : c.isDigit = true) (before rest : List Char) :
    smallLetters before c rest = [c] := by
  obtain ⟨low, high⟩ := (isDigit_iff c).mp digit
  have all : ∀ n ≤ 57, 48 ≤ n → capitalRanges.find? (·.contains n) = none := by decide
  have same : smallLetter c = c := by rw [smallLetter, all c.toNat high low]
  unfold smallLetters
  split
  next => exact absurd digit (by decide)
  next => exact absurd digit (by decide)
  next => rw [same]

theorem mem_lowerCaseAfter {c : Char} (digit : c.isDigit = true) {before cs : List Char}
    (member : c ∈ cs) : c ∈ lowerCaseAfter before cs := by
  induction cs generalizing before with
  | nil => exact absurd member List.not_mem_nil
  | cons d rest ih =>
    rw [lowerCaseAfter, List.mem_append]
    rcases List.mem_cons.mp member with rfl | later
    · exact .inl (by simp [smallLetters_of_isDigit digit])
    · exact .inr (ih later)

theorem mem_lowerCase {c : Char} (digit : c.isDigit = true) {s : String} (member : c ∈ s.toList) :
    c ∈ (lowerCase s).toList := by
  rw [lowerCase, String.toList_ofList]
  exact mem_lowerCaseAfter digit member

end Bayeux.Text
