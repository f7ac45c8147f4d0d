set_option autoImplicit false

namespace Bayeux

-- Powers and sums of natural numbers are those of the core library, whatever else is imported.
attribute [instance (high), default_instance high] instPowNat

instance instZeroNat : Zero Nat := ⟨0⟩

variable {ε ε' α : Type}

@[simp] theorem mapError_ok (f : ε → ε') (a : α) :
    (Except.ok a : Except ε α).mapError f = .ok a := rfl

@[simp] theorem mapError_error (f : ε → ε') (e : ε) :
    (Except.error e : Except ε α).mapError f = .error (f e) := rfl

end Bayeux
