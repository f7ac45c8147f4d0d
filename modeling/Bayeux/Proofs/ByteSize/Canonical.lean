import Bayeux.Proofs.Binary64.Shortest
import Bayeux.Proofs.ByteSize.Reading

set_option autoImplicit false

namespace Bayeux.ByteSize

open Text

/-- Groups as a size is printed in: larger units first, and no number that the next unit could take. -/
structure Reduced (groups : List Group) : Prop where
  descending : groups.Pairwise fun a b => b.2.bytes < a.2.bytes
  positive : ∀ group ∈ groups, 0 < group.1
  small : ∀ group ∈ groups, group.2 ≠ .giga → group.1 < 1024

-- A group as it is printed: a number with no zeros in front and the letter of its unit.
inductive Shown : Group → List Char → Prop where
  | group {number : List Char} {n : Nat} {unit : SizeUnit} (decimal : Decimal number n)
      (leading : number.head? ≠ some '0') : Shown (n, unit) (number ++ [unit.letter])

inductive Canonical : List Char → Nat → Prop where
  | zero : Canonical ['0', 'B'] 0
  | row {groups : List Group} {cs : List Char} (present : groups ≠ []) (reduced : Reduced groups)
      (row : Row Shown groups cs) : Canonical cs (valueOf groups)

section Reduced

theorem bytes_lt_iff {small large : SizeUnit} :
    small.bytes < large.bytes ↔ small ≠ .giga ∧ 1024 * small.bytes ≤ large.bytes := by
  cases small <;> cases large <;> decide

theorem bytes_inj {a b : SizeUnit} (same : a.bytes = b.bytes) : a = b := by
  cases a <;> cases b <;> first | rfl | exact absurd same (by decide)

variable {group : Group} {groups : List Group}

theorem Reduced.tail (reduced : Reduced (group :: groups)) : Reduced groups where
  descending := reduced.descending.of_cons
  positive := fun other member => reduced.positive other (List.mem_cons_of_mem group member)
  small := fun other member => reduced.small other (List.mem_cons_of_mem group member)

theorem Reduced.valueOf_lt (reduced : Reduced groups) {unit : SizeUnit}
    (below : ∀ group ∈ groups, group.2.bytes < unit.bytes) : valueOf groups < unit.bytes := by
  induction groups generalizing unit with
  | nil => exact bytes_pos unit
  | cons group groups ih =>
    obtain ⟨notGiga, room⟩ := bytes_lt_iff.mp (below group (by simp))
    have number : group.1 < 1024 := reduced.small group (by simp) notGiga
    have later : valueOf groups < group.2.bytes :=
      ih reduced.tail (List.pairwise_cons.mp reduced.descending).1
    calc valueOf (group :: groups) = group.1 * group.2.bytes + valueOf groups := rfl
      _ < group.1 * group.2.bytes + group.2.bytes := Nat.add_lt_add_left later _
      _ = (group.1 + 1) * group.2.bytes := (Nat.succ_mul ..).symm
      _ ≤ 1024 * group.2.bytes := Nat.mul_le_mul_right _ number
      _ ≤ unit.bytes := room

theorem Reduced.later_lt (reduced : Reduced (group :: groups)) : valueOf groups < group.2.bytes :=
  reduced.tail.valueOf_lt (List.pairwise_cons.mp reduced.descending).1

theorem Reduced.le_value (reduced : Reduced (group :: groups)) :
    group.2.bytes ≤ valueOf (group :: groups) := by
  have once : group.2.bytes ≤ group.1 * group.2.bytes :=
    Nat.le_mul_of_pos_left _ (reduced.positive group (by simp))
  exact Nat.le_trans once (Nat.le_add_right ..)

theorem Reduced.unit_le {other : Group} {others : List Group} (reduced : Reduced (group :: groups))
    (reduced' : Reduced (other :: others))
    (same : valueOf (group :: groups) = valueOf (other :: others)) :
    group.2.bytes ≤ other.2.bytes := by
  refine Nat.le_of_not_lt fun smaller => ?_
  have below : ∀ g ∈ other :: others, g.2.bytes < group.2.bytes := by
    intro g member
    rcases List.mem_cons.mp member with rfl | later
    · exact smaller
    · exact Nat.lt_trans ((List.pairwise_cons.mp reduced'.descending).1 g later) smaller
  have high := reduced'.valueOf_lt below
  have low := reduced.le_value
  omega

theorem Reduced.unique {others : List Group} (reduced : Reduced groups) (reduced' : Reduced others)
    (same : valueOf groups = valueOf others) : groups = others := by
  induction groups generalizing others with
  | nil =>
    cases others with
    | nil => rfl
    | cons other others =>
      have some := reduced'.le_value
      have := bytes_pos other.2
      rw [← same, valueOf_nil] at some
      omega
  | cons group groups ih =>
    cases others with
    | nil =>
      have some := reduced.le_value
      have := bytes_pos group.2
      rw [same, valueOf_nil] at some
      omega
    | cons other others =>
      obtain ⟨n, unit⟩ := group
      obtain ⟨m, unit'⟩ := other
      obtain rfl : unit = unit' := bytes_inj
        (Nat.le_antisymm (reduced.unit_le reduced' same) (reduced'.unit_le reduced same.symm))
      have later := reduced.later_lt
      have later' := reduced'.later_lt
      simp only [valueOf_cons, Group.value] at same later later'
      have numbers : n = m := by
        have := congrArg (· / unit.bytes) same
        simpa [Nat.mul_add_div (bytes_pos unit), Nat.mul_comm _ unit.bytes,
          Nat.div_eq_of_lt later, Nat.div_eq_of_lt later'] using this
      subst numbers
      rw [ih reduced.tail reduced'.tail (Nat.add_left_cancel same)]

end Reduced

section Groups

theorem valueOf_filter (groups : List Group) :
    valueOf (groups.filter fun group => group.1 != 0) = valueOf groups := by
  induction groups with
  | nil => rfl
  | cons group groups ih =>
    by_cases zero : group.1 = 0
    · simp [zero, ih, Group.value]
    · simp [zero, ih]

theorem valueOf_groupsOf (n : Nat) : valueOf (groupsOf n) = n := by
  rw [groupsOf, valueOf_filter]
  simp only [valueOf_cons, valueOf_nil, Group.value, SizeUnit.bytes]
  omega

theorem reduced_groupsOf (n : Nat) : Reduced (groupsOf n) where
  descending := by
    refine List.Pairwise.filter _ ?_
    simp [SizeUnit.bytes]
  positive := by
    intro group member
    have := (List.mem_filter.mp member).2
    exact Nat.pos_of_ne_zero (by simpa using this)
  small := by
    intro group member notGiga
    have listed := (List.mem_filter.mp member).1
    simp only [List.mem_cons, List.not_mem_nil, or_false] at listed
    have below (m : Nat) : m % 1024 < 1024 := Nat.mod_lt m (by decide)
    rcases listed with rfl | rfl | rfl | rfl
    · exact absurd rfl notGiga
    all_goals exact below _

theorem groupsOf_valueOf {groups : List Group} (reduced : Reduced groups) :
    groupsOf (valueOf groups) = groups :=
  (reduced_groupsOf _).unique reduced (valueOf_groupsOf _)

end Groups

theorem shown_iff {group : Group} {cs : List Char} (positive : 0 < group.1) :
    Shown group cs ↔ cs = group.text := by
  constructor
  · rintro ⟨decimal, leading⟩
    rw [decimal.eq_toDigits leading]
    rfl
  · rintro rfl
    obtain ⟨c, rest, start, notZero⟩ := (Binary64.leading_toDigits positive).first
    exact .group (decimal_toDigits group.1) (by simp [start, notZero])

theorem row_shown_iff {groups : List Group} (positive : ∀ group ∈ groups, 0 < group.1)
    {cs : List Char} : Row Shown groups cs ↔ cs = textOf groups := by
  constructor
  · intro row
    induction row with
    | nil => rfl
    | cons first later ih =>
      rw [(shown_iff (positive _ (by simp))).mp first,
        ih fun group member => positive group (List.mem_cons_of_mem _ member)]
      rfl
  · rintro rfl
    induction groups with
    | nil => exact .nil
    | cons group groups ih =>
      exact .cons ((shown_iff (positive _ (by simp))).mpr rfl)
        (ih fun group member => positive group (List.mem_cons_of_mem _ member))

theorem canonical_chars (size : ByteSize) : Canonical size.chars size.toNat := by
  unfold chars
  split
  next zero =>
    rw [zero]
    exact .zero
  next notZero =>
    have reduced := reduced_groupsOf size.toNat
    have row := (row_shown_iff reduced.positive).mpr rfl
    have value := valueOf_groupsOf size.toNat
    have present : groupsOf size.toNat ≠ [] := by
      intro none
      rw [none, valueOf_nil] at value
      exact notZero value.symm
    have canonical := Canonical.row present reduced row
    rwa [value] at canonical

theorem Canonical.chars_eq {cs : List Char} {size : ByteSize} (canonical : Canonical cs size.toNat) :
    size.chars = cs := by
  unfold chars
  generalize size.toNat = v at canonical
  cases canonical with
  | zero => rfl
  | row present reduced row =>
    obtain ⟨group, groups, rfl⟩ := List.exists_cons_of_ne_nil present
    have least := reduced.le_value
    have some := bytes_pos group.2
    rw [if_neg (by omega), groupsOf_valueOf reduced, (row_shown_iff reduced.positive).mp row]

end Bayeux.ByteSize
