import Bayeux.Proofs.Gzip.Coding

set_option autoImplicit false

namespace Bayeux.Gzip

@[simp] theorem matchLength_zero (data : Array UInt8) (i j : Nat) :
    matchLength data 0 i j = 0 := rfl

theorem matchLength_succ (data : Array UInt8) (limit i j : Nat) :
    matchLength data (limit + 1) i j =
      if i < data.size ∧ j < data.size ∧ data[i]? = data[j]? then
        matchLength data limit (i + 1) (j + 1) + 1
      else 0 := by
  change (if h : i < data.size ∧ j < data.size then
    if data[i] = data[j] then matchLength data limit (i + 1) (j + 1) + 1 else 0 else 0) = _
  by_cases inside : i < data.size ∧ j < data.size
  · simp [inside]
  · rw [dif_neg inside, if_neg fun both => inside ⟨both.1, both.2.1⟩]

theorem matchLength_le (data : Array UInt8) (limit i j : Nat) : matchLength data limit i j ≤ limit := by
  induction limit generalizing i j with
  | zero => simp
  | succ limit ih =>
    rw [matchLength_succ]
    split
    · exact Nat.succ_le_succ (ih (i + 1) (j + 1))
    · omega

theorem matchLength_inside (data : Array UInt8) (limit i j : Nat) (start : i ≤ data.size) :
    i + matchLength data limit i j ≤ data.size := by
  induction limit generalizing i j with
  | zero => simpa using start
  | succ limit ih =>
    rw [matchLength_succ]
    split
    next same =>
      have := ih (i + 1) (j + 1) same.1
      omega
    next => exact start

theorem getElem?_of_matchLength (data : Array UInt8) (limit i j k : Nat)
    (matched : k < matchLength data limit i j) : data[i + k]? = data[j + k]? := by
  induction limit generalizing i j k with
  | zero => simp at matched
  | succ limit ih =>
    rw [matchLength_succ] at matched
    split at matched
    next same =>
      cases k with
      | zero => exact same.2.2
      | succ k =>
        have next := ih (i + 1) (j + 1) k (by omega)
        have left : i + (k + 1) = i + 1 + k := by omega
        have right : j + (k + 1) = j + 1 + k := by omega
        rw [left, right, next]
    next => omega

theorem push_extract (data : Array UInt8) (i : Nat) (inside : i < data.size) :
    (data.extract 0 i).push data[i] = data.extract 0 (i + 1) := by
  simp

theorem copyBack_extract (data : Array UInt8) (distance length i : Nat) (behind : 1 ≤ distance)
    (start : distance ≤ i) (inside : i + length ≤ data.size)
    (repeated : ∀ k < length, data[i + k]? = data[i - distance + k]?) :
    copyBack distance length (data.extract 0 i) = data.extract 0 (i + length) := by
  induction length generalizing i with
  | zero => rfl
  | succ length ih =>
    have size : (data.extract 0 i).size = i := by
      simp only [Array.size_extract]
      omega
    have byte : (data.extract 0 i).getD (i - distance) 0 = data[i] := by
      have first := repeated 0 (by omega)
      simp only [Nat.add_zero] at first
      rw [Array.getElem?_eq_getElem (by omega), Array.getElem?_eq_getElem (by omega)] at first
      have within : i - distance < (data.extract 0 i).size := by omega
      simp only [Array.getD, within, dif_pos, Array.getInternal_eq_getElem, Array.getElem_extract,
        Nat.zero_add]
      exact (Option.some.inj first).symm
    simp only [copyBack, size, start, if_true, byte]
    rw [push_extract data i (by omega), ih (i + 1) (by omega) (by omega)]
    · congr 1
      omega
    · intro k bound
      have next := repeated (k + 1) (by omega)
      have left : i + 1 + k = i + (k + 1) := by omega
      have right : i + 1 - distance + k = i - distance + (k + 1) := by omega
      rw [left, right, next]

-- The symbols stand for the first `i` bytes of the data.
structure Covers (data : Array UInt8) (i : Nat) (symbols : List Symbol) : Prop where
  encodable : ∀ symbol ∈ symbols, symbol.Encodable
  expands : expand symbols = data.extract 0 i

theorem Covers.append (data : Array UInt8) (i j : Nat) (symbols : List Symbol) (symbol : Symbol)
    (covers : Covers data i symbols) (encodable : symbol.Encodable)
    (grows : symbol.apply (data.extract 0 i) = data.extract 0 j) :
    Covers data j (symbols ++ [symbol]) := by
  constructor
  · intro other member
    rcases List.mem_append.mp member with earlier | last
    · exact covers.encodable other earlier
    · rw [List.mem_singleton.mp last]
      exact encodable
  · have start : symbols.foldl Symbol.apply #[] = data.extract 0 i := covers.expands
    simp [expand, List.foldl_append, start, grows]

theorem symbolsFrom_covers (data : Array UInt8) (fuel i : Nat) (recent : Array Nat)
    (done : List Symbol) (enough : data.size ≤ i + fuel) (start : i ≤ data.size)
    (covers : Covers data i done.reverse) :
    Covers data data.size (symbolsFrom data fuel i recent done) := by
  induction fuel generalizing i recent done with
  | zero =>
    have finished : i = data.size := by omega
    rw [symbolsFrom, ← finished]
    exact covers
  | succ fuel ih =>
    rw [symbolsFrom]
    split
    next inside =>
      extract_lets slot seen distance length recent
      split
      next long =>
        have found : 0 < seen ∧ seen ≤ i ∧ distance ≤ maxDistance ∧
            length = matchLength data maxLength i (seen - 1) := by
          by_cases usable : (0 < seen && seen ≤ i && distance ≤ maxDistance) = true
          · simp only [Bool.and_eq_true, decide_eq_true_eq] at usable
            exact ⟨usable.1.1, usable.1.2, usable.2, by simp [length, usable]⟩
          · simp [length, usable] at long
        obtain ⟨positive, earlier, near, matched⟩ := found
        have short := matchLength_le data maxLength i (seen - 1)
        have bounded := matchLength_inside data maxLength i (seen - 1) start
        have back : i - distance = seen - 1 := by omega
        apply ih (i + length) recent _ (by omega) (by omega)
        rw [List.reverse_cons]
        refine covers.append data i _ _ _ ⟨long, by omega, by omega, near⟩ ?_
        apply copyBack_extract data distance length i (by omega) (by omega) (by omega)
        intro k bound
        rw [back]
        exact getElem?_of_matchLength data maxLength i (seen - 1) k (by omega)
      next =>
        apply ih (i + 1) recent _ (by omega) inside
        rw [List.reverse_cons]
        exact covers.append data i _ _ (.literal data[i]) trivial (push_extract data i inside)
    next outside =>
      have finished : i = data.size := by omega
      rw [← finished]
      exact covers

theorem symbolsOf_covers (data : Array UInt8) : Covers data data.size (symbolsOf data) :=
  symbolsFrom_covers data data.size 0 _ [] (by omega) (by omega)
    ⟨by simp, by simp [expand]⟩

theorem expand_symbolsOf (data : Array UInt8) : expand (symbolsOf data) = data := by
  simpa using (symbolsOf_covers data).expands

end Bayeux.Gzip
