import Bayeux.Gzip.Inflate

set_option autoImplicit false

namespace Bayeux.Gzip

variable {α β : Type}

/-- What `short` finds in some bits, `long` finds as well when whole bytes stand behind them, and it
leaves these alone. -/
def Extends (short long : List Bool → Option (α × List Bool)) : Prop :=
  ∀ bits found rest, short bits = some (found, rest) →
    ∀ more : List Bool, more.length % 8 = 0 → long (bits ++ more) = some (found, rest ++ more)

namespace Extends

theorem nothing (long : List Bool → Option (α × List Bool)) : Extends (fun _ => none) long := by
  intro bits found rest none
  simp at none

theorem found (a : α) : Extends (fun bits => some (a, bits)) (fun bits => some (a, bits)) := by
  intro bits found rest same more _
  simp only [Option.some.injEq, Prod.mk.injEq] at same ⊢
  exact ⟨same.1, by rw [same.2]⟩

theorem bind {short long : List Bool → Option (α × List Bool)}
    {next next' : α × List Bool → Option (β × List Bool)} (first : Extends short long)
    (later : ∀ a, Extends (fun bits => next (a, bits)) (fun bits => next' (a, bits))) :
    Extends (fun bits => short bits >>= next) (fun bits => long bits >>= next') := by
  intro bits found rest read more whole
  obtain ⟨⟨a, between⟩, begun, ended⟩ := Option.bind_eq_some_iff.mp read
  have begun' := first bits a between begun more whole
  have ended' := later a between found rest ended more whole
  exact Option.bind_eq_some_iff.mpr ⟨_, begun', ended'⟩

theorem guarded {p : Prop} [Decidable p] {short long : List Bool → Option (α × List Bool)}
    {other other' : List Bool → Option (α × List Bool)} (yes : Extends short long)
    (no : Extends other other') :
    Extends (fun bits => if p then short bits else other bits)
      (fun bits => if p then long bits else other' bits) := by
  by_cases holds : p
  · simpa only [holds, if_true] using yes
  · simpa only [holds, if_false] using no

end Extends

theorem readBits_extends (size : Nat) : Extends (readBits size) (readBits size) := by
  induction size with
  | zero => exact .found 0
  | succ size ih =>
    intro bits found rest read more whole
    cases bits with
    | nil => simp [readBits] at read
    | cons bit bits =>
      let next (found : Nat × List Bool) := some (bit.toNat + 2 * found.1, found.2)
      have later : Extends (readBits size · >>= next) (readBits size · >>= next) :=
        ih.bind fun n => .found (bit.toNat + 2 * n)
      exact later bits found rest read more whole

theorem CodeTree.read_extends (tree : CodeTree) : Extends tree.read tree.read := by
  intro bits symbol rest read more _
  exact tree.read_append bits rest more symbol read

theorem readInRange_extends (ranges : List CodeRange) (code : Nat) :
    Extends (readInRange ranges code) (readInRange ranges code) := by
  unfold readInRange
  cases ranges[code]? with
  | none => exact .nothing _
  | some range => exact (readBits_extends range.extra).bind fun n => .found (range.base + n)

theorem readSymbol_extends (literals distances : CodeTree) :
    Extends (readSymbol literals distances) (readSymbol literals distances) := by
  refine literals.read_extends.bind fun symbol => .guarded (.found _) (.guarded (.found _) ?_)
  refine (readInRange_extends lengthRanges _).bind fun length => ?_
  refine distances.read_extends.bind fun code => ?_
  exact (readInRange_extends distanceRanges code).bind fun distance => .found _

theorem inflateSymbols_succ (literals distances : CodeTree) (fuel : Nat) (out : Array UInt8)
    (bits : List Bool) :
    inflateSymbols literals distances (fuel + 1) out bits =
      readSymbol literals distances bits >>= fun found =>
        match found.1 with
        | none => some (out, found.2)
        | some symbol => inflateSymbols literals distances fuel (symbol.apply out) found.2 := by
  rw [inflateSymbols]
  rcases readSymbol literals distances bits with - | ⟨- | symbol, rest⟩ <;> rfl

-- More fuel finds the same, so that it may be measured by a longer input.
theorem inflateSymbols_extends (literals distances : CodeTree) {fuel fuel' : Nat}
    (enough : fuel ≤ fuel') (out : Array UInt8) :
    Extends (inflateSymbols literals distances fuel out)
      (inflateSymbols literals distances fuel' out) := by
  induction fuel generalizing fuel' out with
  | zero => exact .nothing _
  | succ fuel ih =>
    obtain ⟨fuel', rfl⟩ := Nat.exists_eq_add_of_le' enough
    have enough : fuel ≤ fuel' + fuel := Nat.le_add_left ..
    have step (limit : Nat) : inflateSymbols literals distances (limit + 1) out = _ :=
      funext (inflateSymbols_succ literals distances limit out)
    rw [← Nat.add_assoc, step, step]
    refine (readSymbol_extends literals distances).bind fun symbol => ?_
    cases symbol with
    | none => exact .found out
    | some symbol => exact ih enough (symbol.apply out)

theorem readStored_extends (size : Nat) (out : Array UInt8) :
    Extends (readStored size out) (readStored size out) := by
  intro bits found rest read more whole
  induction size, out, bits using readStored.induct with
  | case1 out bits => exact Extends.found out bits found rest read more whole
  | case2 size out a b c d e f g h bits ih => exact ih read
  | case3 size out bits short =>
    rw [readStored.eq_3 out bits size short] at read
    simp at read

theorem alignToByte_append (bits more : List Bool) (whole : more.length % 8 = 0) :
    alignToByte (bits ++ more) = alignToByte bits ++ more := by
  have same : (bits ++ more).length % 8 = bits.length % 8 := by
    rw [List.length_append]
    omega
  rw [alignToByte, alignToByte, same, List.drop_append_of_le_length (Nat.mod_le ..)]

-- A stored block from its size on.
def readSized (out : Array UInt8) (bits : List Bool) : Option (Array UInt8 × List Bool) := do
  let (size, bits) ← readBits 16 bits
  let (check, bits) ← readBits 16 bits
  if size + check = 0xFFFF then readStored size out bits else none

theorem inflateStored_eq (out : Array UInt8) (bits : List Bool) :
    inflateStored out bits = readSized out (alignToByte bits) := rfl

theorem readSized_extends (out : Array UInt8) : Extends (readSized out) (readSized out) :=
  (readBits_extends 16).bind fun size => (readBits_extends 16).bind fun _ =>
    .guarded (readStored_extends size out) (.nothing _)

theorem inflateStored_extends (out : Array UInt8) :
    Extends (inflateStored out) (inflateStored out) := by
  intro bits found rest read more whole
  rw [inflateStored_eq] at read ⊢
  rw [alignToByte_append bits more whole]
  exact readSized_extends out _ found rest read more whole

theorem readLengthCodes_extends (count : Nat) :
    Extends (readLengthCodes count) (readLengthCodes count) := by
  induction count with
  | zero => exact .found []
  | succ count ih => exact (readBits_extends 3).bind fun n => ih.bind fun rest => .found (n :: rest)

theorem readCodeLengths_extends (tree : CodeTree) (wanted fuel : Nat) (done : List Nat) :
    Extends (readCodeLengths tree wanted fuel done) (readCodeLengths tree wanted fuel done) := by
  induction fuel generalizing done with
  | zero => exact .nothing _
  | succ fuel ih =>
    refine .guarded (.found done.reverse) (.guarded (.nothing _) ?_)
    refine tree.read_extends.bind fun symbol => .guarded (ih _) (.guarded ?_ (.guarded ?_ ?_))
    · cases done.head? with
      | none => exact .nothing _
      | some last => exact (readBits_extends 2).bind fun n => ih _
    · exact (readBits_extends 3).bind fun n => ih _
    · exact (readBits_extends 7).bind fun n => ih _

theorem readTrees_append {bits rest : List Bool} {literals distances : CodeTree}
    (read : readTrees bits = some (literals, distances, rest)) {more : List Bool}
    (whole : more.length % 8 = 0) :
    readTrees (bits ++ more) = some (literals, distances, rest ++ more) := by
  obtain ⟨⟨a, _⟩, readA, read⟩ := Option.bind_eq_some_iff.mp read
  obtain ⟨⟨b, _⟩, readB, read⟩ := Option.bind_eq_some_iff.mp read
  obtain ⟨⟨c, _⟩, readC, read⟩ := Option.bind_eq_some_iff.mp read
  have readA := readBits_extends _ _ _ _ readA more whole
  have readB := readBits_extends _ _ _ _ readB more whole
  have readC := readBits_extends _ _ _ _ readC more whole
  dsimp only at read
  split at read
  next => simp at read
  next few =>
    obtain ⟨⟨given, _⟩, readGiven, read⟩ := Option.bind_eq_some_iff.mp read
    obtain ⟨tree, lengthTree, read⟩ := Option.bind_eq_some_iff.mp read
    obtain ⟨⟨lengths, _⟩, readLengths, read⟩ := Option.bind_eq_some_iff.mp read
    have readGiven := readLengthCodes_extends _ _ _ _ readGiven more whole
    have readLengths := readCodeLengths_extends _ _ _ _ _ _ _ readLengths more whole
    obtain ⟨first, literalTree, read⟩ := Option.bind_eq_some_iff.mp read
    obtain ⟨second, distanceTree, read⟩ := Option.bind_eq_some_iff.mp read
    simp only [Option.pure_def, Option.some.injEq, Prod.mk.injEq] at read
    obtain ⟨rfl, rfl, rfl⟩ := read
    simp only [readTrees, readA, readB, readC, Option.bind_eq_bind, Option.bind_some, few,
      readGiven, lengthTree, readLengths, literalTree, distanceTree, Option.pure_def,
      Bool.false_eq_true, if_false]

-- The two trees come with the rest of the bits inside one tuple, so this takes what is read next along.
theorem readTrees_extends {next next' : CodeTree → CodeTree → List Bool → Option (α × List Bool)}
    (later : ∀ literals distances, Extends (next literals distances) (next' literals distances)) :
    Extends
      (fun bits => readTrees bits >>= fun (literals, distances, bits) =>
        next literals distances bits)
      (fun bits => readTrees bits >>= fun (literals, distances, bits) =>
        next' literals distances bits) := by
  intro bits found rest read more whole
  obtain ⟨⟨literals, distances, between⟩, begun, ended⟩ := Option.bind_eq_some_iff.mp read
  have begun' := readTrees_append begun whole
  have ended' := later literals distances between found rest ended more whole
  exact Option.bind_eq_some_iff.mpr ⟨_, begun', ended'⟩

theorem inflateBlocks_extends {limit limit' fuel fuel' : Nat} (wide : limit ≤ limit')
    (enough : fuel ≤ fuel') (out : Array UInt8) :
    Extends (inflateBlocks limit fuel out) (inflateBlocks limit' fuel' out) := by
  induction fuel generalizing fuel' out with
  | zero => exact .nothing _
  | succ fuel ih =>
    obtain ⟨fuel', rfl⟩ := Nat.exists_eq_add_of_le' enough
    have enough : fuel ≤ fuel' + fuel := Nat.le_add_left ..
    rw [← Nat.add_assoc]
    refine (readBits_extends 1).bind fun final => (readBits_extends 2).bind fun kind => ?_
    let later (more : Array UInt8 → List Bool → Option (Array UInt8 × List Bool))
        (block : Array UInt8 × List Bool) :=
      if final = 1 then some block else more block.1 block.2
    have next (out : Array UInt8) :
        Extends (fun bits => later (inflateBlocks limit fuel) (out, bits))
          (fun bits => later (inflateBlocks limit' (fuel' + fuel)) (out, bits)) :=
      .guarded (.found out) (ih enough out)
    match kind with
    | 0 => exact (inflateStored_extends out).bind next
    | 1 => exact (inflateSymbols_extends _ _ wide out).bind next
    | 2 =>
      exact readTrees_extends fun literals distances =>
        (inflateSymbols_extends literals distances wide out).bind next
    | _ + 3 => exact .nothing _

theorem inflate_append (bits rest more : List Bool) (data : Array UInt8)
    (inflated : inflate bits = some (data, rest)) (whole : more.length % 8 = 0) :
    inflate (bits ++ more) = some (data, rest ++ more) := by
  have longer : bits.length + 1 ≤ (bits ++ more).length + 1 := by
    rw [List.length_append]
    omega
  exact inflateBlocks_extends longer longer #[] bits data rest inflated more whole

end Bayeux.Gzip
