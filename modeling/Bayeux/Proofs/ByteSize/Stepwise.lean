import Bayeux.ByteSize.Reader
import Bayeux.Proofs.ByteSize.Grammar

set_option autoImplicit false

namespace Bayeux.ByteSize

open SizeUnit Text

-- What stands in and around a number.
def Numeric (c : Char) : Prop := isBlank c = true ∨ c.isDigit = true ∨ c = '+'

instance (c : Char) : Decidable (Numeric c) :=
  inferInstanceAs (Decidable (_ ∨ _ ∨ _))

/-- What is relied on about capital forms: blanks are their own, an ASCII character has that of
ASCII, and from any other one nothing comes that means something in a size. -/
structure Capitalizes (upper : Char → List Char) : Prop where
  present : ∀ c, upper c ≠ []
  blank : ∀ c, isBlank c = true → upper c = [c]
  ascii : ∀ c, c.toNat < 128 → upper c = [c.toUpper]
  other : ∀ c, 128 ≤ c.toNat → isBlank c = false →
    ∀ d ∈ upper c, ¬ Numeric d ∧ ofLetter? d = none

theorem capitalizes_toUpper : Capitalizes fun c => [c.toUpper] := by
  have own {c : Char} (large : ¬ (97 ≤ c.toNat ∧ c.toNat ≤ 122)) : [c.toUpper] = [c] := by
    rw [toUpper_of_not_small large]
  refine ⟨by simp, fun c blank => own ?_, fun _ _ => rfl, fun c high notBlank d member => ?_⟩
  · simp only [isBlank, Bool.or_eq_true, Bool.and_eq_true, decide_eq_true_eq, beq_iff_eq] at blank
    omega
  · have large : ¬ (97 ≤ c.toNat ∧ c.toNat ≤ 122) := by omega
    rw [own large, List.mem_singleton] at member
    subst member
    refine ⟨?_, ofLetter?_eq_none large ?_⟩
    · rintro (blank | digit | rfl)
      · simp [notBlank] at blank
      · have := (isDigit_iff d).mp digit
        omega
      · exact absurd high (by decide)
    · rintro unit rfl
      exact absurd high (by cases unit <;> decide)

theorem ofLetter?_toUpper {c : Char} (ascii : c.toNat < 128) :
    ofLetter? c.toUpper = ofLetter? c :=
  forall_ascii (P := fun c => ofLetter? c.toUpper = ofLetter? c) (by decide) ascii

theorem ascii_of_ofLetter? {c : Char} {unit : SizeUnit} (read : ofLetter? c = some unit) :
    c.toNat < 128 := by
  by_cases small : 97 ≤ c.toNat ∧ c.toNat ≤ 122
  · omega
  · have same := ofLetter?_eq_some_iff.mp read
    rw [toUpper_of_not_small small] at same
    rw [same]
    cases unit <;> decide

theorem ofCapital?_eq_none {c : Char} (plain : ofLetter? c = none) : ofCapital? c = none := by
  cases capital : ofCapital? c with
  | none => rfl
  | some unit =>
    rw [ofCapital?_eq_some_iff.mp capital, ofLetter?_letter] at plain
    simp at plain

theorem numeric_of_toUpper {c : Char} (ascii : c.toNat < 128) (numeric : Numeric c.toUpper) :
    Numeric c :=
  forall_ascii (P := fun c => Numeric c.toUpper → Numeric c) (by decide) ascii numeric

theorem Numeric.toUpper_eq {c : Char} (numeric : Numeric c) (ascii : c.toNat < 128) :
    c.toUpper = c :=
  forall_ascii (P := fun c => Numeric c → c.toUpper = c) (by decide) ascii numeric

theorem readWord_trim_eq_none {cs : List Char} (other : ¬ ∀ c ∈ cs, Numeric c) :
    readWord (trim cs) = none := by
  cases word : readWord (trim cs) with
  | none => rfl
  | some w =>
    have numeral := readWord_eq_some_iff.mp word
    obtain ⟨⟨before, after, front, behind, framed⟩, -, -⟩ :=
      trimmed_iff.mpr (Eq.refl (trim cs))
    refine absurd (fun c member => ?_) other
    rw [framed, List.mem_append, List.mem_append] at member
    rcases member with (inFront | inNumber) | inBack
    · exact .inl (front c inFront)
    · exact .inr (numeral.mem inNumber).symm
    · exact .inl (behind c inBack)

namespace Capitalizes

variable {upper : Char → List Char} (capitalizes : Capitalizes upper)

include capitalizes

theorem of_numeric {c : Char} (numeric : Numeric c) : upper c = [c] := by
  by_cases blank : isBlank c = true
  · exact capitalizes.blank c blank
  · have ascii : c.toNat < 128 := by
      rcases numeric with blank' | digit | rfl
      · exact absurd blank' blank
      · have := (isDigit_iff c).mp digit
        omega
      · decide
    rw [capitalizes.ascii c ascii, numeric.toUpper_eq ascii]

theorem exists_not_numeric {c : Char} (other : ¬ Numeric c) : ∃ d ∈ upper c, ¬ Numeric d := by
  by_cases ascii : c.toNat < 128
  · rw [capitalizes.ascii c ascii]
    exact ⟨c.toUpper, List.mem_singleton_self _, fun numeric =>
      other (numeric_of_toUpper ascii numeric)⟩
  · obtain ⟨d, member⟩ := List.exists_mem_of_ne_nil _ (capitalizes.present c)
    have notBlank : isBlank c = false := Bool.eq_false_iff.mpr fun blank => other (.inl blank)
    exact ⟨d, member, (capitalizes.other c (by omega) notBlank d member).1⟩

theorem of_letter {c : Char} {unit : SizeUnit} (read : ofLetter? c = some unit) :
    upper c = [unit.letter] := by
  rw [capitalizes.ascii c (ascii_of_ofLetter? read), ofLetter?_eq_some_iff.mp read]

theorem plain {c : Char} (none : ofLetter? c = none) : Plain (upper c) := by
  intro d member
  by_cases blank : isBlank c = true
  · rw [capitalizes.blank c blank, List.mem_singleton] at member
    rwa [member]
  · by_cases ascii : c.toNat < 128
    · rw [capitalizes.ascii c ascii, List.mem_singleton] at member
      rw [member, ofLetter?_toUpper ascii, none]
    · exact (capitalizes.other c (by omega) (Bool.eq_false_iff.mpr blank) d member).2

theorem ofCapital?_eq {cs : List Char} {d : Char} (member : d ∈ cs.flatMap upper) :
    ofCapital? d = ofLetter? d := by
  obtain ⟨c, -, member⟩ := List.mem_flatMap.mp member
  cases read : ofLetter? c with
  | none =>
    have none := capitalizes.plain read d member
    rw [none, ofCapital?_eq_none none]
  | some unit =>
    rw [capitalizes.of_letter read, List.mem_singleton] at member
    rw [member, ofLetter?_letter]
    exact ofCapital?_eq_some_iff.mpr rfl

theorem flatMap_eq_nil_iff {cs : List Char} : cs.flatMap upper = [] ↔ cs = [] := by
  cases cs with
  | nil => simp
  | cons c rest => simp [capitalizes.present c]

-- A number has no letters, and what has others is none, whatever their case.
theorem readWord_trim (cs : List Char) :
    readWord (trim (cs.flatMap upper)) = readWord (trim cs) := by
  by_cases numeric : ∀ c ∈ cs, Numeric c
  · have own : cs.map upper = cs.map fun c => [c] :=
      List.map_congr_left fun c member => capitalizes.of_numeric (numeric c member)
    rw [List.flatMap_def, own, ← List.flatMap_def, List.flatMap_singleton']
  · rw [readWord_trim_eq_none numeric]
    refine readWord_trim_eq_none fun all => ?_
    refine numeric fun c member => Decidable.byContradiction fun other => ?_
    obtain ⟨d, member', other'⟩ := capitalizes.exists_not_numeric other
    exact other' (all d (List.mem_flatMap_of_mem member member'))

end Capitalizes

section Groups

variable {text : String} {total : Nat} {number cs : List Char} {mayB : Bool}

theorem readGroups_none {c : Char} (none : ofLetter? c = none) :
    readGroups text total number mayB (c :: cs) =
      readGroups text total (c :: number) false cs := by
  rw [readGroups, none]

theorem readGroups_unit {c : Char} {unit : SizeUnit} (read : ofLetter? c = some unit)
    (first : ¬ (mayB = true ∧ unit = .byte)) :
    readGroups text total number mayB (c :: cs) =
      match readWord (trim number.reverse) with
      | none => .error (.invalid text)
      | some n =>
        if total + n.toNat * unit.bytes < 2 ^ 64 then
          readGroups text (total + n.toNat * unit.bytes) [] (unit != .byte) cs
        else .error (.tooLarge text) := by
  have notB : (mayB && decide (unit = .byte)) = false := by simpa using first
  rw [readGroups, read]
  dsimp only
  rewrite [notB, if_neg Bool.false_ne_true]
  cases readWord (trim number.reverse) <;> rfl

theorem readGroups_second {b : Char} (read : ofLetter? b = some .byte) :
    readGroups text total number true (b :: cs) = readGroups text total number false cs := by
  rw [readGroups, read]
  rfl

theorem readGroups_plain_append {ds : List Char} (plain : Plain ds) (present : ds ≠ []) :
    readGroups text total number mayB (ds ++ cs) =
      readGroups text total (ds.reverse ++ number) false cs := by
  induction ds generalizing number mayB with
  | nil => exact absurd rfl present
  | cons d ds ih =>
    rw [List.cons_append, readGroups_none (plain d List.mem_cons_self)]
    rcases ds with - | ⟨e, ds⟩
    · rfl
    · rw [ih (fun c member => plain c (List.mem_cons_of_mem d member)) (by simp),
        List.reverse_cons (a := d), List.append_assoc, List.singleton_append]

theorem Capitalizes.readGroups_flatMap {upper : Char → List Char}
    (capitalizes : Capitalizes upper) :
    readGroups text total (number.reverse.flatMap upper).reverse mayB (cs.flatMap upper) =
      readGroups text total number mayB cs := by
  induction cs generalizing total number mayB with
  | nil =>
    cases number with
    | nil => rfl
    | cons d number =>
      have present : ((d :: number).reverse.flatMap upper).reverse ≠ [] := by
        simp [capitalizes.flatMap_eq_nil_iff, capitalizes.present d]
      obtain ⟨e, es, same⟩ := List.exists_cons_of_ne_nil present
      rw [same, List.flatMap_nil, readGroups, readGroups]
  | cons c rest ih =>
    rw [List.flatMap_cons]
    cases read : ofLetter? c with
    | none =>
      have joined : (upper c).reverse ++ (number.reverse.flatMap upper).reverse =
          ((c :: number).reverse.flatMap upper).reverse := by simp
      rw [readGroups_plain_append (capitalizes.plain read) (capitalizes.present c), joined, ih,
        readGroups_none read]
    | some unit =>
      have letter := ofLetter?_letter unit
      have again (sum : Nat) : readGroups text sum [] (unit != .byte) (rest.flatMap upper) =
          readGroups text sum [] (unit != .byte) rest := @ih sum [] (unit != .byte)
      rw [capitalizes.of_letter read, List.singleton_append]
      by_cases second : mayB = true ∧ unit = .byte
      · obtain ⟨rfl, rfl⟩ := second
        rw [readGroups_second letter, readGroups_second read, ih]
      · simp only [readGroups_unit letter second, readGroups_unit read second,
          List.reverse_reverse, capitalizes.readWord_trim, again]

end Groups

section Pairs

-- Leaves out a `B` behind one of the characters `before`; `behind` holds right after one.
def withoutB (before : Char → Bool) : (behind : Bool) → List Char → List Char
  | _, [] => []
  | behind, c :: rest =>
    if behind && c == 'B' then withoutB before false rest
    else c :: withoutB before (before c) rest

theorem replacePair_eq {letter : Char} (other : letter ≠ 'B') (cs : List Char) :
    replacePair letter 'B' letter cs = withoutB (· == letter) false cs := by
  induction cs using replacePair.induct letter 'B' with
  | case1 c d rest both ih =>
    obtain ⟨rfl, rfl⟩ := both
    simp [replacePair, withoutB, ih]
  | case2 c d rest neither ih =>
    rw [replacePair, if_neg neither, ih, withoutB, Bool.false_and, if_neg Bool.false_ne_true]
    by_cases same : c = letter
    · have notB : d ≠ 'B' := fun b => neither ⟨same, b⟩
      simp [withoutB, same, notB]
    · simp [withoutB, same]
  | case3 cs short =>
    rcases cs with - | ⟨c, - | ⟨d, rest⟩⟩
    · rfl
    · simp [replacePair, withoutB]
    · exact absurd rfl (short c d rest)

-- Leaving out a `B` behind one character and then behind another leaves it out behind both: it is
-- no such character itself, so that none comes to stand behind one through the first pass.
theorem withoutB_withoutB {first second : Char → Bool}
    (apart : ∀ c, ¬ (first c = true ∧ second c = true)) (first_b : first 'B' = false)
    (second_b : second 'B' = false) {behind behind' : Bool}
    (one : ¬ (behind = true ∧ behind' = true)) (cs : List Char) :
    withoutB second behind' (withoutB first behind cs) =
      withoutB (fun c => first c || second c) (behind || behind') cs := by
  induction cs generalizing behind behind' with
  | nil => rfl
  | cons c rest ih =>
    by_cases b : c = 'B'
    · subst b
      have later := @ih false false (by simp)
      cases behind <;> cases behind' <;> simp_all [withoutB]
    · simp [withoutB, b, ih (apart c)]

-- The units that may have a `B` behind them.
def isLarge (c : Char) : Bool := c == 'G' || c == 'M' || c == 'K'

theorem isLarge_eq {c : Char} {unit : SizeUnit} (read : ofCapital? c = some unit) :
    isLarge c = (unit != .byte) := by
  rw [ofCapital?_eq_some_iff.mp read]
  cases unit <;> rfl

theorem isLarge_eq_false {c : Char} (none : ofCapital? c = none) : isLarge c = false := by
  simp only [isLarge, Bool.or_eq_false_iff, beq_eq_false_iff_ne]
  refine ⟨⟨?_, ?_⟩, ?_⟩ <;> rintro rfl <;> simp [ofCapital?] at none

theorem replacePairs_eq (cs : List Char) :
    replacePair 'K' 'B' 'K' (replacePair 'M' 'B' 'M' (replacePair 'G' 'B' 'G' cs)) =
      withoutB isLarge false cs := by
  have two (cs : List Char) : withoutB (· == 'M') false (withoutB (· == 'G') false cs) =
      withoutB (fun c => c == 'G' || c == 'M') false cs :=
    withoutB_withoutB (by rintro c ⟨g, m⟩; simp_all) rfl rfl (by simp) cs
  rw [replacePair_eq (by decide), replacePair_eq (by decide), replacePair_eq (by decide), two]
  exact withoutB_withoutB (by rintro c ⟨gm, k⟩; simp_all) rfl rfl (by simp) cs

theorem withoutB_eq_nil_iff {before : Char → Bool} {cs : List Char} :
    withoutB before false cs = [] ↔ cs = [] := by
  cases cs <;> simp [withoutB]

end Pairs

section Parts

variable {text : String} {ends : Char → Bool} {number cs : List Char}

theorem splitAfter_unended (unended : ∀ c ∈ cs, ends c = false) (present : cs ≠ []) :
    splitAfter ends cs = [cs] := by
  induction cs with
  | nil => exact absurd rfl present
  | cons c rest ih =>
    have later := fun d member => unended d (List.mem_cons_of_mem c member)
    rcases rest with - | ⟨d, rest⟩
    · simp [splitAfter, unended c]
    · rw [splitAfter, unended c List.mem_cons_self, ih later (by simp)]
      rfl

theorem splitAfter_ended (unended : ∀ c ∈ number, ends c = false) {c : Char}
    (ended : ends c = true) :
    splitAfter ends (number ++ c :: cs) = (number ++ [c]) :: splitAfter ends cs := by
  induction number with
  | nil => simp [splitAfter, ended]
  | cons d number ih =>
    have later := ih fun e member => unended e (List.mem_cons_of_mem d member)
    rw [List.cons_append, splitAfter, unended d List.mem_cons_self, later]
    rfl

theorem checked_sum (total n : UInt64) (unit : SizeUnit) :
    (checkedMul n (UInt64.ofNat unit.bytes)).bind (checkedAdd total) =
      if total.toNat + n.toNat * unit.bytes < 2 ^ 64 then
        some (UInt64.ofNat (total.toNat + n.toNat * unit.bytes))
      else none := by
  have small : (UInt64.ofNat unit.bytes).toNat = unit.bytes := by cases unit <;> rfl
  unfold checkedMul
  split
  next fits =>
    have product : (n * UInt64.ofNat unit.bytes).toNat = n.toNat * unit.bytes := by
      rw [UInt64.toNat_mul, Nat.mod_eq_of_lt fits, small]
    rw [Option.bind_some, checkedAdd, product]
    split
    next sum =>
      refine congrArg some (UInt64.toNat_inj.mp ?_)
      rw [UInt64.toNat_add, product, UInt64.toNat_ofNat_of_lt' sum, Nat.mod_eq_of_lt sum]
    next => rfl
  next large =>
    rw [small] at large
    rw [Option.bind_none, if_neg (by omega)]

theorem addPart_unit {c : Char} {unit : SizeUnit} (read : ofCapital? c = some unit)
    (total : UInt64) :
    addPart text total (number ++ [c]) =
      match readWord (trim number) with
      | none => .error (.invalid text)
      | some n =>
        if total.toNat + n.toNat * unit.bytes < 2 ^ 64 then
          .ok (UInt64.ofNat (total.toNat + n.toNat * unit.bytes))
        else .error (.tooLarge text) := by
  rw [addPart, List.getLast?_concat, Option.bind_some, read, List.dropLast_concat]
  dsimp only
  cases readWord (trim number) with
  | none => rfl
  | some n =>
    dsimp only
    rw [checked_sum]
    by_cases fits : total.toNat + n.toNat * unit.bytes < 2 ^ 64
    · rw [if_pos fits, if_pos fits]
    · rw [if_neg fits, if_neg fits]

theorem addPart_plain (plain : Plain number) (present : number ≠ []) (total : UInt64) :
    addPart text total number = .error (.unknownUnit text) := by
  have none := ofCapital?_eq_none (plain _ (List.getLast_mem present))
  rw [addPart, List.getLast?_eq_some_getLast present, Option.bind_some, none]

theorem endsPart_eq_false (plain : Plain number) : ∀ c ∈ number, endsPart c = false := by
  intro c member
  rw [endsPart, ofCapital?_eq_none (plain c member), Option.isSome_none]

-- One part after the other is added up like the groups of the text in one pass.
theorem foldlM_splitAfter {total : Nat} {mayB : Bool}
    (capital : ∀ c ∈ cs, ofCapital? c = ofLetter? c) (bound : total < 2 ^ 64)
    (plain : Plain number) (fresh : mayB = true → number = []) :
    ((splitAfter endsPart (number.reverse ++ withoutB isLarge mayB cs)).foldlM (addPart text)
      (UInt64.ofNat total)).map ByteSize.mk = readGroups text total number mayB cs := by
  induction cs generalizing total number mayB with
  | nil =>
    rw [withoutB, List.append_nil]
    cases number with
    | nil => rfl
    | cons d number =>
      have present : (d :: number).reverse ≠ [] := by simp
      rw [splitAfter_unended (endsPart_eq_false plain.reverse) present, List.foldlM_cons,
        addPart_plain plain.reverse present]
      rfl
  | cons c rest ih =>
    have here := capital c List.mem_cons_self
    have later := fun d member => capital d (List.mem_cons_of_mem c member)
    cases read : ofLetter? c with
    | none =>
      have notB : c ≠ 'B' := by
        rintro rfl
        exact absurd read (by decide)
      rw [readGroups_none read, ← ih later bound (plain.cons read) (by simp), withoutB,
        isLarge_eq_false (here.trans read)]
      simp [notB]
    | some unit =>
      have capitalRead := here.trans read
      by_cases second : mayB = true ∧ unit = .byte
      · obtain ⟨rfl, rfl⟩ := second
        obtain rfl := fresh rfl
        obtain rfl := ofCapital?_eq_some_iff.mp capitalRead
        rw [readGroups_second read, ← ih later bound plain_nil (by simp), withoutB]
        rfl
      · have kept : (mayB && c == 'B') = false := by
          rw [ofCapital?_eq_some_iff.mp capitalRead]
          cases unit <;> simp_all [letter]
        rw [readGroups_unit read second, withoutB, kept, if_neg Bool.false_ne_true,
          splitAfter_ended (endsPart_eq_false plain.reverse) (by rw [endsPart, capitalRead]; rfl),
          List.foldlM_cons, addPart_unit capitalRead, UInt64.toNat_ofNat_of_lt' bound]
        cases readWord (trim number.reverse) with
        | none => rfl
        | some n =>
          dsimp only
          split
          next fits =>
            rw [← ih later fits plain_nil (by simp), isLarge_eq capitalRead]
            rfl
          next => rfl

end Parts

/-- Reading a text in one pass and reading it step by step come to the same size or error. -/
theorem readStepwise_eq_read {upper : Char → List Char} (capitalizes : Capitalizes upper)
    (text : String) : readStepwise upper text = read text := by
  rw [readStepwise, read]
  cases readWord (trim text.toList) with
  | some n => rfl
  | none =>
    generalize trim text.toList = trimmed
    have empty : (withoutB isLarge false (trimmed.flatMap upper)).isEmpty = trimmed.isEmpty := by
      rw [Bool.eq_iff_iff, List.isEmpty_iff, List.isEmpty_iff, withoutB_eq_nil_iff,
        capitalizes.flatMap_eq_nil_iff]
    have groups : readGroups text 0 [] false (trimmed.flatMap upper) =
        readGroups text 0 [] false trimmed :=
      @Capitalizes.readGroups_flatMap text 0 [] trimmed false upper capitalizes
    have parts := @foldlM_splitAfter text [] (trimmed.flatMap upper) 0 false
      (fun c member => capitalizes.ofCapital?_eq member) (by decide) plain_nil (by simp)
    dsimp only
    rw [replacePairs_eq, empty, ← groups, ← parts]
    rfl

-- No other capital letters than those of ASCII matter.
theorem readStepwise_toUpper (text : String) :
    readStepwise (fun c => [c.toUpper]) text = read text :=
  readStepwise_eq_read capitalizes_toUpper text

end Bayeux.ByteSize
