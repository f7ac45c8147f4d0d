import Bayeux.CommandLine.Options
import Bayeux.Proofs.ByteSize.Characters

set_option autoImplicit false

namespace Bayeux.CommandLine

variable {specs : List Spec} {p p' : Progress} {argument name : String} {given : List Given}

theorem take_given {spec : Spec} {value : Option (List Char)} (taken : p.take spec value = .ok p') :
    ∃ more, p'.given = more ++ p.given := by
  unfold Progress.take at taken
  split at taken
  · exact nomatch taken
  split at taken
  · exact nomatch taken
  split at taken
  · cases taken
    exact ⟨[_], rfl⟩
  split at taken
  all_goals
    cases taken
    exact ⟨[_], rfl⟩

theorem readLong_given {cs : List Char} (read : readLong specs p cs = .ok p') :
    ∃ more, p'.given = more ++ p.given := by
  unfold readLong at read
  dsimp only at read
  split at read
  · exact take_given read
  · exact nomatch read

theorem readShort_given {cs : List Char} (read : readShort specs p cs = .ok p') :
    ∃ more, p'.given = more ++ p.given := by
  induction cs generalizing p with
  | nil =>
    cases read
    exact ⟨[], rfl⟩
  | cons c rest ih =>
    rw [readShort] at read
    split at read
    · exact nomatch read
    split at read
    · exact take_given read
    split at read
    next taken =>
      obtain ⟨some, same⟩ := take_given taken
      obtain ⟨more, same'⟩ := ih read
      exact ⟨more ++ some, by rw [same', same, List.append_assoc]⟩
    · exact nomatch read

def isValue (argument : String) : Bool :=
  argument.toList.head? ≠ some '-' || argument.toList = ['-']

theorem readArgument_given (option : isValue argument = false)
    (read : readArgument specs p argument = .ok p') : ∃ more, p'.given = more ++ p.given := by
  simp only [isValue, Bool.or_eq_false_iff, decide_eq_false_iff_not, Decidable.not_not] at option
  unfold readArgument at read
  dsimp only at read
  split at read
  · exact nomatch read
  split at read
  · cases read
    exact ⟨[], rfl⟩
  split at read
  · exact readLong_given read
  split at read
  · exact readShort_given read
  next other => simp [option] at other

theorem readArgument_value (value : isValue argument) (waiting : p.pending.isSome)
    (more : p.onlyValues = false) : readArgument specs p argument = .ok (p.fill argument) := by
  simp only [isValue, Bool.or_eq_true, decide_eq_true_eq] at value
  unfold readArgument
  simp only [more, Bool.false_eq_true, if_false, waiting, if_true]
  rcases value with first | alone
  · have noDashes : argument.toList ≠ ['-', '-'] := fun same => first (by rw [same]; rfl)
    have noLong : argument.toList.take 2 ≠ ['-', '-'] := by
      intro same
      refine first ?_
      have first := List.head?_take (l := argument.toList) (i := 2)
      rw [same] at first
      exact first.symm
    simp [noDashes, noLong, first]
  · simp [alone]

-- An option that has to have a value, given without, is refused, also if it is given again.
theorem checkSpec_of_bare (spec : Spec) (takes : spec.takesValue) (without : spec.ownValue = none)
    (more : List Given) : ∃ e, checkSpec (⟨spec.name, none⟩ :: more) spec = .error e := by
  have same : valuesOf (⟨spec.name, none⟩ :: more) spec.name = valuesOf more spec.name := by
    simp [valuesOf]
  unfold checkSpec lacksValue
  simp only [same]
  cases values : valuesOf more spec.name with
  | nil => exact ⟨.emptyValue, by simp [takes, without]⟩
  | cons value rest =>
    have member : value ∈ valuesOf more spec.name := values ▸ List.mem_cons_self
    obtain ⟨other, there, -⟩ := List.mem_filterMap.mp member
    have repeated : 0 < (more.filter (·.name = spec.name)).length :=
      List.length_pos_of_mem there
    have twice : 1 < ((⟨spec.name, none⟩ :: more : List Given).filter (·.name = spec.name)).length := by
      simpa using repeated
    rw [if_neg (by simp), if_pos twice]
    split
    · exact ⟨_, rfl⟩
    · exact ⟨_, rfl⟩

theorem forM_error {α ε : Type} {f : α → Except ε Unit} {x : α} {e : ε} (xs : List α)
    (member : x ∈ xs) (failed : f x = .error e) : ∃ e, xs.forM f = .error e := by
  induction xs with
  | nil => exact absurd member List.not_mem_nil
  | cons y ys ih =>
    have unfolded : (y :: ys).forM f = f y >>= fun _ => ys.forM f := rfl
    rw [unfolded]
    cases first : f y with
    | error e => exact ⟨e, rfl⟩
    | ok =>
      rcases List.mem_cons.mp member with rfl | later
      · rw [failed] at first
        exact nomatch first
      · exact ih later

def allSpecs : List Spec := settingSpecs ++ [helpSpec, versionSpec]

def named : Progress := ⟨[⟨"zip-threshold", none⟩], some "zip-threshold", false⟩

theorem readArgument_name : readArgument allSpecs .start "--zip-threshold" = .ok named := rfl

theorem scan_eq (argument : String) :
    scan settingSpecs ["--zip-threshold", argument] = do
      let p ← readArgument allSpecs named argument
      let given := p.given.reverse
      let waiting := settingSpecs.filter fun spec => p.pending = some spec.name
      if waiting.any (lacksValue given) then .error .emptyValue
      settingSpecs.forM (checkSpec given)
      return given := by
  have read : ["--zip-threshold", argument].foldlM (readArgument allSpecs) .start =
      readArgument allSpecs named argument := by
    rw [List.foldlM_cons, readArgument_name]
    exact bind_pure (m := Except UsageError) _
  unfold allSpecs at read
  rw [scan, read]
  rfl

theorem scan_value (value : isValue argument) :
    scan settingSpecs ["--zip-threshold", argument] =
      if (readSize? argument).isSome then .ok [⟨"zip-threshold", some argument⟩]
      else .error .invalidValue := by
  rw [scan_eq, readArgument_value value rfl rfl]
  cases read : readSize? argument <;>
    simp [named, Progress.fill, settingSpecs, checkSpec, lacksValue, valuesOf, read, bind,
      Except.bind, pure, Except.pure]

theorem scan_option (option : isValue argument = false) :
    ∃ e, scan settingSpecs ["--zip-threshold", argument] = .error e := by
  rw [scan_eq]
  cases read : readArgument allSpecs named argument with
  | error e => exact ⟨e, rfl⟩
  | ok p =>
    obtain ⟨more, same⟩ := readArgument_given option read
    obtain ⟨e, refused⟩ := checkSpec_of_bare
      { name := "zip-threshold", accepts := fun text => (readSize? text).isSome }
      rfl rfl more.reverse
    have given : p.given.reverse = ⟨"zip-threshold", none⟩ :: more.reverse := by
      simp [same, named]
    rw [← given] at refused
    simp only [bind, Except.bind]
    split
    next failed => exact ⟨_, rfl⟩
    next =>
      obtain ⟨e, failed⟩ := forM_error settingSpecs (by simp [settingSpecs]) refused
      exact ⟨e, by rw [failed]⟩

theorem minus_mem_of_option (option : isValue argument = false) : '-' ∈ argument.toList := by
  simp only [isValue, Bool.or_eq_false_iff, decide_eq_false_iff_not, Decidable.not_not] at option
  exact List.mem_of_head? option.1

theorem readSize?_eq_some_iff {size : ByteSize} :
    readSize? argument = some size ↔ ByteSize.read argument = .ok size := by
  rw [readSize?]
  cases ByteSize.read argument <;> simp

-- The command line gives a size as its text is read; an option in its place is no size either.
theorem readOptions_threshold {options : Options} :
    readOptions ["--zip-threshold", argument] = .ok options ↔
      ∃ size, ByteSize.read argument = .ok size ∧
        options = { Options.none with zipThreshold := some size } := by
  cases value : isValue argument with
  | true =>
    rw [readOptions, scan_value value]
    cases read : readSize? argument with
    | none =>
      refine iff_of_false (by simp [Except.map]) ?_
      rintro ⟨size, ok, -⟩
      rw [readSize?_eq_some_iff.mpr ok] at read
      exact nomatch read
    | some size =>
      have ok := readSize?_eq_some_iff.mp read
      have same : optionsOf [⟨"zip-threshold", some argument⟩] =
          { Options.none with zipThreshold := some size } := by
        simp [optionsOf, value?, valuesOf, read, Options.none]
      simp only [Option.isSome_some, if_true, Except.map, same, Except.ok.injEq, ok]
      exact ⟨fun here => ⟨size, rfl, here.symm⟩, fun ⟨_, other, there⟩ => other ▸ there.symm⟩
  | false =>
    obtain ⟨e, refused⟩ := scan_option value
    rw [readOptions, refused]
    refine iff_of_false (by simp [Except.map]) ?_
    rintro ⟨size, ok, -⟩
    exact ByteSize.minus_not_mem_of_read ok (minus_mem_of_option value)

end Bayeux.CommandLine
