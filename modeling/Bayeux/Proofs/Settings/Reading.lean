import Bayeux.Proofs.Settings.Groups
import Bayeux.Proofs.Settings.Layers

set_option autoImplicit false

namespace Bayeux

open RawSetting

structure GivenSettings where
  destination : Option Log.Destination
  level : Option Log.Level
  dir : Option String
  file : Option String
  zipThreshold : Option ByteSize
  ignoreNullData : Option Bool
  deriving DecidableEq

namespace GivenSettings

def ofOptions (options : Options) : GivenSettings :=
  { destination := none
    level := none
    dir := none
    file := none
    zipThreshold := options.zipThreshold
    ignoreNullData := options.ignoreNullData }

def orElse (upper lower : GivenSettings) : GivenSettings :=
  { destination := upper.destination <|> lower.destination
    level := upper.level <|> lower.level
    dir := upper.dir <|> lower.dir
    file := upper.file <|> lower.file
    zipThreshold := upper.zipThreshold <|> lower.zipThreshold
    ignoreNullData := upper.ignoreNullData <|> lower.ignoreNullData }

def log (given : GivenSettings) : LogSettings :=
  { destination := given.destination.getD LogSettings.default.destination
    level := given.level.getD LogSettings.default.level
    dir := given.dir.getD LogSettings.default.dir
    file := given.file.getD LogSettings.default.file }

def message (given : GivenSettings) : MessageSettings :=
  { zipThreshold := given.zipThreshold.getD MessageSettings.default.zipThreshold
    ignoreNullData := given.ignoreNullData.getD MessageSettings.default.ignoreNullData }

def settings (given : GivenSettings) (options : Options) : Settings :=
  ⟨given.log, given.message, options⟩

end GivenSettings

-- The settings of the groups but the destination are what is given.
structure HoldsRest (raw : RawSetting) (given : GivenSettings) : Prop where
  level : (raw.at? "log" "level").map (readLevel "log.level") = given.level.map .ok
  dir : (raw.at? "log" "dir").map (readString "log.dir") = given.dir.map .ok
  file : (raw.at? "log" "file").map (readString "log.file") = given.file.map .ok
  zipThreshold : (raw.at? "message" "zip_message_size_threshold").map
    (readSize "message.zip_message_size_threshold") = given.zipThreshold.map .ok
  ignoreNullData : (raw.at? "message" "ignore_null_data").map
    (readBool "message.ignore_null_data") = given.ignoreNullData.map .ok

variable {raw inner : RawSetting} {given : GivenSettings} {group : String}

theorem at?_of_get? (there : raw.entries.get? group = some inner) (key : String) :
    raw.at? group key = inner.entries.get? key := by
  rw [at?, there]
  rfl

theorem readGroup_of_isTable {σ : Type} (table : raw.isTable) (label : String)
    (parts : List (SettingPart σ)) (initial : σ) (key : String) :
    readGroup label parts initial key raw =
      readNamed parts (fun name => key ++ "." ++ name) raw.entries initial := by
  obtain ⟨entries, source, rfl⟩ := isTable_iff.mp table
  rfl

theorem LogSettings.parts_eq : LogSettings.parts =
    [.of "to" (fun key raw => raw.readDestination key) fun destination log => { log with destination },
      .of "level" (fun key raw => raw.readLevel key) fun level log => { log with level },
      .of "dir" (fun key raw => raw.readString key) fun dir log => { log with dir },
      .of "file" (fun key raw => raw.readString key) fun file log => { log with file }] := rfl

theorem MessageSettings.parts_eq : MessageSettings.parts =
    [.of "zip_message_size_threshold" (fun key raw => raw.readSize key)
        fun zipThreshold message => { message with zipThreshold },
      .of "ignore_null_data" (fun key raw => raw.readBool key)
        fun ignoreNullData message => { message with ignoreNullData }] := rfl

theorem Settings.parts_eq : Settings.parts =
    [.of "log" (readGroup "struct Log" LogSettings.parts .default)
        fun log settings => { settings with log },
      .of "message" (readGroup "struct MessageConf" MessageSettings.parts .default)
        fun message settings => { settings with message }] := rfl

theorem read_log (grouped : raw.Grouped) (there : raw.entries.get? "log" = some inner)
    (destination : (raw.at? "log" "to").map (readDestination "log.to") = given.destination.map .ok)
    (holds : HoldsRest raw given) :
    readGroup "struct Log" LogSettings.parts .default "log" inner = .ok given.log := by
  obtain ⟨table, sorted⟩ := grouped.groups "log" (by decide) inner there
  obtain ⟨level, dir, file, -, -⟩ := holds
  rw [at?_of_get? there] at destination level dir file
  rw [readGroup_of_isTable table]
  have readable : ∀ part ∈ LogSettings.parts,
      part.Readable (fun name => "log" ++ "." ++ name) inner.entries := by
    simp only [LogSettings.parts_eq, List.forall_mem_cons]
    exact ⟨readable_of destination, readable_of level, readable_of dir, readable_of file, by simp⟩
  obtain ⟨log, done⟩ := readNamed_ok sorted readable LogSettings.default
  have destination' : log.destination = given.log.destination :=
    readNamed_getD rfl (fun _ _ => rfl) (by simp [LogSettings.parts_eq, SettingPart.of_keeps])
      sorted destination done
  have level' : log.level = given.log.level :=
    readNamed_getD rfl (fun _ _ => rfl) (by simp [LogSettings.parts_eq, SettingPart.of_keeps])
      sorted level done
  have dir' : log.dir = given.log.dir :=
    readNamed_getD rfl (fun _ _ => rfl) (by simp [LogSettings.parts_eq, SettingPart.of_keeps])
      sorted dir done
  have file' : log.file = given.log.file :=
    readNamed_getD rfl (fun _ _ => rfl) (by simp [LogSettings.parts_eq, SettingPart.of_keeps])
      sorted file done
  cases log
  simp_all

theorem read_message (grouped : raw.Grouped) (there : raw.entries.get? "message" = some inner)
    (holds : HoldsRest raw given) :
    readGroup "struct MessageConf" MessageSettings.parts .default "message" inner =
      .ok given.message := by
  obtain ⟨table, sorted⟩ := grouped.groups "message" (by decide) inner there
  obtain ⟨-, -, -, zipThreshold, ignoreNullData⟩ := holds
  rw [at?_of_get? there] at zipThreshold ignoreNullData
  rw [readGroup_of_isTable table]
  have readable : ∀ part ∈ MessageSettings.parts,
      part.Readable (fun name => "message" ++ "." ++ name) inner.entries := by
    simp only [MessageSettings.parts_eq, List.forall_mem_cons]
    exact ⟨readable_of zipThreshold, readable_of ignoreNullData, by simp⟩
  obtain ⟨message, done⟩ := readNamed_ok sorted readable MessageSettings.default
  have zipThreshold' : message.zipThreshold = given.message.zipThreshold :=
    readNamed_getD rfl (fun _ _ => rfl) (by simp [MessageSettings.parts_eq, SettingPart.of_keeps])
      sorted zipThreshold done
  have ignoreNullData' : message.ignoreNullData = given.message.ignoreNullData :=
    readNamed_getD rfl (fun _ _ => rfl) (by simp [MessageSettings.parts_eq, SettingPart.of_keeps])
      sorted ignoreNullData done
  cases message
  simp_all

theorem none_of_map {α : Type} {read : RawSetting → Except SettingsError α} {o : Option α}
    (missing : raw.entries.get? group = none) {key : String}
    (reads : (raw.at? group key).map read = o.map .ok) : o = none := by
  rw [at?, missing] at reads
  simpa using reads.symm

theorem log_of_missing (missing : raw.entries.get? "log" = none)
    (destination : (raw.at? "log" "to").map (readDestination "log.to") = given.destination.map .ok)
    (holds : HoldsRest raw given) : given.log = LogSettings.default := by
  simp [GivenSettings.log, none_of_map missing destination, none_of_map missing holds.level,
    none_of_map missing holds.dir, none_of_map missing holds.file]

theorem message_of_missing (missing : raw.entries.get? "message" = none)
    (holds : HoldsRest raw given) : given.message = MessageSettings.default := by
  simp [GivenSettings.message, none_of_map missing holds.zipThreshold,
    none_of_map missing holds.ignoreNullData]

theorem reads_log (grouped : raw.Grouped)
    (destination : (raw.at? "log" "to").map (readDestination "log.to") = given.destination.map .ok)
    (holds : HoldsRest raw given) :
    (raw.entries.get? "log").map (readGroup "struct Log" LogSettings.parts .default "log") =
      ((raw.entries.get? "log").map fun _ => given.log).map .ok := by
  cases there : raw.entries.get? "log" with
  | none => rfl
  | some inner => simp [read_log grouped there destination holds]

theorem reads_message (grouped : raw.Grouped) (holds : HoldsRest raw given) :
    (raw.entries.get? "message").map
        (readGroup "struct MessageConf" MessageSettings.parts .default "message") =
      ((raw.entries.get? "message").map fun _ => given.message).map .ok := by
  cases there : raw.entries.get? "message" with
  | none => rfl
  | some inner => simp [read_message grouped there holds]

theorem ofRaw_eq (grouped : raw.Grouped)
    (destination : (raw.at? "log" "to").map (readDestination "log.to") = given.destination.map .ok)
    (holds : HoldsRest raw given) :
    ∃ settings, Settings.ofRaw raw = .ok settings ∧
      settings.log = given.log ∧ settings.message = given.message := by
  have log := reads_log grouped destination holds
  have message := reads_message grouped holds
  have readable : ∀ part ∈ Settings.parts, part.Readable id raw.entries := by
    simp only [Settings.parts_eq, List.forall_mem_cons]
    exact ⟨readable_of log, readable_of message, by simp⟩
  obtain ⟨settings, done⟩ := readNamed_ok grouped.sorted readable Settings.default
  have log' : settings.log =
      ((raw.entries.get? "log").map fun _ => given.log).getD Settings.default.log :=
    readNamed_getD rfl (fun _ _ => rfl) (by simp [Settings.parts_eq, SettingPart.of_keeps])
      grouped.sorted log done
  have message' : settings.message =
      ((raw.entries.get? "message").map fun _ => given.message).getD Settings.default.message :=
    readNamed_getD rfl (fun _ _ => rfl) (by simp [Settings.parts_eq, SettingPart.of_keeps])
      grouped.sorted message done
  refine ⟨settings, done, ?_, ?_⟩
  · cases missing : raw.entries.get? "log" with
    | none =>
      rw [missing] at log'
      exact log'.trans (log_of_missing missing destination holds).symm
    | some inner => simpa [missing] using log'
  · cases missing : raw.entries.get? "message" with
    | none =>
      rw [missing] at message'
      exact message'.trans (message_of_missing missing holds).symm
    | some inner => simpa [missing] using message'

theorem ofRaw_error {e : SettingsError} (grouped : raw.Grouped)
    (destination : (raw.at? "log" "to").map (readDestination "log.to") = some (.error e))
    (holds : HoldsRest raw given) : Settings.ofRaw raw = .error e := by
  cases there : raw.entries.get? "log" with
  | none => simp [at?, there] at destination
  | some inner =>
    obtain ⟨table, sorted⟩ := grouped.groups "log" (by decide) inner there
    obtain ⟨level, dir, file, -, -⟩ := id holds
    rw [at?_of_get? there] at destination level dir file
    obtain ⟨setting, here, refused⟩ := Option.map_eq_some_iff.mp destination
    have log : readGroup "struct Log" LogSettings.parts .default "log" inner = .error e := by
      rw [readGroup_of_isTable table]
      refine readNamed_error sorted here rfl (SettingPart.of_read_error refused) ?_ _
      simp only [LogSettings.parts_eq, List.forall_mem_cons]
      exact ⟨absurd rfl, fun _ => readable_of level, fun _ => readable_of dir,
        fun _ => readable_of file, by simp⟩
    refine readNamed_error grouped.sorted there rfl (SettingPart.of_read_error log) ?_ _
    simp only [Settings.parts_eq, List.forall_mem_cons]
    exact ⟨absurd rfl, fun _ => readable_of (reads_message grouped holds), by simp⟩

end Bayeux
