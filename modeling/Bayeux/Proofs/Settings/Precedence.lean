import Bayeux.Proofs.Settings.Reading
import Bayeux.Proofs.Settings.Values
import Bayeux.Settings.Load

set_option autoImplicit false

namespace Bayeux

open RawSetting

/-- A layer gives settings in tables, and each of them can be read. -/
structure Gives (layer : List (String × RawSetting)) (given : GivenSettings) : Prop where
  plain : ∀ entry ∈ layer, isPlain entry
  destination : Reads (readDestination "log.to") (valuesOf layer "log" "to") given.destination
  level : Reads (readLevel "log.level") (valuesOf layer "log" "level") given.level
  dir : Reads (readString "log.dir") (valuesOf layer "log" "dir") given.dir
  file : Reads (readString "log.file") (valuesOf layer "log" "file") given.file
  zipThreshold : Reads (readSize "message.zip_message_size_threshold")
    (valuesOf layer "message" "zip_message_size_threshold") given.zipThreshold
  ignoreNullData : Reads (readBool "message.ignore_null_data")
    (valuesOf layer "message" "ignore_null_data") given.ignoreNullData

theorem reads_three {α : Type} {read : RawSetting → Except SettingsError α}
    {usual environment named : List (String × RawSetting)} {group key : String}
    {low middle high : Option α} (reads : Reads read (valuesOf usual group key) low)
    (reads' : Reads read (valuesOf environment group key) middle)
    (reads'' : Reads read (valuesOf named group key) high) :
    Reads read ([usual, environment, named].flatMap (valuesOf · group key))
      (high <|> (middle <|> low)) := by
  simpa only [List.flatMap_cons, List.flatMap_nil, List.append_nil, List.append_assoc] using
    (reads.append reads').append reads''

variable {surroundings : Surroundings} {options : Options}
  {usual named : List (String × RawSetting)} {lowest middle highest : GivenSettings}

def merged (usual environment named : List (String × RawSetting)) : RawSetting :=
  [usual, environment, named].foldl putAll .empty

theorem at?_merged {environment : List (String × RawSetting)} {group : String}
    (low : Gives usual lowest) (between : Gives environment middle) (high : Gives named highest)
    (known : group ∈ groupNames) (key : String) :
    (merged usual environment named).Grouped ∧
      (merged usual environment named).at? group key =
        stack none ([usual, environment, named].flatMap (valuesOf · group key)) := by
  have plain : ∀ layer ∈ [usual, environment, named], ∀ entry ∈ layer, isPlain entry := by
    simp only [List.forall_mem_cons]
    exact ⟨low.plain, between.plain, high.plain, by simp⟩
  exact foldl_putAll_plain grouped_empty plain known key

theorem holdsRest_merged {environment : List (String × RawSetting)}
    (low : Gives usual lowest) (between : Gives environment middle) (high : Gives named highest) :
    HoldsRest (merged usual environment named) (highest.orElse (middle.orElse lowest)) := by
  have at? {group : String} (known : group ∈ groupNames) (key : String) :=
    (at?_merged low between high known key).2
  constructor
  · rw [at? (by decide)]
    exact (reads_three low.level between.level high.level).stack
      fun _ _ => not_table_of_readLevel
  · rw [at? (by decide)]
    exact (reads_three low.dir between.dir high.dir).stack
      fun _ _ => not_table_of_readString
  · rw [at? (by decide)]
    exact (reads_three low.file between.file high.file).stack
      fun _ _ => not_table_of_readString
  · rw [at? (by decide)]
    exact (reads_three low.zipThreshold between.zipThreshold high.zipThreshold).stack
      fun _ _ => not_table_of_readSize
  · rw [at? (by decide)]
    exact (reads_three low.ignoreNullData between.ignoreNullData high.ignoreNullData).stack
      fun _ _ => not_table_of_readBool

theorem override_eq {settings : Settings} {given : GivenSettings} (log : settings.log = given.log)
    (message : settings.message = given.message) (options : Options) :
    settings.override options = ((GivenSettings.ofOptions options).orElse given).settings options := by
  rw [Settings.override, log, message]
  cases options with
  | mk _ zipThreshold ignoreNullData =>
    cases zipThreshold <;> cases ignoreNullData <;> rfl

theorem load_eq (usualFile : Surroundings.ofUsualFile surroundings.folder = .ok usual)
    (namedFile : Surroundings.ofNamedFile surroundings.folder options.configName = .ok named) :
    Settings.load surroundings options =
      (Settings.ofRaw (merged usual (ofVariables surroundings.environment) named)).map
        (·.override options) := by
  rw [Settings.load, Surroundings.gather, usualFile, namedFile]
  rfl

instance decidableEqExcept {ε α : Type} [DecidableEq ε] [DecidableEq α] :
    DecidableEq (Except ε α)
  | .ok a, .ok b => decidable_of_iff (a = b) ⟨congrArg _, Except.ok.inj⟩
  | .error e, .error f => decidable_of_iff (e = f) ⟨congrArg _, Except.error.inj⟩
  | .ok _, .error _ => isFalse nofun
  | .error _, .ok _ => isFalse nofun

theorem eq_ok_of_isSome {ε α : Type} (result : Except ε α) (done : result.toOption.isSome) (a : α) :
    result = .ok (result.toOption.getD a) := by
  cases result with
  | error => cases done
  | ok => rfl

def GivenSettings.nothing : GivenSettings := ⟨none, none, none, none, none, none⟩

theorem gives_of_readings {layer : List (String × RawSetting)}
    (destinations : List Log.Destination) (levels : List Log.Level) (dirs files : List String)
    (sizes : List ByteSize) (switches : List Bool)
    (readings : (∀ entry ∈ layer, isPlain entry) ∧
      (valuesOf layer "log" "to").map (readDestination "log.to") = destinations.map .ok ∧
      (valuesOf layer "log" "level").map (readLevel "log.level") = levels.map .ok ∧
      (valuesOf layer "log" "dir").map (readString "log.dir") = dirs.map .ok ∧
      (valuesOf layer "log" "file").map (readString "log.file") = files.map .ok ∧
      (valuesOf layer "message" "zip_message_size_threshold").map
        (readSize "message.zip_message_size_threshold") = sizes.map .ok ∧
      (valuesOf layer "message" "ignore_null_data").map
        (readBool "message.ignore_null_data") = switches.map .ok) :
    Gives layer ⟨destinations.getLast?, levels.getLast?, dirs.getLast?, files.getLast?,
      sizes.getLast?, switches.getLast?⟩ := by
  obtain ⟨plain, destination, level, dir, file, zipThreshold, ignoreNullData⟩ := readings
  exact ⟨plain, reads_of_map destination, reads_of_map level, reads_of_map dir, reads_of_map file,
    reads_of_map zipThreshold, reads_of_map ignoreNullData⟩

def layered : Surroundings :=
  { folder :=
      { path := "/work"
        files :=
          [("cometd.toml", "[log]\nto = { file = 1 }\nlevel = \"warn\"\ndir = \"a\"\n"),
            ("named.toml", "[log]\ndir = \"b\"\n[message]\nzip_message_size_threshold = 3\n")] }
    environment := [("COMETD_LOG__TO", "both"), ("COMETD_MESSAGE__IGNORE_NULL_DATA", "yes")] }

def layeredOptions : Options :=
  { configName := some "named.toml"
    zipThreshold := some ⟨5⟩
    ignoreNullData := none }

def usualLayer : List (String × RawSetting) :=
  (Surroundings.ofUsualFile layered.folder).toOption.getD []

def namedLayer : List (String × RawSetting) :=
  (Surroundings.ofNamedFile layered.folder layeredOptions.configName).toOption.getD []

theorem layered_gives :
    Gives usualLayer
      { GivenSettings.nothing with
        destination := some .file
        level := some .warning
        dir := some "a" } ∧
    Gives (ofVariables layered.environment)
      { GivenSettings.nothing with
        destination := some .both
        ignoreNullData := some true } ∧
    Gives namedLayer
      { GivenSettings.nothing with
        dir := some "b"
        zipThreshold := some ⟨3⟩ } :=
  ⟨gives_of_readings [.file] [.warning] ["a"] [] [] [] (by decide +kernel),
    gives_of_readings [.both] [] [] [] [] [true] (by decide +kernel),
    gives_of_readings [] [] ["b"] [] [⟨3⟩] [] (by decide +kernel)⟩

def twoTables : Surroundings :=
  { folder :=
      { path := "/work"
        files :=
          [("cometd.toml", "[log]\nto = { file = 1 }\n"),
            ("named.toml", "[log]\nto = { both = 1 }\n")] }
    environment := [] }

end Bayeux
