import Bayeux.CommandLine.Options
import Bayeux.Proofs.CommandLine.Value
import Bayeux.Proofs.Folder
import Bayeux.Proofs.Settings.Layers
import Bayeux.Proofs.Settings.Variables
import Bayeux.Proofs.Toml.Line
import Bayeux.Settings.Load

set_option autoImplicit false

namespace Bayeux

open ByteSize RawSetting Text

def thresholdOf (result : Except SettingsError Settings) : Option ByteSize :=
  result.toOption.map (·.message.zipThreshold)

def bare : Surroundings := ⟨⟨"/work", []⟩, []⟩

def thresholdVariable : String := "COMETD_MESSAGE__ZIP_MESSAGE_SIZE_THRESHOLD"

def thresholdFile : String := "threshold.toml"

def folderOf (document : String) : Folder := ⟨"/work", [(thresholdFile, document)]⟩

def throughVariable (text : String) : Option ByteSize :=
  thresholdOf (Settings.load { bare with environment := [(thresholdVariable, text)] } .none)

def throughFile (quoted : List Char) : Option ByteSize :=
  thresholdOf (Settings.load ⟨folderOf (Toml.thresholdLine quoted), []⟩
    { Options.none with configName := some thresholdFile })

def throughCommandLine (text : String) : Option ByteSize :=
  (CommandLine.readOptions ["--zip-threshold", text]).toOption.bind fun options =>
    thresholdOf (Settings.load bare options)

variable {text : String} {raw : RawSetting} {size : ByteSize}

def thresholdAlone (raw : RawSetting) : RawSetting :=
  .table [("message", .table [("zip_message_size_threshold", raw)] none)] none

theorem ofRaw_thresholdAlone (raw : RawSetting) :
    Settings.ofRaw (thresholdAlone raw) =
      (raw.readSize "message.zip_message_size_threshold").map fun size =>
        { Settings.default with message.zipThreshold := size } := by
  simp [Settings.ofRaw, thresholdAlone, RawSetting.entries, readNamed, Settings.parts, readGroup,
    MessageSettings.parts]
  cases raw.readSize "message.zip_message_size_threshold" <;> rfl

theorem ofDocument_threshold {quoted : List Char} (read : Toml.readQuoted quoted = some (text, [])) :
    ofDocument thresholdFile (Toml.thresholdLine quoted) =
      .ok [("message", .table
        [("zip_message_size_threshold", .text text (some thresholdFile))] (some thresholdFile))] := by
  rw [ofDocument, Toml.parse_thresholdLine read]
  rfl

theorem find_folderOf (document name : String) :
    (folderOf document).find name = (folderOf "").find name :=
  Folder.find_congr (a := folderOf document) (b := folderOf "") rfl rfl name

-- Facts about fixed names are put together: the kernel works them out at one go.

theorem finds_threshold (document : String) :
    Surroundings.extended? "cometd" = some "cometd.toml" ∧
      ((folderOf document).find "cometd").toOption = none ∧
      ((folderOf document).find "cometd.toml").toOption = none ∧
      ((folderOf document).find thresholdFile).toOption = some thresholdFile := by
  simp only [find_folderOf document]
  decide +kernel

theorem names_threshold :
    Folder.isAbsolute thresholdFile = false ∧
      Folder.joinSteps (Folder.stepsOf thresholdFile) = thresholdFile ∧
      Surroundings.extensionOf ((Folder.stepsOf thresholdFile).getLast?.getD "") =
        some Surroundings.extension ∧
      variableKey? thresholdVariable = some "message.zip_message_size_threshold" ∧
      PlaceStep.readPlace "message" = [.name "message"] ∧
      PlaceStep.readPlace "message.zip_message_size_threshold" =
        [.name "message", .name "zip_message_size_threshold"] := by
  decide +kernel

theorem usualFile_threshold (document : String) :
    Surroundings.ofUsualFile (folderOf document) = .ok [] := by
  obtain ⟨full, absent, absent', -⟩ := finds_threshold document
  obtain ⟨e, missing⟩ := Folder.read_of_find_none absent
  obtain ⟨e', missing'⟩ := Folder.read_of_find_none absent'
  simp only [Surroundings.ofUsualFile, Surroundings.ofFile, Surroundings.usualFile, missing, full,
    missing']

theorem namedFile_threshold {quoted : List Char} (read : Toml.readQuoted quoted = some (text, [])) :
    Surroundings.ofNamedFile (folderOf (Toml.thresholdLine quoted)) (some thresholdFile) =
      .ok [("message", .table
        [("zip_message_size_threshold", .text text (some thresholdFile))] (some thresholdFile))] := by
  obtain ⟨relative, joined, toml, -⟩ := names_threshold
  have unmarked : Surroundings.withoutMark (Toml.thresholdLine quoted) = Toml.thresholdLine quoted := by
    rw [Surroundings.withoutMark, Toml.thresholdLine, String.toList_ofList]
    rfl
  have found := Folder.read_of_find (finds_threshold (Toml.thresholdLine quoted)).2.2.2
  have document : ((folderOf (Toml.thresholdLine quoted)).files.get? thresholdFile).getD "" =
      Toml.thresholdLine quoted := by
    simp [folderOf, Table.get?]
  have called : Surroundings.nameInMessages (folderOf (Toml.thresholdLine quoted)) thresholdFile =
      thresholdFile := by
    rw [Surroundings.nameInMessages, relative, ← joined]
    rfl
  rw [Surroundings.ofNamedFile, Surroundings.ofFile, found]
  dsimp only
  rw [if_pos toml, document, unmarked, called, ofDocument_threshold read]

theorem load_of_gather {surroundings : Surroundings} (options : Options)
    (gathered : surroundings.gather options.configName = .ok (thresholdAlone raw))
    (none : options.zipThreshold = none) :
    thresholdOf (Settings.load surroundings options) = some size ↔
      raw.readSize "message.zip_message_size_threshold" = .ok size := by
  have load : Settings.load surroundings options =
      (Settings.ofRaw (thresholdAlone raw)).map (·.override options) := by
    rw [Settings.load, gathered]
    rfl
  rw [load, ofRaw_thresholdAlone, thresholdOf]
  cases raw.readSize "message.zip_message_size_threshold" <;>
    simp [Except.map, Except.toOption, Settings.override, none]

theorem throughFile_iff {quoted : List Char} (read : Toml.readQuoted quoted = some (text, [])) :
    throughFile quoted = some size ↔ ByteSize.read text = .ok size := by
  obtain ⟨-, -, -, -, place, -⟩ := names_threshold
  have gathered : Surroundings.gather ⟨folderOf (Toml.thresholdLine quoted), []⟩
      (some thresholdFile) = .ok (thresholdAlone (.text text (some thresholdFile))) := by
    rw [Surroundings.gather, usualFile_threshold, namedFile_threshold read]
    simp [bind, Except.bind, pure, Except.pure, ofVariables, putAll, place, put, above, entriesAbove,
      asTable, RawSetting.empty, Table.insert, thresholdAlone]
  rw [throughFile, load_of_gather { Options.none with configName := some thresholdFile } gathered rfl,
    readSize]
  cases ByteSize.read text <;> simp

theorem ofVariable_not_table (text : String) : (ofVariable text).isTable = false := by
  unfold ofVariable
  dsimp only
  split
  · rfl
  · split
    · rfl
    · split
      · rfl
      · split <;> rfl

theorem throughVariable_iff :
    throughVariable text = some size ↔
      (ofVariable text).readSize "message.zip_message_size_threshold" = .ok size := by
  obtain ⟨-, -, -, key, -, place⟩ := names_threshold
  have usual : Surroundings.ofUsualFile bare.folder = .ok [] := rfl
  have gathered : Surroundings.gather { bare with environment := [(thresholdVariable, text)] } none =
      .ok (thresholdAlone (ofVariable text)) := by
    rw [Surroundings.gather, usual]
    simp [bind, Except.bind, pure, Except.pure, ofVariables, key, putAll, place, put,
      above_of_not_table (ofVariable_not_table text), asTable, RawSetting.empty, Table.insert,
      thresholdAlone, Surroundings.ofNamedFile]
  exact load_of_gather .none gathered rfl

theorem load_bare {options : Options} (unnamed : options.configName = none) :
    thresholdOf (Settings.load bare options) =
      some (options.zipThreshold.getD MessageSettings.default.zipThreshold) := by
  have usual : Surroundings.ofUsualFile bare.folder = .ok [] := rfl
  have gathered : bare.gather options.configName = .ok .empty := by
    rw [Surroundings.gather, usual, unnamed]
    rfl
  rw [Settings.load, gathered]
  rfl

theorem throughCommandLine_iff :
    throughCommandLine text = some size ↔ ByteSize.read text = .ok size := by
  rw [throughCommandLine]
  constructor
  · intro given
    cases read : CommandLine.readOptions ["--zip-threshold", text] with
    | error e => simp [read, Except.toOption] at given
    | ok options =>
      obtain ⟨other, ok, rfl⟩ := CommandLine.readOptions_threshold.mp read
      rw [read, Except.toOption, Option.bind_some, load_bare rfl] at given
      obtain rfl : other = size := by simpa using given
      exact ok
  · intro ok
    rw [CommandLine.readOptions_threshold.mpr ⟨size, ok, rfl⟩]
    exact load_bare rfl

-- A text between quotes that stands for `text`.
def Quotation (text : String) : Type :=
  { quoted : List Char // Toml.readQuoted quoted = some (text, []) }

instance (text : String) : Inhabited (Quotation text) :=
  ⟨⟨Toml.quoteChars text, Toml.readQuoted_quoteChars text⟩⟩

/-- A threshold is the same however it is quoted in a file, and on the command line. A variable
differs: it gives none for a bare number of 64 bits, and zero for zeros behind a minus sign. -/
theorem threshold_channels (text : String) (quotation : Quotation text) (size : ByteSize) :
    (throughFile quotation.val = some size ↔ ByteSize.read text = .ok size) ∧
    (throughCommandLine text = some size ↔ ByteSize.read text = .ok size) ∧
    (throughVariable text = some size ↔
      (ByteSize.read text = .ok size ∧ ¬(Numeral text.toList size.toNat ∧ 2 ^ 63 ≤ size.toNat)) ∨
        ∃ zeros, text.toList = '-' :: zeros ∧ Decimal zeros 0 ∧ size.toNat = 0) :=
  ⟨throughFile_iff quotation.property, throughCommandLine_iff,
    throughVariable_iff.trans readSize_ofVariable_iff⟩

-- A bare number of 64 bits is a size, but none in a variable; with a minus sign zero is no size,
-- but one in a variable.
theorem threshold_channels_differ :
    (ByteSize.read "9223372036854775808" = .ok ⟨9223372036854775808⟩ ∧
      throughFile (Toml.quoteChars "9223372036854775808") = some ⟨9223372036854775808⟩ ∧
      throughCommandLine "9223372036854775808" = some ⟨9223372036854775808⟩ ∧
      throughVariable "9223372036854775808" = none) ∧
    (ByteSize.read "-0" = .error (.unknownUnit "-0") ∧
      throughFile (Toml.quoteChars "-0") = none ∧
      throughCommandLine "-0" = none ∧
      throughVariable "-0" = some .zero) := by
  refine ⟨⟨rfl, ?_, ?_, ?_⟩, rfl, ?_, ?_, ?_⟩ <;> decide +kernel

end Bayeux
