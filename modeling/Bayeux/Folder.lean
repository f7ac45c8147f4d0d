import Bayeux.Table

set_option autoImplicit false

namespace Bayeux

inductive FileError where
  | missing
  | notDirectory
  | isDirectory
  deriving DecidableEq

def FileError.message : FileError → String
  | .missing => "No such file or directory (os error 2)"
  | .notDirectory => "Not a directory (os error 20)"
  | .isDirectory => "Is a directory (os error 21)"

structure Folder where
  path : String
  files : Table String
  deriving DecidableEq

namespace Folder

-- The parts between slashes.
def splitParts : List Char → List (List Char)
  | [] => [[]]
  | c :: rest =>
    match splitParts rest with
    | [] => [[c]]
    | part :: parts => if c = '/' then [] :: part :: parts else (c :: part) :: parts

def partsOf (name : String) : List String := (splitParts name.toList).map String.ofList

def isIdle (part : String) : Bool := part = "" || part = "."

def stepsOf (name : String) : List String := (partsOf name).filter fun part => !isIdle part

def joinSteps (steps : List String) : String := String.intercalate "/" steps

def isAbsolute (name : String) : Bool := name.toList.head? = some '/'

def endsInDirectory (name : String) : Bool :=
  match (partsOf name).getLast? with
  | some last => isIdle last || last = ".."
  | none => true

def fromRoot (folder : Folder) (name : String) : List String :=
  if isAbsolute name then stepsOf name else stepsOf folder.path ++ stepsOf name

def lookup? (folder : Folder) (steps : List String) : Option String :=
  folder.files.keys.find? fun file => folder.fromRoot file = steps

def hasDirectory (folder : Folder) (steps : List String) : Bool :=
  steps.isPrefixOf (stepsOf folder.path) ||
    folder.files.keys.any fun file =>
      let path := folder.fromRoot file
      steps.length < path.length && steps.isPrefixOf path

-- Where steps lead, if all but the last are directories.
def follow (folder : Folder) : (done : List String) → List String → Except FileError (List String)
  | done, [] => .ok done
  | done, step :: steps =>
    if step = ".." then folder.follow done.dropLast steps
    else
      let here := done ++ [step]
      if steps.isEmpty || folder.hasDirectory here then folder.follow here steps
      else if (folder.lookup? here).isSome then .error .notDirectory
      else .error .missing

def resolve (folder : Folder) (name : String) : Except FileError (List String) :=
  if name = "" then .error .missing else folder.follow [] (folder.fromRoot name)

def find (folder : Folder) (name : String) : Except FileError String := do
  let steps ← folder.resolve name
  match folder.lookup? steps with
  | some file => if endsInDirectory name then .error .notDirectory else .ok file
  | none => .error (if folder.hasDirectory steps then .isDirectory else .missing)

def read (folder : Folder) (name : String) : Except FileError String := do
  let file ← folder.find name
  return (folder.files.get? file).getD ""

-- Adds to the end of a file, which is made if its directory is there.
def append (folder : Folder) (name text : String) : Except FileError Folder :=
  match folder.find name with
  | .ok file =>
    let old := (folder.files.get? file).getD ""
    .ok { folder with files := folder.files.insert file (old ++ text) }
  | .error .missing => do
    let steps ← folder.resolve name
    if endsInDirectory name || !folder.hasDirectory steps.dropLast then .error .missing
    else .ok { folder with files := folder.files.insert ("/" ++ joinSteps steps) text }
  | .error e => .error e

end Folder

end Bayeux
