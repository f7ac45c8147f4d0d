import Bayeux.Toml.Basic
import Bayeux.Toml.Moment
import Bayeux.Toml.Number
import Bayeux.Toml.Text

set_option autoImplicit false

namespace Bayeux.Toml

def maxDepth : Nat := 80

def maxNames : Nat := 80

def skipBlank (s : List Char) : List Char := s.dropWhile isBlank

def skipComment : List Char → Option (List Char)
  | [] => some []
  | c :: rest =>
    if isLineEnd c rest then some (c :: rest)
    else if isTextChar c then skipComment rest
    else none

def skipTrivia : (inComment : Bool) → List Char → Option (List Char)
  | _, [] => some []
  | inComment, c :: rest =>
    if isLineEnd c rest then skipTrivia (inComment && c = '\r') rest
    else if inComment then if isTextChar c then skipTrivia true rest else none
    else if isBlank c then skipTrivia false rest
    else if c = '#' then skipTrivia true rest
    else some (c :: rest)

def skipLine (s : List Char) : Option (List Char) :=
  let next : Option (List Char) :=
    match skipBlank s with
    | '#' :: rest => skipComment rest
    | rest => some rest
  match next with
  | some [] => some []
  | some ('\n' :: rest) => some rest
  | some ('\r' :: '\n' :: rest) => some rest
  | _ => none

def isBare (c : Char) : Bool := c.isAlphanum || c = '_' || c = '-'

def readName : List Char → Option (String × List Char)
  | '"' :: rest => readBasic rest
  | '\'' :: rest => readLiteral rest
  | s =>
    let name := s.takeWhile isBare
    if name.isEmpty then none else some (String.ofList name, s.dropWhile isBare)

def readNames : (room : Nat) → (path : List String) → List Char →
    Option (List String × String × List Char)
  | 0, _, _ => none
  | room + 1, path, s =>
    match readName (skipBlank s) with
    | none => none
    | some (name, rest) =>
      match skipBlank rest with
      | '.' :: rest => readNames room (path ++ [name]) rest
      | rest => some (path, name, rest)

def readKey (s : List Char) : Option (List String × String × List Char) := readNames maxNames [] s

def isTokenChar (c : Char) : Bool :=
  c.isAlphanum || c = '+' || c = '-' || c = '_' || c = '.' || c = ':'

-- A row of characters without blanks; between a date and a time there may be one space.
def takeToken (s : List Char) : List Char × List Char :=
  let token := s.takeWhile isTokenChar
  match s.dropWhile isTokenChar with
  | ' ' :: d :: rest =>
    let isDate := match readDate token with
      | some (_, []) => true
      | _ => false
    if isDate && d.isDigit then
      (token ++ ' ' :: (d :: rest).takeWhile isTokenChar, (d :: rest).dropWhile isTokenChar)
    else (token, ' ' :: d :: rest)
  | rest => (token, rest)

def ofToken (token : List Char) : Option Toml :=
  if token = ['t', 'r', 'u', 'e'] then some (.bool true)
  else if token = ['f', 'a', 'l', 's', 'e'] then some (.bool false)
  else
    match readInteger token with
    | some n => some (.integer n)
    | none =>
      match readFloat token with
      | some x => some (.float x)
      | none => (Moment.read? token).map fun m => .moment m.text

def readToken (s : List Char) : Option (Toml × List Char) :=
  let (token, rest) := takeToken s
  (ofToken token).map fun value => (value, rest)

mutual

/-- Reads a value; `room` more containers may be opened. The fuel is never used up when it exceeds
twice the length of the text. -/
def readValue : (fuel room : Nat) → List Char → Option (Toml × List Char)
  | 0, _, _ => none
  | fuel + 1, room, s =>
    match s with
    | '"' :: _ | '\'' :: _ => (readQuoted s).map fun (content, rest) => (.text content, rest)
    | '[' :: rest =>
      match room with
      | 0 => none
      | room + 1 => readItems fuel room [] rest
    | '{' :: rest =>
      match room with
      | 0 => none
      | room + 1 => readMembers fuel room (.table .inline []) rest
    | _ => readToken s

def readItems : (fuel room : Nat) → (done : List Toml) → List Char → Option (Toml × List Char)
  | 0, _, _, _ => none
  | fuel + 1, room, done, s =>
    match skipTrivia false s with
    | none => none
    | some (']' :: rest) => some (.list done.reverse, rest)
    | some s => do
      let (item, rest) ← readValue fuel room s
      match ← skipTrivia false rest with
      | ',' :: rest => readItems fuel room (item :: done) rest
      | ']' :: rest => return (.list (item :: done).reverse, rest)
      | _ => none

def readMembers : (fuel room : Nat) → (done : Toml) → List Char → Option (Toml × List Char)
  | 0, _, _, _ => none
  | fuel + 1, room, done, s =>
    match skipTrivia false s with
    | none => none
    | some ('}' :: rest) => some (done, rest)
    | some s => do
      let (path, name, rest) ← readKey s
      let rest ← takeChar '=' (← skipTrivia false rest)
      let (value, rest) ← readValue fuel room (← skipTrivia false rest)
      let done ← addKey path name value done
      match ← skipTrivia false rest with
      | ',' :: rest => readMembers fuel room done rest
      | '}' :: rest => return (done, rest)
      | _ => none

end

-- The document so far, and the header under which the next keys stand.
structure Draft where
  root : Toml
  header : List String

def Draft.start : Draft := ⟨.table .header [], []⟩

def readEntry (draft : Draft) (s : List Char) : Option (Draft × List Char) := do
  let (path, name, rest) ← readKey s
  let rest ← takeChar '=' rest
  let rest := skipBlank rest
  let (value, rest) ← readValue (2 * rest.length + 1) maxDepth rest
  let root ← draft.root.change .implied (addKey path name value) draft.header
  return ({ draft with root }, rest)

def readStatement (draft : Draft) (s : List Char) : Option (Draft × List Char) :=
  match s with
  | [] | '#' :: _ | '\n' :: _ | '\r' :: _ => some (draft, s)
  | '[' :: '[' :: rest => do
    let (path, name, rest) ← readKey rest
    let rest ← takeChar ']' (← takeChar ']' rest)
    return (⟨← draft.root.appendTable path name, path ++ [name]⟩, rest)
  | '[' :: rest => do
    let (path, name, rest) ← readKey rest
    let rest ← takeChar ']' rest
    return (⟨← draft.root.openTable path name, path ++ [name]⟩, rest)
  | s => readEntry draft s

def readLines : (fuel : Nat) → Draft → List Char → Option Toml
  | 0, draft, _ => some draft.root
  | fuel + 1, draft, s =>
    match s with
    | [] => some draft.root
    | s => do
      let (draft, rest) ← readStatement draft (skipBlank s)
      readLines fuel draft (← skipLine rest)

def parse (text : String) : Option Toml :=
  let s := match text.toList with
    | '\uFEFF' :: rest => rest
    | s => s
  readLines (s.length + 1) .start s

end Bayeux.Toml
