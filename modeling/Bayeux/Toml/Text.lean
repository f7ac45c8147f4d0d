import Bayeux.Text.Basic

set_option autoImplicit false

namespace Bayeux.Toml

-- What may stand in a comment or between quotes: no control character but the tab.
def isTextChar (c : Char) : Bool := c = '\t' || (' ' ≤ c && c ≠ '\x7f')

def isBlank (c : Char) : Bool := c = ' ' || c = '\t'

inductive Place where
  | plain
  | escape
  -- Digits of a code point; so many are still to come.
  | code (left value : Nat)
  -- Blanks and line ends after a backslash at the end of a line.
  | gap (ended : Bool)
  deriving DecidableEq

inductive Turn where
  | refuse
  | finish (done rest : List Char)
  | go (place : Place) (done : List Char)

/-- A form of text: what its characters do. The text so far is reversed. -/
abbrev Form := Place → (done : List Char) → (c : Char) → (rest : List Char) → Turn

def readText (form : Form) : Place → (done : List Char) → List Char → Option (String × List Char)
  | _, _, [] => none
  | place, done, c :: rest =>
    match form place done c rest with
    | .refuse => none
    | .finish done rest => some (String.ofList done.reverse, rest)
    | .go place done => readText form place done rest

def escaped (done : List Char) (c : Char) : Turn :=
  match c with
  | '"' => .go .plain ('"' :: done)
  | '\\' => .go .plain ('\\' :: done)
  | 'b' => .go .plain ('\x08' :: done)
  | 't' => .go .plain ('\t' :: done)
  | 'n' => .go .plain ('\n' :: done)
  | 'f' => .go .plain ('\x0c' :: done)
  | 'r' => .go .plain ('\r' :: done)
  | 'e' => .go .plain ('\x1b' :: done)
  | 'x' => .go (.code 2 0) done
  | 'u' => .go (.code 4 0) done
  | 'U' => .go (.code 8 0) done
  | _ => .refuse

def isCodePoint (n : Nat) : Bool := n < 0xD800 || (0xE000 ≤ n && n < 0x110000)

def coded (left value : Nat) (done : List Char) (c : Char) : Turn :=
  match Text.hexValue? c with
  | none => .refuse
  | some digit =>
    let value := 16 * value + digit
    if 1 < left then .go (.code (left - 1) value) done
    else if isCodePoint value then .go .plain (Char.ofNat value :: done)
    else .refuse

def basicForm : Form
  | .plain, done, c, rest =>
    if c = '"' then .finish done rest
    else if c = '\\' then .go .escape done
    else if isTextChar c then .go .plain (c :: done)
    else .refuse
  | .escape, done, c, _ => escaped done c
  | .code left value, done, c, _ => coded left value done c
  | .gap _, _, _, _ => .refuse

def literalForm : Form := fun _ done c rest =>
  if c = '\'' then .finish done rest
  else if isTextChar c then .go .plain (c :: done)
  else .refuse

-- A quote inside a text of several lines. Three end the text, and up to two more before them count.
def quoteTurn (quote : Char) (done rest : List Char) : Turn :=
  match rest.takeWhile (· = quote) with
  | [] | [_] => .go .plain (quote :: done)
  | _ :: _ :: extra =>
    let extra := extra.take 2
    .finish (extra ++ done) (rest.drop (2 + extra.length))

def isLineEnd (c : Char) (rest : List Char) : Bool :=
  c = '\n' || (c = '\r' && rest.head? = some '\n')

def plainLines (quote : Char) (done : List Char) (c : Char) (rest : List Char) : Turn :=
  if c = quote then quoteTurn quote done rest
  else if isLineEnd c rest || isTextChar c then .go .plain (c :: done)
  else .refuse

def literalLinesForm : Form := fun _ done c rest => plainLines '\'' done c rest

-- Between three double quotes. A backslash at the end of a line joins it to what follows.
def basicLinesForm : Form
  | .plain, done, c, rest => begin done c rest
  | .escape, done, c, rest =>
    if isBlank c then .go (.gap false) done
    else if isLineEnd c rest then .go (.gap true) done
    else escaped done c
  | .code left value, done, c, _ => coded left value done c
  | .gap ended, done, c, rest =>
    if isBlank c then .go (.gap ended) done
    else if isLineEnd c rest then .go (.gap true) done
    else if ended then begin done c rest
    else .refuse
where
  begin (done : List Char) (c : Char) (rest : List Char) : Turn :=
    if c = '\\' then .go .escape done else plainLines '"' done c rest

def readBasic : List Char → Option (String × List Char) := readText basicForm .plain []

def readLiteral : List Char → Option (String × List Char) := readText literalForm .plain []

-- A line end right after the opening quotes does not count.
def afterOpening : List Char → List Char
  | '\n' :: rest => rest
  | '\r' :: '\n' :: rest => rest
  | s => s

def readQuoted : List Char → Option (String × List Char)
  | '"' :: '"' :: '"' :: rest => readText basicLinesForm .plain [] (afterOpening rest)
  | '\'' :: '\'' :: '\'' :: rest => readText literalLinesForm .plain [] (afterOpening rest)
  | '"' :: rest => readBasic rest
  | '\'' :: rest => readLiteral rest
  | _ => none

end Bayeux.Toml
