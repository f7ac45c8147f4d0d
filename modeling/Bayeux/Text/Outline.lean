import Bayeux.Text.Quoted

set_option autoImplicit false

namespace Bayeux.Text

/-- A value as it is shown to developers, on one line or with an indented line for each part. -/
inductive Outline where
  | text (s : String)
  | labelled (label : String) (inner : Outline)
  | tuple (name : String) (items : List Outline)
  | record (name : String) (fields : List (String × Outline))
  | map (entries : List (String × Outline))
  | list (items : List Outline)

namespace Outline

def str (s : String) : Outline := .text (quoted s)

def bool (b : Bool) : Outline := .text (if b then "true" else "false")

def optional : Option Outline → Outline
  | none => .text "None"
  | some inner => .tuple "Some" [inner]

mutual

def line : Outline → String
  | .text s => s
  | .labelled label inner => label ++ line inner
  | .tuple name items => name ++ "(" ++ String.intercalate ", " (lines items) ++ ")"
  | .record name fields =>
    name ++ " \x7b " ++ String.intercalate ", " (fieldLines fields) ++ " \x7d"
  | .map entries => "\x7b" ++ String.intercalate ", " (entryLines entries) ++ "\x7d"
  | .list items => "[" ++ String.intercalate ", " (lines items) ++ "]"

def lines : List Outline → List String
  | [] => []
  | item :: rest => line item :: lines rest

def fieldLines : List (String × Outline) → List String
  | [] => []
  | (name, value) :: rest => (name ++ ": " ++ line value) :: fieldLines rest

def entryLines : List (String × Outline) → List String
  | [] => []
  | (key, value) :: rest => (quoted key ++ ": " ++ line value) :: entryLines rest

end

def block (opening closing indent : String) (parts : List String) : String :=
  if parts.isEmpty then opening ++ closing
  else
    opening ++ "\n" ++ String.join (parts.map fun part => indent ++ "    " ++ part ++ ",\n") ++
      indent ++ closing

mutual

-- The indented form; `indent` is what the lines of its parts start with.
def indented (indent : String) : Outline → String
  | .text s => s
  | .labelled label inner => label ++ indented indent inner
  | .tuple name items => block (name ++ "(") ")" indent (indentedItems (indent ++ "    ") items)
  | .record name fields =>
    block (name ++ " \x7b") "\x7d" indent (indentedFields (indent ++ "    ") fields)
  | .map entries => block "\x7b" "\x7d" indent (indentedEntries (indent ++ "    ") entries)
  | .list items => block "[" "]" indent (indentedItems (indent ++ "    ") items)

def indentedItems (indent : String) : List Outline → List String
  | [] => []
  | item :: rest => indented indent item :: indentedItems indent rest

def indentedFields (indent : String) : List (String × Outline) → List String
  | [] => []
  | (name, value) :: rest =>
    (name ++ ": " ++ indented indent value) :: indentedFields indent rest

def indentedEntries (indent : String) : List (String × Outline) → List String
  | [] => []
  | (key, value) :: rest =>
    (quoted key ++ ": " ++ indented indent value) :: indentedEntries indent rest

end

end Outline

end Bayeux.Text
