import Bayeux.Binary64.Basic
import Bayeux.Table

set_option autoImplicit false

namespace Bayeux

namespace Toml

/-- How a table came to be, which settles what may still be added to it. -/
inductive Origin where
  | header
  -- It stands on the way to a header.
  | implied
  -- It stands on the way to a dotted key, and perhaps to headers before that.
  | dotted
  -- It was written in braces and is complete.
  | inline
  deriving DecidableEq

end Toml

inductive Toml where
  | text (s : String)
  | integer (n : Int)
  | float (x : Binary64)
  | bool (b : Bool)
  -- A date, a time or both, in their usual text.
  | moment (text : String)
  | list (items : List Toml)
  -- Tables under one header, the last of which is open.
  | tables (items : List Toml)
  | table (origin : Toml.Origin) (entries : List (String × Toml))

namespace Toml

-- Whether a path whose new tables have the origin `way` may pass through a table.
def Origin.lets (own way : Origin) : Bool :=
  own ≠ .inline && (way ≠ .dotted || own ≠ .header)

/-- What a table is once a path whose new tables have the origin `way` has passed through it:
a dotted key claims the tables that headers have implied. -/
def Origin.passed (own way : Origin) : Origin := if own = .implied then way else own

/-- Changes the table at the end of a path. A missing table is made, with the origin `way`. -/
def change (way : Origin) (edit : Toml → Option Toml) : List String → Toml → Option Toml
  | [], t => edit t
  | name :: path, .table own entries =>
    let put (value : Toml) : Toml := .table own (Table.insert entries name value)
    match Table.get? entries name with
    | none => (change way edit path (.table way [])).map put
    | some (.tables items) =>
      match items.getLast? with
      | some last =>
        (change way edit path last).map fun value => put (.tables (items.dropLast ++ [value]))
      | none => none
    | some (.table origin inner) =>
      if origin.lets way then (change way edit path (.table (origin.passed way) inner)).map put
      else none
    | some _ => none
  | _ :: _, _ => none

def addKey (path : List String) (name : String) (value : Toml) : Toml → Option Toml :=
  change .dotted (fun
    | .table origin entries =>
      if (origin = .dotted) = path.isEmpty || Table.contains entries name then none
      else some (.table origin (Table.insert entries name value))
    | _ => none) path

-- Opens a table by its header. It may have been implied before, and nothing else.
def openTable (path : List String) (name : String) : Toml → Option Toml :=
  change .implied (fun
    | .table origin entries =>
      match Table.get? entries name with
      | none => some (.table origin (Table.insert entries name (.table .header [])))
      | some (.table .implied inner) =>
        some (.table origin (Table.insert entries name (.table .header inner)))
      | some _ => none
    | _ => none) path

def appendTable (path : List String) (name : String) : Toml → Option Toml :=
  change .implied (fun
    | .table origin entries =>
      match Table.get? entries name with
      | none => some (.table origin (Table.insert entries name (.tables [.table .header []])))
      | some (.tables items) =>
        some (.table origin (Table.insert entries name (.tables (items ++ [.table .header []]))))
      | some _ => none
    | _ => none) path

end Toml

end Bayeux
