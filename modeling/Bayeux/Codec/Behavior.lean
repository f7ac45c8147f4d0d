import Bayeux.Codec.Basic

set_option autoImplicit false

namespace Bayeux

inductive CodecCall where
  | generate (fields : JsonMap) (answer : Except CodecError String)
  | parse (text : String) (answer : Except CodecError JsonMap)

def CodecCall.isGenerate : CodecCall → Bool
  | .generate _ _ => true
  | .parse _ _ => false

/-- How a codec answers, given the calls before, the last first. It may fail, or answer something
that has nothing to do with what it is given. -/
structure Behavior where
  generate : List CodecCall → JsonMap → Except CodecError String
  parse : List CodecCall → String → Except CodecError JsonMap

def Behavior.faithful : Behavior :=
  { generate := fun _ fields => .ok (Codec.generate fields)
    parse := fun _ text => Codec.parse text }

-- A codec in use. It remembers its calls, the last first.
structure LiveCodec where
  behavior : Behavior
  calls : List CodecCall

namespace LiveCodec

def fresh (behavior : Behavior) : LiveCodec := ⟨behavior, []⟩

def generated (codec : LiveCodec) : Nat := codec.calls.countP (·.isGenerate)

def parsed (codec : LiveCodec) : Nat := codec.calls.countP (!·.isGenerate)

def generate (codec : LiveCodec) (fields : JsonMap) : LiveCodec × Except CodecError String :=
  let answer := codec.behavior.generate codec.calls fields
  ({ codec with calls := .generate fields answer :: codec.calls }, answer)

def parse (codec : LiveCodec) (text : String) : LiveCodec × Except CodecError JsonMap :=
  let answer := codec.behavior.parse codec.calls text
  ({ codec with calls := .parse text answer :: codec.calls }, answer)

end LiveCodec

inductive Reply where
  | faithful
  | text (text : String)
  | fail (error : CodecError)
  deriving DecidableEq

namespace Reply

def generate (reply : Reply) (fields : JsonMap) : Except CodecError String :=
  match reply with
  | .faithful => .ok (Codec.generate fields)
  | .text answer => .ok answer
  | .fail error => .error error

def parse (reply : Reply) (text : String) : Except CodecError JsonMap :=
  match reply with
  | .faithful => Codec.parse text
  | .text other => Codec.parse other
  | .fail error => .error error

end Reply

def Behavior.scripted (generateScript parseScript : List Reply) : Behavior :=
  { generate := fun calls fields =>
      (generateScript.getD (calls.countP (·.isGenerate)) .faithful).generate fields
    parse := fun calls text =>
      (parseScript.getD (calls.countP (!·.isGenerate)) .faithful).parse text }

end Bayeux
