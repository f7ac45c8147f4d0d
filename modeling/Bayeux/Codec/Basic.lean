import Bayeux.Gzip.Member
import Bayeux.Json.Parser
import Bayeux.Json.Printer
import Bayeux.Text.Quoted

set_option autoImplicit false

namespace Bayeux

inductive CodecError where
  | generate (problem : Json.Problem)
  | parse (problem : Json.Problem)
  | notAnObject
  | utf8
  | damaged (damage : Gzip.Damage)
  | other (message : String)
  deriving DecidableEq

def CodecError.message : CodecError → String
  | .generate problem => "JSON generate error: " ++ problem.text
  | .parse problem => "JSON parse error: " ++ problem.text
  | .notAnObject => "JSON message is not an object"
  | .utf8 => "utf8 error"
  | .damaged damage => "io error, " ++ damage.message
  | .other message =>
    "io error, Custom \x7b kind: Other, error: " ++ Text.quoted message ++ " \x7d"

namespace Codec

def generate (fields : JsonMap) : String := (Json.object fields).text

def parse (text : String) : Except CodecError JsonMap :=
  match Json.parse text with
  | .error problem => .error (.parse problem)
  | .ok (.object members) => .ok members
  | .ok _ => .error .notAnObject

def gunzip (bytes : ByteArray) : Except CodecError ByteArray :=
  (Gzip.decompress bytes).mapError .damaged

def gunzipText (bytes : ByteArray) : Except CodecError String :=
  match gunzip bytes with
  | .error e => .error e
  | .ok data =>
    match String.fromUTF8? data with
    | some text => .ok text
    | none => .error .utf8

end Codec

end Bayeux
