import Playground.Base64
import Playground.Gzip.Member
import Playground.Text.Blank
import Playground.Text.Utf8
import Playground.Json.Written
import Playground.Json.Printer

/-!
Tokens: text in a form that stands in a URL without escapes. Text is compressed and written in
base64. A token is read with either alphabet, with or without padding and with blanks around it.
-/

namespace Playground.Token

def maxLength : Nat := 8 * 1024 * 1024

inductive Fault where
  | empty
  | base64 (e : Base64.Fault)
  | gzip (e : Gzip.Fault)
  | tooLong
  | utf8 (e : Text.Utf8.Fault)
  | notJson
deriving Repr, DecidableEq

def Fault.message : Fault → String
  | empty => "empty token"
  | base64 e => s!"base64 decode: {e.message}"
  | gzip e => s!"decompress: {e.message}"
  | tooLong => s!"payload exceeds {maxLength} bytes"
  | utf8 e => s!"utf-8: {e.message}"
  | notJson => "json parse: the payload is not JSON"

def encode (text : String) : String :=
  String.ofList (Base64.encode (Gzip.Member.encode text.toUTF8))

def respell (c : Char) : Char :=
  if c = '+' then '-' else if c = '/' then '_' else c

def ofBytes (bytes : List UInt8) : Except Fault String :=
  match Gzip.Member.decode maxLength bytes with
  | .error .tooLong => .error .tooLong
  | .error e => .error (.gzip e)
  | .ok out =>
    match Text.Utf8.decode out with
    | .error e => .error (.utf8 e)
    | .ok text => .ok text

def decode (token : String) : Except Fault String :=
  let token := Text.trim token
  if token = "" then .error .empty
  else
    match Base64.decode (Text.Utf8.encode (String.ofList (token.toList.map respell))) with
    | .error e => .error (.base64 e)
    | .ok bytes => ofBytes bytes

def encodeJson (value : Json) : String := encode value.print

def decodeJson (token : String) : Except Fault Json :=
  match decode token with
  | .error e => .error e
  | .ok text =>
    match Json.read? text with
    | some value => .ok value
    | none => .error .notJson

end Playground.Token
