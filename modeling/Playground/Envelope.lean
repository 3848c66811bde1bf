import Playground.Source
import Playground.Linker

/-!
Envelopes: the JSON in which a project is published. A fetched body is salvaged: a text that is no
object with a `files` array holding at least one usable file is refused, and everything else that
does not fit is left out.
-/

namespace Playground

structure Envelope where
  files : List SourceFile
  linker : Linker
  options : Json

namespace Envelope

def toJson (e : Envelope) : Json :=
  .object [
    ("files", SourceFile.listJson e.files),
    ("linker", e.linker.toJson),
    ("options", e.options)]

def toText (e : Envelope) : String := e.toJson.print

def form : Json.Form Envelope :=
  Json.Form.record ["files", "linker", "options"] fun levels fields =>
    match fields with
    | [files, linker, options] => do
      let files ← Json.Form.required SourceFile.listForm levels files
      let linker ← Json.Form.required Linker.form levels linker
      let options ← Json.Form.required Json.Form.any levels options
      return ⟨files, linker, options⟩
    | _ => none

/-- What is wrong with a body that cannot be loaded. -/
inductive Fault where
  | notJson
  | notObject
  | noFiles
  | nothingUsable (dropped : Nat)
deriving Repr, DecidableEq

def Fault.message : Fault → String
  | notJson => "json parse: the body is not JSON"
  | notObject => "envelope is not an object"
  | noFiles => "missing files array"
  | nothingUsable dropped => s!"no usable files ({dropped} dropped)"

end Envelope

/-- A snapshot that can be loaded. What it says about the linker and the options may be missing. -/
structure Snapshot where
  files : List SourceFile
  linker : Option Linker
  options : Option Json
  dropped : Nat
deriving Repr

namespace Snapshot

def ofJson (value : Json) : Except Envelope.Fault Snapshot :=
  if !value.isObject then .error .notObject
  else match value.get? "files" with
  | some (.array entries) =>
    let salvage := Salvage.ofJson (.array entries)
    if salvage.files.isEmpty then .error (.nothingUsable salvage.dropped)
    else .ok {
      files := salvage.files
      linker := (value.get? "linker").bind Linker.ofJson?
      options := (value.get? "options").filter Json.isObject
      dropped := salvage.dropped }
  | _ => .error .noFiles

def ofText (body : String) : Except Envelope.Fault Snapshot :=
  match Json.read? body with
  | some value => ofJson value
  | none => .error .notJson

end Snapshot

end Playground
