import Playground.Disk
import Playground.Toml.Reader

/-!
The configuration of a share service. Everything in it has a default.
-/

namespace Playground.Share

structure Config where
  bindAddress : String
  database : String
  maxPayload : Nat
deriving Repr, DecidableEq

namespace Config

def default : Config := ⟨"127.0.0.1:8080", "shares.db", 1048576⟩

def onlyField {α : Type} (name : String) (read? : Toml → Option α) (value : α) (t : Toml) :
    Option α := do
  match ← t.fields? [name] with
  | [field] => Toml.defaulted read? value field
  | _ => none

def ofToml? (t : Toml) : Option Config := do
  match ← t.fields? ["server", "storage", "limits"] with
  | [server, storage, limits] =>
    return {
      bindAddress := ← Toml.defaulted (onlyField "bind_address" Toml.text? default.bindAddress)
        default.bindAddress server
      database := ← Toml.defaulted (onlyField "database" Toml.text? default.database)
        default.database storage
      maxPayload := ← Toml.defaulted
        (onlyField "max_payload_bytes" Toml.natural? default.maxPayload) default.maxPayload limits }
  | _ => none

def ofText? (s : String) : Option Config := (Toml.read? s).bind ofToml?

inductive Fault where
  | unreadable (e : Disk.Fault)
  | malformed
deriving Repr, DecidableEq

def load (d : Disk) (path : String) : Except Fault Config :=
  match d.readText path with
  | .error e => .error (.unreadable e)
  | .ok text =>
    match ofText? text with
    | some config => .ok config
    | none => .error .malformed

end Config

end Playground.Share
