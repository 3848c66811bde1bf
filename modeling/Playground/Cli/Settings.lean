import Playground.Cli.Command
import Playground.Cli.Job
import Playground.Text.Quoted
import Playground.Toml.Printer
import Playground.Toml.Reader
import Playground.Url.Reader

/-!
The settings of the sandbox, which stand in a configuration file in the data directory.
-/

namespace Playground.Cli

structure Settings where
  shareUrl : String
  timeout : Nat
  pageUrl : String
deriving Repr, DecidableEq

namespace Settings

open Job Text.Quoted

def default : Settings := ⟨"http://127.0.0.1:8080", 10, "http://localhost:3000/"⟩

def file : String := "sandbox.toml"

def ofToml? (t : Toml) : Option Settings := do
  match ← t.fields? ["share_url", "timeout_secs", "page_url"] with
  | [shareUrl, timeout, pageUrl] =>
    return {
      shareUrl := ← Toml.defaulted Toml.text? default.shareUrl shareUrl
      timeout := ← Toml.defaulted Toml.natural? default.timeout timeout
      pageUrl := ← Toml.defaulted Toml.text? default.pageUrl pageUrl }
  | _ => none

def load (directory : String) (named : Option String) : Job Settings := do
  let path := named.getD (below directory file)
  match (← get).disk.readText path, named with
  | .ok text, _ =>
    match (Toml.read? text).bind ofToml? with
    | some settings => return settings
    | none => failWith s!"Invalid config in {path}" "TOML parse error"
  | .error .notFound, none => return default
  | .error e, _ => failWith s!"Failed to read {path}" e.message

def maxInteger : Nat := 0x7fffffffffffffff

def text (s : Settings) : String :=
  Toml.Printer.line "share_url" (Toml.Printer.quoted s.shareUrl) ++
    Toml.Printer.line "timeout_secs" (toString s.timeout) ++
    Toml.Printer.line "page_url" (Toml.Printer.quoted s.pageUrl)

def save (s : Settings) (directory : String) : Job Unit := do
  let path := below directory file
  if maxInteger < s.timeout then
    failWith "Failed to serialize config" "out-of-range value for u64 type"
  else
    onDisk (fun d => d.writeText path s.text) "Failed to save config"
    onDisk (fun d => d.setMode path 0o600) "Failed to set file permissions"

def checkUrl (name url : String) : Job Unit :=
  match Url.parse url with
  | .ok _ => return ()
  | .error e => failWith s!"Invalid {name} URL {quoted url}" e.message

def change (s : Settings) (c : SettingsChange) : Job Settings := do
  if let some url := c.shareUrl then checkUrl "share" url
  if c.timeout = some 0 then fail "Timeout must be at least one second"
  if let some url := c.pageUrl then checkUrl "page" url
  return ⟨c.shareUrl.getD s.shareUrl, c.timeout.getD s.timeout, c.pageUrl.getD s.pageUrl⟩

def display (s : Settings) : Job Unit := do
  printLine s!"share_url    = {s.shareUrl}"
  printLine s!"timeout_secs = {s.timeout}"
  printLine s!"page_url     = {s.pageUrl}"

def run (s : Settings) (directory : String) (c : SettingsChange) : Job Unit := do
  if c = ⟨none, none, none⟩ then s.display
  else
    let s ← s.change c
    s.save directory
    printLine s!"Saved {below directory file}"
    s.display

end Settings

end Playground.Cli
