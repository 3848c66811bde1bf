import Playground.Cli.Help

/-!
The commands of the sandbox: their grammar, and what a command line asks for.
-/

namespace Playground.Cli

inductive FilesCommand where
  | list
  | print (name : Option String)
  | add (name : Option String) (source origin : Option String)
  | remove (name : String)
  | rename (name newName : String)
  | edit (name : Option String) (source origin : Option String)
deriving Repr, DecidableEq

structure SettingsChange where
  shareUrl : Option String
  timeout : Option Nat
  pageUrl : Option String
deriving Repr, DecidableEq

inductive Command where
  | files (action : FilesCommand)
  | select (name : String)
  | linker (name : Option String)
  | setOption (linker : Option String) (key value : String)
  | options (linker : Option String)
  | publish
  | load (target : String)
  | link (base : Option String)
  | decode (token : String)
  | settings (change : SettingsChange)
  | status
deriving Repr, DecidableEq

structure Invocation where
  dataDirectory : Option String
  settingsFile : Option String
  scripted : Bool
  command : Command
deriving Repr, DecidableEq

def option (name : String) (short : Option Char) (takes : Takes) (about : String) : Opt :=
  ⟨name, short, takes, about⟩

def required (name about : String) : Slot := ⟨name, true, about⟩

def optional (name about : String) : Slot := ⟨name, false, about⟩

def simple (name about : String) (options : List Opt) (slots : List Slot) : Grammar :=
  ⟨name, about, options, slots, [], []⟩

def sourceOptions (source origin : String) : List Opt :=
  [option "source" (some 's') .text source, option "from" (some 'f') .path origin]

def filesGrammar : Grammar where
  name := "files"
  about := "Work with project files"
  options := []
  slots := []
  conflicts := []
  commands := [
    simple "list" "List files" [] [],
    simple "show" "Print a file's source" []
      [optional "NAME" "File name (defaults to the selected file)"],
    { name := "add"
      about := "Add a file and select it"
      options := sourceOptions "Initial source" "Read the initial source from a file"
      slots := [optional "NAME" "File name (defaults to the next untitled-N.wgsl)"]
      conflicts := [("source", "from")]
      commands := [] },
    simple "rm" "Remove a file" [] [required "NAME" "File name"],
    simple "rename" "Rename a file" []
      [required "FROM" "Current name", required "TO" "New name"],
    { name := "edit"
      about := "Replace a file's source"
      options := sourceOptions "New source (or use --from, or pipe it on stdin)"
        "Read the new source from a file"
      slots := [optional "NAME" "File name (defaults to the selected file)"]
      conflicts := [("source", "from")]
      commands := [] }]

def optionGrammar : Grammar where
  name := "option"
  about := "Change a linker option"
  options := []
  slots := []
  conflicts := []
  commands := [
    simple "set" "Set an option; the value is read as JSON when it parses, otherwise as text"
      [option "linker" (some 'l') .text
        "Linker whose options to change (defaults to the active one)"]
      [required "KEY" "Option name", required "VALUE" "New value"]]

def grammar : Grammar where
  name := "sandbox-cli"
  about := "Command-line front end for the WESL sandbox"
  options := [
    option "data-dir" none .path "Data directory for the project store and settings",
    option "config" none .path "Config file (defaults to sandbox.toml in the data directory)",
    option "mock" none .nothing "Use an in-process mock share service (for testing/demo)",
    option "verbose" (some 'v') .nothing "Log debug output to stderr"]
  slots := []
  conflicts := []
  commands := [
    filesGrammar,
    simple "select" "Select a file" [] [required "NAME" "File name"],
    simple "linker" "Show the active linker, or switch to another" []
      [optional "NAME" "Linker to switch to (primary or alternate)"],
    optionGrammar,
    simple "options" "Show linker options"
      [option "linker" (some 'l') .text "Linker to show (defaults to the active one)"] [],
    simple "publish" "Publish the project and print its share handle" [] [],
    simple "load" "Load a share URL, /s/<handle> path, bare handle, or permalink" []
      [required "TARGET" "What to load"],
    simple "link" "Print a permalink that reproduces the project"
      [option "base" none .text "Base URL for the link (defaults to page_url from the config)"] [],
    simple "decode" "Decode a link token" [] [required "TOKEN" "Token to decode"],
    simple "config" "Show or update the configuration"
      [option "share-url" none .text "Share service URL",
        option "timeout-secs" none .number "Request timeout in seconds",
        option "page-url" none .text "Base URL for permalinks"] [],
    simple "status" "Show sandbox status" [] []]

def versionText : String := "sandbox-cli 0.1.0\n"

namespace Command

def ofFiles? (name : String) (m : Matches) : Option FilesCommand :=
  match name, m.slots with
  | "list", [] => some .list
  | "show", slots => some (.print slots.head?)
  | "add", slots => some (.add slots.head? (m.value? "source") (m.value? "from"))
  | "rm", [file] => some (.remove file)
  | "rename", [file, newName] => some (.rename file newName)
  | "edit", slots => some (.edit slots.head? (m.value? "source") (m.value? "from"))
  | _, _ => none

def ofMatches? (m : Matches) : Option Command :=
  match m.path.drop 1, m.slots with
  | ["files", name], _ => (ofFiles? name m).map .files
  | ["select"], [name] => some (.select name)
  | ["linker"], slots => some (.linker slots.head?)
  | ["option", "set"], [key, value] => some (.setOption (m.value? "linker") key value)
  | ["options"], [] => some (.options (m.value? "linker"))
  | ["publish"], [] => some .publish
  | ["load"], [target] => some (.load target)
  | ["link"], [] => some (.link (m.value? "base"))
  | ["decode"], [token] => some (.decode token)
  | ["config"], [] =>
    some (.settings ⟨m.value? "share-url", (m.value? "timeout-secs").bind Opt.number?,
      m.value? "page-url"⟩)
  | ["status"], [] => some .status
  | _, _ => none

end Command

def Invocation.read (args : List String) : Except Stop Invocation := do
  let m ← grammar.read args
  match Command.ofMatches? m with
  | some command => return ⟨m.value? "data-dir", m.value? "config", m.isSet "mock", command⟩
  | none => .error .usage

end Playground.Cli
