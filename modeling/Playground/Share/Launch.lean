import Playground.Share.Config
import Playground.Share.Database

/-!
How a share service is started from a command line. It needs a configuration, a database that can be
opened, and an address at which it can listen.
-/

namespace Playground.Share

inductive LaunchFault where
  | configuration (e : Config.Fault)
  | database
  | address (text : String)
deriving Repr, DecidableEq

namespace LaunchFault

def message : LaunchFault → String
  | configuration _ => "Failed to load configuration"
  | database => "Failed to open share storage"
  | address text => s!"Failed to bind {text}"

end LaunchFault

namespace Launch

def defaultPath : String := "share.toml"

def configPath (args : List String) : String :=
  match args.dropWhile (· ≠ "--config") with
  | _ :: path :: _ => path
  | _ => defaultPath

def loadConfig (d : Disk) (path : String) : Except Config.Fault Config :=
  if (d.mode? path).isNone ∧ path = defaultPath then .ok .default else Config.load d path

def prepare (d : Disk) (canListen : String → Bool) (args : List String) :
    Except LaunchFault Config := do
  match loadConfig d (configPath args) with
  | .error e => .error (.configuration e)
  | .ok config =>
    if !Database.canOpen d config.database then .error .database
    else if !canListen config.bindAddress then .error (.address config.bindAddress)
    else return config

end Launch

end Playground.Share
