import Playground.Disk
import Playground.Storage.Backend

/-!
Storage in a directory: a file for each key, which only its owner can read.
-/

namespace Playground.Storage

structure Directory where
  disk : Disk
  path : String

namespace Directory

def create (disk : Disk) (path : String) : Except Unavailable Directory :=
  match disk.makeDirectories path with
  | .ok disk => .ok ⟨disk, path⟩
  | .error e => .error ⟨s!"create {path}: {e.message}"⟩

def file (d : Directory) (key : String) : String := d.path ++ "/" ++ key ++ ".json"

def load (d : Directory) (key : String) : Except Unavailable (Option String) :=
  match d.disk.readText (d.file key) with
  | .ok text => .ok (some text)
  | .error .notFound => .ok none
  | .error e => .error ⟨s!"read {key}: {e.message}"⟩

def save (d : Directory) (key value : String) : Except Unavailable Unit × Directory :=
  match d.disk.writeText (d.file key) value with
  | .error e => (.error ⟨s!"write {key}: {e.message}"⟩, d)
  | .ok disk =>
    match disk.setMode (d.file key) 0o600 with
    | .ok disk => (.ok (), { d with disk })
    | .error e => (.error ⟨s!"chmod: {e.message}"⟩, { d with disk })

instance : Backend Directory := ⟨load, save⟩

end Directory

end Playground.Storage
