import Playground.Handle
import Playground.Project.Basic
import Playground.Token
import Playground.Url.Form
import Playground.Url.Reader

/-!
Page locations and permalinks. A location is a path, which may hold a share handle, and query
parameters, which may hold tokens of the parts of a project. A permalink is a location that holds a
whole project.
-/

namespace Playground

structure Location where
  path : String
  handle : Option Handle
  params : List (String × String)

namespace Location

def ofUrl (u : Url) : Location :=
  let path := u.path.text
  { path
    handle := Handle.ofPath? path
    params := Url.Form.read (Text.Utf8.encode (u.query.getD "")) }

def parse (s : String) : Except Url.Fault Location := do
  let u ← Url.parse (if s.startsWith "/" then "http://localhost" ++ s else s)
  return ofUrl u

def root : Location := ⟨"/", none, []⟩

def token? (l : Location) (key : String) : Option String :=
  (l.params.lookup key).filter (· ≠ "")

def filesKey : String := "files"
def linkerKey : String := "linker"

def projectParams (p : Project) : List (String × String) := [
  (filesKey, Token.encodeJson (SourceFile.listJson p.files)),
  (linkerKey, Token.encodeJson p.linker.toJson),
  (p.linker.optionsKey, Token.encodeJson p.activeOptions)]

/-- The URL that opens as a project: a base without its query, fragment and handle, and the
project's tokens. -/
def permalink (base : Url) (p : Project) : Url :=
  let base := if (Handle.ofPath? base.path.text).isSome then base.atRoot else base
  base.bare.withQuery (Url.Form.write (projectParams p))

end Location

end Playground
