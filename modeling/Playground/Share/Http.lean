import Playground.Url.Form

/-!
HTTP requests and responses, as far as the share service looks at them.
-/

namespace Playground.Share

structure HttpRequest where
  method : String
  path : String
  contentType : Option String
  body : List UInt8

namespace HttpRequest

def get (path : String) : HttpRequest := ⟨"GET", path, none, []⟩

def formType : String := "application/x-www-form-urlencoded"

def form (path field value : String) : HttpRequest :=
  ⟨"POST", path, some formType, Text.Utf8.encode (Url.Form.write [(field, value)])⟩

def afterHost? (cs : List Char) : Option (List Char) :=
  match cs.dropWhile fun c => c.isAlphanum || ['+', '-', '.'].contains c with
  | ':' :: '/' :: '/' :: rest => some (rest.dropWhile fun c => c ∉ ['/', '?', '#'])
  | _ => none

def pathOf (target : String) : String :=
  let cs := target.toList
  let isEnd := fun c => c == '?' || c == '#'
  match if cs.head? = some '/' then none else afterHost? cs with
  | none => String.ofList (cs.takeWhile fun c => !isEnd c)
  | some rest =>
    let path := rest.takeWhile fun c => !isEnd c
    if path.isEmpty then "/" else String.ofList path

end HttpRequest

structure HttpResponse where
  status : Nat
  contentType : Option String
  allow : Option String
  body : String
deriving Repr, DecidableEq

namespace HttpResponse

def plainText : String := "text/plain; charset=utf-8"

def text (status : Nat) (body : String) : HttpResponse := ⟨status, some plainText, none, body⟩

def unknownPath : HttpResponse := ⟨404, none, none, ""⟩

def notAllowed (allowed : String) : HttpResponse := ⟨405, none, some allowed, ""⟩

def withoutBody (r : HttpResponse) : HttpResponse := { r with body := "" }

end HttpResponse

end Playground.Share
