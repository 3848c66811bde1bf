import Playground.Json.Form
import Playground.Text.Quoted

/-!
Share handles. A handle names a published snapshot; it is a token of hexadecimal digits, so that it
stands in a path without escapes.
-/

namespace Playground

def Handle.accepts (s : String) : Bool := s != "" && s.toList.all Text.Hex.isDigit

structure Handle where
  token : String
  accepted : Handle.accepts token = true
deriving DecidableEq

namespace Handle

instance : Repr Handle := ⟨fun h _ => repr h.token⟩

structure Invalid where
  token : String

def Invalid.message (e : Invalid) : String :=
  s!"invalid share handle: {Text.Quoted.quoted e.token}"

def ofString? (s : String) : Option Handle :=
  if h : accepts s = true then some ⟨s, h⟩ else none

def parse (s : String) : Except Invalid Handle :=
  match ofString? s with
  | some handle => .ok handle
  | none => .error ⟨s⟩

def path (h : Handle) : String := "/s/" ++ h.token

def dropSlash (cs : List Char) : List Char :=
  if cs.getLast? = some '/' then cs.dropLast else cs

def ofPath? (path : String) : Option Handle :=
  match path.toList with
  | '/' :: 's' :: '/' :: rest => ofString? (String.ofList (dropSlash rest))
  | _ => none

def form : Json.Form Handle := fun levels w => (Json.Form.text levels w).bind ofString?

theorem ofString?_token (h : Handle) : ofString? h.token = some h := by
  simp [ofString?, h.accepted]

theorem ofString?_eq_some_iff {s : String} {h : Handle} : ofString? s = some h ↔ s = h.token := by
  constructor
  · intro e
    unfold ofString? at e
    split at e
    · cases e; rfl
    · cases e
  · rintro rfl
    exact ofString?_token h

theorem parse_token (h : Handle) : parse h.token = .ok h := by
  simp [parse, ofString?_token]

end Handle

end Playground
