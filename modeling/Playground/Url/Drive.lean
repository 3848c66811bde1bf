/-!
Drives. The path of a file may begin with a letter and a colon, which stand for a whole tree of
files; a bar may stand for the colon where it is read.
-/

namespace Playground.Url.Drive

def isDrive : List Char → Bool
  | [c, d] => c.isAlpha && (d == ':' || d == '|')
  | _ => false

def isNormal : List Char → Bool
  | [c, ':'] => c.isAlpha
  | _ => false

def begins (cs : List Char) : Bool :=
  isDrive (cs.take 2) && (cs.drop 2).head?.all (· == '\\')

def normalize (cs : List Char) : List Char := if isDrive cs then cs.take 1 ++ [':'] else cs

theorem isNormal_normalize {cs : List Char} (h : isDrive cs = true) :
    isNormal (normalize cs) = true := by
  match cs, h with
  | [c, d], h =>
    simp only [isDrive, Bool.and_eq_true] at h
    simp [normalize, isDrive, h.1, h.2, isNormal]

def normalizeFirst : List String → List String
  | [] => []
  | first :: rest => String.ofList (normalize first.toList) :: rest

end Playground.Url.Drive
