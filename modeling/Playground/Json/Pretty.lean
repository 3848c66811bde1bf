import Playground.Json.Printer

/-!
Indented JSON text: a line for each item and member, two spaces a level.
-/

namespace Playground.Json

def lineBreak (level : Nat) : List Char := '\n' :: List.replicate (2 * level) ' '

mutual

def prettyChars (level : Nat) : Json → List Char
  | array [] => ['[', ']']
  | array items =>
    '[' :: lineBreak (level + 1) ++ prettyItems (level + 1) items ++ lineBreak level ++ [']']
  | object [] => ['\x7b', '\x7d']
  | object members =>
    '\x7b' :: lineBreak (level + 1) ++ prettyMembers (level + 1) members ++ lineBreak level ++
      ['\x7d']
  | value => value.chars

def prettyItems (level : Nat) : List Json → List Char
  | [] => []
  | [item] => prettyChars level item
  | item :: rest => prettyChars level item ++ ',' :: lineBreak level ++ prettyItems level rest

def prettyMembers (level : Nat) : List (String × Json) → List Char
  | [] => []
  | [(key, value)] => quoteChars key ++ ':' :: ' ' :: prettyChars level value
  | (key, value) :: rest =>
    quoteChars key ++ ':' :: ' ' :: prettyChars level value ++ ',' :: lineBreak level ++
      prettyMembers level rest

end

def pretty (value : Json) : String := String.ofList (prettyChars 0 value)

end Playground.Json
