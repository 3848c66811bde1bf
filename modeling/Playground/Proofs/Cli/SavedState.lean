import Playground.Cli.SavedState
import Playground.Proofs.Json.Pretty

/-!
The state that is carried from one command to the next is read as it was saved.
-/

namespace Playground.Cli.SavedState

theorem readable_toJson (s : SavedState) (levels : Nat) : Json.Readable (levels + 1) s.toJson := by
  cases selected : s.selected with
  | none =>
    rw [toJson, selected]
    refine .object (List.pairwise_singleton _ _) ?_
    intro m member
    obtain rfl := List.mem_singleton.mp member
    exact .text levels s.path
  | some name =>
    have keys : ["path", "selected"].Pairwise (· < ·) := by decide
    rw [toJson, selected]
    refine .object (Keyed.ascending_iff.mpr keys) ?_
    intro m member
    simp only [List.mem_cons, List.not_mem_nil, or_false] at member
    obtain rfl | rfl := member
    · exact .text levels s.path
    · exact .text levels name

theorem read?_pretty (s : SavedState) : form.read? s.toJson.pretty = some s := by
  have written : Json.Written.read? s.toJson.pretty = some s.toJson.written :=
    (s.readable_toJson 126).readsIndented.read?_pretty
  rw [Json.Form.read?, written, Option.bind_some]
  obtain ⟨path, selected⟩ := s
  cases selected <;> rfl

end Playground.Cli.SavedState
