import Playground.Exchange.Basic
import Playground.Proofs.Handle
import Playground.Proofs.Project.Share

/-!
Answers of the share service that are read as they are meant: a handle that it issues, and a project
that was published.
-/

namespace Playground.Exchange

def success (body : String) : Answer := .ok ⟨200, body⟩

theorem body_success (text : String) : body (success text) = .ok text := rfl

@[simp] theorem publishedHandle_token (h : Handle) : publishedHandle (success h.token) = .ok h := by
  simp [publishedHandle, body_success, bind, Except.bind, pure, Except.pure, h.trim_token,
    h.parse_token]

theorem fetchedSnapshot_published {p : Project} (files : SourceFile.Named p.files) :
    fetchedSnapshot (success p.envelope.toText) = .ok p.snapshot := by
  simp [fetchedSnapshot, body_success, bind, Except.bind, pure, Except.pure,
    Project.ofText_envelope files]

def freshBody : Answer := success Project.fresh.envelope.toText

theorem fetchedSnapshot_freshBody : fetchedSnapshot freshBody = .ok Project.fresh.snapshot :=
  fetchedSnapshot_published ⟨by decide, by decide, by decide⟩

def missingBody : Answer := .ok ⟨404, ""⟩

theorem fetchedSnapshot_missingBody : fetchedSnapshot missingBody = .error (.status 404) := rfl

end Playground.Exchange
