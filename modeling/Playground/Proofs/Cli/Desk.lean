import Playground.Proofs.Cli.Reload
import Playground.Proofs.Cli.Workspace

/-!
Desks at which commands work. The store under a desk holds the project of its session, and the state
that the last command saved is still there. Main statements: what a desk has when it opens, by what
the store holds and what the share service answers, and what a later command finds after a desk was
closed.
-/

namespace Playground.Cli

open Storage Exchange Session Workspace Job

/-- A network in which the body behind each handle is the one that `B` tells: it is what is fetched,
if anything is, and what was posted where a post is answered with the handle. -/
structure Faithful (B : Handle → String) (network : Url → Request → Answer) : Prop where
  fetched : ∀ u h text, body (network u (fetchRequest h)) = .ok text → text = B h
  published : ∀ u text h, publishedHandle (network u (Exchange.publishRequest text)) = .ok h →
    B h = text

theorem answer_cases (r : Remote) (network : Url → Request → Answer) (request : Request) :
    (∃ e, r.answer network request = .error e) ∨
      ∃ u, r.answer network request = network u request := by
  unfold Remote.answer
  cases r.address request with
  | error e => exact .inl ⟨e, rfl⟩
  | ok u => exact .inr ⟨u, rfl⟩

section Faithful

variable {B : Handle → String} {w : Workspace} {service : Service}
  (connected : w.connect = .ok service)
include connected

/-- The scripted service is empty at first; every other one sends what it is given to the network,
if it can be sent at all. -/
theorem sent_cases : (w.scripted = true ∧ service = .scripted .empty) ∨
    (w.scripted = false ∧ ∀ request, (∃ e, (Transport.send service request).1 = .error e) ∨
      ∃ u, (Transport.send service request).1 = w.network u request) := by
  unfold Workspace.connect at connected
  cases mock : w.scripted with
  | true =>
    rw [mock, if_pos rfl] at connected
    cases connected
    exact .inl ⟨rfl, rfl⟩
  | false =>
    rw [mock, if_neg (by simp)] at connected
    cases made : Remote.create w.settings.shareUrl with
    | error e =>
      rw [made] at connected
      cases connected
    | ok r =>
      rw [made] at connected
      cases connected
      exact .inr ⟨rfl, answer_cases r w.network⟩

variable (remote : w.scripted = false)
include remote

theorem send_snd (request : Request) : (Transport.send service request).2 = service := by
  unfold Workspace.connect at connected
  rw [remote, if_neg (by simp)] at connected
  cases made : Remote.create w.settings.shareUrl with
  | error e =>
    rw [made] at connected
    cases connected
  | ok r =>
    rw [made] at connected
    cases connected
    rfl

variable (faithful : Faithful B w.network)
include faithful

theorem ofText_of_sent {h : Handle} {s : Snapshot}
    (fetched : fetchedSnapshot (Transport.send service (fetchRequest h)).1 = .ok s) :
    Snapshot.ofText (B h) = .ok s := by
  obtain ⟨text, received, read⟩ := exists_ofText_of_fetched fetched
  obtain ⟨mock, -⟩ | ⟨-, sent⟩ := sent_cases connected
  · rw [remote] at mock
    cases mock
  · obtain ⟨e, failed⟩ | ⟨u, answered⟩ := sent (fetchRequest h)
    · rw [failed] at received
      cases received
    · rw [answered] at received
      rwa [← faithful.fetched u h text received]

theorem body_of_sent {h : Handle} {text : String}
    (published :
      publishedHandle (Transport.send service (Exchange.publishRequest text)).1 = .ok h) :
    B h = text := by
  obtain ⟨mock, -⟩ | ⟨-, sent⟩ := sent_cases connected
  · rw [remote] at mock
    cases mock
  · obtain ⟨e, failed⟩ | ⟨u, answered⟩ := sent (Exchange.publishRequest text)
    · rw [failed] at published
      cases published
    · rw [answered] at published
      exact faithful.published u text h published

end Faithful

/-- A desk in a data directory, where `saved` is what the last command saved. -/
structure DeskStored (w : Workspace) (place : List String) (before : Disk) (saved : SavedState)
    (d : Desk) : Prop where
  sessionStored : SessionStored w.directory place before d.session
  read : SavedState.read d.session.backend.disk w.directory = .ok saved
  own : OwnPath saved.path
  here : OwnPath d.session.navigator.current

section DeskStored

variable {w : Workspace} {place : List String} {before : Disk}
  {saved : SavedState} {d : Desk}

theorem SessionStored.readText_state {directory : String} {s : Session Directory}
    (h : SessionStored directory place before s) :
    s.backend.disk.readText (DataFile.state.path directory) =
      Disk.textAt before.root (DataFile.state.names place) := by
  rw [readText_path (f := .state) h.storeBackend.storeReadable.fits
    h.storeBackend.storeReadable.folder, h.aside.files .state rfl]

theorem DeskStored.replace (h : DeskStored w place before saved d) {d' : Desk}
    (sessionStored : SessionStored w.directory place before d'.session)
    (here : OwnPath d'.session.navigator.current) : DeskStored w place before saved d' where
  sessionStored := sessionStored
  read := by
    rw [← h.read]
    exact read_eq (sessionStored.readText_state.trans h.sessionStored.readText_state.symm)
  own := h.own
  here := here

def Desk.withProject (d : Desk) (q : Project) : Desk := (edit d fun _ => (q, ())).1

theorem edit_eq (d : Desk) {ρ : Type} (f : Project → Project × ρ) :
    (edit d f).1 = d.withProject (f d.session.project).1 := by
  simp only [Desk.withProject, Workspace.edit, Session.mutate]
  split <;> rfl

theorem service_withProject (d : Desk) (q : Project) : (d.withProject q).service = d.service := rfl

theorem DeskStored.withProject (h : DeskStored w place before saved d) {q : Project}
    (made : Made d.session.project q) : DeskStored w place before saved (d.withProject q) := by
  refine h.replace (h.sessionStored.mutate (f := fun _ => (q, ())) made) ?_
  simp only [Desk.withProject, Workspace.edit, navigator_mutate]
  split
  · rw [Navigator.current_replace]
    exact .inl rfl
  · exact h.here

def Desk.published (d : Desk) : Desk :=
  let (_, session, service) := d.session.publish d.service
  ⟨session, service⟩

/-- Publishing leaves the project as it is, and leads to the path of the handle if there is one. -/
theorem published_eq (d : Desk) : d.published.session.project = d.session.project ∧
    (d.published.session.navigator = d.session.navigator ∨
      ∃ h, publishedHandle (Transport.send d.service d.session.publishRequest).1 = .ok h ∧
        d.published.session.navigator.current = h.path) := by
  have landed := landing d.session (.publish (Transport.send d.service d.session.publishRequest).1)
  have ends : (d.session.land (.publish (Transport.send d.service d.session.publishRequest).1)).1 =
      d.published.session := rfl
  rw [ends] at landed
  generalize d.published.session = v at landed ⊢
  generalize (d.session.land _).2 = outcome at landed
  cases landed with
  | published accepted => exact ⟨rfl, .inr ⟨_, accepted, Navigator.current_push _ _⟩⟩
  | refused failed => exact ⟨rfl, .inl rfl⟩

theorem DeskStored.published (h : DeskStored w place before saved d) :
    DeskStored w place before saved d.published := by
  refine h.replace (h.sessionStored.publish d.service) ?_
  obtain ⟨-, same | ⟨handle, -, current⟩⟩ := published_eq d
  · rw [same]
    exact h.here
  · rw [current]
    exact .inr ⟨handle, rfl⟩

theorem service_published (connected : w.connect = .ok d.service) (remote : w.scripted = false) :
    d.published.service = d.service := send_snd connected remote _

structure DeskClosed (w : Workspace) (place : List String) (saved : SavedState) (d : Desk)
    (after : Disk) : Prop where
  storeReadable : StoreReadable w.directory place after
  settings : Disk.textAt after.root (DataFile.settings.names place) =
    Disk.textAt d.session.backend.disk.root (DataFile.settings.names place)
  read : SavedState.read after w.directory = .ok (w.finalState saved d.session)
  holds : Holds ⟨after, below w.directory storeName⟩ d.session.project

theorem DeskStored.close (h : DeskStored w place before saved d) (s : World) :
    ∃ s', (w.close d).runIn s = (.ok (), s') ∧ DeskClosed w place saved d s'.disk := by
  obtain ⟨s', closed, change⟩ := runIn_close h.sessionStored h.read s
  have storeBackend := h.sessionStored.storeBackend
  have storeReadable := storeBackend.storeReadable.written change
  have storeBackend' : StoreBackend w.directory place ⟨s'.disk, below w.directory storeName⟩ :=
    ⟨rfl, storeReadable⟩
  refine ⟨s', closed, storeReadable, textAt_written change (by simp),
    read_of_written storeBackend.storeReadable.toStateReadable change, ?_⟩
  -- Saving the state leaves the parts of the project alone.
  have found : SameParts
      (seedProject Config.default (⟨s'.disk, below w.directory storeName⟩ : Directory) .root)
      (seedProject Config.default d.session.backend .root) := by
    intro part
    refine same_seedProject_of_load ?_ Config.default
    rw [storeBackend'.load_eq, storeBackend.load_eq, textAt_written change (by simp)]
  exact found.trans h.sessionStored.holds

theorem ownPath_finalState (h : DeskStored w place before saved d) :
    OwnPath (w.finalState saved d.session).path := by
  simp only [Workspace.finalState]
  split
  · exact h.own
  · exact h.here

end DeskStored

section Open

variable {w : Workspace} {place : List String} {saved : SavedState} {b : Directory}

/-- What a desk has when it opens: what the store holds, or the share of the path loaded over it. -/
theorem deskOf_cases (storeBackend : StoreBackend w.directory place b) (saved : SavedState)
    (service : Service) :
    let d := deskOf w saved b service
    d.session.navigator.current = w.startPath saved ∧
      (d.session.handle? = none ∧
          SameParts d.session.project (seedProject Config.default b .root) ∧
          (∀ h, handleOf? (w.startPath saved) = some h →
            ∃ e, fetchedSnapshot (Transport.send service (fetchRequest h)).1 = .error e) ∨
        ∃ h snapshot, handleOf? (w.startPath saved) = some h ∧ d.session.handle? = some h ∧
          fetchedSnapshot (Transport.send service (fetchRequest h)).1 = .ok snapshot ∧
          SameParts d.session.project ((seedProject Config.default b .root).load snapshot)) := by
  intro d
  have sessionStored := SessionStored.start storeBackend (.refl place b.disk)
    (.start (w.startPath saved)) service (token?_page (w.startPath saved))
  obtain ⟨navigator, outcome⟩ := start_page Config.default service b (w.startPath saved)
  obtain ⟨current, again⟩ := reselected_eq sessionStored.pending saved
  have session : d.session = _ := (session_deskOf w saved b service).trans again
  rw [session]
  generalize (Session.start Config.default service b (.start (w.startPath saved))
    (page (w.startPath saved))).1 = s at navigator outcome
  refine ⟨by rw [navigator]; rfl, ?_⟩
  obtain ⟨inactive, project, failed⟩ | ⟨h, snapshot, found, active, fetched, project⟩ := outcome
  · refine .inl ⟨inactive, fun part => ?_, failed⟩
    cases part <;> simp [Part.Same, project]
  · refine .inr ⟨h, snapshot, found, active, fetched, fun part => ?_⟩
    cases part <;> simp [Part.Same, project, Project.takeCommit]

theorem deskOf_loaded (storeBackend : StoreBackend w.directory place b) {service : Service}
    {h : Handle} {snapshot : Snapshot} (found : handleOf? (w.startPath saved) = some h)
    (fetched : fetchedSnapshot (Transport.send service (fetchRequest h)).1 = .ok snapshot) :
    SameParts (deskOf w saved b service).session.project
      ((seedProject Config.default b .root).load snapshot) := by
  obtain ⟨-, ⟨-, -, failed⟩ | ⟨h', snapshot', found', -, fetched', loaded⟩⟩ :=
    deskOf_cases storeBackend saved service
  · obtain ⟨e, failed⟩ := failed h found
    rw [fetched] at failed
    cases failed
  · obtain rfl : h = h' := Option.some.inj (found.symm.trans found')
    obtain rfl : snapshot = snapshot' := Except.ok.inj (fetched.symm.trans fetched')
    exact loaded

theorem service_deskOf {service : Service} (connected : w.connect = .ok service)
    (remote : w.scripted = false) : (deskOf w saved b service).service = service := by
  simp only [deskOf, Session.start]
  split
  · simp only [Session.navigate]
    split
    · rfl
    · exact send_snd connected remote _
  · rfl

theorem deskStored_deskOf (storeBackend : StoreBackend w.directory place b)
    (read : SavedState.read b.disk w.directory = .ok saved) (own : OwnPath saved.path)
    (service : Service) :
    DeskStored w place b.disk saved (deskOf w saved b service) := by
  have start := SessionStored.start storeBackend (.refl place b.disk) (.start (w.startPath saved))
    service (token?_page (w.startPath saved))
  have sessionStored : SessionStored w.directory place b.disk
      (deskOf w saved b service).session := by
    rw [session_deskOf]
    exact start.reselected saved
  refine ⟨sessionStored, ?_, own, ?_⟩
  · rw [← read]
    refine read_eq (sessionStored.readText_state.trans ?_)
    rw [readText_path (f := .state) storeBackend.storeReadable.fits
      storeBackend.storeReadable.folder]
  · rw [(deskOf_cases storeBackend saved service).1]
    exact ownPath_startPath own w

end Open

end Playground.Cli
