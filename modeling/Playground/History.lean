import Playground.Handle

/-!
The history of a page: whether the project is the snapshot of a handle, and what has to happen to
the navigation when that changes.
-/

namespace Playground

namespace History

def rootPath : String := "/"

inductive State where
  | inactive
  | active (handle : Handle)
deriving Repr, DecidableEq

inductive Event where
  | published (handle : Handle)
  | edited
  | navigated (handle : Option Handle)
deriving Repr, DecidableEq

inductive Action where
  | push (path : String)
  | replace (path : String)
  | fetch (handle : Handle)
deriving Repr, DecidableEq

def State.handle? : State → Option Handle
  | inactive => none
  | active handle => some handle

def State.next : State → Event → State × List Action
  | _, .published handle => (.active handle, [.push handle.path])
  | .active _, .edited => (.inactive, [.replace rootPath])
  | .inactive, .edited => (.inactive, [])
  | _, .navigated (some handle) => (.active handle, [.fetch handle])
  | _, .navigated none => (.inactive, [])

end History

end Playground
