import Courier.Frame.Reader
import Courier.Store.Basic

/-! # Sources in the store

What a number of reads of an open path does. A file ends after its content, while the device without room
gives zeros without end and a directory fails every time.
-/

namespace Courier.Store

def source (store : Store) (reads : Nat) (path : String) : Except IoError (List Frame.ReadEvent) :=
  match store.node true path with
  | .ok .directory => .ok (List.replicate reads (.fail (.os 21)))
  | .ok (.device true) => .ok (List.replicate reads (.data (List.replicate Frame.readSize 0)))
  | _ => (store.contentAt path).map fun content => [.data content]

/-- A file gives its content and then ends. -/
theorem source_file {store : Store} {path : String} {file : Nat} (reads : Nat)
    (h : store.node true path = .ok (.file file)) :
    store.source reads path = .ok [.data (store.content file)] := by
  simp [source, contentAt, h, Except.map]

end Courier.Store
