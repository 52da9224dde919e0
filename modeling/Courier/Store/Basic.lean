import Courier.IoError
import Courier.Store.Path
import Courier.Table

/-! # The file store

The store is a tree of directories with files, links, sockets and two devices. A file is known by a
number, so an open file stays the same when its name is removed or given to another one. `Store.walk`
finds where a path leads; an `Approach` says how far links are followed and what may be missing.
-/

namespace Courier

/-- A place in the tree: the names from the root down to it. -/
abbrev Place := List String

/-- What stands at a place. -/
inductive Node where
  | directory
  | file (id : Nat)
  | link (target : String)
  | socket (id : Nat)
  /-- A device that takes every write, or that has no room for any. -/
  | device (full : Bool)
deriving DecidableEq

structure Store where
  nodes : Table Place Node
  contents : Table Nat Bytes
  nextId : Nat
  workDir : Place

namespace Store

/-- Number of links that a path may lead through. -/
def linkLimit : Nat := 40

/-- Longest name of an entry and longest path, in bytes. -/
def nameLimit : Nat := 255
def pathLimit : Nat := 4095

/-- How a walk treats the last name of a path. -/
inductive Approach where
  /-- The entry itself, unless slashes after the name ask for the directory that it leads to. -/
  | entry
  /-- What the entry leads to. -/
  | target
  /-- What the entry leads to, or the place to make a file at; slashes after the name are an error. -/
  | file
  /-- The place of a new entry; what stands there is not followed. -/
  | vacancy
deriving DecidableEq

/-- Whether a link at the end of a path is followed. -/
def Approach.follows (approach : Approach) (slash : Bool) : Bool :=
  match approach with
  | .entry => slash
  | .target | .file => true
  | .vacancy => false

/-- Where a walk ends. -/
structure Arrival where
  place : Place
  node : Option Node
  /-- Whether the path ends with a name, rather than with dots or at its start. -/
  isNamed : Bool
  /-- Whether slashes follow the name. -/
  slash : Bool

/-- Follows the steps of a path from a directory. The last name may be missing. -/
def walk (store : Store) (approach : Approach) (links : Nat) (here : Place) (slash : Bool)
    (steps : List String) : Except IoError Arrival :=
  match steps with
  | [] => .ok ⟨here, store.nodes.get? here, false, slash⟩
  | name :: rest =>
    if name = "." then store.walk approach links here slash rest
    else if name = ".." then store.walk approach links here.dropLast slash rest
    else if rest.isEmpty && slash && approach = .file then .error (.os 21)
    else if name.utf8ByteSize > nameLimit then .error (.os 36)
    else
      let place := here ++ [name]
      match store.nodes.get? place with
      | none => if rest.isEmpty then .ok ⟨place, none, true, slash⟩ else .error (.os 2)
      | some .directory =>
        if rest.isEmpty then .ok ⟨place, some .directory, true, slash⟩
        else store.walk approach links place slash rest
      | some (.link target) =>
        if rest.isEmpty && !approach.follows slash then
          .ok ⟨place, some (.link target), true, slash⟩
        else
          match links with
          | 0 => .error (.os 40)
          | links + 1 =>
            store.walk approach links (if Path.isAbsolute target then [] else here)
              (slash || (rest.isEmpty && Path.endsWithSlash target)) (Path.steps target ++ rest)
      | some node =>
        if rest.isEmpty then .ok ⟨place, some node, true, slash⟩ else .error (.os 20)
termination_by (links, steps.length)

/-- The texts that can be a path at all. -/
def checkPath (path : String) : Except IoError Unit :=
  if path.toList.contains '\x00' then
    .error (.described .invalidInput "file name contained an unexpected NUL byte")
  else if path.isEmpty then .error (.os 2)
  else if path.utf8ByteSize > pathLimit then .error (.os 36)
  else .ok ()

/-- Where a path leads. -/
def find (store : Store) (approach : Approach) (path : String) : Except IoError Arrival :=
  match checkPath path with
  | .error error => .error error
  | .ok () =>
    store.walk approach linkLimit (if Path.isAbsolute path then [] else store.workDir)
      (Path.endsWithSlash path) (Path.steps path)

/-- What a path leads to, with its place. -/
def lookup (store : Store) (approach : Approach) (path : String) : Except IoError (Place × Node) :=
  match store.find approach path with
  | .error error => .error error
  | .ok arrival =>
    match arrival.node with
    | none => .error (.os 2)
    | some node =>
      if arrival.slash && node ≠ .directory then .error (.os 20) else .ok (arrival.place, node)

/-- What stands at a path. -/
def node (store : Store) (follow : Bool) (path : String) : Except IoError Node :=
  (store.lookup (if follow then .target else .entry) path).map (·.2)

/-- The place for a new entry. Only a directory can be made at a name with slashes after it. -/
def vacancy (store : Store) (forDirectory : Bool) (path : String) : Except IoError Place :=
  match store.find .vacancy path with
  | .error error => .error error
  | .ok arrival =>
    if !arrival.isNamed || arrival.node.isSome then .error (.os 17)
    else if arrival.slash && !forDirectory then .error (.os 2)
    else .ok arrival.place

def isDirectory (store : Store) (path : String) : Bool :=
  match store.node true path with
  | .ok .directory => true
  | _ => false

def content (store : Store) (file : Nat) : Bytes :=
  (store.contents.get? file).getD []

def setContent (store : Store) (file : Nat) (bytes : Bytes) : Store :=
  { store with contents := store.contents.insert file bytes }

def setNode (store : Store) (place : Place) (node : Node) : Store :=
  { store with nodes := store.nodes.insert place node }

/-- Removes what stands at a place and everything below it. -/
def removeTree (store : Store) (place : Place) : Store :=
  { store with nodes := store.nodes.filter fun other => !place.isPrefixOf other }

/-- Makes one directory. -/
def makeDirectory (store : Store) (path : String) : Except IoError Store :=
  match store.vacancy true path with
  | .error error => .error error
  | .ok place => .ok (store.setNode place .directory)

/-- The path of the first names of another path. -/
def pathOf (absolute : Bool) (names : List String) : String :=
  (if absolute then "/" else "") ++ "/".intercalate names

/-- Makes a directory and all missing ones above it; the names are given from the last one up. What was
made before a failure stays. -/
def makeDirectories (store : Store) (absolute : Bool) : List String → Except IoError Unit × Store
  | [] => (.ok (), store)
  | name :: above =>
    let path := pathOf absolute (name :: above).reverse
    match store.makeDirectory path with
    | .ok store => (.ok (), store)
    | .error error =>
      if error.kind = .notFound then
        match store.makeDirectories absolute above with
        | (.error error, store) => (.error error, store)
        | (.ok (), store) =>
          match store.makeDirectory path with
          | .ok store => (.ok (), store)
          | .error error => (if store.isDirectory path then .ok () else .error error, store)
      else (if store.isDirectory path then .ok () else .error error, store)

/-- Makes the directories above the last name of a path. -/
def makeParents (store : Store) (path : String) : Except IoError Unit × Store :=
  match (Path.names path).reverse with
  | [] => (.ok (), store)
  | _ :: above => store.makeDirectories (Path.isAbsolute path) above

/-- A file or device that is open for writing. -/
inductive Target where
  | file (id : Nat)
  | device (full : Bool)
deriving DecidableEq

/-- Opens a path for appending; a missing file is made. -/
def openAppend (store : Store) (path : String) : Except IoError (Store × Target) :=
  match store.find .file path with
  | .error error => .error error
  | .ok arrival =>
    match arrival.node with
    | none =>
      let id := store.nextId
      .ok ({ store.setNode arrival.place (.file id) with
        contents := store.contents.insert id []
        nextId := id + 1 }, .file id)
    | some (.file id) => .ok (store, .file id)
    | some (.device full) => .ok (store, .device full)
    | some .directory => .error (.os 21)
    | some (.socket _) => .error (.os 6)
    | some (.link _) => .error (.os 40)

/-- The content of a file. -/
def contentAt (store : Store) (path : String) : Except IoError Bytes :=
  match store.node true path with
  | .error error => .error error
  | .ok (.file id) => .ok (store.content id)
  | .ok (.device _) => .ok []
  | .ok .directory => .error (.os 21)
  | .ok (.socket _) => .error (.os 6)
  | .ok (.link _) => .error (.os 40)

/-- Replaces the content of a file, which is made if it is missing. -/
def replaceContent (store : Store) (path : String) (bytes : Bytes) : Except IoError Unit × Store :=
  match store.openAppend path with
  | .error error => (.error error, store)
  | .ok (store, .file id) => (.ok (), store.setContent id bytes)
  | .ok (store, .device full) =>
    (if full && !bytes.isEmpty then .error (.os 28) else .ok (), store)

/-- The size that a path shows; devices and directories show none. -/
def fileSize (store : Store) (path : String) : Except IoError Nat :=
  match store.node true path with
  | .error error => .error error
  | .ok (.file id) => .ok (store.content id).length
  | .ok _ => .ok 0

/-- Puts something at a free path, with the directories above it. -/
def place (store : Store) (path : String) (node : Node) : Except IoError Unit × Store :=
  match store.makeParents path with
  | (.error error, store) => (.error error, store)
  | (.ok (), store) =>
    match store.vacancy false path with
    | .error error => (.error error, store)
    | .ok place => (.ok (), store.setNode place node)

/-- Removes what stands at a path; a link is not followed. -/
def remove (store : Store) (path : String) : Except IoError Unit × Store :=
  match store.lookup .entry path with
  | .error error => (.error error, store)
  | .ok (place, _) => (.ok (), store.removeTree place)

/-- A store with the devices and an empty working directory. -/
def initial : Store where
  nodes := .ofList
    [([], .directory), (["tmp"], .directory), (["work"], .directory), (["dev"], .directory),
      (["dev", "null"], .device false), (["dev", "full"], .device true)]
  contents := .empty
  nextId := 0
  workDir := ["work"]

end Store

end Courier
