import Courier.Text.Record
import Courier.Text.Quoted

/-! # Ports

A port names where messages go: the tag of a backend, a colon, and an address that the backend
understands. The tag has no colon, so the text of a port determines its parts.
-/

namespace Courier

/-- The kinds of destinations. -/
inductive Backend where
  | localQueue
  | network
  | file
  | null
  | dump
deriving DecidableEq, Repr

namespace Backend

def all : List Backend := [localQueue, network, file, null, dump]

def tag : Backend → String
  | localQueue => "localqueue"
  | network => "net"
  | file => "file"
  | null => "null"
  | dump => "dump"

def ofTag? (tag : String) : Option Backend :=
  all.find? fun backend => backend.tag == tag

/-- The name of the alternative itself. -/
def label : Backend → String
  | localQueue => "LocalQueue"
  | network => "Network"
  | file => "File"
  | null => "Null"
  | dump => "Dump"

end Backend

/-- A destination. The tag need not be one of a backend that exists. -/
structure Port where
  tag : String
  address : String
  tag_ne_empty : tag ≠ ""
  colon_notMem_tag : ':' ∉ tag.toList
  address_ne_empty : address ≠ ""
deriving DecidableEq

namespace Port

/-- Why a text, or two parts, are no port. -/
inductive Fault where
  | emptyTag
  | colonInTag
  | emptyAddress
  | missingColon
deriving DecidableEq, Repr

def Fault.message : Fault → String
  | .emptyTag => "empty backend tag"
  | .colonInTag => "backend tag contains ':'"
  | .emptyAddress => "empty address"
  | .missingColon => "missing ':' between backend and address"

/-- The text of a port with the given parts. -/
def join (tag address : String) : String :=
  tag ++ ":" ++ address

def text (port : Port) : String :=
  join port.tag port.address

/-- The port with the given parts. -/
def ofParts (tag address : String) : Except Fault Port :=
  if h : tag = "" then .error .emptyTag
  else if h' : ':' ∈ tag.toList then .error .colonInTag
  else if h'' : address = "" then .error .emptyAddress
  else .ok ⟨tag, address, h, h', h''⟩

/-- Reads a port; the first colon ends the tag. -/
def parse (text : String) : Except Fault Port :=
  let chars := text.toList
  match chars.dropWhile (· != ':') with
  | [] => .error .missingColon
  | _ :: address => ofParts (String.ofList (chars.takeWhile (· != ':'))) (String.ofList address)

/-- The text of two parts is read as these parts; only the tag must not hold a colon. -/
theorem parse_join {tag : String} (h : ':' ∉ tag.toList) (address : String) :
    parse (join tag address) = ofParts tag address := by
  have htag : ∀ c ∈ tag.toList, (c != ':') = true := by
    intro c hc
    rw [bne_iff_ne]
    rintro rfl
    exact h hc
  have htext : (join tag address).toList = tag.toList ++ ':' :: address.toList := by
    simp [join]
  rw [parse, htext, List.dropWhile_append_of_pos htag, List.takeWhile_append_of_pos htag]
  simp

def backend? (port : Port) : Option Backend :=
  Backend.ofTag? port.tag

/-- The port as a shown record. -/
def shown (port : Port) : String :=
  Text.record "PortDescriptor"
    [("backend", Text.quote port.tag), ("address", Text.quote port.address)]

end Port

end Courier
