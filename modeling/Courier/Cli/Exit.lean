import Courier.Reception.Error

/-! # Exit codes

How failures end the program: each has an exit code and a message that begins with what was being done.
-/

namespace Courier.Cli

/-- A failure that ends the program. -/
structure Failure where
  code : Nat
  message : String
deriving DecidableEq

namespace Exit

def success : Nat := 0
def failure : Nat := 1
def transport : Nat := 3
def permissionDenied : Nat := 50
def invalidData : Nat := 60
def usage : Nat := 64
def timeout : Nat := 124
def internal : Nat := 125

/-- The exit code for a failed operation of the system. -/
def codeOfKind : IoKind → Nat
  | .permissionDenied => permissionDenied
  | .timedOut | .wouldBlock => timeout
  | .connectionRefused | .notFound => failure
  | _ => internal

def describe (code : Nat) (context message : String) : Failure :=
  ⟨code, context ++ ": " ++ message⟩

def ofIo (context : String) (error : IoError) : Failure :=
  describe (codeOfKind error.kind) context error.message

def ofTransport (context : String) (error : Transport.Error) : Failure :=
  match error with
  | .invalidPort .. | .invalidAddress .. | .pathTooLong .. => describe usage context error.message
  | .bind _ source | .connect _ source | .send _ source | .io source => ofIo context source
  | .messageTooLarge .. => describe invalidData context error.message
  | .unsupported .. => describe transport context error.message

def ofFrame (context : String) (error : Frame.Error) : Failure :=
  match error with
  | .io source => ofIo context source
  | .connectionClosed => describe failure context error.message
  | _ => describe invalidData context error.message

def ofReception (context : String) (error : Reception.Error) : Failure :=
  match error with
  | .transport source => ofTransport context source
  | .frame source => ofFrame context source
  | .alreadyRunning _ => describe usage context error.message
  | .spawn source => ofIo context source
  | .router _ => describe internal context error.message

end Exit

end Courier.Cli
