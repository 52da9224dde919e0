import Courier.Cli.Output
import Courier.Frame.Wire
import Courier.Port

/-! # The version

What the program says about itself.
-/

namespace Courier.Cli.Version

def name : String := "agentcarrier"

def number : String := "0.1.0"

/-- The one line that names program and version. -/
def short : String := name ++ " " ++ number

/-- The lines about how the program was made and what it can do. -/
def extended : List String :=
  [ "name: " ++ name,
    "version: " ++ number,
    "build_target: x86_64-unknown-linux-gnu",
    "target_os: linux",
    "target_arch: x86_64",
    "git_hash: unknown",
    "frame: header=" ++ toString Frame.headerSize ++ " bytes, version=" ++ toString Frame.version
      ++ ", max_payload=" ++ toString Frame.defaultPayloadLimit,
    "backends: " ++ ", ".intercalate (Backend.all.map Backend.tag),
    "features: delivery=true, async=true, cli=true" ]

def run (isExtended : Bool) : Output :=
  { stdout := if isExtended then extended.flatMap line else line short }

end Courier.Cli.Version
