import FrameBus.Numeral
import FrameBus.Text.Quoted

/-!
# Failures of the host

An input or output error is a code of the host, or a kind with a text of its own. The codes that
files and sockets give here have a kind and a fixed text.
-/

namespace FrameBus

inductive IoKind where
  | addrInUse
  | addrNotAvailable
  | invalidInput
  | isADirectory
  | invalidFilename
  | networkUnreachable
  | notADirectory
  | notFound
  | permissionDenied
  | uncategorized
deriving DecidableEq, Repr

inductive IoError where
  /-- a code that the host answers -/
  | os (code : Nat)
  | custom (kind : IoKind) (text : String)
deriving DecidableEq, Repr

namespace IoKind

def name : IoKind → String
  | .addrInUse => "AddrInUse"
  | .addrNotAvailable => "AddrNotAvailable"
  | .invalidInput => "InvalidInput"
  | .isADirectory => "IsADirectory"
  | .invalidFilename => "InvalidFilename"
  | .networkUnreachable => "NetworkUnreachable"
  | .notADirectory => "NotADirectory"
  | .notFound => "NotFound"
  | .permissionDenied => "PermissionDenied"
  | .uncategorized => "Uncategorized"

end IoKind

namespace IoError

/-- The kind of a host's code and the host's text for it. -/
def describe : Nat → IoKind × String
  | 2 => (.notFound, "No such file or directory")
  | 13 => (.permissionDenied, "Permission denied")
  | 20 => (.notADirectory, "Not a directory")
  | 21 => (.isADirectory, "Is a directory")
  | 22 => (.invalidInput, "Invalid argument")
  | 36 => (.invalidFilename, "File name too long")
  | 98 => (.addrInUse, "Address already in use")
  | 99 => (.addrNotAvailable, "Cannot assign requested address")
  | 101 => (.networkUnreachable, "Network is unreachable")
  | code => (.uncategorized, "Unknown error " ++ Numeral.decimal code)

def message : IoError → String
  | .os code => (describe code).2 ++ " (os error " ++ Numeral.decimal code ++ ")"
  | .custom _ text => text

/-- The error with its parts named, for diagnostic texts. -/
def inspect : IoError → String
  | .os code =>
    "Os \x7b code: " ++ Numeral.decimal code ++ ", kind: " ++ (describe code).1.name ++
      ", message: " ++ Text.quoted (describe code).2 ++ " \x7d"
  | .custom kind text =>
    "Custom \x7b kind: " ++ kind.name ++ ", error: " ++ Text.quoted text ++ " \x7d"

end IoError

end FrameBus
