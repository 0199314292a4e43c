/-! What a path leads to, and why it may not be read as text. -/
namespace Companions

inductive Found
  | nothing
  | directory
  /-- A part of the path that is not the last is a file. -/
  | blocked
  | file (bytes : List UInt8)

inductive FileFault
  | isDirectory
  | notDirectory
  | notText
  deriving DecidableEq

def FileFault.message : FileFault → String
  | isDirectory => "Is a directory (os error 21)"
  | notDirectory => "Not a directory (os error 20)"
  | notText => "stream did not contain valid UTF-8"

end Companions
