import UsingCensus.Text.Quoted

namespace UsingCensus

inductive PathCause where
  | notFound
  | notDirectory
  | isDirectory
  | nameTooLong
  | tooManyLinks
  deriving DecidableEq, Repr

def PathCause.number : PathCause → Nat
  | .notFound => 2
  | .notDirectory => 20
  | .isDirectory => 21
  | .nameTooLong => 36
  | .tooManyLinks => 40

def PathCause.label : PathCause → String
  | .notFound => "No such file or directory"
  | .notDirectory => "Not a directory"
  | .isDirectory => "Is a directory"
  | .nameTooLong => "File name too long"
  | .tooManyLinks => "Too many levels of symbolic links"

/-- A failed use of a path, which is told as it was passed; a NUL in it is a fault of its own. -/
inductive PathFault where
  | refused (cause : PathCause) (path : String)
  | embeddedNull
  deriving DecidableEq, Repr

def PathFault.message : PathFault → String
  | .refused cause path =>
    "[Errno " ++ toString cause.number ++ "] " ++ cause.label ++ ": " ++ Text.quoted path
  | .embeddedNull => "embedded null byte"

end UsingCensus
