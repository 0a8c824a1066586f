/-!
# Faults of files and sockets

What an operation on a file, directory or socket can be refused with.
-/

namespace ConnectorSync.Files

/-- The cause of a refused operation. -/
inductive Fault
  | notFound
  | notDirectory
  | isDirectory
  | alreadyExists
  | invalidName
  | invalidInput
  | invalidArgument
  | invalidData
  | addressInUse
  | connectionRefused
  | networkUnreachable
  | brokenPipe
  | other (text : String)
  deriving DecidableEq, Repr

namespace Fault

def message : Fault → String
  | notFound => "No such file or directory (os error 2)"
  | notDirectory => "Not a directory (os error 20)"
  | isDirectory => "Is a directory (os error 21)"
  | alreadyExists => "File exists (os error 17)"
  | invalidName => "File name too long (os error 36)"
  | invalidInput => "file name contained an unexpected NUL byte"
  | invalidArgument => "nul byte found in provided data"
  | invalidData => "stream did not contain valid UTF-8"
  | addressInUse => "Address already in use (os error 98)"
  | connectionRefused => "Connection refused (os error 111)"
  | networkUnreachable => "Network is unreachable (os error 101)"
  | brokenPipe => "Broken pipe (os error 32)"
  | other text => text

end Fault

end ConnectorSync.Files
