/-!
# Failures of the operating system

The failures that calls on files and sockets end with, and their texts.
-/

namespace PointStream

inductive IoError where
  | notFound
  | alreadyExists
  | notADirectory
  | isADirectory
  | nameTooLong
  | tooManyLinks
  | addressInUse
  | networkUnreachable
  | connectionRefused
  /-- A path or a host holds a NUL character. -/
  | nulInPath
  /-- No name server can be asked for a host. -/
  | nameUnresolved
  /-- A host that no name server would be asked for. -/
  | nameUnknown
  /-- A path is too long for the address of a socket. -/
  | socketPathTooLong
  | other (text : String)
deriving DecidableEq, Inhabited

namespace IoError

def text : IoError → String
  | notFound => "No such file or directory (os error 2)"
  | alreadyExists => "File exists (os error 17)"
  | notADirectory => "Not a directory (os error 20)"
  | isADirectory => "Is a directory (os error 21)"
  | nameTooLong => "File name too long (os error 36)"
  | tooManyLinks => "Too many levels of symbolic links (os error 40)"
  | addressInUse => "Address already in use (os error 98)"
  | networkUnreachable => "Network is unreachable (os error 101)"
  | connectionRefused => "Connection refused (os error 111)"
  | nulInPath => "file name contained an unexpected NUL byte"
  | nameUnresolved => "failed to lookup address information: Temporary failure in name resolution"
  | nameUnknown => "failed to lookup address information: Name or service not known"
  | socketPathTooLong => "path must be shorter than SUN_LEN"
  | other text => text

end IoError

end PointStream
