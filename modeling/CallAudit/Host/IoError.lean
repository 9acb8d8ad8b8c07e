/-!
# Failures of the host

What the host answers when it cannot do what it is asked, with its texts.
-/
namespace CallAudit

/-- Why the host refuses. -/
inductive IoError where
  | notFound
  | alreadyExists
  | notADirectory
  | isADirectory
  | nameTooLong
  /-- a path with a zero character -/
  | zeroInPath
  /-- content that is no text -/
  | notText
  /-- a sink that takes nothing of what it is handed directly -/
  | tookNothing
  /-- a sink that takes nothing of what waits in the buffer -/
  | tookNothingBuffered
  /-- what a device says for itself -/
  | device (text : String)
  deriving DecidableEq, Repr

def IoError.message : IoError → String
  | notFound => "No such file or directory (os error 2)"
  | alreadyExists => "File exists (os error 17)"
  | notADirectory => "Not a directory (os error 20)"
  | isADirectory => "Is a directory (os error 21)"
  | nameTooLong => "File name too long (os error 36)"
  | zeroInPath => "file name contained an unexpected NUL byte"
  | notText => "stream did not contain valid UTF-8"
  | tookNothing => "write zero"
  | tookNothingBuffered => "failed to write the buffered data"
  | device text => text

end CallAudit
