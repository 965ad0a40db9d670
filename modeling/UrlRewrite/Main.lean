import Std.Time.Zoned
import UrlRewrite.CommandLine.Answer

/-!
# The program

Answers its arguments with the files of the system. Every request is evaluated at the moment in
local time at which it is its turn.
-/

namespace UrlRewrite

/-- Why the system does not give a file, by the code of its error. -/
def fileError (code : UInt32) (details : String) : FileError :=
  if code = 2 then .notFound
  else if code = 20 then .notADirectory
  else if code = 21 then .isADirectory
  else .other (details ++ " (os error " ++ toString code ++ ")").toList

/-- The error of reading a file, whatever the system calls it. -/
def fileErrorOf : IO.Error → FileError
  | .alreadyExists _ code details => fileError code details
  | .otherError code details => fileError code details
  | .resourceBusy code details => fileError code details
  | .resourceVanished code details => fileError code details
  | .unsupportedOperation code details => fileError code details
  | .hardwareFault code details => fileError code details
  | .unsatisfiedConstraints code details => fileError code details
  | .illegalOperation code details => fileError code details
  | .protocolError code details => fileError code details
  | .timeExpired code details => fileError code details
  | .interrupted _ code details => fileError code details
  | .noFileOrDirectory _ code details => fileError code details
  | .invalidArgument _ code details => fileError code details
  | .permissionDenied _ code details => fileError code details
  | .resourceExhausted _ code details => fileError code details
  | .inappropriateType _ code details => fileError code details
  | .noSuchThing _ code details => fileError code details
  | .unexpectedEof => .other "unexpected end of file".toList
  | .userError details => .other details.toList

/-- Reads a file of the system. -/
def readSystemFile (path : Text) : IO (Except FileError Text) := do
  try
    match String.fromUTF8? (← IO.FS.readBinFile (String.ofList path)) with
    | some s => return .ok s.toList
    | none => return .error (.other "stream did not contain valid UTF-8".toList)
  catch e => return .error (fileErrorOf e)

/-- The present moment in local time, and the first moment of 1970 where the zone is not known. -/
def present : IO Moment := do
  try
    let now ← Std.Time.PlainDateTime.now
    return ⟨now.year, now.month.toNat, now.day.toNat, now.hour.toNat, now.minute.toNat,
      now.second.toNat⟩
  catch _ => return ⟨1970, 1, 1, 0, 0, 0⟩

end UrlRewrite

def main (arguments : List String) : IO UInt32 := do
  let reply ← UrlRewrite.answer UrlRewrite.Readers.standard UrlRewrite.readSystemFile
    (fun _ => UrlRewrite.present) (arguments.map (·.toList))
  IO.print (String.ofList reply.output)
  IO.eprint (String.ofList reply.errors)
  return reply.exitCode.toUInt32
