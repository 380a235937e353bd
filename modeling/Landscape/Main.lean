import Landscape.CommandLine.Basic

namespace Landscape

/-!
# The program

The commands on the files and the environment of the process.
-/

namespace CommandLine

/-- The failure that an error of the system stands for. -/
def failureOfError (e : IO.Error) : ReadFailure :=
  let coded (code : UInt32) (text : String) : ReadFailure :=
    .other (text ++ " (os error " ++ Nat.repr code.toNat ++ ")")
  match e with
  | .noFileOrDirectory .. => .notFound
  | .otherError code text | .resourceBusy code text | .resourceVanished code text
  | .unsupportedOperation code text | .hardwareFault code text
  | .unsatisfiedConstraints code text | .illegalOperation code text | .protocolError code text
  | .timeExpired code text | .interrupted _ code text | .alreadyExists _ code text
  | .invalidArgument _ code text | .permissionDenied _ code text
  | .resourceExhausted _ code text | .inappropriateType _ code text
  | .noSuchThing _ code text => coded code text
  | .unexpectedEof => .other "unexpected end of file"
  | .userError text => .other text

def readSystemFile (path : String) : IO (Except ReadFailure String) := do
  let content : IO ByteArray := do (← IO.FS.Handle.mk path .read).readBinToEnd
  match ← content.toBaseIO with
  | .error e => return .error (failureOfError e)
  | .ok bytes =>
      match String.fromUTF8? bytes with
      | some text => return .ok text
      | none => return .error (.other "stream did not contain valid UTF-8")

def systemHost : IO (Host IO) := do
  let currentDir ← IO.currentDir
  let data ← IO.getEnv Environment.dataKey
  let maxDepth ← IO.getEnv Environment.maxDepthKey
  let keepExternal ← IO.getEnv Environment.keepExternalKey
  return ⟨readSystemFile, currentDir.toString, ⟨data, maxDepth, keepExternal⟩⟩

end CommandLine

end Landscape

def main (args : List String) : IO UInt32 := do
  let host ← Landscape.CommandLine.systemHost
  let answer ← Landscape.CommandLine.run host args
  (← IO.getStdout).putStr answer.output
  return UInt32.ofNat answer.code
