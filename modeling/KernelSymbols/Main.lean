import KernelSymbols.Program.Run

set_option autoImplicit false

namespace KernelSymbols

def numbered (code : UInt32) (details : String) : Text :=
  details.toList ++ " (os error ".toList ++ Text.decimal code.toNat ++ ")".toList

def systemMessage : IO.Error → Text
  | .alreadyExists _ code details | .invalidArgument _ code details
  | .permissionDenied _ code details | .resourceExhausted _ code details
  | .inappropriateType _ code details | .noSuchThing _ code details
  | .interrupted _ code details | .noFileOrDirectory _ code details => numbered code details
  | .otherError code details | .resourceBusy code details | .resourceVanished code details
  | .unsupportedOperation code details | .hardwareFault code details
  | .unsatisfiedConstraints code details | .illegalOperation code details
  | .protocolError code details | .timeExpired code details => numbered code details
  | .unexpectedEof => "unexpected end of file".toList
  | .userError message => message.toList

def attempt {α : Type} (action : IO α) : IO (Except Text α) := do
  return (← action.toBaseIO).mapError systemMessage

def openStream (path : Text) (mode : IO.FS.Mode) : IO IO.FS.Stream := do
  return .ofHandle (← IO.FS.Handle.mk (String.ofList path) mode)

def nextChunk (stream : IO.FS.Stream) : IO (Option Chunk) := do
  match ← (stream.read 0x10000).toBaseIO with
  | .ok bytes => return if bytes.isEmpty then none else some (.data bytes.toList)
  | .error (.interrupted ..) => return some .interrupted
  | .error error => return some (.failure (systemMessage error))

partial def feedStream (excludes : Text → Bool) (reader : Reader) (stream : IO.FS.Stream) :
    IO Reader := do
  match reader with
  | .stopped .. => return reader
  | .reading .. =>
      match ← nextChunk stream with
      | some chunk => feedStream excludes (reader.takeChunk excludes chunk) stream
      | none => return reader

def systemHost (input output : IO.FS.Stream) : Host IO IO.FS.Stream IO.FS.Stream where
  standardInput := input
  standardOutput := pure output
  openFile path := attempt (openStream path .read)
  createFile path := attempt (openStream path .write)
  feed := feedStream
  write stream text := attempt do
    stream.putStr (String.ofList text)
    return stream
  flush stream := attempt stream.flush
  report line := IO.eprintln (String.ofList line)

end KernelSymbols

def main (arguments : List String) : IO UInt32 := do
  let host := KernelSymbols.systemHost (← IO.getStdin) (← IO.getStdout)
  let givenFilter ← IO.getEnv "RUST_LOG"
  let code ← KernelSymbols.Program.run host (arguments.map String.toList)
    (givenFilter.map String.toList)
  return code.toUInt32
