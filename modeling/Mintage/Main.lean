import Mintage.CommandLine.Run
import Mintage.Node.Http
import Std.Async.DNS
import Std.Async.TCP
import Std.Time

/-!
# The program

Runs a command with the files, the environment, the clock and the network of the machine. What the
program does is the dialogue `CommandLine.program`; here its questions are answered.
-/

namespace Mintage.Terminal

open Std.Async

/-- Why the machine could not read a file. -/
def fileError : IO.Error → File.Error
  | .noFileOrDirectory .. => .missing
  | .permissionDenied _ code details | .inappropriateType _ code details
  | .invalidArgument _ code details | .resourceExhausted _ code details =>
    .other s!"{details} (os error {code})"
  | .otherError code details => .other s!"{details} (os error {code})"
  | e => .other (toString e)

/-- Reads a file. -/
def readFile (path : String) : BaseIO File := do
  match ← (IO.FS.readBinFile path).toBaseIO with
  | .ok bytes => return .ok bytes.toList
  | .error e => return .error (fileError e)

/-- The present time. -/
def now : IO Timestamp := do
  let t ← Std.Time.Timestamp.now
  return ⟨UInt64.ofNat t.toMillisecondsSinceUnixEpoch.val.toNat⟩

/-- Everything that a server sends until it closes the connection. -/
partial def receive (socket : TCP.Socket.Client) (received : ByteArray) : Async ByteArray := do
  match ← socket.recv? 65536 with
  | some bytes => receive socket (received ++ bytes)
  | none => return received

/-- The address of a service of a machine. -/
def socketAddress (service : UInt16) : Std.Net.IPAddr → Std.Net.SocketAddress
  | .v4 addr => .v4 ⟨addr, service⟩
  | .v6 addr => .v6 ⟨addr, service⟩

/-- Posts bytes to a server and gives what it sends back. -/
def exchange (t : HttpTarget) (service : UInt16) (request : Bytes) : Async Bytes := do
  let addresses : Array Std.Net.IPAddr ← DNS.getAddrInfo t.host t.service
  let socket ← TCP.Socket.Client.mk
  match addresses.toList with
  | ip :: _ => socket.connect (socketAddress service ip)
  | [] => throw (IO.userError "unknown host")
  socket.send ⟨request.toArray⟩
  return (← receive socket .empty).toList

/-- Posts JSON to a node. -/
def post (address : String) (body : Json) : IO (Except String HttpReply) := do
  match HttpTarget.ofUrl? address with
  | none => return .error "only plain HTTP is spoken"
  | some t =>
    match ← (exchange t (t.service.toNat?.getD 80).toUInt16 (t.post body)).block.toBaseIO with
    | .ok reply => return HttpReply.ofBytes reply
    | .error e => return .error (toString e)

/-- Answers a question of the program. The state is the number of the next call of a node. -/
def answer : (q : CommandLine.Question) → StateT Nat IO q.Answer
  | .file path => readFile path
  | .environment name => IO.getEnv name
  | .time => now
  | .node address request => fun id => do
    match ← (((JsonRpc.answer request).run id).run).run (post address) with
    | .ok answered => return answered
    | .error fault => throw (IO.userError fault.message)

/-- Runs the program. -/
def run (words : List String) : IO UInt32 := do
  let (ending, _) ← ((CommandLine.program words).run answer).run JsonRpc.firstId
  unless ending.output.isEmpty do IO.println ending.output
  for line in ending.complaints do IO.eprintln line
  return UInt32.ofNat ending.code

end Mintage.Terminal

def main (words : List String) : IO UInt32 := Mintage.Terminal.run words
