import Mintage.Deploy.Basic
import Mintage.Identity

/-!
# Assembling deploys

An assembler holds what the deploys for one chain have in common. It stamps them with the time that
it was given, or else with the time of the call.
-/

namespace Mintage

/-- What the deploys for a chain have in common. -/
structure DeployAssembler where
  chainName : String
  /-- Half an hour, if nothing else is said. -/
  ttl : Duration := ⟨30 * 60 * 1000⟩
  gasPrice : UInt64 := 1
  /-- The time of the deploys; the current time if it is not given. -/
  timestamp : Option Timestamp := none

namespace DeployAssembler

/-- The deploy that runs `session` at the time `now` and pays an amount of motes. -/
def build (a : DeployAssembler) (now : Timestamp) (session : DeployItem) (payment : U512)
    (sender : PublicKey) : Deploy :=
  .new sender a.chainName (a.timestamp.getD now) a.ttl a.gasPrice (.standardPayment payment) session

/-- The code that calls an entry point of a contract. -/
def call (contract : Identity) (entryPoint : String) (args : RuntimeArgs) : DeployItem :=
  .storedContract contract.hash entryPoint args

end DeployAssembler

end Mintage
