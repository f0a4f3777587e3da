import Mintage.Abort
import Mintage.Account.Der
import Mintage.Account.Pem
import Mintage.Account.PublicKey
import Mintage.Account.SecretKey
import Mintage.Bytes
import Mintage.Bytes.Base64
import Mintage.Bytes.Hex
import Mintage.Bytes.Utf8
import Mintage.CLValue
import Mintage.CLValue.CLType
import Mintage.CLValue.Shape
import Mintage.Cep18.Install
import Mintage.Cep18.Token
import Mintage.Cep78.Collection
import Mintage.Cep78.Info
import Mintage.Cep78.Install
import Mintage.Cep78.Mode
import Mintage.Cep78.Variables
import Mintage.Client
import Mintage.Client.Error
import Mintage.CommandLine.Command
import Mintage.CommandLine.Error
import Mintage.CommandLine.Parameters
import Mintage.CommandLine.Run
import Mintage.ContractAddress
import Mintage.Curve.Ed25519
import Mintage.Curve.Residue
import Mintage.Curve.Secp256k1
import Mintage.Deploy.Assembler
import Mintage.Deploy.Basic
import Mintage.Deploy.Item
import Mintage.Dialogue
import Mintage.Dictionary.Address
import Mintage.Dictionary.Lookup
import Mintage.Digest.Blake2b
import Mintage.Digest.Sha2
import Mintage.Digest.Text
import Mintage.Domain
import Mintage.Domain.Bidi
import Mintage.Domain.Joiner
import Mintage.Domain.Mapping
import Mintage.Domain.Punycode
import Mintage.File
import Mintage.Identity
import Mintage.Json.Basic
import Mintage.Json.Draft
import Mintage.Json.Fault
import Mintage.Json.Reader
import Mintage.Json.Record
import Mintage.Json.Token
import Mintage.Key
import Mintage.Main
import Mintage.Minter
import Mintage.Minter.Args
import Mintage.Minter.State
import Mintage.Minter.Whitelist
import Mintage.Network.Config
import Mintage.Network.Payment
import Mintage.Node.Error
import Mintage.Node.Http
import Mintage.Node.JsonRpc
import Mintage.Node.Memory
import Mintage.Node.Request
import Mintage.Number.Binary64
import Mintage.Number.Bounded
import Mintage.Number.Decimal
import Mintage.RuntimeArgs
import Mintage.Text.CombiningClass
import Mintage.Text.Composed
import Mintage.Text.Decomposition
import Mintage.Text.Direction
import Mintage.Text.Hidden
import Mintage.Text.Joining
import Mintage.Text.Mark
import Mintage.Text.Quoted
import Mintage.Text.RangeTable
import Mintage.Time.Calendar
import Mintage.Time.Duration
import Mintage.Time.Timestamp
import Mintage.Url
import Mintage.Wire
import Mintage.Proofs.Outcome
import Mintage.Proofs.Bytes
import Mintage.Proofs.Wire
import Mintage.Proofs.CLValue
import Mintage.Proofs.RuntimeArgs
import Mintage.Proofs.Insertions
import Mintage.Proofs.Json.Reader
import Mintage.Proofs.Json.Record
import Mintage.Proofs.Bounded
import Mintage.Proofs.Shape
import Mintage.Proofs.ArgumentNames
import Mintage.Proofs.CanonicalForm
import Mintage.Proofs.DeployHash
import Mintage.Proofs.Hex
import Mintage.Proofs.Identity
import Mintage.Proofs.KeyText
import Mintage.Proofs.TaggedForms
import Mintage.Proofs.Base64
import Mintage.Proofs.Addressing
import Mintage.Proofs.Calendar
import Mintage.Proofs.Timestamp
import Mintage.Proofs.Duration
import Mintage.Proofs.Json.Members
import Mintage.Proofs.Json.RoundTrip
import Mintage.Proofs.Json.Text
import Mintage.Proofs.Json.Structures
import Mintage.Proofs.Json.Forms
import Mintage.Proofs.Json.Spelling
import Mintage.Proofs.Json.Token
import Mintage.Proofs.Json.TypedForm
import Mintage.Proofs.Consistency
import Mintage.Proofs.DeployJson
import Mintage.Proofs.DeployText
import Mintage.Proofs.TypedValues
import Mintage.Proofs.Verification
import Mintage.Proofs.NeutralKey
import Mintage.Proofs.Signing
import Mintage.Proofs.Node.Run
import Mintage.Proofs.Node.StoredValues
import Mintage.Proofs.Node.Submissions
import Mintage.Proofs.Node.Replies
import Mintage.Proofs.Node.Reads
import Mintage.Proofs.Node.Classification
import Mintage.Proofs.Node.Lookups
import Mintage.Proofs.Writes
import Mintage.Proofs.ArgumentRecords
import Mintage.Proofs.Whitelist
import Mintage.Proofs.Variables
import Mintage.Proofs.Motes
import Mintage.Proofs.Arithmetic
import Mintage.Proofs.RecordJson
import Mintage.Proofs.Dialogue
import Mintage.Proofs.Binding
import Mintage.Proofs.Snapshots
import Mintage.Proofs.Pricing
import Mintage.Proofs.CommandLine.Surroundings
import Mintage.Proofs.CommandLine.Commands
import Mintage.Proofs.CommandLine.DryRun
