import Mintage.Client.Error
import Mintage.Json.Record

/-!
# The whitelist of a minter

An update of the whitelist says for some accounts whether they are on it. The contract takes it as
two lists of equal length, the accounts and the values; the values at one place belong to the
account at the same place.
-/

namespace Mintage.Minter

/-- Whether an account shall be on the whitelist. -/
structure WhitelistEntry where
  account : Identity
  value : Bool
deriving DecidableEq

namespace WhitelistEntry

/-- Written as an object of the fields. -/
def toJson (e : WhitelistEntry) : Json :=
  .obj [("account", e.account.toJson), ("value", .bool e.value)]

/-- How to read an entry. -/
def record : Json.Record WhitelistEntry :=
  mk <$> .required "account" Identity.readJson <*> .required "value" Json.Draft.readBool

/-- Reads an entry. -/
def readJson : Json.Reader WhitelistEntry := record.read "struct WhitelistEntry"

instance : ToJson WhitelistEntry := ⟨toJson⟩

instance : FromJson WhitelistEntry := ⟨readJson⟩

end WhitelistEntry

/-- The arguments of an update by a list of accounts and a list of values. -/
def whitelistListArgs (accounts : List Key) (values : List Bool) : Except ClientError RuntimeArgs :=
  if accounts.length ≠ values.length then
    .error (.invalidWhitelist accounts.length values.length)
  else
    (RuntimeArgs.ofList [.of "whitelist_accounts" (.list .key) accounts,
      .of "whitelist_values" (.list .bool) values]).mapError .argument

/-- The arguments of an update. -/
def whitelistArgs (entries : List WhitelistEntry) : Except ClientError RuntimeArgs :=
  whitelistListArgs (entries.map (·.account.toKey)) (entries.map (·.value))

end Mintage.Minter
