import Mintage.Json.Record
import Mintage.Number.Bounded
import Mintage.Number.Decimal

/-!
# Payments

What deploys cost is configured in the unit of the chain and paid in motes, of which there are
`10 ^ 9` in a unit. An amount that is no whole number of motes cannot be paid.
-/

namespace Mintage

/-- Converts an amount to motes. There is no result for amounts that are negative, finer than one
mote, or larger than 64 bits of motes. -/
def Decimal.toMotes? (d : Decimal) : Option U512 := do
  let motes ← d.times? 1000000000
  let whole := motes.mantissa / 10 ^ motes.scale
  if motes.mantissa % 10 ^ motes.scale = 0 ∧ ¬ motes.negative ∧ whole < 2 ^ 64 then
    some (.ofUInt64 (UInt64.ofNat whole))
  else none

/-- The amounts that are paid for each kind of deploy. -/
structure PaymentTable where
  minterInstall : Decimal := .ofUInt64 140
  minterFreeMint : Decimal := .ofUInt64 10000
  minterNativeMint : Decimal := .ofUInt64 85
  minterSetWhitelist : Decimal := .ofUInt64 2
  minterSetConfig : Decimal := .ofUInt64 20
  cep78Install : Decimal := .ofUInt64 600
  cep78SetVariables : Decimal := .ofUInt64 6
  cep18Install : Decimal := .ofUInt64 600
  cep18Call : Decimal := .ofUInt64 6
deriving DecidableEq

namespace PaymentTable

/-- The names of the amounts, in order. -/
def amounts (t : PaymentTable) : List (String × Decimal) :=
  [("minterInstall", t.minterInstall), ("minterFreeMint", t.minterFreeMint),
    ("minterNativeMint", t.minterNativeMint), ("minterSetWhitelist", t.minterSetWhitelist),
    ("minterSetConfig", t.minterSetConfig), ("cep78Install", t.cep78Install),
    ("cep78SetVariables", t.cep78SetVariables), ("cep18Install", t.cep18Install),
    ("cep18Call", t.cep18Call)]

/-- Written as an object of the amounts. -/
def toJson (t : PaymentTable) : Json := .obj (t.amounts.map fun (name, d) => (name, d.toJson))

/-- How to read a table. -/
def record : Json.Record PaymentTable :=
  mk <$> .required "minterInstall" Decimal.readJson
    <*> .required "minterFreeMint" Decimal.readJson
    <*> .required "minterNativeMint" Decimal.readJson
    <*> .required "minterSetWhitelist" Decimal.readJson
    <*> .required "minterSetConfig" Decimal.readJson
    <*> .required "cep78Install" Decimal.readJson
    <*> .required "cep78SetVariables" Decimal.readJson
    <*> .required "cep18Install" Decimal.readJson
    <*> .required "cep18Call" Decimal.readJson

/-- Reads a table. -/
def readJson : Json.Reader PaymentTable := record.read "struct PaymentTable"

instance : ToJson PaymentTable := ⟨toJson⟩

instance : FromJson PaymentTable := ⟨readJson⟩

end PaymentTable

end Mintage
