import TokenDesk.Signing.Local
import TokenDesk.Signing.Scripted
import TokenDesk.Signing.Wallet

/-!
Signers of every kind under one interface. A signer gives a signature over the payload, or, if it is
a wallet, the whole signed transaction.
-/

namespace TokenDesk.Signing

/-- What a signer gives for a payload. -/
inductive Authorization
  | signature (bytes : Bytes)
  | signedTransaction (bytes : Bytes)
  deriving DecidableEq, Repr

def Authorization.bytes : Authorization → Bytes
  | .signature bytes => bytes
  | .signedTransaction bytes => bytes

/-- The kinds of signers. -/
inductive Strategy
  | localKey
  | dfns
  | fireblocks
  | walletSession
  deriving DecidableEq, Repr

def Strategy.all : List Strategy := [.localKey, .dfns, .fireblocks, .walletSession]

def Strategy.name : Strategy → String
  | .localKey => "local"
  | .dfns => "dfns"
  | .fireblocks => "fireblocks"
  | .walletSession => "wallet-session"

/-- A signer: its kind, and how it signs while its state changes. -/
structure Signer (σ : Type) where
  strategy : Strategy
  sign : Bytes → Timeline → σ → Run σ (Except Error Authorization)

def mapSigned (f : Bytes → Authorization) (run : Run σ (Except Error Bytes)) :
    Run σ (Except Error Authorization) :=
  ⟨run.result.map fun r => r.map f, run.time, run.state⟩

namespace Signer

/-- Signs with a key at hand, at once and whether or not the call is cancelled. -/
def ofKey (key : LocalKey) : Signer Unit where
  strategy := .localKey
  sign payload t s := mapSigned .signature ⟨some (key.sign payload), t, s⟩

def ofProvider (strategy : Strategy) (provider : Provider σ) (config : PollConfig) : Signer σ where
  strategy
  sign payload t s := mapSigned .signature (signCustodial provider config payload t s)

def ofWallet : Signer (Option Wallet) where
  strategy := .walletSession
  sign payload t s := mapSigned .signedTransaction (Wallet.sign payload t s)

end Signer

end TokenDesk.Signing
