import TokenDesk.TransactionId
import TokenDesk.Url.Resolve

/-!
Links to a web site that shows transactions. A link appends the network and the transaction to the
address of the site, whose own path stays whole.
-/

namespace TokenDesk

/-- The networks of the ledger. -/
inductive Network
  | mainnet
  | testnet
  | previewnet
  deriving DecidableEq, Repr

namespace Network

def all : List Network := [.mainnet, .testnet, .previewnet]

def name : Network → String
  | .mainnet => "mainnet"
  | .testnet => "testnet"
  | .previewnet => "previewnet"

def describe : Network → String
  | .mainnet => "Mainnet"
  | .testnet => "Testnet"
  | .previewnet => "Previewnet"

end Network

/-- A web site that shows the transactions of a network. Its address ends in a slash. -/
structure Explorer where
  base : Url
  network : Network
  deriving DecidableEq, Repr

namespace Explorer

def defaultBase : String := "https://hashscan.io/"

/-- The site at an address. A slash is put behind the path unless one ends it. -/
def ofBase (base : Url) (network : Network) : Explorer :=
  let path := base.path.text
  ⟨if path.getLast? = some '/' then base else base.withPath (path ++ ['/']), network⟩

def standard (network : Network) : Except Url.ReadError Explorer :=
  (Url.read defaultBase.toList).map fun base => ofBase base network

/-- The path that leads from the address of a site to a transaction of a network. -/
def transactionPath (network : Network) (id : TransactionId) : List Char :=
  network.name.toList ++ "/transactionsById/".toList ++ id.pathSegment

def transactionUrl (e : Explorer) (id : TransactionId) : Except Url.ReadError Url :=
  e.base.follow (transactionPath e.network id)

end Explorer

end TokenDesk
