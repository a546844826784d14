import TokenDesk.Text.Utf8
import TokenDesk.Text.Quoted
import TokenDesk.Text.Blank
import TokenDesk.Amount
import TokenDesk.TransactionId
import TokenDesk.Calendar.Read
import TokenDesk.Json.Document
import TokenDesk.Curve.Signature
import TokenDesk.Wire.Request
import TokenDesk.Abi.Encode
import TokenDesk.Abi.Interface
import TokenDesk.Build
import TokenDesk.Explorer
import TokenDesk.Signing.Dfns
import TokenDesk.Signing.Fireblocks
import TokenDesk.Signing.Signer
import TokenDesk.Dispatch
import TokenDesk.Main
import TokenDesk.Signing.Script
import TokenDesk.Wire.Response
import TokenDesk.Proofs.Dispatch.Gating
import TokenDesk.Proofs.Dispatch.Linkage
import TokenDesk.Proofs.Signing.FirstDecisive
import TokenDesk.Proofs.Bytes
import TokenDesk.Proofs.Addresses
import TokenDesk.Proofs.Build.Calldata
import TokenDesk.Proofs.Dispatch.Outcome
import TokenDesk.Proofs.Json.Texts
import TokenDesk.Proofs.Json.Unambiguous
import TokenDesk.Proofs.Text.WrittenIds
import TokenDesk.Proofs.Text.Grammar
import TokenDesk.Proofs.Transaction
import TokenDesk.Proofs.Json.Reading
import TokenDesk.Proofs.Decimal.Written
import TokenDesk.Decimal.Product
import TokenDesk.Proofs.Decimal.Products
import TokenDesk.Proofs.Amount.Gate
import TokenDesk.Proofs.Amount.Units
import TokenDesk.Proofs.Calendar.Days
import TokenDesk.Proofs.Calendar.Texts
import TokenDesk.Proofs.Wire.Record
import TokenDesk.Proofs.Wire.Scalar
import TokenDesk.Proofs.Wire.TransactionIds
import TokenDesk.Proofs.Amount.Entry
import TokenDesk.Proofs.Wire.Request
import TokenDesk.Proofs.Build.Terms
import TokenDesk.Proofs.Signing.Cancellation
import TokenDesk.Proofs.Dispatch.Cancellation
import TokenDesk.Proofs.Explorer
import TokenDesk.Proofs.Signing.Layouts
import TokenDesk.Proofs.Signing.Delivery
import TokenDesk.Proofs.Signing.Truncation
import TokenDesk.Proofs.Signing.Counting
import TokenDesk.Proofs.Signing.Absence
import TokenDesk.Proofs.Build.Failures
import TokenDesk.Proofs.Build.Surfaces
import TokenDesk.Proofs.Signing.Dfns.Run
import TokenDesk.Proofs.Build.Transfers
import TokenDesk.Proofs.Build.Fees
import TokenDesk.Proofs.Amount.Form
import TokenDesk.Proofs.Amount.Order
import TokenDesk.Proofs.Dispatch.Ledgers
import TokenDesk.Proofs.Dispatch.Trail
import TokenDesk.Proofs.Response
import TokenDesk.Proofs.Url.Paths
import TokenDesk.Proofs.Links
