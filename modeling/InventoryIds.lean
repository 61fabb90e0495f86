import InventoryIds.Format.Editing
import InventoryIds.Counters.Ledger
import InventoryIds.Exchange.Policies
import InventoryIds.Main
import InventoryIds.Proofs.Numerals
import InventoryIds.Proofs.Directives
import InventoryIds.Proofs.NormalForm
import InventoryIds.Proofs.Admission
import InventoryIds.Proofs.Dates
import InventoryIds.Proofs.Rendering
import InventoryIds.Proofs.Minting
import InventoryIds.Proofs.DistinctIdentifiers
import InventoryIds.Proofs.Grammar
import InventoryIds.Proofs.Refusals
import InventoryIds.Proofs.CallEffects
import InventoryIds.Proofs.CounterHistory
import InventoryIds.Proofs.MintingFromText
import InventoryIds.Proofs.Numbering
import InventoryIds.Proofs.Editing
import InventoryIds.Proofs.Exchange
import InventoryIds.Proofs.Concatenation
import InventoryIds.Proofs.Limits
import InventoryIds.Proofs.Compilation
import InventoryIds.Proofs.Additions
import InventoryIds.Proofs.CommandLine.Generation
import InventoryIds.Proofs.CommandLine.Reports
import InventoryIds.Proofs.Positions
import InventoryIds.Proofs.Moves
import InventoryIds.Proofs.Normalization
import InventoryIds.Proofs.Estimates
import InventoryIds.Proofs.Previews
import InventoryIds.Proofs.Ordinals
import InventoryIds.Proofs.Base36
import InventoryIds.Proofs.RandomCodes
import InventoryIds.Proofs.Guids
import InventoryIds.Proofs.DatePatterns
import InventoryIds.Proofs.Encoding
