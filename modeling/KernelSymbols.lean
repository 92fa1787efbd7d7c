import KernelSymbols.Generation
import KernelSymbols.Main
import KernelSymbols.Program.Steps
import KernelSymbols.Sink
import KernelSymbols.Proofs.Accumulation
import KernelSymbols.Proofs.Reference
import KernelSymbols.Proofs.Stream
import KernelSymbols.Proofs.Decoding
import KernelSymbols.Proofs.History
import KernelSymbols.Proofs.Disk.Writing
import KernelSymbols.Proofs.Program.Product
import KernelSymbols.Proofs.Program.Preservation
import KernelSymbols.Proofs.Program.Delivery
import KernelSymbols.Proofs.Growth
import KernelSymbols.Proofs.Layout
import KernelSymbols.Proofs.Generation.Thinning
import KernelSymbols.Proofs.Generation.Strictness
import KernelSymbols.Proofs.Generation.NormalForm
import KernelSymbols.Proofs.Program.Reports
import KernelSymbols.Proofs.CommandLine.Spelling
import KernelSymbols.Proofs.CommandLine.Acceptance
import KernelSymbols.Proofs.Program.Exclusions
import KernelSymbols.Proofs.Program.Summary
import KernelSymbols.Proofs.Source.Braces
import KernelSymbols.Proofs.Source.Initializer
import KernelSymbols.Proofs.Listing.Framing
import KernelSymbols.Proofs.BoundedWriting
import KernelSymbols.Proofs.Text.Validity
import KernelSymbols.Proofs.Validation
import KernelSymbols.Proofs.Recovery
import KernelSymbols.Proofs.Portions
import KernelSymbols.Proofs.Generation.Padding
import KernelSymbols.Proofs.Listing.Rendering
import KernelSymbols.Proofs.Listing.Messages
