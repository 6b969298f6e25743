import Precompiled.Backend.Host
import Precompiled.Backend.SymbolTable
import Precompiled.Cli.Run
import Precompiled.Load
import Precompiled.Main
import Precompiled.Metadata.Summary
import Precompiled.Proofs.Artifact.Interruption
import Precompiled.Proofs.Artifact.Tampering
import Precompiled.Proofs.Artifact.Truncation
import Precompiled.Proofs.Load.Delivery
import Precompiled.Proofs.Registry.Ids
import Precompiled.Proofs.Module.Agreement
import Precompiled.Proofs.Json.Tokenization
import Precompiled.Proofs.Json.Derivation
import Precompiled.Proofs.Json.Members
import Precompiled.Proofs.Metadata.Revision
import Precompiled.Proofs.Load.Classification
import Precompiled.Proofs.Load.Restriction
import Precompiled.Proofs.Storage.Frame
import Precompiled.Proofs.Artifact.Rewriting
import Precompiled.Proofs.Cli.Packing
import Precompiled.Proofs.Artifact.Confinement
import Precompiled.Proofs.Bind.Locality
import Precompiled.Proofs.Bind.Mismatch
import Precompiled.Proofs.Load.Locality
import Precompiled.Proofs.Load.Stages
import Precompiled.Proofs.Metadata.Faults
import Precompiled.Proofs.Metadata.Sizes
import Precompiled.Proofs.Artifact.Checksum
import Precompiled.Proofs.Registry.Slots
import Precompiled.Proofs.Registry.Retirement
import Precompiled.Proofs.Artifact.Marker
import Precompiled.Proofs.Artifact.Addressing
import Precompiled.Proofs.Backend.Opening
import Precompiled.Proofs.Options.Document
