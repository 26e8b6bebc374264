import ModelStubs.Main
import ModelStubs.Proofs.Scalar
import ModelStubs.Proofs.DeclaredType
import ModelStubs.Proofs.Tag
import ModelStubs.Proofs.HostType
import ModelStubs.Proofs.Stub
import ModelStubs.Proofs.FileSystem
import ModelStubs.Proofs.Run
import ModelStubs.Proofs.Toml.Quoted
import ModelStubs.Proofs.Config
import ModelStubs.Proofs.Locate
import ModelStubs.Proofs.PathOrder
import ModelStubs.Proofs.Manifests
import ModelStubs.Proofs.Excluded
import ModelStubs.Proofs.Ways
import ModelStubs.Proofs.Targets
import ModelStubs.Proofs.Unchanged
import ModelStubs.Proofs.Toml.Ordered
import ModelStubs.Proofs.Toml.Decode
import ModelStubs.Proofs.Toml.Record
import ModelStubs.Proofs.Schema
import ModelStubs.Proofs.ManifestText
import ModelStubs.Proofs.Lines
import ModelStubs.Proofs.Unambiguous
import ModelStubs.Proofs.Obstacles
import ModelStubs.Proofs.Directories
import ModelStubs.Proofs.Qualifier
import ModelStubs.Proofs.Parameter
import ModelStubs.Proofs.Pieces
import ModelStubs.Proofs.Loading
import ModelStubs.Proofs.Runs
import ModelStubs.Proofs.Entity
import ModelStubs.Proofs.ScalarWord
import ModelStubs.Proofs.NewConfig
import ModelStubs.Proofs.CamelCase
import ModelStubs.Proofs.LastComponent
import ModelStubs.Proofs.ByteOffset
