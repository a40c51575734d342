import StripedMerkle.Text.Unprintable
import StripedMerkle.Text.Escape
import StripedMerkle.Text.Hex
import StripedMerkle.Digest
import StripedMerkle.Blake3.Compress
import StripedMerkle.Blake3.Hash
import StripedMerkle.Geometry
import StripedMerkle.Scheme
import StripedMerkle.Error
import StripedMerkle.Fold
import StripedMerkle.Path.Basic
import StripedMerkle.Binary.Varint
import StripedMerkle.Path.Binary
import StripedMerkle.Decimal.Shortest
import StripedMerkle.Decimal.Stepwise
import StripedMerkle.Json.Value
import StripedMerkle.Json.Print
import StripedMerkle.Json.Read
import StripedMerkle.Path.Json
import StripedMerkle.Tree.Basic
import StripedMerkle.Tree.Reload
import StripedMerkle.Tree.Source
import StripedMerkle.Tree.Call
import StripedMerkle.Proofs.Fold
import StripedMerkle.Proofs.Binding
import StripedMerkle.Proofs.Soundness
import StripedMerkle.Proofs.Stream
import StripedMerkle.Proofs.Commitment
import StripedMerkle.Proofs.Lifecycle
import StripedMerkle.Proofs.Cache
import StripedMerkle.Proofs.Reload
import StripedMerkle.Proofs.BinaryForm
import StripedMerkle.Proofs.RangeCheck
import StripedMerkle.Proofs.Shape
import StripedMerkle.Proofs.TreePaths
import StripedMerkle.Proofs.Staging
import StripedMerkle.Proofs.Halving
import StripedMerkle.Proofs.HexText
import StripedMerkle.Proofs.JsonText
import StripedMerkle.Proofs.PathJson
