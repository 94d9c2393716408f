import CrioDf.Dict
import CrioDf.Store
import CrioDf.Walk
import CrioDf.DisplayName
import CrioDf.Usage
import CrioDf.Ownership
import CrioDf.Removal
import CrioDf.Permutation
import CrioDf.Json
import CrioDf.Format
import CrioDf.TimeAgo
import CrioDf.Compressed
import CrioDf.ManifestShape
import CrioDf.CompressedTotals
import CrioDf.CompressedOrder
import CrioDf.Main
import CrioDf.Prune
import CrioDf.Containers
import CrioDf.RepeatedIds
import CrioDf.Summary
import CrioDf.Locality
