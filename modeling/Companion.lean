import Companion.Main
import Companion.Files.Tree
import Companion.Proofs.CacheRun
import Companion.Proofs.MergeHistory
import Companion.Proofs.Loading.ImportGraph
import Companion.Proofs.Loading.OnTree
import Companion.Proofs.Source.Layout
import Companion.Proofs.Source.Guards
import Companion.Proofs.Fragments
import Companion.Proofs.Loading.History
import Companion.Proofs.Loading.Marks
import Companion.Proofs.Extraction
import Companion.Proofs.Reports
import Companion.Proofs.FragmentOrder
import Companion.Proofs.Loading.Loadable
import Companion.Proofs.Loading.RootOrder
import Companion.Proofs.Declaration.Reading
import Companion.Proofs.Files.Writing
import Companion.Proofs.Output
import Companion.Proofs.Command.OnTree
import Companion.Proofs.Options
import Companion.Proofs.Naming
import Companion.Proofs.Command.Generating
import Companion.Proofs.Command.Analyzing
import Companion.Proofs.Loading.IncludeFolders
import Companion.Proofs.Members
import Companion.Proofs.Pointers
import Companion.Proofs.Visibility
import Companion.Proofs.Source.Signatures
import Companion.Proofs.Overrides
import Companion.Proofs.Voids
import Companion.Proofs.HintNames
import Companion.Proofs.Source.Marks
import Companion.Proofs.Source.Keywords
import Companion.Proofs.Source.Scopes
import Companion.Proofs.MemberNames
import Companion.Proofs.Command.Lookup
import Companion.Proofs.Messages
import Companion.Proofs.Loading.CallTrees
import Companion.Proofs.Source.Strokes
import Companion.Proofs.Source.Receivers
