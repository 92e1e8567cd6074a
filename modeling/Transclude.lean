import Transclude.Main
import Transclude.RunState.FieldStore
import Transclude.Log.Template
import Transclude.Proofs.Directive.Scanning
import Transclude.Proofs.Pass.Splicing
import Transclude.Proofs.Pass.Rewriting
import Transclude.Proofs.VaultPath.Resolving
import Transclude.Proofs.Pass.Serving
import Transclude.Proofs.Directive.Writing
import Transclude.Proofs.Directive.Locality
import Transclude.Proofs.Markup.Building
import Transclude.Proofs.Markup.Fitting
import Transclude.Proofs.Highlight.Source
import Transclude.Proofs.Directive.Limits
import Transclude.Proofs.Block
import Transclude.Proofs.Highlight.Excerpt
import Transclude.Proofs.Pass.Segments
import Transclude.Proofs.Pass.Stopping
import Transclude.Proofs.Pass.Again
import Transclude.Proofs.Directive.Labels
import Transclude.Proofs.Pass.Course
import Transclude.Proofs.Pass.Interrupting
import Transclude.Proofs.Pass.Reporting
import Transclude.Proofs.Markup.Untagging
import Transclude.Proofs.Pass.Displaying
import Transclude.Proofs.Pass.Logging
import Transclude.Proofs.FileTree.Following
import Transclude.Proofs.Vault.Confining
import Transclude.Proofs.Markup.Renumbering
import Transclude.Proofs.Pass.Commuting
import Transclude.Proofs.Failing
import Transclude.Proofs.FileTree.Growing
import Transclude.Proofs.FileTree.Changing
import Transclude.Proofs.Glob.Selecting
import Transclude.Proofs.Dialogue.Interleaving
import Transclude.Proofs.DocumentJob.Alone
import Transclude.Proofs.DocumentJob.Together
import Transclude.Proofs.Stage.Rendering
import Transclude.Proofs.VaultPath.Joining
import Transclude.Proofs.LineRange.Windows
import Transclude.Proofs.LineRange.Partition
import Transclude.Proofs.Directive.Finding
import Transclude.Proofs.Text.TakingApart
import Transclude.Proofs.Text.Recomposing
import Transclude.Proofs.VaultPath.Settling
import Transclude.Proofs.VaultPath.Climbing
import Transclude.Proofs.VaultPath.Backslashes
import Transclude.Proofs.Block.Displaying
import Transclude.Proofs.Document.Walking
import Transclude.Proofs.Markup.Gap
import Transclude.Proofs.Document.Replacing
import Transclude.Proofs.Vault.Reading
import Transclude.Proofs.Highlight.Carving
