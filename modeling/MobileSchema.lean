import MobileSchema.Proofs.Schema.Backlinks
import MobileSchema.Proofs.Schema.Building
import MobileSchema.Proofs.Schema.Commas
import MobileSchema.Proofs.Schema.Runs
import MobileSchema.Proofs.Schema.Validity
import MobileSchema.Proofs.Schema.Violations
import MobileSchema.Proofs.Source.Agreeing
import MobileSchema.Proofs.Source.BundledRendering
import MobileSchema.Proofs.Source.BundledText
import MobileSchema.Proofs.Source.Declaring
import MobileSchema.Proofs.Source.Delimiting
import MobileSchema.Proofs.Source.Determining
import MobileSchema.Proofs.Source.Distinguishing
import MobileSchema.Proofs.Source.Importing
import MobileSchema.Proofs.Source.Layout
import MobileSchema.Proofs.Source.Lines
import MobileSchema.Proofs.Source.Outline
import MobileSchema.Proofs.Source.Resolving
import MobileSchema.Proofs.Source.Starting
import MobileSchema.Proofs.Template.Asking
import MobileSchema.Proofs.Template.BundledTree
import MobileSchema.Proofs.Template.Growing
import MobileSchema.Proofs.Template.Looping
import MobileSchema.Proofs.Template.Preparing
import MobileSchema.Proofs.Template.Writing
import MobileSchema.Proofs.Text.Cutting
import MobileSchema.Proofs.Text.Matching
import MobileSchema.Proofs.Text.Normalizing
import MobileSchema.Proofs.Text.Recasing
import MobileSchema.Proofs.Text.Splitting
import MobileSchema.Schema.Build
import MobileSchema.Schema.Check
import MobileSchema.Schema.Edit
import MobileSchema.Source.Writing
import MobileSchema.Proofs.Files.Following
import MobileSchema.Proofs.Source.Replacing
import MobileSchema.Proofs.Document.Json
import MobileSchema.Proofs.Settings.Loading
import MobileSchema.Proofs.Schema.Appending
import MobileSchema.Proofs.Schema.Lasting
import MobileSchema.Proofs.Text.Joining
import MobileSchema.Proofs.Schema.Anchoring
import MobileSchema.Proofs.Schema.Renaming
import MobileSchema.Proofs.Schema.Scripts
import MobileSchema.Proofs.Source.Refusing
import MobileSchema.Proofs.Source.Reordering
import MobileSchema.Proofs.Text.Separating
import MobileSchema.Proofs.Text.Settling
import MobileSchema.Proofs.Schema.Ordering
import MobileSchema.Proofs.Schema.Removing
import MobileSchema.Proofs.Files.Neighbouring
import MobileSchema.Proofs.Template.Merging
import MobileSchema.Proofs.Settings.Applying
import MobileSchema.Proofs.Source.Spacing
import MobileSchema.Proofs.Template.Listing
