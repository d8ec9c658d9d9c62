import SdlPhp.Delivery.Logging
import SdlPhp.Generation.Quick
import SdlPhp.Main
import SdlPhp.Proofs.Attempt
import SdlPhp.Proofs.Schema.Collection
import SdlPhp.Proofs.Schema.Canonical
import SdlPhp.Generation.Result
import SdlPhp.Proofs.Generation.DeclaredNames
import SdlPhp.Proofs.Generation.Faults
import SdlPhp.Proofs.Generation.Items
import SdlPhp.Proofs.Generation.Outcome
import SdlPhp.Proofs.Generation.ReadBack
import SdlPhp.Proofs.Generation.References
import SdlPhp.Proofs.Delivery.Running
import SdlPhp.Proofs.World.Files
import SdlPhp.Proofs.Delivery.Delivered
import SdlPhp.Proofs.Delivery.Markup
import SdlPhp.Proofs.Schema.Source
import SdlPhp.Proofs.Delivery.EntryPoints
import SdlPhp.Proofs.Entries
import SdlPhp.Proofs.Json.Sound
import SdlPhp.Proofs.Options.Fields
import SdlPhp.Proofs.Options.Layers
import SdlPhp.Proofs.Json.Written
import SdlPhp.Proofs.Options.File
import SdlPhp.Proofs.Options.Reload
import SdlPhp.Proofs.Json.Atoms
import SdlPhp.Proofs.Json.ReadBack
import SdlPhp.Proofs.Number.Nearest
import SdlPhp.Proofs.Number.Shortest
import SdlPhp.Proofs.Json.FloatText
import SdlPhp.Proofs.Generation.Composition
import SdlPhp.Proofs.Generation.Noninterference
import SdlPhp.Proofs.World.Refusals
import SdlPhp.Proofs.Schema.Loading
import SdlPhp.Proofs.Schema.Untold
import SdlPhp.Proofs.Options.Untold
import SdlPhp.Proofs.Delivery.Arguments
import SdlPhp.Proofs.Delivery.Table
import SdlPhp.Proofs.Delivery.Untold
import SdlPhp.Proofs.Delivery.Settled
import SdlPhp.Proofs.Text.Indent
import SdlPhp.Proofs.Php.Nesting
import SdlPhp.Proofs.Php.History
import SdlPhp.Proofs.Php.Indentation
import SdlPhp.Proofs.Delivery.Target
import SdlPhp.Proofs.Delivery.Words
import SdlPhp.Proofs.Delivery.Verbosity
import SdlPhp.Proofs.Naming.Conversions
import SdlPhp.Proofs.Generation.Identifiers
import SdlPhp.Proofs.Naming.LetterCase
import SdlPhp.Proofs.Schema.EnumValues
import SdlPhp.Proofs.Generation.CaseNames
import SdlPhp.Proofs.Sdl.TypeReferences
import SdlPhp.Proofs.Options.Precedence
import SdlPhp.Proofs.Options.Custom
import SdlPhp.Proofs.Delivery.Layering
import SdlPhp.Proofs.Php.Commented
import SdlPhp.Proofs.Php.Namespace
import SdlPhp.Proofs.Generation.Scalars
import SdlPhp.Proofs.World.Listing
import SdlPhp.Proofs.Schema.Directories
import SdlPhp.Proofs.Text.Margin
import SdlPhp.Proofs.Php.DerivedNamespace
