import DefSite.About
import DefSite.Match.Lookup
import DefSite.Match.Shelf
import DefSite.Text.Identifier
import DefSite.Settings
import DefSite.Source.Library
import DefSite.Proofs.Attempt
import DefSite.Proofs.Search
import DefSite.Proofs.Endings
import DefSite.Proofs.Freshness
import DefSite.Proofs.History
import DefSite.Proofs.Lifetime
import DefSite.Proofs.Identity
import DefSite.Proofs.Retry
import DefSite.Proofs.Classification
import DefSite.Proofs.Rereading
import DefSite.Proofs.Inheritance
import DefSite.Proofs.LastPath
import DefSite.Proofs.Strictness
import DefSite.Proofs.Ledger
import DefSite.Proofs.Unwrapping
import DefSite.Proofs.AtHand
import DefSite.Proofs.Configuration
import DefSite.Proofs.Relining
import DefSite.Proofs.RenderedLines
import DefSite.Proofs.LineRange
import DefSite.Proofs.Damage
import DefSite.Proofs.LineShift
import DefSite.Proofs.Resolution
import DefSite.Proofs.Decoration
import DefSite.Proofs.Identification
import DefSite.Proofs.Registration
import DefSite.Proofs.Quoting
import DefSite.Proofs.InPlace
import DefSite.Proofs.Heading
import DefSite.Proofs.Standing
