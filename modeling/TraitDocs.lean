import TraitDocs.Main
import TraitDocs.Proofs.Catalog.Collection
import TraitDocs.Proofs.Command.Freshness
import TraitDocs.Proofs.Catalog.Order
import TraitDocs.Proofs.Catalog.Visibility
import TraitDocs.Proofs.Readme.Substitution
import TraitDocs.Proofs.Command.Effects
import TraitDocs.Proofs.Docblock.Layout
import TraitDocs.Proofs.OrderedMap.Grouped
import TraitDocs.Proofs.Docblock.ClassRoundTrip
import TraitDocs.Proofs.Docblock.MethodRoundTrip
import TraitDocs.Proofs.Catalog.Sections
import TraitDocs.Proofs.Docblock.CarriageReturns
import TraitDocs.Proofs.Readme.CarriageReturns
import TraitDocs.Proofs.Catalog.CarriageReturns
import TraitDocs.Proofs.Assertion.Pairing
import TraitDocs.Proofs.Command.BadManifest
import TraitDocs.Proofs.Docblock.ClassContent
import TraitDocs.Proofs.Docblock.MethodContent
import TraitDocs.Proofs.Docblock.Indifference
import TraitDocs.Proofs.Manifest.Content
import TraitDocs.Proofs.Catalog.Verdict
import TraitDocs.Proofs.Docblock.ParamGrammar
import TraitDocs.Proofs.Readme.Signature
import TraitDocs.Proofs.Catalog.FirstFailure
import TraitDocs.Proofs.Assertion.PositiveName
import TraitDocs.Proofs.Docblock.Feeding
