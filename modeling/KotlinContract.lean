import KotlinContract.Choice
import KotlinContract.Gallery
import KotlinContract.Main
import KotlinContract.Outline
import KotlinContract.Service.Client
import KotlinContract.Proofs.Text.Cut
import KotlinContract.Proofs.TypeName.Words
import KotlinContract.Proofs.Expression.Pieces
import KotlinContract.Proofs.Expression.Formula
import KotlinContract.Proofs.Expression.Indices
import KotlinContract.Proofs.Expression.Meaning
import KotlinContract.Proofs.Expression.NormalForm
import KotlinContract.Proofs.Contract.NormalForm
import KotlinContract.Proofs.Ascending
import KotlinContract.Proofs.Chain
import KotlinContract.Proofs.Rendering.Parts
import KotlinContract.Proofs.Rendering.Acceptance
import KotlinContract.Proofs.Expression.Places
import KotlinContract.Proofs.Expression.Negation
import KotlinContract.Proofs.Expression.Joining
import KotlinContract.Proofs.Contract.Interchange
import KotlinContract.Proofs.Document.Acceptance
import KotlinContract.Proofs.Metadata.Agreement
import KotlinContract.Proofs.Text.Indentation
import KotlinContract.Proofs.TypeName.Identifiers
import KotlinContract.Proofs.Declaration.Parameters
import KotlinContract.Proofs.Declaration.Source
import KotlinContract.Proofs.Declaration.Insertion
import KotlinContract.Proofs.Contract.Binding
import KotlinContract.Proofs.Service.Agreement
import KotlinContract.Proofs.Contract.Targets
import KotlinContract.Proofs.CommandLine.Rendering
import KotlinContract.Proofs.Service.Files
import KotlinContract.Proofs.Metadata.Returned
import KotlinContract.Proofs.Declaration.Assembly
import KotlinContract.Proofs.CommandLine.Provenance
import KotlinContract.Proofs.TypeName.Readings
import KotlinContract.Proofs.TypeName.Shorthand
import KotlinContract.Proofs.Metadata.Grammar
import KotlinContract.Proofs.Document.Spelling
import KotlinContract.Proofs.Contract.Naming
import KotlinContract.Proofs.Expression.Combination
import KotlinContract.Proofs.Declaration.Staging
import KotlinContract.Proofs.Report.Runs
import KotlinContract.Proofs.Contract.Congruence
