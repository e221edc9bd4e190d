import CitationFile.Main
import CitationFile.Session
import CitationFile.Storage.Tree
import CitationFile.Proofs.Schema.Reading
import CitationFile.Proofs.Schema.Independence
import CitationFile.Proofs.Schema.Order
import CitationFile.Proofs.Schema.Address
import CitationFile.Proofs.Schema.Relevance
import CitationFile.Proofs.Schema.Ancestry
import CitationFile.Proofs.Schema.NumberField
import CitationFile.Proofs.Strictness
import CitationFile.Proofs.Subcommands
import CitationFile.Proofs.Document.BlockStyle
import CitationFile.Proofs.Document.Occurrence
import CitationFile.Proofs.PageRange
import CitationFile.Proofs.Orcid
import CitationFile.Proofs.AuthorList
import CitationFile.Proofs.Initials
import CitationFile.Proofs.ReleaseDate
import CitationFile.Proofs.WrittenNumber
import CitationFile.Proofs.Bibtex.SingleEntry
import CitationFile.Proofs.Bibtex.Names
import CitationFile.Proofs.Bibtex.ReadBack
import CitationFile.Proofs.Bibtex.EscapedText
import CitationFile.Proofs.Bibtex.CiteKey
import CitationFile.Proofs.Bibtex.SignificantWord
import CitationFile.Proofs.Doi.Openings
import CitationFile.Proofs.Doi.NormalForm
import CitationFile.Proofs.Doi.Resolver
import CitationFile.Proofs.Configuration
