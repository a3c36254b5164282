import Gallery.Main
import Gallery.Proofs.Annotated.Grouping
import Gallery.Proofs.Annotated.Conservation
import Gallery.Proofs.Annotated.Printing
import Gallery.Proofs.Site.Pages
import Gallery.Proofs.Files.Growth
import Gallery.Proofs.Files.MakeDirs
import Gallery.Proofs.Site.Outcomes
import Gallery.Proofs.Site.Sources
import Gallery.Proofs.Files.Written
import Gallery.Proofs.Site.Phases
import Gallery.Proofs.Site.Navigation
import Gallery.Proofs.Site.Leftovers
import Gallery.Proofs.Files.Confined
import Gallery.Proofs.Site.Untouched
import Gallery.Proofs.Files.Again
import Gallery.Proofs.Files.Listing
import Gallery.Proofs.Site.Rediscovery
import Gallery.Proofs.Site.Rebuild
import Gallery.Proofs.Site.Links
import Gallery.Proofs.Annotated.OpenCode
import Gallery.Proofs.Annotated.BlankLines
import Gallery.Proofs.Annotated.Spacing
import Gallery.Proofs.Annotated.Boundary
import Gallery.Proofs.Annotated.Indentation
import Gallery.Proofs.Annotated.NormalForm
import Gallery.Proofs.Page.Tables
import Gallery.Proofs.Text.Markup
import Gallery.Proofs.Page.Skeleton
import Gallery.Proofs.Page.Documentation
import Gallery.Proofs.Site.Stylesheet
import Gallery.Proofs.Site.References
import Gallery.Proofs.Json.Tokens
import Gallery.Proofs.Json.Reading
import Gallery.Proofs.Page.Neighbours
import Gallery.Proofs.Site.Insertion
import Gallery.Proofs.Site.Locality
import Gallery.Proofs.CommandLine.Verbosity
import Gallery.Proofs.Annotated.SetApart
import Gallery.Proofs.Text.Bytes
import Gallery.Proofs.Text.Escapes
import Gallery.Proofs.Site.Discovery
import Gallery.Proofs.Site.PageUrls
import Gallery.Proofs.Site.Dispatch
import Gallery.Proofs.Text.Entities
import Gallery.Proofs.Page.Keys
import Gallery.Proofs.Page.Cells
import Gallery.Proofs.Annotated.Reachable
import Gallery.Proofs.Annotated.CodeText
import Gallery.Proofs.Text.Slice
import Gallery.Proofs.Slug
import Gallery.Proofs.CommandLine.Settings
import Gallery.Proofs.Page.Index
