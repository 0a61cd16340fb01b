import FilterLexicon.Main
import FilterLexicon.Session
import FilterLexicon.Proofs.CommandLine
import FilterLexicon.Proofs.Directives
import FilterLexicon.Proofs.Handling
import FilterLexicon.Proofs.Merging
import FilterLexicon.Proofs.ColumnTable
import FilterLexicon.Proofs.Stages
import FilterLexicon.Proofs.LetterCase
import FilterLexicon.Proofs.AttributeNames
import FilterLexicon.Proofs.Rules
import FilterLexicon.Proofs.Calls
import FilterLexicon.Proofs.SourceOrder
import FilterLexicon.Proofs.RequestOrder
import FilterLexicon.Proofs.Listening
import FilterLexicon.Proofs.Exchanges
import FilterLexicon.Proofs.FilterChains
import FilterLexicon.Proofs.CustomTypes
import FilterLexicon.Proofs.FieldOrder
import FilterLexicon.Proofs.IdleSteps
import FilterLexicon.Proofs.Editing
import FilterLexicon.Proofs.Reachable
import FilterLexicon.Proofs.Agreement
import FilterLexicon.Proofs.JsonText
import FilterLexicon.Proofs.JsonExtent
import FilterLexicon.Proofs.JsonMembers
import FilterLexicon.Proofs.MemberOrder
import FilterLexicon.Proofs.CatalogBuilding
import FilterLexicon.Proofs.Replacements
import FilterLexicon.Proofs.TypeChannels
import FilterLexicon.Proofs.Qualifiers
import FilterLexicon.Proofs.UnrequestedColumns
