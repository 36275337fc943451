import Phrasebook.Arguments
import Phrasebook.Binary64
import Phrasebook.Binary64.Shortest
import Phrasebook.Binary64.Text
import Phrasebook.Calendar.Day
import Phrasebook.Calendar.Moment
import Phrasebook.Calendar.Pattern
import Phrasebook.Calendar.Text
import Phrasebook.Check
import Phrasebook.Clause
import Phrasebook.CommandLine
import Phrasebook.Currency
import Phrasebook.Decimal
import Phrasebook.Dictionary
import Phrasebook.Error
import Phrasebook.Format.Clauses
import Phrasebook.Format.Date
import Phrasebook.Format.DateFields
import Phrasebook.Format.DateStyle
import Phrasebook.Format.LocaleData
import Phrasebook.Format.Number
import Phrasebook.Formatter
import Phrasebook.Help
import Phrasebook.Json.Document
import Phrasebook.Json.Fault
import Phrasebook.Json.Number
import Phrasebook.Json.Object
import Phrasebook.Json.Text
import Phrasebook.Locale.DateNames
import Phrasebook.Locale.DatePatterns
import Phrasebook.Locale.Lookup
import Phrasebook.Locale.NumberSymbols
import Phrasebook.Locale.Reading
import Phrasebook.Locale.Tag
import Phrasebook.Main
import Phrasebook.Message
import Phrasebook.Plural.Category
import Phrasebook.Plural.Languages
import Phrasebook.Plural.Rules
import Phrasebook.Proofs.Balance
import Phrasebook.Proofs.Words
import Phrasebook.Renderer
import Phrasebook.Rounding
import Phrasebook.Speaker
import Phrasebook.Table
import Phrasebook.Template
import Phrasebook.Template.Scan
import Phrasebook.Text.Blank
import Phrasebook.Text.Braces
import Phrasebook.Text.Emoji
import Phrasebook.Text.Property
import Phrasebook.Text.Split
import Phrasebook.Text.Width
import Phrasebook.Text.Word
import Phrasebook.Value
import Phrasebook.Proofs.Entries
import Phrasebook.Proofs.Grammar
import Phrasebook.Proofs.Segments
import Phrasebook.Proofs.History
import Phrasebook.Proofs.Meaning
import Phrasebook.Proofs.Recall
import Phrasebook.Proofs.WrittenClauses
import Phrasebook.Proofs.Selection
import Phrasebook.Proofs.Demand
import Phrasebook.Proofs.Subtags
import Phrasebook.Proofs.Extensions
import Phrasebook.Proofs.ReadExtensions
import Phrasebook.Proofs.Tags
import Phrasebook.Proofs.Findings
import Phrasebook.Proofs.DecimalText
import Phrasebook.Proofs.ExactSelectors
import Phrasebook.Proofs.FractionDigits
import Phrasebook.Proofs.FormattedIntegers
import Phrasebook.Proofs.Occurrences
import Phrasebook.Proofs.Outermost
import Phrasebook.Proofs.ExactClauses
import Phrasebook.Proofs.Days
import Phrasebook.Proofs.MomentText
import Phrasebook.Proofs.ClauseTypes
import Phrasebook.Proofs.ReportTotals
import Phrasebook.Proofs.PrintedReports
import Phrasebook.Proofs.ReadMoments
import Phrasebook.Proofs.FloatLiterals
import Phrasebook.Proofs.Mismatches
import Phrasebook.Proofs.CalendarEnds
import Phrasebook.Proofs.CategorySigns
import Phrasebook.Proofs.RegionalCurrencies
import Phrasebook.Proofs.WrittenObjects
import Phrasebook.Proofs.NumericText
import Phrasebook.Proofs.NumberFormats
import Phrasebook.Proofs.Descent
