import BahtWords.Decimal.Basic
import BahtWords.Decimal.Reader
import BahtWords.Document.Floating
import BahtWords.Document.Moment
import BahtWords.Document.Number
import BahtWords.Document.Reader
import BahtWords.Document.Value
import BahtWords.Locale.Basic
import BahtWords.Locale.Language
import BahtWords.Money.Amount
import BahtWords.Money.Record
import BahtWords.Preferences.Basic
import BahtWords.Preferences.Load
import BahtWords.Preferences.Mismatch
import BahtWords.Preferences.Source
import BahtWords.Problem
import BahtWords.Proofs.Decimal.Digits
import BahtWords.Proofs.Decimal.Fitting
import BahtWords.Proofs.Decimal.PlainForm
import BahtWords.Proofs.Document.Keys
import BahtWords.Proofs.Document.Moment
import BahtWords.Proofs.Document.Nearest
import BahtWords.Proofs.Document.Shortest
import BahtWords.Proofs.Money.FixedWidth
import BahtWords.Proofs.Money.ReadBack
import BahtWords.Proofs.Money.Reading
import BahtWords.Proofs.Money.Split
import BahtWords.Proofs.Preferences.Described
import BahtWords.Proofs.Preferences.Loading
import BahtWords.Proofs.Preferences.Names
import BahtWords.Proofs.Preferences.Precedence
import BahtWords.Proofs.Spelling.EnglishReading
import BahtWords.Proofs.Spelling.Groups
import BahtWords.Proofs.Spelling.Recital
import BahtWords.Proofs.Spelling.ThaiForms
import BahtWords.Proofs.Spelling.ThaiReading
import BahtWords.Proofs.Style.Freezing
import BahtWords.Proofs.Style.History
import BahtWords.Proofs.Template.Closing
import BahtWords.Proofs.Template.Filling
import BahtWords.Proofs.Template.Nesting
import BahtWords.Proofs.Template.Outline
import BahtWords.Proofs.Template.Scan
import BahtWords.Proofs.Template.Slots
import BahtWords.Proofs.Template.Unclosed
import BahtWords.Proofs.Text.Occurrence
import BahtWords.Proofs.Text.Words
import BahtWords.Proofs.Writing.Fallback
import BahtWords.Proofs.Writing.LayoutTemplate
import BahtWords.Proofs.Writing.MinorUnits
import BahtWords.Proofs.Writing.SignSymmetry
import BahtWords.Proofs.Writing.Spacing
import BahtWords.Proofs.Writing.Unambiguous
import BahtWords.Session
import BahtWords.Spelling.English
import BahtWords.Spelling.Grammar
import BahtWords.Spelling.Thai
import BahtWords.Spelling.Variants
import BahtWords.Style.Basic
import BahtWords.Style.Edit
import BahtWords.Template.Basic
import BahtWords.Template.Block
import BahtWords.Template.Slot
import BahtWords.Text.Basic
import BahtWords.Text.Case
import BahtWords.Text.Lower
import BahtWords.Text.Quoted
import BahtWords.Text.Reading
import BahtWords.Writing.Basic
import BahtWords.Writing.Event
