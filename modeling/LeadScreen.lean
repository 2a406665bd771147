import LeadScreen.Main
import LeadScreen.Service.Route
import LeadScreen.Proofs.Text.Strip
import LeadScreen.Proofs.Text.Values
import LeadScreen.Proofs.Text.Words
import LeadScreen.Proofs.Text.Token
import LeadScreen.Proofs.Text.Lines
import LeadScreen.Proofs.Classifier.Rules
import LeadScreen.Proofs.Classifier.Comments
import LeadScreen.Proofs.Classifier.Grouping
import LeadScreen.Proofs.Classifier.Invariant
import LeadScreen.Proofs.Classifier.Accounting
import LeadScreen.Proofs.Classifier.Blocks
import LeadScreen.Proofs.Markup.Refusal
import LeadScreen.Proofs.Markup.Run
import LeadScreen.Proofs.Markup.Plain
import LeadScreen.Proofs.Markup.Written
import LeadScreen.Proofs.Markup.Layout
import LeadScreen.Proofs.Markup.Kinds
import LeadScreen.Proofs.Requisition.Refusal
import LeadScreen.Proofs.Requisition.Layout
import LeadScreen.Proofs.Requisition.Cuts
import LeadScreen.Proofs.Requisition.Visible
import LeadScreen.Proofs.Requisition.Spacing
import LeadScreen.Proofs.Requisition.TitleTerms
import LeadScreen.Proofs.Rule.Size
import LeadScreen.Proofs.Rule.Answer
import LeadScreen.Proofs.Number.Rounding
import LeadScreen.Proofs.Rule.Title
import LeadScreen.Proofs.Rule.Coverage
import LeadScreen.Proofs.Rule.Explanation
import LeadScreen.Proofs.Rule.Other
import LeadScreen.Proofs.Rule.Dispatch
import LeadScreen.Proofs.Table.Csv
import LeadScreen.Proofs.Table.Padding
import LeadScreen.Proofs.Report.Sheet
import LeadScreen.Proofs.Report.Flow
import LeadScreen.Proofs.Report.RoundTrip
import LeadScreen.Proofs.CommandLine.Screen
import LeadScreen.Proofs.Table.FieldLimit
import LeadScreen.Proofs.Service.Table
import LeadScreen.Proofs.Service.Report
import LeadScreen.Proofs.CommandLine.Unreadable
import LeadScreen.Proofs.CommandLine.Agreement
import LeadScreen.Proofs.Rule.Ignored
import LeadScreen.Proofs.Requisition.Marker
import LeadScreen.Proofs.Requisition.Terms
import LeadScreen.Proofs.Number.Digits
import LeadScreen.Proofs.Rule.SizeGate
import LeadScreen.Proofs.Text.Caseless
import LeadScreen.Proofs.Text.Lower
import LeadScreen.Proofs.Rule.Regions
import LeadScreen.Proofs.Text.Spelling
import LeadScreen.Proofs.Rule.Fields
import LeadScreen.Proofs.Rule.Spelling
import LeadScreen.Proofs.Classifier.Frame
import LeadScreen.Proofs.Rule.Storage
import LeadScreen.Proofs.Rule.Email
import LeadScreen.Proofs.Table.Columns
import LeadScreen.Proofs.Text.Parts
import LeadScreen.Proofs.Rule.SizeRuns
import LeadScreen.Proofs.Report.GivenBack
