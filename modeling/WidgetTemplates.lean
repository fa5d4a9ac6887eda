import WidgetTemplates.Compile.Compile
import WidgetTemplates.Json.Reader
import WidgetTemplates.Page.Bootstrap
import WidgetTemplates.Page.Renderable
import WidgetTemplates.Template.NodeJson
import WidgetTemplates.Template.Traversal
import WidgetTemplates.Proofs.Script.Subexpression
import WidgetTemplates.Proofs.Template.Occurrence
import WidgetTemplates.Proofs.Compile.Edits
import WidgetTemplates.Proofs.Page.Emission
import WidgetTemplates.Proofs.Page.ElementId
import WidgetTemplates.Proofs.Rendering.Scene
import WidgetTemplates.Proofs.Compile.Selected
import WidgetTemplates.Proofs.Compile.SettledId
import WidgetTemplates.Proofs.Rendering.BodyId
import WidgetTemplates.Proofs.Compile.Woven
import WidgetTemplates.Proofs.Compile.Printed
import WidgetTemplates.Proofs.Compile.PrintedScope
import WidgetTemplates.Proofs.Compile.Roots
import WidgetTemplates.Proofs.Compile.Events
import WidgetTemplates.Proofs.Compile.WidgetScope
import WidgetTemplates.Proofs.Rendering.Run
import WidgetTemplates.Proofs.Rendering.Numbering
import WidgetTemplates.Proofs.Rendering.ElementIds
import WidgetTemplates.Proofs.Template.Parts
import WidgetTemplates.Proofs.Template.PutBack
import WidgetTemplates.Proofs.Compile.Merged
import WidgetTemplates.Proofs.Compile.Turns
import WidgetTemplates.Proofs.Compile.Taught
import WidgetTemplates.Proofs.Compile.OpenWidgets
import WidgetTemplates.Proofs.Compile.DeferredWrites
import WidgetTemplates.Proofs.Script.Brackets
import WidgetTemplates.Proofs.Script.PrintedExpr
import WidgetTemplates.Proofs.Template.Tidy
import WidgetTemplates.Proofs.Compile.TidyWeaving
import WidgetTemplates.Proofs.Script.Grammar.Lexemes
import WidgetTemplates.Proofs.Script.Grammar.Ensures
import WidgetTemplates.Proofs.Script.Grammar.Position
import WidgetTemplates.Proofs.Script.Grammar.Tokens
import WidgetTemplates.Proofs.Script.Grammar.Keeps
import WidgetTemplates.Proofs.Script.Grammar.Parts
import WidgetTemplates.Proofs.Script.Grammar.Operands
import WidgetTemplates.Proofs.Script.Grammar.Statements
import WidgetTemplates.Proofs.Script.Grammar.Whole
import WidgetTemplates.Proofs.Compile.BalancedModule
import WidgetTemplates.Proofs.Compile.Allocation
import WidgetTemplates.Proofs.Compile.Header
import WidgetTemplates.Proofs.Compile.Built
import WidgetTemplates.Proofs.Compile.Declared
import WidgetTemplates.Proofs.Compile.HandoverPairs
import WidgetTemplates.Proofs.Compile.CountedIds
import WidgetTemplates.Proofs.Compile.DeliveredIds
import WidgetTemplates.Proofs.Compile.Rewoven
import WidgetTemplates.Proofs.Template.Spots
import WidgetTemplates.Proofs.Compile.CarriedTexts
import WidgetTemplates.Proofs.Compile.LoopScope
import WidgetTemplates.Proofs.Compile.Placed
import WidgetTemplates.Proofs.Compile.Leftover
import WidgetTemplates.Proofs.Compile.Reported
import WidgetTemplates.Proofs.Compile.Outside
import WidgetTemplates.Proofs.Compile.Untouched
import WidgetTemplates.Proofs.Page.FreshIds
import WidgetTemplates.Proofs.Page.FailedWrite
import WidgetTemplates.Proofs.Json.ReadBack
import WidgetTemplates.Proofs.Script.StringLiteral
import WidgetTemplates.Proofs.Markup.QuotedValue
import WidgetTemplates.Proofs.Text.Occurrences
import WidgetTemplates.Proofs.Page.ScriptJson
import WidgetTemplates.Proofs.Page.WrittenIds
import WidgetTemplates.Proofs.Script.ReadBack
import WidgetTemplates.Proofs.Compile.StaticMarkup
import WidgetTemplates.Proofs.Template.JsonForm
import WidgetTemplates.Proofs.Compile.PrintedStatements
import WidgetTemplates.Proofs.Page.ChildrenFirst
import WidgetTemplates.Proofs.Compile.OneId
import WidgetTemplates.Proofs.Compile.IdSteps
import WidgetTemplates.Proofs.Compile.ExplicitIds
import WidgetTemplates.Proofs.Compile.ClashingIds
import WidgetTemplates.Proofs.Page.Replay
import WidgetTemplates.Proofs.Text.Blank
import WidgetTemplates.Proofs.Template.TextNodes
import WidgetTemplates.Proofs.Template.MatchingBrace
import WidgetTemplates.Proofs.Script.Arguments
import WidgetTemplates.Proofs.Text.Search
import WidgetTemplates.Proofs.Template.LiftedSpans
import WidgetTemplates.Proofs.Template.ExactLifting
import WidgetTemplates.Proofs.Template.SelfClosing
import WidgetTemplates.Proofs.Template.LoopSource
import WidgetTemplates.Proofs.Template.MixedValue
import WidgetTemplates.Proofs.Markup.ScannedText
import WidgetTemplates.Proofs.Compile.PrintedText
import WidgetTemplates.Proofs.Compile.Listeners
import WidgetTemplates.Proofs.Compile.SharedVariables
import WidgetTemplates.Proofs.Page.TwoForms
import WidgetTemplates.Proofs.Script.QuotedText
import WidgetTemplates.Proofs.Compile.DepositedArgs
import WidgetTemplates.Proofs.Template.Pieces
import WidgetTemplates.Proofs.Template.Wrappers
import WidgetTemplates.Proofs.Compile.ModuleText
