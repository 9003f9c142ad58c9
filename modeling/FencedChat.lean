import FencedChat.Category
import FencedChat.CommandLine.Arguments
import FencedChat.CommandLine.Command
import FencedChat.CommandLine.Report
import FencedChat.CommandLine.Run
import FencedChat.Console.Color
import FencedChat.Console.Emoji
import FencedChat.Console.EmojiTable
import FencedChat.Console.Layout
import FencedChat.Console.Panel
import FencedChat.Console.Style
import FencedChat.Console.StyleTag
import FencedChat.Console.Table
import FencedChat.Console.Terminal
import FencedChat.Editor.Disk
import FencedChat.Editor.DiskPath
import FencedChat.Editor.Document
import FencedChat.Editor.Editing
import FencedChat.Editor.Inserting
import FencedChat.Editor.Insertion
import FencedChat.Extension
import FencedChat.Fault
import FencedChat.Grammar.Basic
import FencedChat.Grammar.Registry
import FencedChat.Grammar.Rule
import FencedChat.Grammar.Scan
import FencedChat.Highlight
import FencedChat.Language.Builtin
import FencedChat.Language.Data
import FencedChat.Language.Literal
import FencedChat.Language.Managed
import FencedChat.Language.Page
import FencedChat.Language.Script
import FencedChat.Language.System
import FencedChat.Listening
import FencedChat.Listing
import FencedChat.Log
import FencedChat.Main
import FencedChat.Markup.Entity
import FencedChat.Markup.EntityTable
import FencedChat.Markup.Escape
import FencedChat.Markup.TokenTag
import FencedChat.Message.Fence
import FencedChat.Message.Html
import FencedChat.Message.Prose
import FencedChat.Message.Reader
import FencedChat.Message.Segment
import FencedChat.Pattern.Basic
import FencedChat.Pattern.CharSet
import FencedChat.Pattern.Cursor
import FencedChat.Pattern.Reader
import FencedChat.Pattern.Source
import FencedChat.Pattern.Words
import FencedChat.Proofs.Action
import FencedChat.Proofs.Editor.Actions
import FencedChat.Proofs.Editor.Agreement
import FencedChat.Proofs.Editor.Atomicity
import FencedChat.Proofs.Editor.DiskContents
import FencedChat.Proofs.Editor.FileRoundTrip
import FencedChat.Proofs.Editor.Insertions
import FencedChat.Proofs.Editor.Runs
import FencedChat.Proofs.Editor.Saves
import FencedChat.Proofs.Grammar.Cover
import FencedChat.Proofs.Grammar.EmptyPieces
import FencedChat.Proofs.Grammar.Offset
import FencedChat.Proofs.Grammar.Order
import FencedChat.Proofs.Grammar.Reference
import FencedChat.Proofs.Grammar.Registry
import FencedChat.Proofs.Grammar.Walk
import FencedChat.Proofs.Highlight.Fragments
import FencedChat.Proofs.Highlight.Recovery
import FencedChat.Proofs.Highlight.Tiling
import FencedChat.Proofs.Language.Keys
import FencedChat.Proofs.Language.Moving
import FencedChat.Proofs.Language.Numbers
import FencedChat.Proofs.Language.Quoted
import FencedChat.Proofs.Language.SlashComments
import FencedChat.Proofs.Markup.Decoding
import FencedChat.Proofs.Markup.Escaping
import FencedChat.Proofs.Markup.Pieces
import FencedChat.Proofs.Markup.Tags
import FencedChat.Proofs.Message.Buttons
import FencedChat.Proofs.Message.Draft
import FencedChat.Proofs.Message.Fence
import FencedChat.Proofs.Message.FenceOffsets
import FencedChat.Proofs.Message.FenceReading
import FencedChat.Proofs.Message.FenceScan
import FencedChat.Proofs.Message.Filenames
import FencedChat.Proofs.Message.Html
import FencedChat.Proofs.Message.InlineRuns
import FencedChat.Proofs.Message.LineBoundary
import FencedChat.Proofs.Message.ListedTags
import FencedChat.Proofs.Message.Reading
import FencedChat.Proofs.Message.Slices
import FencedChat.Proofs.Message.Template
import FencedChat.Proofs.Pattern.Advance
import FencedChat.Proofs.Pattern.Delimited
import FencedChat.Proofs.Pattern.Ends
import FencedChat.Proofs.Pattern.ExactWords
import FencedChat.Proofs.Pattern.IdleWays
import FencedChat.Proofs.Pattern.Reach
import FencedChat.Proofs.Pattern.Readings
import FencedChat.Proofs.Pattern.Runs
import FencedChat.Proofs.Pattern.WordSource
import FencedChat.Proofs.Screen.Browsing
import FencedChat.Proofs.Screen.ChatView
import FencedChat.Proofs.Screen.EditorPane
import FencedChat.Proofs.Screen.Labels
import FencedChat.Proofs.Screen.Questions
import FencedChat.Proofs.Screen.Showing
import FencedChat.Proofs.Screen.Steps
import FencedChat.Proofs.Screen.TextArea
import FencedChat.Proofs.Screen.Traced
import FencedChat.Proofs.Screen.Typing
import FencedChat.Proofs.Session.InFlight
import FencedChat.Proofs.Session.Listening
import FencedChat.Proofs.Session.Replay
import FencedChat.Provider.Basic
import FencedChat.Provider.Calling
import FencedChat.Provider.Prompt
import FencedChat.Provider.Service
import FencedChat.Provider.Setup
import FencedChat.Provider.Usage
import FencedChat.Screen.App
import FencedChat.Screen.Browsing
import FencedChat.Screen.ChatView
import FencedChat.Screen.EditorPane
import FencedChat.Screen.InputBar
import FencedChat.Screen.InputHistory
import FencedChat.Screen.LogPanel
import FencedChat.Screen.StyledText
import FencedChat.Screen.TextArea
import FencedChat.Screen.Toast
import FencedChat.Session
import FencedChat.Text.Blank
import FencedChat.Text.Case
import FencedChat.Text.CaseContext
import FencedChat.Text.CellWidth
import FencedChat.Text.CodeRange
import FencedChat.Text.Decimal
import FencedChat.Text.Digits
import FencedChat.Text.Lines
import FencedChat.Text.Printable
import FencedChat.Text.Quoted
import FencedChat.Text.Showable
import FencedChat.Text.WordChar
import FencedChat.Value
import FencedChat.Proofs.Language.SqlRegions
import FencedChat.Proofs.Language.TripleQuoted
import FencedChat.Proofs.Text.Blank
import FencedChat.Proofs.Text.LowerCase
import FencedChat.Proofs.Grammar.Coherence
import FencedChat.Proofs.Highlight.Views
import FencedChat.Proofs.Screen.ProseRuns
import FencedChat.Proofs.Provider.Calls
import FencedChat.Proofs.Provider.Parameters
import FencedChat.Proofs.Provider.Replies
import FencedChat.Proofs.Provider.Exchange
import FencedChat.Proofs.Session.Answers
import FencedChat.Proofs.Message.Extensions
import FencedChat.Proofs.Session.Waiting
import FencedChat.Proofs.Console.Emoji
import FencedChat.Proofs.Console.StandardTerminal
import FencedChat.Proofs.Console.StyleTags
import FencedChat.Proofs.CommandLine.Printing
import FencedChat.Proofs.CommandLine.Blocks
import FencedChat.Proofs.CommandLine.Ask
import FencedChat.Proofs.Language.QuotedUnits
import FencedChat.Proofs.CommandLine.SetUp
