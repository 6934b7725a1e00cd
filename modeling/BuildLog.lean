import BuildLog.Files.Tree
import BuildLog.Main
import BuildLog.Proofs.Extraction.DerivedLines
import BuildLog.Proofs.Extraction.Streaming
import BuildLog.Proofs.Pass.Recall
import BuildLog.Proofs.Recognizer.LintEntry
import BuildLog.Proofs.Pass.LineLayouts
import BuildLog.Proofs.Pass.FallbackLayouts
import BuildLog.Proofs.Pass.SwiftWindows
import BuildLog.Proofs.Pass.Readings
import BuildLog.Proofs.Pass.LintLists
import BuildLog.Proofs.Recognizer.Recognized
import BuildLog.Proofs.Pass.Sources
import BuildLog.Proofs.Extraction.Provenance
import BuildLog.Proofs.Extraction.Presentation
import BuildLog.Proofs.Pass.Formats
import BuildLog.Proofs.Extraction.Phases
import BuildLog.Proofs.Bytewise.Recognizer
import BuildLog.Proofs.Bytewise.Scan
import BuildLog.Proofs.Bytewise.Extraction
import BuildLog.Proofs.Extraction.Folders
import BuildLog.Proofs.Pass.Segments
import BuildLog.Proofs.Extraction.Shortening
import BuildLog.Proofs.Extraction.Printing
import BuildLog.Proofs.Pass.SwiftAccounts
import BuildLog.Proofs.Recognizer.MessageLength
import BuildLog.Proofs.Recognizer.SpelledPlaces
import BuildLog.Proofs.Recognizer.PrintedPlaces
import BuildLog.Proofs.Terminal.Stripping
import BuildLog.Proofs.Pass.Frames
import BuildLog.Proofs.Recognizer.PrintedMessages
import BuildLog.Proofs.Pass.Alone
import BuildLog.Proofs.Pass.Parenthesized
import BuildLog.Proofs.Pass.ColonPlaces
import BuildLog.Proofs.Pass.JavaErrors
import BuildLog.Proofs.Recognizer.SwiftMarkers
import BuildLog.Proofs.Pass.FailedSuites
import BuildLog.Proofs.Extraction.RecordLines
import BuildLog.Proofs.Pass.Doubts
import BuildLog.Proofs.Extraction.Failures
import BuildLog.Proofs.Extraction.Traces
import BuildLog.Proofs.Extraction.RepeatedCommands
import BuildLog.Proofs.Report.Summaries
import BuildLog.Proofs.Report.Readback
import BuildLog.Proofs.Files.Resolving
import BuildLog.Proofs.CommandLine.ArgumentLists
import BuildLog.Proofs.CommandLine.Outcomes
