import ScadText.Disk.Tree
import ScadText.Editor.LanguageConfig
import ScadText.Editor.Session
import ScadText.Main
import ScadText.Proofs.Command.Failures
import ScadText.Proofs.Command.FrontEnds
import ScadText.Proofs.Editor.Bounds
import ScadText.Proofs.Editor.Exact
import ScadText.Proofs.Editor.Nesting
import ScadText.Proofs.Editor.Returns
import ScadText.Proofs.Editor.Session
import ScadText.Proofs.Finding.Brackets
import ScadText.Proofs.Finding.Compose
import ScadText.Proofs.Finding.Excerpt
import ScadText.Proofs.Finding.Repair
import ScadText.Proofs.Finding.Returns
import ScadText.Proofs.Finding.Uses
import ScadText.Proofs.Lexer.Append
import ScadText.Proofs.Lexer.Comments
import ScadText.Proofs.Lexer.Names
import ScadText.Proofs.Lexer.Turns
import ScadText.Proofs.Report.Channels
import ScadText.Proofs.Report.Freshness
import ScadText.Proofs.Report.Records
import ScadText.Proofs.Report.Run
import ScadText.Proofs.Report.Watch
import ScadText.Proofs.Settings.Merge
import ScadText.Proofs.Token.Dump
