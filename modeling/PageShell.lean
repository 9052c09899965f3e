import PageShell.Main
import PageShell.Proofs.CommandLine.Language
import PageShell.Proofs.Completion.Grammar
import PageShell.Proofs.Completion.Matches
import PageShell.Proofs.Host.Landing
import PageShell.Proofs.Page
import PageShell.Proofs.Preferences
import PageShell.Proofs.Rain.Descent
import PageShell.Proofs.Rain.Trail
import PageShell.Proofs.Scrollback.Retention
import PageShell.Proofs.Screen.Caret
import PageShell.Proofs.Screen.Edge
import PageShell.Proofs.Screen.Output
import PageShell.Proofs.Session.Completed
import PageShell.Proofs.Session.Editing
import PageShell.Proofs.Session.Length
import PageShell.Proofs.Session.Resubmission
import PageShell.Proofs.Session.Tab
import PageShell.Proofs.Session.Typing
import PageShell.Proofs.Settings.RoundTrip
import PageShell.Proofs.Theme
import PageShell.Proofs.Travel.Batches
