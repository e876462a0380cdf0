import ScenarioBrowser.Main
import ScenarioBrowser.Proofs.Path.Segments
import ScenarioBrowser.Proofs.Router.Idle
import ScenarioBrowser.Proofs.Router.Outcome
import ScenarioBrowser.Proofs.Router.Replay
import ScenarioBrowser.Proofs.Router.Timeline
import ScenarioBrowser.Proofs.Router.Trace
import ScenarioBrowser.Proofs.Scenario.Resolution
import ScenarioBrowser.Proofs.Shell.Run
import ScenarioBrowser.Proofs.Shell.Sound
import ScenarioBrowser.Proofs.Shell.Fresh
import ScenarioBrowser.Proofs.Shell.Unfailing
import ScenarioBrowser.Proofs.Path.Joined
import ScenarioBrowser.Proofs.Router.Spelling
import ScenarioBrowser.Proofs.Scenario.Spelling
import ScenarioBrowser.Proofs.Shell.Idle
import ScenarioBrowser.Proofs.Path.Trimmed
import ScenarioBrowser.Proofs.Shell.Reopened
import ScenarioBrowser.Proofs.Router.Tracing
import ScenarioBrowser.Proofs.Shell.Tracing
import ScenarioBrowser.Proofs.Shell.Typing
import ScenarioBrowser.Proofs.Shell.Account
import ScenarioBrowser.Proofs.Pattern.Reading
import ScenarioBrowser.Proofs.Table.Build
import ScenarioBrowser.Proofs.Pattern.Filling
import ScenarioBrowser.Proofs.Table.FirstMatch
import ScenarioBrowser.Proofs.Table.Reachable
import ScenarioBrowser.Proofs.Configuration.Settings
import ScenarioBrowser.Proofs.Loading.Layers
import ScenarioBrowser.Proofs.Router.EmptyPath
import ScenarioBrowser.Proofs.Pattern.Grammar
import ScenarioBrowser.Proofs.Shell.Receiver
import ScenarioBrowser.Proofs.Shell.Form
import ScenarioBrowser.Proofs.Shell.Selection
import ScenarioBrowser.Proofs.Screen.Item
import ScenarioBrowser.Proofs.Screen.Marker
import ScenarioBrowser.Proofs.Shell.Quit
import ScenarioBrowser.Proofs.Shell.Screen
