import SwitchDialects.Main
import SwitchDialects.Proofs.Agreement
import SwitchDialects.Proofs.Command.Atomicity
import SwitchDialects.Proofs.Command.Output
import SwitchDialects.Proofs.Isolation
import SwitchDialects.Proofs.Layout
import SwitchDialects.Proofs.RoundTrip
import SwitchDialects.Proofs.Routes
import SwitchDialects.Proofs.Ios.Invariant
import SwitchDialects.Proofs.PortState
import SwitchDialects.Proofs.PrintedVlans
import SwitchDialects.Proofs.ProCurve.Consistency
import SwitchDialects.Proofs.ProCurve.Reordering
import SwitchDialects.Proofs.Reordering
import SwitchDialects.Proofs.Repetition
import SwitchDialects.Proofs.NumberList
import SwitchDialects.Proofs.NumberList.Grammar
import SwitchDialects.Proofs.NumberList.Reading
import SwitchDialects.Proofs.Continuation
import SwitchDialects.Proofs.ProCurve.Spelling
import SwitchDialects.Proofs.PortMode
import SwitchDialects.Proofs.AosCx.VoiceNative
import SwitchDialects.Proofs.ProCurve.Frame
import SwitchDialects.Proofs.ProCurve.LetterCase
import SwitchDialects.Proofs.Communities
import SwitchDialects.Proofs.NumberList.Ports
import SwitchDialects.Proofs.Dialect.Voting
import SwitchDialects.Proofs.Ios.PortNumber
import SwitchDialects.Proofs.Listing
