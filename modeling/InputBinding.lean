import InputBinding.Controller
import InputBinding.Descriptor.Reader
import InputBinding.Log.Pipeline
import InputBinding.Rule.Archive
import InputBinding.Tracker
import InputBinding.Proofs.Effects
import InputBinding.Proofs.Turns
import InputBinding.Proofs.Ticks
import InputBinding.Proofs.Runs
import InputBinding.Proofs.FloatOrder
import InputBinding.Proofs.Sequences
import InputBinding.Proofs.Attempts
import InputBinding.Proofs.Independence
import InputBinding.Proofs.Agreement
import InputBinding.Proofs.Canonical
import InputBinding.Proofs.RoundTrip
import InputBinding.Proofs.Spellings
import InputBinding.Proofs.Acceptance
import InputBinding.Proofs.StepCuts
import InputBinding.Proofs.Keeping
import InputBinding.Proofs.HeldKeys
import InputBinding.Proofs.Histories
import InputBinding.Proofs.Progress
import InputBinding.Proofs.Faultless
import InputBinding.Proofs.Containment
import InputBinding.Proofs.Edits
import InputBinding.Proofs.Atomicity
import InputBinding.Proofs.Listing
import InputBinding.Proofs.Announcements
import InputBinding.Proofs.Replay
import InputBinding.Proofs.FloatBits
import InputBinding.Proofs.Rounding
import InputBinding.Proofs.ShortestDigits
import InputBinding.Proofs.NumberTexts
import InputBinding.Proofs.WrittenJson
import InputBinding.Proofs.SavedRules
import InputBinding.Proofs.Retention
import InputBinding.Proofs.Deliveries
import InputBinding.Proofs.FrameCuts
import InputBinding.Proofs.FrameTimes
import InputBinding.Proofs.Rebinding
import InputBinding.Proofs.Reports
import InputBinding.Proofs.Levels
import InputBinding.Proofs.Shapes
import InputBinding.Proofs.Exchanges
import InputBinding.Proofs.Synonyms
import InputBinding.Proofs.Catches
import InputBinding.Proofs.Recording
import InputBinding.Proofs.Usability
import InputBinding.Proofs.LookBacks
import InputBinding.Proofs.Turnover
import InputBinding.Proofs.MoreInput
import InputBinding.Proofs.Consultations
import InputBinding.Proofs.MissingNames
import InputBinding.Proofs.CapturedTicks
