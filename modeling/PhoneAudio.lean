import PhoneAudio.Call.Decode
import PhoneAudio.Layer.Decode
import PhoneAudio.Proofs.Alerter.Attribution
import PhoneAudio.Proofs.Alerter.Exclusion
import PhoneAudio.Proofs.Alerter.Fallback
import PhoneAudio.Proofs.Alerter.Focus
import PhoneAudio.Proofs.Alerter.Loan
import PhoneAudio.Proofs.Alerter.Supersession
import PhoneAudio.Proofs.Alerter.Tasks
import PhoneAudio.Proofs.Alerter.Voice
import PhoneAudio.Proofs.Call.History
import PhoneAudio.Proofs.Layer.Delivery
import PhoneAudio.Proofs.Motor.Brief
import PhoneAudio.Proofs.Motor.Turns
import PhoneAudio.Proofs.Roster.Standing
import PhoneAudio.Proofs.Settings.Listing
import PhoneAudio.Proofs.Switchboard.DisconnectTone
import PhoneAudio.Proofs.Switchboard.Eligibility
import PhoneAudio.Proofs.Switchboard.Emergency
import PhoneAudio.Proofs.Switchboard.FallingQuiet
import PhoneAudio.Proofs.Switchboard.HoldTone
import PhoneAudio.Proofs.Switchboard.Joining
import PhoneAudio.Proofs.Switchboard.Loudspeaker
import PhoneAudio.Proofs.Switchboard.Mirror
import PhoneAudio.Proofs.Switchboard.OwnRing
import PhoneAudio.Proofs.Switchboard.Presence
import PhoneAudio.Proofs.Switchboard.Refinement
import PhoneAudio.Proofs.Switchboard.Report
import PhoneAudio.Proofs.Switchboard.Ringback
import PhoneAudio.Settings.Decode
import PhoneAudio.Switchboard.Operation
import PhoneAudio.Switchboard.Report
import PhoneAudio.Vibration.Decode
