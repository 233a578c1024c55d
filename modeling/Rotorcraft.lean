import Rotorcraft.Main
import Rotorcraft.Proofs.Stages
import Rotorcraft.Proofs.Standard
import Rotorcraft.Proofs.Tick
import Rotorcraft.Proofs.Operation
import Rotorcraft.Proofs.Turns
import Rotorcraft.Proofs.Isolation
import Rotorcraft.Proofs.Countdown
import Rotorcraft.Proofs.Spawn
import Rotorcraft.Proofs.WellFormed
import Rotorcraft.Proofs.Reachable
import Rotorcraft.Proofs.Faults
import Rotorcraft.Proofs.TimerHistory
import Rotorcraft.Proofs.TimerTrace
import Rotorcraft.Proofs.Journey
import Rotorcraft.Proofs.Chronicle
import Rotorcraft.Proofs.Capacity
import Rotorcraft.Proofs.LimitedLog
import Rotorcraft.Proofs.Chase
import Rotorcraft.Proofs.Rest
import Rotorcraft.Proofs.Ownership
import Rotorcraft.Proofs.Accounts
import Rotorcraft.Proofs.Lives
import Rotorcraft.Proofs.Reload
import Rotorcraft.Proofs.Digits
import Rotorcraft.Proofs.Lexing
import Rotorcraft.Proofs.Layout
import Rotorcraft.Proofs.Spelling
import Rotorcraft.Proofs.Forms
import Rotorcraft.Proofs.RoundTrip
import Rotorcraft.Proofs.ChaseTime
import Rotorcraft.Proofs.Settling
import Rotorcraft.Proofs.Aiming
import Rotorcraft.Proofs.Announcement
import Rotorcraft.Proofs.Atomicity
import Rotorcraft.Proofs.MachineTick
import Rotorcraft.Proofs.Overwriting
import Rotorcraft.Proofs.Velocity
import Rotorcraft.Proofs.Banking
import Rotorcraft.Proofs.Seeding
import Rotorcraft.Proofs.Notables
import Rotorcraft.Proofs.Truncation
import Rotorcraft.Proofs.Spinning
import Rotorcraft.Proofs.BankHistory
