import Appliance.Exchange
import Appliance.Session
import Appliance.Proofs.Acceptance
import Appliance.Proofs.Codec
import Appliance.Proofs.Echo
import Appliance.Proofs.Enrolment
import Appliance.Proofs.Equivalence
import Appliance.Proofs.Grammar
import Appliance.Proofs.Heating
import Appliance.Proofs.Humidity
import Appliance.Proofs.Measuring
import Appliance.Proofs.Merging
import Appliance.Proofs.Mirror
import Appliance.Proofs.Notice
import Appliance.Proofs.Omission
import Appliance.Proofs.Paths
import Appliance.Proofs.Permanence
import Appliance.Proofs.Playing
import Appliance.Proofs.Rejection
import Appliance.Proofs.Reordering
import Appliance.Proofs.Replay
import Appliance.Proofs.Roster
import Appliance.Proofs.Selecting
import Appliance.Proofs.Suppression
import Appliance.Proofs.Upkeep
