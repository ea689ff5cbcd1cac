import RoboLake.Guarantees.Parts
import RoboLake.Guarantees.Leases
import RoboLake.Guarantees.Strategies
import RoboLake.Guarantees.Recovery
import RoboLake.Guarantees.Generations
import RoboLake.Guarantees.Idempotency
import RoboLake.Guarantees.Initiation
import RoboLake.Guarantees.States
import RoboLake.Guarantees.Manifests
import RoboLake.Guarantees.Keys
import RoboLake.Guarantees.Capabilities
import RoboLake.Guarantees.Progress
import RoboLake.Guarantees.Wire
import RoboLake.Guarantees.Versions
import RoboLake.Guarantees.Plans
import RoboLake.Guarantees.Lifecycles
import RoboLake.Guarantees.Repairs
import RoboLake.Guarantees.Listings
import RoboLake.Guarantees.Downloads
import RoboLake.Guarantees.Planning
import RoboLake.Guarantees.Trees
import RoboLake.Guarantees.Reconciliation
import RoboLake.Guarantees.Replacements
import RoboLake.Guarantees.Recoveries
import RoboLake.Guarantees.Mismatches
import RoboLake.Guarantees.Preparations
import RoboLake.Guarantees.Framing
import RoboLake.Guarantees.Checksums
import RoboLake.Guarantees.Parsers
import RoboLake.Guarantees.Attestations
import RoboLake.Guarantees.Registrations
import RoboLake.Guarantees.Pushes
import RoboLake.Guarantees.Transparency
