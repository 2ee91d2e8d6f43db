import RoadAccess.Main
import RoadAccess.Network.Annotation
import RoadAccess.Profile.Description
import RoadAccess.Proofs.Agreement
import RoadAccess.Proofs.Annotation
import RoadAccess.Proofs.Calls
import RoadAccess.Proofs.Failure
import RoadAccess.Proofs.Loosening
import RoadAccess.Proofs.Runs
import RoadAccess.Proofs.Table
import RoadAccess.Proofs.Texts
import RoadAccess.Proofs.Shape
import RoadAccess.Proofs.Graphs
import RoadAccess.Proofs.Locality
import RoadAccess.Proofs.Order
import RoadAccess.Proofs.Batches
import RoadAccess.Proofs.RowErrors
import RoadAccess.Proofs.Relevance
import RoadAccess.Proofs.Simulation
import RoadAccess.Proofs.Noninterference
import RoadAccess.Proofs.Idempotence
import RoadAccess.Proofs.Csv
import RoadAccess.Proofs.Effects
import RoadAccess.Proofs.Hierarchy
import RoadAccess.Proofs.OwnTag
import RoadAccess.Proofs.Directions
import RoadAccess.Proofs.Statistics
import RoadAccess.Proofs.Mirror
import RoadAccess.Proofs.Unblocking
import RoadAccess.Proofs.HandlingFaults
import RoadAccess.Proofs.Subvalues
import RoadAccess.Proofs.Pairs
import RoadAccess.Proofs.Settings
