import RagdollDynamics.Simulation.Membership
import RagdollDynamics.Simulation.Step
import RagdollDynamics.Proofs.Membership.Ownership
import RagdollDynamics.Proofs.Command
import RagdollDynamics.Proofs.Standing
import RagdollDynamics.Proofs.Holding
import RagdollDynamics.Proofs.Membership.Lawful
import RagdollDynamics.Proofs.Membership.Answers
import RagdollDynamics.Proofs.Membership.Requests
import RagdollDynamics.Proofs.Membership.Scene
import RagdollDynamics.Proofs.Collision.Detection
import RagdollDynamics.Proofs.Collision.Capacity
import RagdollDynamics.Proofs.Contact.Changes
import RagdollDynamics.Proofs.Contact.Lifetime
import RagdollDynamics.Proofs.Contact.Scope
import RagdollDynamics.Proofs.Contact.Removal
import RagdollDynamics.Proofs.Frame.Region
import RagdollDynamics.Proofs.Frame.Bodies
import RagdollDynamics.Proofs.Frame.Contacts
import RagdollDynamics.Proofs.Frame.Footprint
import RagdollDynamics.Proofs.Frame.Step
import RagdollDynamics.Proofs.Frame.Independence
import RagdollDynamics.Proofs.Membership.MassScale
import RagdollDynamics.Proofs.Membership.Handover
import RagdollDynamics.Proofs.Membership.Rescaling
import RagdollDynamics.Proofs.Contact.Pairing
import RagdollDynamics.Proofs.Contact.Shares
import RagdollDynamics.Proofs.Exact.Real
import RagdollDynamics.Proofs.Exact.Overlap
import RagdollDynamics.Proofs.Exact.Movers
import RagdollDynamics.Proofs.Exact.Nearest
import RagdollDynamics.Proofs.Exact.Points
import RagdollDynamics.Proofs.Exact.Products
import RagdollDynamics.Proofs.Exact.Projection
import RagdollDynamics.Proofs.Exact.Capsules
import RagdollDynamics.Proofs.Exact.Separation
import RagdollDynamics.Proofs.Exact.Mirror
import RagdollDynamics.Proofs.Exact.Surface
import RagdollDynamics.Proofs.Ray.Comparison
import RagdollDynamics.Proofs.Ray.Probe
import RagdollDynamics.Proofs.Ray.Entry
import RagdollDynamics.Proofs.Ray.Inside
import RagdollDynamics.Proofs.Collision.Response
import RagdollDynamics.Proofs.Contact.Order
import RagdollDynamics.Proofs.Contact.Sides
import RagdollDynamics.Proofs.Contact.Immovable
import RagdollDynamics.Proofs.Contact.Soundness
import RagdollDynamics.Proofs.Contact.Enforcement
import RagdollDynamics.Proofs.Contact.Friction
import RagdollDynamics.Proofs.Rest.Bodies
import RagdollDynamics.Proofs.Rest.Step
import RagdollDynamics.Proofs.Translation.Geometry
import RagdollDynamics.Proofs.Translation.Bodies
import RagdollDynamics.Proofs.Translation.Contacts
import RagdollDynamics.Proofs.Translation.Step
import RagdollDynamics.Proofs.Body.Joints
import RagdollDynamics.Proofs.Body.Momentum
import RagdollDynamics.Proofs.Body.Roots
import RagdollDynamics.Proofs.Body.Trajectories
import RagdollDynamics.Proofs.Step.Roots
