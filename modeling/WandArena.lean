import WandArena.Main
import WandArena.Number.Exact
import WandArena.Pile.Rack
import WandArena.Stats.Ledger
import WandArena.Proofs.Cast.Row
import WandArena.Proofs.Cast.Accounting
import WandArena.Proofs.Simulation.Rotation
import WandArena.Proofs.Simulation.Tick
import WandArena.Proofs.Run.Safe
import WandArena.Proofs.Catalog
import WandArena.Proofs.Cast.Faults
import WandArena.Proofs.Wand.Stock
import WandArena.Proofs.Wand.Redraw
import WandArena.Proofs.Simulation.CastEnd
import WandArena.Proofs.Simulation.Launch
import WandArena.Proofs.Simulation.Conservation
import WandArena.Proofs.Simulation.Redraw
import WandArena.Proofs.World.Motion
import WandArena.Proofs.World.Store
import WandArena.Proofs.Simulation.Standard
import WandArena.Proofs.Simulation.Policy
import WandArena.Proofs.Simulation.Validated
import WandArena.Proofs.Catalog.Standard
import WandArena.Proofs.Simulation.Halting
import WandArena.Proofs.Cast.Depth
import WandArena.Proofs.Cast.History
import WandArena.Proofs.Cast.Mana
import WandArena.Proofs.Simulation.Flight
import WandArena.Proofs.Simulation.Stacking
import WandArena.Proofs.Simulation.Course
import WandArena.Proofs.Simulation.Progress
import WandArena.Proofs.Simulation.Events
import WandArena.Proofs.Simulation.Rounds
import WandArena.Proofs.Simulation.Mana
import WandArena.Proofs.Simulation.Solvency
import WandArena.Proofs.Simulation.Lifetime
import WandArena.Proofs.Simulation.Roster
import WandArena.Proofs.Simulation.Attaching
import WandArena.Proofs.Pile.Bare
import WandArena.Proofs.Schedule.Heap
import WandArena.Proofs.Simulation.Misfire
import WandArena.Proofs.Simulation.Retelling
import WandArena.Proofs.Simulation.Tracing
import WandArena.Proofs.Stats.Order
import WandArena.Proofs.Screen.Flush
import WandArena.Proofs.Simulation.Fixture
import WandArena.Proofs.Screen.Drawing
import WandArena.Proofs.Sandbox.Pace
import WandArena.Proofs.Cast.Placement
import WandArena.Proofs.Simulation.Spawning
import WandArena.Proofs.Simulation.Volley
import WandArena.Proofs.Simulation.Isolation
import WandArena.Proofs.Simulation.Soundness
import WandArena.Proofs.Stats.InPlace
import WandArena.Proofs.Stats.Lifetime
import WandArena.Proofs.World.Bounce
import WandArena.Proofs.Screen.Painting
import WandArena.Proofs.Simulation.Expiry
import WandArena.Proofs.Simulation.Turns
