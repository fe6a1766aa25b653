import LineCalculator.Main
import LineCalculator.Proofs.Accumulation
import LineCalculator.Proofs.Diagnosis
import LineCalculator.Proofs.Directions
import LineCalculator.Proofs.Failures
import LineCalculator.Proofs.Interleaving
import LineCalculator.Proofs.Joining
import LineCalculator.Proofs.Journal
import LineCalculator.Proofs.Listings
import LineCalculator.Proofs.Location
import LineCalculator.Proofs.Messages
import LineCalculator.Proofs.Oversized
import LineCalculator.Proofs.Position
import LineCalculator.Proofs.Rendering
import LineCalculator.Proofs.Signs
import LineCalculator.Proofs.Sources
import LineCalculator.Proofs.Spacing
import LineCalculator.Proofs.Spans
import LineCalculator.Proofs.Strictness
import LineCalculator.Proofs.Substitution
import LineCalculator.Proofs.Unread
