import Inlay.Markup.Printer
import Inlay.Render.Declaration
import Inlay.Render.Settings
import Inlay.Reader.Document
import Inlay.Proofs.Attempt
import Inlay.Proofs.Text.Utf8
import Inlay.Proofs.Text.Weight
import Inlay.Proofs.Text.Case
import Inlay.Proofs.Text.Tables
import Inlay.Proofs.Markup.Descent
import Inlay.Proofs.Markup.Entry
import Inlay.Proofs.Markup.Nesting
import Inlay.Proofs.Markup.Placement
import Inlay.Proofs.Markup.Lexical
import Inlay.Proofs.Markup.Indentation
import Inlay.Proofs.Markup.Outline
import Inlay.Proofs.Markup.Reading
import Inlay.Proofs.Markup.RoundTrip
import Inlay.Proofs.Markup.Origins
import Inlay.Proofs.Markup.Tiling
import Inlay.Proofs.Markup.LineEnds
import Inlay.Proofs.Markup.Weight
import Inlay.Proofs.Markup.Growth
import Inlay.Proofs.Markup.Numerals
import Inlay.Proofs.Markup.Classes
import Inlay.Proofs.Markup.Faults
import Inlay.Proofs.Markup.Calls
import Inlay.Proofs.Markup.Scan
import Inlay.Proofs.Markup.WholeCharacters
import Inlay.Proofs.Host.Extraction
import Inlay.Proofs.Host.HeadingIds
import Inlay.Proofs.Host.Findings
import Inlay.Proofs.Render.Writes
import Inlay.Proofs.Render.WellNested
import Inlay.Proofs.Render.Asks
import Inlay.Proofs.Render.Slots
import Inlay.Proofs.Render.Limits
import Inlay.Proofs.Render.Fold
import Inlay.Proofs.Render.Echoes
import Inlay.Proofs.Render.Provenance
import Inlay.Proofs.Render.Override
import Inlay.Proofs.Render.Termination
import Inlay.Proofs.Render.Journal
import Inlay.Proofs.Render.Stops
import Inlay.Proofs.Render.Names
import Inlay.Proofs.Render.Scopes
import Inlay.Proofs.Render.Watch
import Inlay.Proofs.Render.ErrorPaths
import Inlay.Proofs.Render.Batches
import Inlay.Proofs.Render.Binding
import Inlay.Proofs.Render.Unseen
import Inlay.Proofs.Render.Eager
import Inlay.Proofs.Render.Registration
import Inlay.Proofs.Render.Tours
import Inlay.Proofs.Render.Numbers
