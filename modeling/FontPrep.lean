import FontPrep.Cli.World
import FontPrep.GlyphName.Events
import FontPrep.Kerning.Events
import FontPrep.Main
import FontPrep.Proofs.GlyphName.Provided
import FontPrep.Proofs.Kerning.Closure
import FontPrep.Proofs.Kerning.Supply
import FontPrep.Proofs.Kerning.Substance
import FontPrep.Proofs.Kerning.Stability
import FontPrep.Proofs.Kerning.Relabelling
import FontPrep.Proofs.Ufo.GlyphOrder
import FontPrep.Proofs.Kerning.Header
import FontPrep.Proofs.GlyphName.Codepoint
import FontPrep.Proofs.Cli.Run
