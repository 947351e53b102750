import TextPattern.Cursor
import TextPattern.Main
import TextPattern.Pattern.Equality
import TextPattern.Pattern.Outline
import TextPattern.Proofs.BalancedPrefix
import TextPattern.Proofs.CapturesErased
import TextPattern.Proofs.CapturesNested
import TextPattern.Proofs.ChoiceLaws
import TextPattern.Proofs.Congruence
import TextPattern.Proofs.CursorSession
import TextPattern.Proofs.CutTexts
import TextPattern.Proofs.EqualPatterns
import TextPattern.Proofs.Exhaustive
import TextPattern.Proofs.ExtremeHits
import TextPattern.Proofs.Folding
import TextPattern.Proofs.GreedyCover
import TextPattern.Proofs.Invocation
import TextPattern.Proofs.Iterations
import TextPattern.Proofs.LeftmostCloser
import TextPattern.Proofs.LineNumbering
import TextPattern.Proofs.ListedFiles
import TextPattern.Proofs.ModesAgree
import TextPattern.Proofs.NullableMatches
import TextPattern.Proofs.Opposed
import TextPattern.Proofs.PrintedHits
import TextPattern.Proofs.QuotedText
import TextPattern.Proofs.RepeatCounts
import TextPattern.Proofs.ScanEntries
import TextPattern.Proofs.SkippedRange
import TextPattern.Proofs.SpanChains
import TextPattern.Proofs.Transaction
import TextPattern.Proofs.Translation
import TextPattern.Proofs.TruthfulErrors
import TextPattern.Proofs.WalksFollow
import TextPattern.Proofs.WrittenPatterns
