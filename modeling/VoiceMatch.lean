import VoiceMatch.Audio.Error
import VoiceMatch.Audio.Format
import VoiceMatch.Audio.Fourier
import VoiceMatch.Audio.RateFilter
import VoiceMatch.Audio.Resampler
import VoiceMatch.Audio.Samples
import VoiceMatch.Audio.Wav.Fault
import VoiceMatch.Audio.Wav.Layout
import VoiceMatch.Audio.Wav.Reader
import VoiceMatch.Audio.Wav.Writer
import VoiceMatch.Base64
import VoiceMatch.Bytes
import VoiceMatch.Chunks
import VoiceMatch.Json
import VoiceMatch.Json.Number
import VoiceMatch.Json.Printer
import VoiceMatch.Json.Reader
import VoiceMatch.Json.Values
import VoiceMatch.Main
import VoiceMatch.Number.Decimal
import VoiceMatch.Number.Digits
import VoiceMatch.Number.Rounding
import VoiceMatch.Number.Shortest
import VoiceMatch.Number.Single
import VoiceMatch.Service.CommandLine
import VoiceMatch.Service.Conversion
import VoiceMatch.Service.Error
import VoiceMatch.Service.Extractor
import VoiceMatch.Service.Form
import VoiceMatch.Service.Handlers
import VoiceMatch.Service.Http
import VoiceMatch.Service.ListenAddress
import VoiceMatch.Service.MediaType
import VoiceMatch.Service.Multipart
import VoiceMatch.Service.PartHeader
import VoiceMatch.Service.Router
import VoiceMatch.Service.Server
import VoiceMatch.Service.Settings
import VoiceMatch.Service.SettingsFormat
import VoiceMatch.Service.Startup
import VoiceMatch.Service.Upload
import VoiceMatch.Store.Clock
import VoiceMatch.Store.Directory
import VoiceMatch.Store.Error
import VoiceMatch.Store.FileName
import VoiceMatch.Store.FileTree
import VoiceMatch.Store.Record
import VoiceMatch.Store.Script
import VoiceMatch.Store.SpeakerStore
import VoiceMatch.Text.Blank
import VoiceMatch.Text.Charset
import VoiceMatch.Text.Charset.Big5
import VoiceMatch.Text.Charset.Gb18030
import VoiceMatch.Text.Charset.Jis0208
import VoiceMatch.Text.Charset.Jis0212
import VoiceMatch.Text.Charset.SingleByte
import VoiceMatch.Text.Charset.UnifiedHangul
import VoiceMatch.Text.Decoding
import VoiceMatch.Text.Folding
import VoiceMatch.Text.FoldingTable
import VoiceMatch.Text.PlainTable
import VoiceMatch.Text.Quoted
import VoiceMatch.Text.Utf8
import VoiceMatch.ValueFormat
import VoiceMatch.Voice.Confidence
import VoiceMatch.Voice.Embedding
import VoiceMatch.Voice.Error
import VoiceMatch.Voice.Extractor
import VoiceMatch.Voice.Extractor.Remote
import VoiceMatch.Voice.Extractor.Stub
import VoiceMatch.Voice.Match
import VoiceMatch.Voice.Registry
import VoiceMatch.Voice.Settings
import VoiceMatch.Voice.Threshold
import VoiceMatch.Voice.Verifier
import VoiceMatch.Voice.Waveform
import VoiceMatch.Yaml
import VoiceMatch.Yaml.Lexer
import VoiceMatch.Yaml.Printer
import VoiceMatch.Yaml.Property
import VoiceMatch.Yaml.Reader
import VoiceMatch.Yaml.Scalar
import VoiceMatch.Yaml.Text
import VoiceMatch.Yaml.Token
import VoiceMatch.Yaml.Values
import VoiceMatch.Proofs.Store.Directory
import VoiceMatch.Proofs.Store.FreeName
import VoiceMatch.Proofs.Store.Run
import VoiceMatch.Proofs.Store.Reach
import VoiceMatch.Proofs.Store.Failure
import VoiceMatch.Proofs.Number.TotalOrder
import VoiceMatch.Proofs.Voice.Ranking
import VoiceMatch.Proofs.Number.NearestEven
import VoiceMatch.Proofs.Number.RoundReal
import VoiceMatch.Proofs.Number.Mantissa
import VoiceMatch.Proofs.Number.Operations
import VoiceMatch.Proofs.Number.Packing
import VoiceMatch.Proofs.Number.Double
import VoiceMatch.Proofs.Number.SingleReal
import VoiceMatch.Proofs.Number.RoundedSum
import VoiceMatch.Proofs.Voice.DotProduct
import VoiceMatch.Proofs.Voice.UnitLength
import VoiceMatch.Proofs.Voice.Selection
import VoiceMatch.Proofs.Voice.Degenerate
import VoiceMatch.Proofs.Voice.ScoreBound
import VoiceMatch.Proofs.Chunks
import VoiceMatch.Proofs.Base64
import VoiceMatch.Proofs.Text.Ascii
import VoiceMatch.Proofs.Audio.Samples
import VoiceMatch.Proofs.Audio.WavFile
import VoiceMatch.Proofs.Voice.Extraction
import VoiceMatch.Proofs.Voice.StoredText
import VoiceMatch.Proofs.Voice.Agreement
import VoiceMatch.Proofs.Store.SafeName
import VoiceMatch.Proofs.Store.Metadata
import VoiceMatch.Proofs.Store.Reading
import VoiceMatch.Proofs.Store.Notes
import VoiceMatch.Proofs.Store.History
import VoiceMatch.Proofs.Service.Work
import VoiceMatch.Proofs.Service.BestIndex
import VoiceMatch.Proofs.Service.Ingestion
import VoiceMatch.Proofs.Voice.StoredBytes
import VoiceMatch.Proofs.Voice.SecondNorm
import VoiceMatch.Proofs.Voice.Resolution
import VoiceMatch.Proofs.Voice.Reuse
import VoiceMatch.Proofs.Voice.Tolerance
import VoiceMatch.Proofs.Voice.FaultClass
import VoiceMatch.Proofs.Store.Interleaving
import VoiceMatch.Proofs.Store.Passage
import VoiceMatch.Proofs.Store.Overlap
import VoiceMatch.Proofs.Store.Confinement
import VoiceMatch.Proofs.Store.Deletion
import VoiceMatch.Proofs.Voice.NormBound
import VoiceMatch.Proofs.Service.AcceptedRate
import VoiceMatch.Proofs.Service.ValidSettings
import VoiceMatch.Proofs.Base64.Canonical
import VoiceMatch.Proofs.Voice.TextForm
import VoiceMatch.Proofs.Audio.BlockRun
import VoiceMatch.Proofs.Audio.SampleRange
import VoiceMatch.Proofs.Store.UnusableNote
import VoiceMatch.Proofs.Voice.WaveformOutcome
import VoiceMatch.Proofs.Audio.Independence
import VoiceMatch.Proofs.Number.WholePart
import VoiceMatch.Proofs.Audio.Truncation
import VoiceMatch.Proofs.Voice.Rereading
import VoiceMatch.Proofs.Audio.SampleEncoding
import VoiceMatch.Proofs.Audio.FormatChunk
import VoiceMatch.Proofs.Audio.EncodedFile
import VoiceMatch.Proofs.Number.Comparison
import VoiceMatch.Proofs.Number.SignBit
import VoiceMatch.Proofs.Number.Overflow
import VoiceMatch.Proofs.Traversal
import VoiceMatch.Proofs.Voice.Normalization
import VoiceMatch.Proofs.Voice.FirstHighest
import VoiceMatch.Proofs.Voice.Verdicts
import VoiceMatch.Proofs.Voice.ZeroVector
import VoiceMatch.Proofs.Store.NameForm
import VoiceMatch.Proofs.Audio.Downmix
import VoiceMatch.Proofs.Voice.InsertionOrder
import VoiceMatch.Proofs.Number.HalfAway
import VoiceMatch.Proofs.Service.ShownScore
import VoiceMatch.Proofs.Service.BodyRoom
import VoiceMatch.Proofs.Voice.Seeding
import VoiceMatch.Proofs.Voice.BitSums
import VoiceMatch.Proofs.Voice.Rejection
