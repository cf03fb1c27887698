import TopicSink.Handler
import TopicSink.StandardClient
import TopicSink.Proofs.Acts
import TopicSink.Proofs.Connections
import TopicSink.Proofs.Derivations
import TopicSink.Proofs.Submissions
import TopicSink.Proofs.Numerals
import TopicSink.Proofs.Readiness
import TopicSink.Proofs.Sessions
import TopicSink.Proofs.Validation
import TopicSink.Proofs.Deliveries
import TopicSink.Proofs.Handling
import TopicSink.Proofs.Reading
import TopicSink.Proofs.Depths
import TopicSink.Proofs.Decoding
import TopicSink.Proofs.Answers
import TopicSink.Proofs.Statuses
import TopicSink.Proofs.Concealment
import TopicSink.Proofs.Recollections
import TopicSink.Proofs.Dates
import TopicSink.Proofs.Rounding
import TopicSink.Proofs.Instants
import TopicSink.Proofs.Encodings
import TopicSink.Proofs.Literals
import TopicSink.Proofs.RoundTrips
import TopicSink.Proofs.Payloads
import TopicSink.Proofs.Resumption
import TopicSink.Proofs.Loading
import TopicSink.Proofs.HiddenColumns
import TopicSink.Proofs.Rejections
import TopicSink.Proofs.Escapes
import TopicSink.Proofs.DefaultNames
import TopicSink.Proofs.Batches
import TopicSink.Proofs.Probes
import TopicSink.Proofs.Spellings
import TopicSink.Proofs.Quotations
import TopicSink.Proofs.NestedColumns
import TopicSink.Proofs.Passwords
import TopicSink.Proofs.Grammar
import TopicSink.Proofs.Parsing
import TopicSink.Proofs.Printing
import TopicSink.Proofs.Documents
import TopicSink.Proofs.Decryption
import TopicSink.Proofs.ErrorLines
import TopicSink.Proofs.LogLines
import TopicSink.Proofs.DayOrder
import TopicSink.Proofs.Loggers
import TopicSink.Proofs.Configurations
