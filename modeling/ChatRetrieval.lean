import ChatRetrieval.Ark.Chat
import ChatRetrieval.Ark.Extra
import ChatRetrieval.Ark.Responses.Input
import ChatRetrieval.Ark.Responses.Model
import ChatRetrieval.Ark.Responses.Reply
import ChatRetrieval.Ark.Responses.Wire
import ChatRetrieval.Ark.Settings
import ChatRetrieval.Chat.Client
import ChatRetrieval.Chat.Model
import ChatRetrieval.Chat.Options
import ChatRetrieval.Claude.Input
import ChatRetrieval.Claude.Model
import ChatRetrieval.Claude.Reply
import ChatRetrieval.Claude.Settings
import ChatRetrieval.Claude.Wire
import ChatRetrieval.Completions.Config
import ChatRetrieval.Completions.DeepSeek
import ChatRetrieval.Completions.Qianfan
import ChatRetrieval.Completions.Qwen
import ChatRetrieval.Completions.Reply
import ChatRetrieval.Completions.Request
import ChatRetrieval.Completions.Wire
import ChatRetrieval.Dict
import ChatRetrieval.Document
import ChatRetrieval.Elastic.Client
import ChatRetrieval.Elastic.Indexer
import ChatRetrieval.Elastic.Query
import ChatRetrieval.Elastic.Retriever
import ChatRetrieval.Elastic.Search
import ChatRetrieval.Elastic.SearchMode
import ChatRetrieval.Embedder
import ChatRetrieval.Failure
import ChatRetrieval.Gemini.Extra
import ChatRetrieval.Gemini.Input
import ChatRetrieval.Gemini.Model
import ChatRetrieval.Gemini.Reply
import ChatRetrieval.Gemini.Settings
import ChatRetrieval.Gemini.Wire
import ChatRetrieval.Http.Config
import ChatRetrieval.Http.Headers
import ChatRetrieval.Http.Status
import ChatRetrieval.Http.Transport
import ChatRetrieval.Json.Basic
import ChatRetrieval.Json.Decode
import ChatRetrieval.Json.Number
import ChatRetrieval.Json.Printer
import ChatRetrieval.Json.Reader
import ChatRetrieval.Message.Basic
import ChatRetrieval.Message.Concat
import ChatRetrieval.Message.Turn
import ChatRetrieval.Message.Wire
import ChatRetrieval.Milvus.Basic
import ChatRetrieval.Milvus.Column
import ChatRetrieval.Milvus.Index
import ChatRetrieval.Milvus.Indexer
import ChatRetrieval.Milvus.Param
import ChatRetrieval.Milvus.Request
import ChatRetrieval.Milvus.Rest
import ChatRetrieval.Milvus.ResultSet
import ChatRetrieval.Milvus.Retriever
import ChatRetrieval.Milvus.Schema
import ChatRetrieval.Milvus.Service
import ChatRetrieval.Number.Binary
import ChatRetrieval.Number.Shortest
import ChatRetrieval.Pipeline
import ChatRetrieval.Retry
import ChatRetrieval.Role
import ChatRetrieval.Text.Base64
import ChatRetrieval.Text.Basic
import ChatRetrieval.Text.DataUrl
import ChatRetrieval.Text.Invisible
import ChatRetrieval.Text.Quoted
import ChatRetrieval.Text.Utf8
import ChatRetrieval.Tool
import ChatRetrieval.Url.Basic
import ChatRetrieval.Url.Domain
import ChatRetrieval.Url.Encoding
import ChatRetrieval.Url.Host
import ChatRetrieval.Proofs.Dict
import ChatRetrieval.Proofs.ToolCall.Merge
import ChatRetrieval.Proofs.Message.Join
import ChatRetrieval.Proofs.Message.Grouping
import ChatRetrieval.Proofs.Completions.Attempts
import ChatRetrieval.Proofs.Completions.Streaming
import ChatRetrieval.Proofs.Retry
import ChatRetrieval.Proofs.Ark.Responses.Call
import ChatRetrieval.Proofs.Ark.Responses.Conversation
import ChatRetrieval.Proofs.Chat.Stream
import ChatRetrieval.Proofs.Json.Numeral
import ChatRetrieval.Proofs.Json.RoundTrip
import ChatRetrieval.Proofs.ToolCall.Arguments
import ChatRetrieval.Proofs.Claude.Streaming
import ChatRetrieval.Proofs.Gemini.Streaming
import ChatRetrieval.Proofs.Ark.Responses.Chunks
import ChatRetrieval.Proofs.Ark.Responses.StreamedCalls
import ChatRetrieval.Proofs.Ark.Responses.StreamedText
import ChatRetrieval.Proofs.Number.Exact
import ChatRetrieval.Proofs.Json.Lookup
import ChatRetrieval.Proofs.Json.Decode
import ChatRetrieval.Proofs.Json.Fields
import ChatRetrieval.Proofs.Json.Ignored
import ChatRetrieval.Proofs.Elastic.RoundTrip
import ChatRetrieval.Proofs.Elastic.Kept
import ChatRetrieval.Proofs.Elastic.Client
import ChatRetrieval.Proofs.Elastic.Raw
import ChatRetrieval.Proofs.Http.Session
import ChatRetrieval.Proofs.Elastic.Sources
import ChatRetrieval.Proofs.Elastic.Storing
import ChatRetrieval.Proofs.Milvus.Iterator
import ChatRetrieval.Proofs.Milvus.Documents
import ChatRetrieval.Proofs.Milvus.RoundTrip
import ChatRetrieval.Proofs.Milvus.Paging
import ChatRetrieval.Proofs.Http.Trace
import ChatRetrieval.Proofs.Http.Headers
import ChatRetrieval.Proofs.Chat.Operation
import ChatRetrieval.Proofs.Ark.Headers
import ChatRetrieval.Proofs.Json.Readable
import ChatRetrieval.Proofs.Text.Cuts
import ChatRetrieval.Proofs.Message.Turns
import ChatRetrieval.Proofs.Gemini.Replay
import ChatRetrieval.Proofs.Claude.Replay
import ChatRetrieval.Proofs.Url.Join
import ChatRetrieval.Proofs.Milvus.Protocol
import ChatRetrieval.Proofs.Milvus.Preparation
import ChatRetrieval.Proofs.Completions.Events
import ChatRetrieval.Proofs.Message.RoundTrip
import ChatRetrieval.Proofs.Interchange
import ChatRetrieval.Proofs.Completions.RoundTrip
import ChatRetrieval.Proofs.Credentials
import ChatRetrieval.Proofs.ToolCall.ByIndex
import ChatRetrieval.Proofs.Claude.Calls
import ChatRetrieval.Proofs.Claude.Thinking
import ChatRetrieval.Proofs.Message.Conversation
import ChatRetrieval.Proofs.Message.Parts
import ChatRetrieval.Proofs.Text.Base64
import ChatRetrieval.Proofs.Gemini.Signatures
import ChatRetrieval.Proofs.Elastic.Batch
import ChatRetrieval.Proofs.Elastic.Filters
import ChatRetrieval.Proofs.Elastic.Failover
import ChatRetrieval.Proofs.Milvus.Vectors
import ChatRetrieval.Proofs.Milvus.Storing
import ChatRetrieval.Proofs.Milvus.Rows
import ChatRetrieval.Proofs.Milvus.Loading
import ChatRetrieval.Proofs.Milvus.Metadata
import ChatRetrieval.Proofs.Milvus.Dimensions
import ChatRetrieval.Proofs.Milvus.Draining
import ChatRetrieval.Proofs.Ark.Responses.Continuation
import ChatRetrieval.Proofs.Milvus.Schema
import ChatRetrieval.Proofs.Milvus.Request
import ChatRetrieval.Proofs.Milvus.Searching
import ChatRetrieval.Proofs.Milvus.Settings
import ChatRetrieval.Proofs.Milvus.Metrics
import ChatRetrieval.Proofs.Classification
import ChatRetrieval.Proofs.Tool.Schema
import ChatRetrieval.Proofs.Gemini.Results
import ChatRetrieval.Proofs.Chat.Tools
