import FrameShader.Word
import FrameShader.Spirv.Enumerant
import FrameShader.Spirv.Opcode
import FrameShader.Spirv.Instruction
import FrameShader.Spirv.ShaderModule
import FrameShader.Number.Binary
import FrameShader.Spirv.DataType
import FrameShader.Spirv.Literal
import FrameShader.Log
import FrameShader.Draft.Error
import FrameShader.Draft.Basic
import FrameShader.Draft.Annotation
import FrameShader.Draft.Types
import FrameShader.Draft.Constant
import FrameShader.Draft.Function
import FrameShader.Draft.Arithmetic
import FrameShader.Draft.Composite
import FrameShader.Draft.Memory
import FrameShader.Draft.Sampling
import FrameShader.Draft.Resource
import FrameShader.Draft.Finish
import FrameShader.Draft.Operation
import FrameShader.Text.Hidden
import FrameShader.Text.Quoted
import FrameShader.Number.Shortest
import FrameShader.Kernel.Format
import FrameShader.Kernel.Options
import FrameShader.Kernel.Interface
import FrameShader.Kernel.Demosaic
import FrameShader.Kernel.Basic
import FrameShader.Document.Node
import FrameShader.Kernel.Form
import FrameShader.Settings.Basic
import FrameShader.Settings.Form
import FrameShader.Spirv.Grammar.Basic
import FrameShader.Spirv.Grammar.Enumerants
import FrameShader.Spirv.Grammar.Instructions
import FrameShader.Spirv.Reader
import FrameShader.Spirv.Listing
import FrameShader.Text.Digits
import FrameShader.Text.Scan
import FrameShader.Document.Json
import FrameShader.Document.Toml.Table
import FrameShader.Document.Toml.Value
import FrameShader.Document.Toml.Reader
import FrameShader.Document.Toml.Text
import FrameShader.Settings.Toml
import FrameShader.Text.Utf8
import FrameShader.Session.FileSystem
import FrameShader.Settings.Error
import FrameShader.Session.Basic
import FrameShader.Session.Logging
import FrameShader.Session.Request
import FrameShader.Proofs.Draft.Running
import FrameShader.Proofs.Draft.Changing
import FrameShader.Proofs.Draft.Consistency
import FrameShader.Proofs.Draft.Calls
import FrameShader.Proofs.Draft.Interning
import FrameShader.Proofs.Draft.Emitting
import FrameShader.Proofs.Draft.Opening
import FrameShader.Proofs.Draft.Runs
import FrameShader.Proofs.Draft.Muting
import FrameShader.Proofs.Draft.Composing
import FrameShader.Proofs.Draft.Statements
import FrameShader.Proofs.Draft.Ids
import FrameShader.Proofs.Draft.Growth
import FrameShader.Proofs.Draft.Visibility
import FrameShader.Proofs.Draft.Scoping
import FrameShader.Proofs.Draft.Definitions
import FrameShader.Proofs.Draft.References
import FrameShader.Proofs.Draft.Typing
import FrameShader.Proofs.Draft.Making
import FrameShader.Proofs.Draft.Agreeing
import FrameShader.Proofs.Draft.Silence
import FrameShader.Proofs.Draft.Uniqueness
import FrameShader.Proofs.Draft.Decoding
import FrameShader.Proofs.Spirv.Stream
import FrameShader.Proofs.Draft.Serialization
import FrameShader.Proofs.Draft.Appending
import FrameShader.Proofs.Draft.Preserving
import FrameShader.Proofs.Draft.Keeping
import FrameShader.Proofs.Draft.Shape
import FrameShader.Proofs.Draft.Layout
import FrameShader.Proofs.Draft.Linking
import FrameShader.Proofs.Draft.Confinement
import FrameShader.Proofs.Draft.Permanence
import FrameShader.Proofs.Draft.Slots
import FrameShader.Proofs.Draft.Annotating
import FrameShader.Proofs.Draft.Affording
import FrameShader.Proofs.Draft.Providing
import FrameShader.Proofs.Draft.Pieces
import FrameShader.Proofs.Draft.Attempting
import FrameShader.Proofs.Draft.Asking
import FrameShader.Proofs.Draft.Naming
import FrameShader.Proofs.Draft.Declaring
import FrameShader.Proofs.Draft.Missing
import FrameShader.Proofs.Draft.Striding
import FrameShader.Proofs.Draft.Holding
import FrameShader.Proofs.Draft.Stating
import FrameShader.Proofs.Draft.Unfinished
import FrameShader.Proofs.Draft.Reserving
import FrameShader.Proofs.Draft.Conversion
import FrameShader.Proofs.Draft.Refusing
import FrameShader.Proofs.Draft.Walking
import FrameShader.Proofs.Draft.Components
import FrameShader.Proofs.Draft.Literals
import FrameShader.Proofs.Draft.Assembling
import FrameShader.Proofs.Execution.Machine
import FrameShader.Proofs.Execution.Access
import FrameShader.Proofs.Execution.Growing
import FrameShader.Proofs.Execution.Constants
import FrameShader.Proofs.Execution.Activation
import FrameShader.Proofs.Execution.Ensuring
import FrameShader.Proofs.Execution.Lanes
import FrameShader.Proofs.Execution.Operations
import FrameShader.Proofs.Execution.Swizzling
import FrameShader.Proofs.Execution.Functions
import FrameShader.Proofs.Execution.Resources
import FrameShader.Proofs.Kernel.Filters
import FrameShader.Proofs.Kernel.Reconstruction
import FrameShader.Proofs.Kernel.Building
import FrameShader.Proofs.Kernel.Interface
import FrameShader.Proofs.Kernel.Loading
import FrameShader.Proofs.Kernel.Outline
import FrameShader.Proofs.Kernel.Generation
import FrameShader.Proofs.Kernel.Symbols
import FrameShader.Proofs.Draft.Resizing
import FrameShader.Proofs.Kernel.Identity
import FrameShader.Proofs.Kernel.Scenes
import FrameShader.Proofs.Kernel.Dispatch
import FrameShader.Proofs.Session.Settling
import FrameShader.Proofs.Session.Files
import FrameShader.Proofs.Session.Delivering
import FrameShader.Proofs.Draft.Mirroring
import FrameShader.Proofs.Document.Scanning
import FrameShader.Proofs.Document.Texts
import FrameShader.Proofs.Document.Values
import FrameShader.Proofs.Document.Lines
import FrameShader.Proofs.Document.Tables
import FrameShader.Proofs.Settings.Saving
