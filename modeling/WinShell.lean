import WinShell.Effect.Heap
import WinShell.Effect.Run
import WinShell.Utils
import WinShell.Sequential.Machine
import WinShell.Sequential.Requests
import WinShell.Program
import WinShell.Effect.History
import WinShell.Trace
import WinShell.Sequential.Calls
import WinShell.Sequential.Programs
import WinShell.Lifecycle.Ownership
import WinShell.Lifecycle.Release
import WinShell.Lifecycle.Dispatch
import WinShell.Lifecycle.Failure
import WinShell.Lifecycle.Mdl
import WinShell.Lifecycle.Resolution
import WinShell.Effect.Pool
import WinShell.Concurrent.Operations
import WinShell.Concurrent.Views
import WinShell.Concurrent.Invariant
import WinShell.Concurrent.Steps
import WinShell.Concurrent.Bodies
import WinShell.Concurrent.Ownership
import WinShell.Effect.Schedule
import WinShell.Concurrent.Schedule
import WinShell.Effect.Visits
import WinShell.Sequential.Submissions
import WinShell.Lifecycle.Address
import WinShell.Lifecycle.Transfer
import WinShell.Lifecycle.Creation
import WinShell.Lifecycle.Memory
import WinShell.Tlsf.Blocks
import WinShell.Tlsf.Allocator
import WinShell.Store.Layout
import WinShell.Store.Linked
import WinShell.Tlsf.Words
import WinShell.Tlsf.Chunks
import WinShell.Tlsf.Laws
import WinShell.Tlsf.Lists
import WinShell.Tlsf.Pool
import WinShell.Tlsf.Service
import WinShell.Tlsf.Creation
import WinShell.Tlsf.Contents
import WinShell.Tlsf.Resize
import WinShell.Effect.Handler
import WinShell.Tlsf.Clients
import WinShell.Tlsf.Check
import WinShell.Effect.Lock
import WinShell.Effect.Progress
import WinShell.Tlsf.Manager
import WinShell.Exceptions.Numbers
import WinShell.Exceptions.Graph
import WinShell.Exceptions.Handlers
import WinShell.Exceptions.Frames
import WinShell.Exceptions.Functions
import WinShell.Exceptions.Stack
import WinShell.Exceptions.Dispatch
import WinShell.Exceptions.Rethrow
