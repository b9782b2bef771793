import DeviceSync.Bytes.Basic
import DeviceSync.Bytes.Base64Url
import DeviceSync.Bytes.Sha256
import DeviceSync.Text.Scan
import DeviceSync.Toml.Basic
import DeviceSync.Toml.Text
import DeviceSync.Toml.Document
import DeviceSync.Wire.Head
import DeviceSync.Wire.Shape
import DeviceSync.Wire.Encode
import DeviceSync.Wire.Decode
import DeviceSync.Message.Wire
import DeviceSync.Message.Dispatch
import DeviceSync.Message.Reaction
import DeviceSync.Retry
import DeviceSync.Config.Document
import DeviceSync.Task.Id
import DeviceSync.Task.Outcome
import DeviceSync.Service.Basic
import DeviceSync.Transport.Connection
import DeviceSync.Store.Location
import DeviceSync.Store.Nonces
import DeviceSync.Store.Tasks
import DeviceSync.Task.Basic
import DeviceSync.Queue.Step
import DeviceSync.Session.Schedule
import DeviceSync.Queue.Feed
import DeviceSync.Text.Json
import DeviceSync.Replay.File
import DeviceSync.Replay.Basic
import DeviceSync.Store.Database
import DeviceSync.Command.Arguments
import DeviceSync.Command.FileTree
import DeviceSync.Command.Basic
import DeviceSync.Main
import DeviceSync.Linking.Session
import DeviceSync.Linking.Run
import DeviceSync.Group.Registry
import DeviceSync.Group.Operation
import DeviceSync.Group.Desk
import DeviceSync.Session.Client
import DeviceSync.Proofs.Task.Replay
import DeviceSync.Proofs.Queue.Crash
import DeviceSync.Proofs.Linking.ConfirmedPath
import DeviceSync.Proofs.Message.RoundTrip
import DeviceSync.Proofs.Queue.Acknowledgement
import DeviceSync.Proofs.Queue.Retries
import DeviceSync.Proofs.Queue.Chronicle
import DeviceSync.Proofs.Linking.Handles
import DeviceSync.Proofs.Store.NonceCalls
import DeviceSync.Proofs.Queue.OneByOne
import DeviceSync.Proofs.Session.Pumping
import DeviceSync.Proofs.Store.Tasks
import DeviceSync.Proofs.Queue.Logins
import DeviceSync.Proofs.Queue.Lasting
import DeviceSync.Proofs.Group.Agreement
import DeviceSync.Proofs.Group.LinkedActive
import DeviceSync.Proofs.Store.TaskCalls
import DeviceSync.Proofs.Linking.Operators
import DeviceSync.Proofs.Queue.Backlog
import DeviceSync.Proofs.Session.Replays
import DeviceSync.Proofs.Session.ReplayReport
import DeviceSync.Proofs.Task.Bookkeeping
import DeviceSync.Proofs.Queue.Skips
import DeviceSync.Proofs.Task.ForeignTag
import DeviceSync.Proofs.Queue.RetryLoop
import DeviceSync.Proofs.Session.CutFrames
import DeviceSync.Proofs.Retry.Backoff
import DeviceSync.Proofs.Store.Isolation
import DeviceSync.Proofs.Task.Receipts
import DeviceSync.Proofs.Group.ListedDevices
import DeviceSync.Proofs.Queue.CallAnswers
import DeviceSync.Proofs.Wire.Forms
import DeviceSync.Proofs.Wire.Leniency
import DeviceSync.Proofs.Message.Forms
import DeviceSync.Proofs.Command.Setup
import DeviceSync.Proofs.Linking.Counter
