import ObjectStorage.Text.Quoted
import ObjectStorage.Binary64
import ObjectStorage.Environment.Resolution
import ObjectStorage.Workspace.Step
import ObjectStorage.Fault
import ObjectStorage.Settings.Basic
import ObjectStorage.Document.Json
import ObjectStorage.Document.Outline
import ObjectStorage.Transport
import ObjectStorage.RequesterPays.Basic
import ObjectStorage.WriteChannel
import ObjectStorage.Main
import ObjectStorage.Proofs.Workspace.History
import ObjectStorage.Proofs.Workspace.Transition
import ObjectStorage.Proofs.Workspace.Recorded
import ObjectStorage.Proofs.Draft.Build
import ObjectStorage.Proofs.Workspace.ChannelSource
import ObjectStorage.Proofs.Workspace.LastAssignment
import ObjectStorage.Proofs.Environment.Overrides
import ObjectStorage.Proofs.Environment.Texts
import ObjectStorage.Proofs.Environment.Entrywise
import ObjectStorage.Proofs.Environment.IntegerText
import ObjectStorage.Proofs.Environment.BucketList
import ObjectStorage.Proofs.Environment.Writing
import ObjectStorage.Proofs.Environment.Image
import ObjectStorage.Proofs.Workspace.Traceless
import ObjectStorage.Proofs.Client.Endpoint
import ObjectStorage.Proofs.Command.Endings
import ObjectStorage.Proofs.Binary64.Range
import ObjectStorage.Proofs.Client.Config
import ObjectStorage.Proofs.Client.Agreement
import ObjectStorage.Proofs.Command.Numbers
import ObjectStorage.Proofs.Document.JsonString
import ObjectStorage.Proofs.Document.JsonReader
import ObjectStorage.Proofs.Command.JsonFlag
import ObjectStorage.Proofs.Document.Numbers
import ObjectStorage.Proofs.Command.Display
import ObjectStorage.Proofs.Url.Readable
import ObjectStorage.Proofs.Url.Parts
import ObjectStorage.Proofs.Proxy.Completion
import ObjectStorage.Proofs.Proxy.Faults
import ObjectStorage.Proofs.Proxy.Grammar
import ObjectStorage.Proofs.Proxy.Returned
import ObjectStorage.Proofs.Url.Address
import ObjectStorage.Proofs.Binary64.Nearest
import ObjectStorage.Proofs.Client.Times
import ObjectStorage.Proofs.Document.JsonGrammar
import ObjectStorage.Proofs.Document.JsonOutput
import ObjectStorage.Proofs.Draft.Setting
import ObjectStorage.Proofs.Workspace.Setters
import ObjectStorage.Proofs.Workspace.Reopening
import ObjectStorage.Proofs.Draft.Missing
import ObjectStorage.Proofs.Draft.MissingMessage
import ObjectStorage.Proofs.Workspace.Missing
import ObjectStorage.Proofs.Environment.Frame
import ObjectStorage.Proofs.Client.Dependence
import ObjectStorage.Proofs.Environment.BucketNames
import ObjectStorage.Proofs.Environment.NumberVariables
import ObjectStorage.Proofs.Environment.NameVariables
import ObjectStorage.Proofs.Document.Alike
import ObjectStorage.Proofs.Document.Outline
import ObjectStorage.Proofs.Workspace.Equality
import ObjectStorage.Proofs.Command.PlainText
import ObjectStorage.Proofs.Draft.Seeds
import ObjectStorage.Proofs.Environment.Drafts
