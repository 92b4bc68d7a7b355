import RemoteBatch.CommandLine.Program
import RemoteBatch.Job.Json
import RemoteBatch.Main
import RemoteBatch.Scripted
import RemoteBatch.Proofs.Success
import RemoteBatch.Proofs.Handle
import RemoteBatch.Proofs.Account
import RemoteBatch.Proofs.Standing
import RemoteBatch.Proofs.Binding
import RemoteBatch.Proofs.Polling
import RemoteBatch.Proofs.Percent
import RemoteBatch.Proofs.Segment
import RemoteBatch.Proofs.Authority
import RemoteBatch.Proofs.PathText
import RemoteBatch.Proofs.WebAddress
import RemoteBatch.Proofs.Joining
import RemoteBatch.Proofs.BaseAddress
import RemoteBatch.Proofs.FailureReport
import RemoteBatch.Proofs.Shell
import RemoteBatch.Proofs.ShellWord
import RemoteBatch.Proofs.Directives
import RemoteBatch.Proofs.Environment
import RemoteBatch.Proofs.Arguments
import RemoteBatch.Proofs.ReadBack
import RemoteBatch.Proofs.Settled
import RemoteBatch.Proofs.InstantText
import RemoteBatch.Proofs.Reloading
import RemoteBatch.Proofs.Following
import RemoteBatch.Proofs.Precedence
import RemoteBatch.Proofs.Concealment
import RemoteBatch.Proofs.StatusReply
import RemoteBatch.Proofs.Submission
import RemoteBatch.Proofs.Cancellation
import RemoteBatch.Proofs.Overlay
import RemoteBatch.Proofs.Splicing
import RemoteBatch.Proofs.Enumeration
import RemoteBatch.Proofs.Spelling
import RemoteBatch.Proofs.TokenTable
import RemoteBatch.Proofs.Registrations
import RemoteBatch.Proofs.Variables
