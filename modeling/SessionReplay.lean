import SessionReplay.Debounce.Run
import SessionReplay.Json.Access
import SessionReplay.Json.Reader
import SessionReplay.Main
import SessionReplay.Number.Literal
import SessionReplay.Picture.Lossless.Header
import SessionReplay.Queue.Ledger
import SessionReplay.Proofs.Context.Returning
import SessionReplay.Proofs.Debounce.Waiting
import SessionReplay.Proofs.Output.Announcements
import SessionReplay.Proofs.Output.Failures
import SessionReplay.Proofs.Output.Skipping
import SessionReplay.Proofs.Picture.Refusals
import SessionReplay.Proofs.Queue.Eagerness
import SessionReplay.Proofs.Queue.Reference
import SessionReplay.Proofs.Record.Text
import SessionReplay.Proofs.Recording.Agreement
import SessionReplay.Proofs.Recording.EndedViews
import SessionReplay.Proofs.Recording.Images
import SessionReplay.Proofs.Recording.Reordering
import SessionReplay.Proofs.Recording.Requests
import SessionReplay.Proofs.Recording.StoppedWindows
import SessionReplay.Proofs.Recording.Views
import SessionReplay.Proofs.Recording.Wakeups
import SessionReplay.Proofs.Recording.WrittenViews
import SessionReplay.Proofs.Settings.Loading
import SessionReplay.Proofs.Simulation.Runs
import SessionReplay.Proofs.Station.Books
import SessionReplay.Proofs.Station.Settlement
