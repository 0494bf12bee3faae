import LiveRoom.Files.Tree
import LiveRoom.Http.Service
import LiveRoom.Main
import LiveRoom.Proofs.Dialogue
import LiveRoom.Proofs.Command.Course
import LiveRoom.Proofs.Menu.Turn
import LiveRoom.Proofs.Menu.Rounds
import LiveRoom.Proofs.Menu.Replies
import LiveRoom.Proofs.Menu.Session
import LiveRoom.Proofs.Stream.Lines
import LiveRoom.Proofs.Text.Utf8
import LiveRoom.Proofs.Domain.Ascii
import LiveRoom.Proofs.Url.Authority
import LiveRoom.Proofs.Url.Joined
import LiveRoom.Proofs.Url.Address
import LiveRoom.Proofs.Http.Service
import LiveRoom.Proofs.Client
import LiveRoom.Proofs.Console.Refinement
import LiveRoom.Proofs.Json.Strings
import LiveRoom.Proofs.Json.Tree
import LiveRoom.Proofs.Payload
import LiveRoom.Proofs.Command.Offers
import LiveRoom.Proofs.Command.Effects
import LiveRoom.Proofs.Menu.Composition
import LiveRoom.Proofs.Config.Precedence
import LiveRoom.Proofs.Config.Schema
import LiveRoom.Proofs.Config.Environment
import LiveRoom.Proofs.Payload.Schema
import LiveRoom.Proofs.Payload.RoundTrip
import LiveRoom.Proofs.Text.Numeral
import LiveRoom.Proofs.Command.Choice
import LiveRoom.Proofs.Console.Outcome
import LiveRoom.Proofs.Client.Exchange
import LiveRoom.Proofs.Client.Place
import LiveRoom.Proofs.Terminal
import LiveRoom.Proofs.Terminal.Room
import LiveRoom.Proofs.Menu.Blanks
import LiveRoom.Proofs.Menu.Rejections
import LiveRoom.Proofs.Client.Slashes
import LiveRoom.Proofs.Json.Unique
import LiveRoom.Proofs.Json.Strict
import LiveRoom.Proofs.Payload.Strict
import LiveRoom.Proofs.Menu.Recording
import LiveRoom.Proofs.Console.Diagnostics
