import VpnClient.Feed.Feeds
import VpnClient.Json.Reader
import VpnClient.Main
import VpnClient.Proofs.Account.Boundaries
import VpnClient.Proofs.Account.TimeLeft
import VpnClient.Proofs.Address.Local
import VpnClient.Proofs.Address.Socket
import VpnClient.Proofs.Device.Name
import VpnClient.Proofs.Dns.Agreement
import VpnClient.Proofs.Dns.Command
import VpnClient.Proofs.Dns.Marks
import VpnClient.Proofs.Dns.Prefilled
import VpnClient.Proofs.Dns.Slot
import VpnClient.Proofs.Document.Members
import VpnClient.Proofs.Document.ReadBack
import VpnClient.Proofs.Document.States
import VpnClient.Proofs.Feed.Freshness
import VpnClient.Proofs.Json.Text
import VpnClient.Proofs.Json.Token
import VpnClient.Proofs.Notification.Order
import VpnClient.Proofs.Playback.Failing
import VpnClient.Proofs.Playback.LastState
import VpnClient.Proofs.Playback.Tokens
import VpnClient.Proofs.Purchase.Days
import VpnClient.Proofs.Scope.Ownership
import VpnClient.Proofs.Screen.AccountLink
import VpnClient.Proofs.Screen.Causes
import VpnClient.Proofs.Screen.Closing
import VpnClient.Proofs.Screen.Debouncing
import VpnClient.Proofs.Screen.Delivery
import VpnClient.Proofs.Screen.Emissions
import VpnClient.Proofs.Screen.OutOfTime
import VpnClient.Proofs.Screen.Scopes
import VpnClient.Proofs.Text.Uppercase
import VpnClient.Proofs.Time.Calendar
import VpnClient.Proofs.Time.Timestamp
import VpnClient.Scope
