import MinimaxProxy.Api.TaskList
import MinimaxProxy.Auth.Revocation
import MinimaxProxy.Callback.Backoff
import MinimaxProxy.Download.Open
import MinimaxProxy.Flow.Cancel
import MinimaxProxy.Flow.Delivery
import MinimaxProxy.Gradio.Arguments
import MinimaxProxy.Gradio.Gallery
import MinimaxProxy.Inputs.RoundTrip
import MinimaxProxy.Legacy.Submissions
import MinimaxProxy.Logsafe.Diagnostic
import MinimaxProxy.Manager.Login
import MinimaxProxy.Migration.V23
import MinimaxProxy.Net.Bounded
import MinimaxProxy.Net.Downloader
import MinimaxProxy.Remote.Dashboard
import MinimaxProxy.Remote.ResultAccess
import MinimaxProxy.Service.Barriers
import MinimaxProxy.Service.Cleanup
import MinimaxProxy.Service.History
import MinimaxProxy.Service.Keys
import MinimaxProxy.Service.Retry
import MinimaxProxy.Service.Revision
import MinimaxProxy.Service.Runs
import MinimaxProxy.Store.CatalogRefresh
