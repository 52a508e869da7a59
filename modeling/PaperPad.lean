import PaperPad.Deploy.Fake
import PaperPad.Deploy.Functions
import PaperPad.Deploy.Install
import PaperPad.Deploy.Mtp
import PaperPad.Deploy.Update
import PaperPad.Device.Agreement
import PaperPad.Device.App
import PaperPad.Device.Connection
import PaperPad.Device.Contact
import PaperPad.Device.Discovery
import PaperPad.Device.Display
import PaperPad.Device.Displayable
import PaperPad.Device.EventLoop
import PaperPad.Device.Inbound
import PaperPad.Device.LatestFrame
import PaperPad.Device.Lifetime
import PaperPad.Device.Moves
import PaperPad.Device.Outbound
import PaperPad.Device.Pairing
import PaperPad.Device.Paperpad
import PaperPad.Device.Screen
import PaperPad.Device.Shutdown
import PaperPad.Device.StaleFailure
import PaperPad.Device.Startup
import PaperPad.Device.Strip
import PaperPad.Device.Transport
import PaperPad.Host.Activation
import PaperPad.Host.ApplicationGrid
import PaperPad.Host.ApplicationInput
import PaperPad.Host.ApplicationRenderer
import PaperPad.Host.ApplicationUi
import PaperPad.Host.Authority
import PaperPad.Host.Canonical
import PaperPad.Host.Diagnostic
import PaperPad.Host.Font
import PaperPad.Host.Gating
import PaperPad.Host.GrayPicture
import PaperPad.Host.GrayRenderer
import PaperPad.Host.Guards
import PaperPad.Host.Inbound
import PaperPad.Host.LayoutAgreement
import PaperPad.Host.MonoPicture
import PaperPad.Host.MonoRenderer
import PaperPad.Host.NowPlaying
import PaperPad.Host.Options
import PaperPad.Host.Replacement
import PaperPad.Host.Sender
import PaperPad.Host.Server
import PaperPad.Host.Session
import PaperPad.Host.Stdin
import PaperPad.Host.Stream
import PaperPad.Host.Suppression
import PaperPad.Host.Targeted
import PaperPad.Launcher.Firewall
import PaperPad.Launcher.Lock
import PaperPad.Launcher.Run
import PaperPad.Mxcfb.Atomic
import PaperPad.Mxcfb.Blit
import PaperPad.Mxcfb.Drawable
import PaperPad.Mxcfb.Mapped
import PaperPad.Mxcfb.Mapping
import PaperPad.Mxcfb.Markers
import PaperPad.Mxcfb.Metadata
import PaperPad.Mxcfb.Pixels
import PaperPad.Mxcfb.Present
import PaperPad.Mxcfb.Screen
import PaperPad.Mxcfb.SystemPicture
import PaperPad.Mxcfb.SystemPixels
import PaperPad.Mxcfb.TwoRegions
import PaperPad.Mxcfb.Update
import PaperPad.Protocol.Discovery
import PaperPad.Protocol.Framebuffer
import PaperPad.Protocol.Incremental
import PaperPad.Protocol.Payload
import PaperPad.Protocol.Reader
import PaperPad.Protocol.RoundTrip
import PaperPad.Protocol.V2
import PaperPad.Support.BigEndian
import PaperPad.Support.Distinct
import PaperPad.Support.Fallible
import PaperPad.Support.Incremental
import PaperPad.Support.Latest
import PaperPad.Support.Net
import PaperPad.Support.Picture
import PaperPad.Support.PrefixCode
import PaperPad.Support.Raster
import PaperPad.Support.StreamReader
import PaperPad.Support.Text
import PaperPad.Support.Transition
import PaperPad.System.Delivery
import PaperPad.System.Discovery
import PaperPad.System.Link
import PaperPad.System.Panel
import PaperPad.System.Picture
import PaperPad.System.Readers
import PaperPad.System.Rest
import PaperPad.System.Tap
import PaperPad.System.Touch
import PaperPad.X11.Bitmap
import PaperPad.X11.Redraw
import PaperPad.X11.Upload
import PaperPad.X11.Window
