import Sdrgg.Core.Agreement
import Sdrgg.Core.Attach
import Sdrgg.Core.Batch
import Sdrgg.Core.Caps
import Sdrgg.Core.Commit
import Sdrgg.Core.Correction
import Sdrgg.Core.Demodulated
import Sdrgg.Core.Detach
import Sdrgg.Core.Encoding
import Sdrgg.Core.Failures
import Sdrgg.Core.Faults
import Sdrgg.Core.Gate
import Sdrgg.Core.Gpio
import Sdrgg.Core.History
import Sdrgg.Core.Identity
import Sdrgg.Core.Image
import Sdrgg.Core.Pause
import Sdrgg.Core.Programmed
import Sdrgg.Core.Rates
import Sdrgg.Core.Reads
import Sdrgg.Core.Recovery
import Sdrgg.Core.Rejected
import Sdrgg.Core.Reported
import Sdrgg.Core.Retained
import Sdrgg.Core.Selected
import Sdrgg.Core.Settings
import Sdrgg.Core.Solvable
import Sdrgg.Core.Streaming
import Sdrgg.Fc0012.Encoding
import Sdrgg.R820t.Gain
import Sdrgg.Ring.Alignment
import Sdrgg.Ring.Delivery
import Sdrgg.Ring.Engine
import Sdrgg.Ring.Reader
import Sdrgg.Ring.Setup
import Sdrgg.Ring.Tearing
import Sdrgg.Ring.ZeroCopy
import Sdrgg.Usb.Backpressure
import Sdrgg.Usb.Disconnect
import Sdrgg.Usb.Enumerate
import Sdrgg.Usb.ErrorCount
import Sdrgg.Usb.EventThread
import Sdrgg.Usb.Polling
import Sdrgg.Usb.Teardown
