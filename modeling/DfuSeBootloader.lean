import DfuSeBootloader.Program.Basic
import DfuSeBootloader.Program.Lemmas.Eval
import DfuSeBootloader.Program.Triple
import DfuSeBootloader.Program.Frame
import DfuSeBootloader.Program.Progress
import DfuSeBootloader.Program.Run
import DfuSeBootloader.Program.Loop
import DfuSeBootloader.Memory.Basic
import DfuSeBootloader.Iap.Basic
import DfuSeBootloader.Iap.Contract
import DfuSeBootloader.Iap.Lemmas.Sector
import DfuSeBootloader.Iap.Commands
import DfuSeBootloader.Iap.Lemmas.Flash
import DfuSeBootloader.Iap.Reference
import DfuSeBootloader.Iap.Operations
import DfuSeBootloader.Usb.Device
import DfuSeBootloader.Usb.Endpoint
import DfuSeBootloader.Dfu.Request
import DfuSeBootloader.Usb.Task
import DfuSeBootloader.Usb.Standard
import DfuSeBootloader.Codec.Records
import DfuSeBootloader.Usb.Descriptors
import DfuSeBootloader.Usb.DescriptorTable
import DfuSeBootloader.Iap.Layout
import DfuSeBootloader.Usb.Lemmas.Endpoint
import DfuSeBootloader.Usb.Lemmas.Keeps
import DfuSeBootloader.Usb.Lemmas.DataStage
import DfuSeBootloader.Usb.Lemmas.DataIn
import DfuSeBootloader.Usb.Lemmas.Standard
import DfuSeBootloader.Usb.Lemmas.Stage
import DfuSeBootloader.Usb.Lemmas.Proceeds
import DfuSeBootloader.Dfu.Lemmas.Keeps
import DfuSeBootloader.Dfu.Lemmas.Block
import DfuSeBootloader.Dfu.Lemmas.Handler
import DfuSeBootloader.Dfu.Lemmas.Proceeds
import DfuSeBootloader.Dfu.Bounds
import DfuSeBootloader.Dfu.Session
import DfuSeBootloader.Dfu.Lemmas.Refine
import DfuSeBootloader.Dfu.Run
import DfuSeBootloader.Dfu.Coherence
import DfuSeBootloader.Dfu.Failure
import DfuSeBootloader.Dfu.Retry
import DfuSeBootloader.Dfu.EndDownload
import DfuSeBootloader.Dfu.Exchange
import DfuSeBootloader.Dfu.Lemmas.Exchange
import DfuSeBootloader.Dfu.Lemmas.Standard
import DfuSeBootloader.Dfu.Confinement
import DfuSeBootloader.Dfu.Delivery
import DfuSeBootloader.Dfu.Download
import DfuSeBootloader.Dfu.Reflash
import DfuSeBootloader.Dfu.Upload
import DfuSeBootloader.Dfu.Enumeration
import DfuSeBootloader.Dfu.Command
import DfuSeBootloader.Dfu.Answer
import DfuSeBootloader.Dfu.Lemmas.Dispatch
import DfuSeBootloader.Dfu.Dispatch
import DfuSeBootloader.Dfu.Lemmas.Integrity
import DfuSeBootloader.Dfu.Integrity
import DfuSeBootloader.Dfu.History
import DfuSeBootloader.Boot.Basic
import DfuSeBootloader.Boot.Detach
import DfuSeBootloader.Boot.Cycle
import DfuSeBootloader.Boot.Update
import DfuSeBootloader.Bitmap.Basic
import DfuSeBootloader.Linked.Basic
import DfuSeBootloader.Program.Threads
import DfuSeBootloader.Os.Lists
import DfuSeBootloader.Os.Core
import DfuSeBootloader.Os.Tasks
import DfuSeBootloader.Os.Lemmas.Ready
import DfuSeBootloader.Os.Lemmas.Wheel
import DfuSeBootloader.Os.Lemmas.Pends
import DfuSeBootloader.Os.View
import DfuSeBootloader.Os.Lemmas.Kernel
import DfuSeBootloader.Os.Lemmas.Tick
import DfuSeBootloader.Os.Lemmas.Wait
import DfuSeBootloader.Os.Lemmas.Switch
import DfuSeBootloader.Os.Lemmas.Create
import DfuSeBootloader.Os.Steady
import DfuSeBootloader.Os.Services
import DfuSeBootloader.Os.Integrity
import DfuSeBootloader.Os.Ticks
import DfuSeBootloader.Os.Timeouts
import DfuSeBootloader.Os.TickTask
import DfuSeBootloader.Os.Queues
import DfuSeBootloader.Crc.Register
import DfuSeBootloader.Crc.Polynomial
import DfuSeBootloader.Utils.Crc
import DfuSeBootloader.Utils.Compare
import DfuSeBootloader.Utils.LetterCase
