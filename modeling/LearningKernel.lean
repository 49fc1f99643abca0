import LearningKernel.Theory.BitField
import LearningKernel.Theory.CInt
import LearningKernel.Theory.Latest
import LearningKernel.Theory.Alternation
import LearningKernel.Theory.LittleEndian
import LearningKernel.Theory.Machine
import LearningKernel.Theory.Memory
import LearningKernel.Theory.Script
import LearningKernel.Theory.Cycle
import LearningKernel.Theory.Outcome
import LearningKernel.Theory.Relay
import LearningKernel.Theory.Ledger
import LearningKernel.Theory.Loads
import LearningKernel.Theory.Scan
import LearningKernel.Theory.Numeral
import LearningKernel.Theory.Format
import LearningKernel.Theory.Guarded
import LearningKernel.Theory.WaitQueue
import LearningKernel.Theory.Ladder
import LearningKernel.Theory.Changes
import LearningKernel.Theory.Serial
import LearningKernel.Theory.Bus
import LearningKernel.Theory.Registers
import LearningKernel.Kernel.Abi
import LearningKernel.Kernel.InputMt
import LearningKernel.Kernel.Compare
import LearningKernel.Kernel.Iomap
import LearningKernel.Kernel.Text
import LearningKernel.Kernel.Decimal
import LearningKernel.Kernel.Stdio
import LearningKernel.Kernel.Vfs
import LearningKernel.Chrdev.Device
import LearningKernel.Chrdev.File
import LearningKernel.Chrdev.Clearing
import LearningKernel.Chrdev.Faults
import LearningKernel.GlobalMem.Device
import LearningKernel.GlobalMem.File
import LearningKernel.GlobalMem.Faults
import LearningKernel.GlobalMem.Chunks
import LearningKernel.HelloDev.Register
import LearningKernel.HelloDev.Sections
import LearningKernel.HelloDev.Texts
import LearningKernel.HelloDev.Loading
import LearningKernel.HelloDev.Visible
import LearningKernel.Sysfstest.Reload
import LearningKernel.Sysfstest.Texts
import LearningKernel.Xdev.Id
import LearningKernel.Xdev.Bus
import LearningKernel.PolledKey.Exclusive
import LearningKernel.PolledKey.Reads
import LearningKernel.Key.Readers
import LearningKernel.Key.Events
import LearningKernel.Key.Alternation
import LearningKernel.Key.Input
import LearningKernel.Key.Reads
import LearningKernel.Key.Lifecycle
import LearningKernel.Key.Loading
import LearningKernel.Key.Unloading
import LearningKernel.Key.Debounce
import LearningKernel.Key.Loads
import LearningKernel.Key.Notify
import LearningKernel.Key.FasyncApp
import LearningKernel.Key.Waiting
import LearningKernel.Key.Printing
import LearningKernel.MultiTouch.Slots
import LearningKernel.MultiTouch.Stream
import LearningKernel.MultiTouch.Pointer
import LearningKernel.MultiTouch.Lifecycle
import LearningKernel.Led.Registers
import LearningKernel.Led.Copies
import LearningKernel.Led.Writes
import LearningKernel.Led.Binding
import LearningKernel.Led.Platform
import LearningKernel.MyClass.Device
import LearningKernel.MyClass.Data
import LearningKernel.MyClass.Mappings
import LearningKernel.MyClass.Effects
import LearningKernel.Ap3216c.Ioctl
import LearningKernel.Ap3216c.Refreshes
import LearningKernel.Ap3216c.Attributes
import LearningKernel.Icm20608.Samples
import LearningKernel.Icm20608.Channels
import LearningKernel.Icm20608.Transfers
import LearningKernel.LedTimer.Release
import LearningKernel.LedTimer.Sessions
import LearningKernel.LedTimer.App
import LearningKernel.LedTimer.Opening
import LearningKernel.LedTimer.Toggling
import LearningKernel.LedTimer.Commands
import LearningKernel.LedTimer.Handover
import LearningKernel.MiscBeep.Ownership
import LearningKernel.GpioLed.Ownership
import LearningKernel.Loading.Drivers
import LearningKernel.Loading.Ignored
import LearningKernel.Sensor.Binding
import LearningKernel.Sensor.Configure
import LearningKernel.Sensor.InTime
import LearningKernel.Sensor.Accesses
import LearningKernel.Reading.Lengths
import LearningKernel.Key.Sections
import LearningKernel.Key.Atomicity
