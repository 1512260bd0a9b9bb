import SimonVs.Replica.OnePc
import SimonVs.Memory.Capacity
import SimonVs.Serial.Queue
import SimonVs.Session.Rounds
import SimonVs.Session.EntryOrder
import SimonVs.Session.Restart
import SimonVs.Session.Waiting
import SimonVs.Session.Finished
import SimonVs.Solo.Turns
import SimonVs.Solo.Ending
import SimonVs.Solo.Reset
import SimonVs.Board.TopFive
import SimonVs.Board.File
import SimonVs.Loop.Alarms
import SimonVs.Loop.Keys
import SimonVs.Loop.Scancodes
import SimonVs.Loop.ResultScreen
import SimonVs.Devices.Packets
import SimonVs.Replica.Clicks
import SimonVs.Screens.NumberOfRounds
import SimonVs.Screens.Visits
import SimonVs.Screens.Sprites
import SimonVs.Solo.Presses
import SimonVs.Devices.Rtc
import SimonVs.Labs.Drags
import SimonVs.Labs.MouseCommand
import SimonVs.Labs.ScanAssembly
import SimonVs.Labs.Pattern
import SimonVs.Whole.Executions
import SimonVs.Whole.Clock
import SimonVs.Whole.Ended
import SimonVs.Serial.Registers
import SimonVs.Devices.AlarmClock
import SimonVs.Devices.MouseWrite
import SimonVs.Whole.Typing
import SimonVs.Whole.Frames
import SimonVs.Whole.Shown
import SimonVs.Labs.Timer
import SimonVs.Labs.Movement
