import PicoExamples.Net.Basic
import PicoExamples.Uplink.Model
import PicoExamples.Uplink.Request
import PicoExamples.Uplink.Run
import PicoExamples.Uplink.Lifecycle
import PicoExamples.Uplink.Outcome
import PicoExamples.Uplink.Resources
import PicoExamples.HttpClient.Requests
import PicoExamples.HttpClient.Ntp
import PicoExamples.Rc522.Driver
import PicoExamples.Rc522.Frames
import PicoExamples.Rc522.Wait
import PicoExamples.Rc522.Main
import PicoExamples.Bmp280.Compensation
import PicoExamples.Bmp280.Ranges
import PicoExamples.Bh1750.Sampling
