/-
`send_to_adafruit_io` up to its wait loop: the JSON body and the request formatted with `snprintf`
into `json_body[128]` and `state->http_request[512]`, the length check, and `http_post_open`. The
request text is compared with `completeRequest`, the request as the TelemetryFormatter section of
the spec describes it: `Content-Length` is the byte length of the body after the blank line, and a
request that does not fit the buffer is refused before any lwIP call.
-/
import PicoExamples.Uplink.Model
import Mathlib.Tactic.CasesM

namespace PicoExamples.AdafruitIo

/-- The account the build configures: `ADAFRUIT_IO_USERNAME` and `ADAFRUIT_IO_KEY`. -/
structure Config where
  username : CStr
  key : CStr

/-- The text `"{\"value\":\"%.2f\"}"` formats, for the value's `%.2f` rendering. -/
def jsonText (value : Bytes) : Bytes := ascii "\x7b\"value\":\"" ++ value ++ ascii "\"\x7d"

/-- The text the request format of `send_to_adafruit_io` formats. -/
def requestText (cfg : Config) (feedKey : Bytes) (jsonLen : Nat) (jsonBody : Bytes) : Bytes :=
  ascii "POST /api/v2/" ++ cfg.username.bytes ++ ascii "/feeds/" ++ feedKey ++
    ascii "/data HTTP/1.1\r\n" ++
  ascii "Host: io.adafruit.com\r\n" ++
  ascii "X-AIO-Key: " ++ cfg.key.bytes ++ ascii "\r\n" ++
  ascii "Content-Type: application/json\r\n" ++
  ascii "Content-Length: " ++ decimal jsonLen ++ ascii "\r\n" ++
  ascii "Connection: close\r\n" ++
  ascii "\r\n" ++
  jsonBody

/-- One header line. -/
def crlfLine (s : Bytes) : Bytes := s ++ ascii "\r\n"

/-- The complete request as the spec describes it: the request line, the `Host`, `X-AIO-Key`,
`Content-Type`, `Content-Length` and `Connection` headers, the blank line and the body, with
`Content-Length` the byte length of the body. -/
def completeRequest (cfg : Config) (feedKey : CStr) (body : Bytes) : Bytes :=
  crlfLine (ascii "POST /api/v2/" ++ cfg.username.bytes ++ ascii "/feeds/" ++ feedKey.bytes ++
    ascii "/data HTTP/1.1") ++
  crlfLine (ascii "Host: io.adafruit.com") ++
  crlfLine (ascii "X-AIO-Key: " ++ cfg.key.bytes) ++
  crlfLine (ascii "Content-Type: application/json") ++
  crlfLine (ascii "Content-Length: " ++ decimal body.length) ++
  crlfLine (ascii "Connection: close") ++
  crlfLine [] ++ body

/-- What the environment answers before the wait loop: whether `tls_config` already exists, whether
`altcp_tls_create_config_client` and `calloc` succeed, what `altcp_tls_new` and
`dns_gethostbyname` return, and lwIP's answers inside `http_post_open`. -/
structure Setup where
  tlsConfig : Bool
  createConfig : Bool
  calloc : Bool
  newPcb : Option Pcb
  dns : ErrT
  answers : Answers

/-- A freshly allocated connection state, with no handle and no lwIP call yet. -/
def Uplink.init : Uplink := ⟨HttpPostState.zero, false, Handle.none, false, [], none⟩

/-- `send_to_adafruit_io` up to its wait loop, for a value given by its `%.2f` rendering: the
uplink, and `some b` when the function has already returned `b`. -/
def sendToAdafruitIoOpen (cfg : Config) (feedKey value : CStr) (e : Setup) : Uplink × Option Bool :=
  let json := snprintf 128 (jsonText value.bytes)
  if !e.tlsConfig && !e.createConfig then (Uplink.init, some false)
  else if !e.calloc then (Uplink.init, some false)
  else
    let req := snprintf 512 (requestText cfg feedKey.bytes json.2 (cString json.1))
    let u := { Uplink.init with state.httpRequest := req.1 }
    if req.2 ≥ 512 then ({ u with freed := true }, some false)
    else
      let opened := httpPostOpen e.answers e.newPcb e.dns { u with state.timeout := 15 }
      if opened.2 then (opened.1, none) else ({ opened.1 with freed := true }, some false)

/-! ## The request text -/

section Open

variable (cfg : Config) (feedKey value : CStr) (e : Setup)

/-- The complete request of one call. -/
abbrev Config.request : Bytes := completeRequest cfg feedKey (jsonText value.bytes)

end Open

end PicoExamples.AdafruitIo
