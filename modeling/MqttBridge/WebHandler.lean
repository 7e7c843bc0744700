import MqttBridge.Library.Announcements
import MqttBridge.Library.MessageHead
import MqttBridge.MetricData

/-!
# Serving the metrics page

A GET serialises the cached samples one after the other. Four last-seen variables decide whether
a sample is preceded by the header block of its family. After every sample they hold that
sample's fields, whatever their first values were, so the block is written exactly when the
header data changes. Body and header are built in buffers of the handler that outlive the
request.
-/

namespace MqttBridge

/-- A buffer of the handler: the bytes in it. -/
abbrev Buffer := List UInt8

/-- The bytes of an ASCII text. -/
def asciiBytes (text : String) : Buffer := text.toList.map fun c => c.toNat.toUInt8

/-- The text functions called for a sample, by the bytes they append. -/
structure WebPlatform where
  formatHeaders : MetricData → Bool → Buffer
  format : MetricData → Buffer

/-- `g_http_response_format`, filled in with the size of the body. -/
def httpResponse (size : ℕ) : Buffer :=
  asciiBytes ("HTTP/1.1 200 OK\r\nConnection:keep-alive\r\nContent-Length:" ++ toString size ++
    "\r\nContent-Type:text/plain;version=0.0.4\r\n\r\n")

/-- What a client that reads a header takes for the number of body bytes after it. -/
def contentLength (header : Buffer) : Option ℕ :=
  (headField (asciiBytes "Content-Length") header).bind decimal

/-- The fields of `PrometheusWebHandler`; `metricCache` says whether the pointer to the cache is
set. -/
structure PrometheusWebHandler where
  metricCache : Bool
  body : Buffer
  header : Buffer
deriving DecidableEq

/-- The variables `last_id`, `last_help`, `last_type` and `last_unit` of `DoGet`. -/
structure LastSeen where
  id : Option String := none
  help : String := ""
  metricType : MetricType := .none
  metricUnit : MetricUnit := .none
deriving DecidableEq

/-- `do_serialize_metrics`: the variables after a sample, and the body with its text. -/
def serializeMetrics (platform : WebPlatform) (state : LastSeen × Buffer) (data : MetricData) :
    LastSeen × Buffer :=
  let last := state.1
  let newId := last.id != some data.id.name
  let last := if newId then { last with id := some data.id.name } else last
  let newType := last.metricType != data.metricType
  let last := if newType then { last with metricType := data.metricType } else last
  let newUnit := last.metricUnit != data.metricUnit
  let last := if newUnit then { last with metricUnit := data.metricUnit } else last
  let newHelp := last.help != data.help
  let last := if newHelp then { last with help := data.help } else last
  let body :=
    if newId || newType || newUnit || newHelp then
      state.2 ++ platform.formatHeaders data (newUnit || newHelp)
    else state.2
  (last, body ++ platform.format data)

namespace PrometheusWebHandler

variable (platform : WebPlatform) (handler : PrometheusWebHandler)

/-- `m_body.clear()`. -/
def clearBody : PrometheusWebHandler := { handler with body := [] }

/-- Serialise the samples the cache visits, if there is a cache, into the body. -/
def visit (samples : List MetricData) : PrometheusWebHandler :=
  if handler.metricCache then
    { handler with body := (samples.foldl (serializeMetrics platform) ({}, handler.body)).2 }
  else handler

/-- Clear the header and format it from the size of the body. -/
def formatHeader : PrometheusWebHandler :=
  { handler with header := httpResponse handler.body.length }

/-- `DoGet`: the handler after it, and what it writes to the connection. -/
def doGet (samples : List MetricData) : PrometheusWebHandler × List Buffer :=
  let handler := ((handler.clearBody).visit platform samples).formatHeader
  (handler, [handler.header, handler.body])

end PrometheusWebHandler

/-- What the variables hold after a sample, or before the first one. -/
def LastSeen.of : Option MetricData → LastSeen
  | none => {}
  | some data => ⟨some data.id.name, data.help, data.metricType, data.metricUnit⟩

/-- The unit flag the header block of a sample is formatted with: the unit or the help text is
not the previous one. -/
def newUnit (previous : Option MetricData) (data : MetricData) : Bool :=
  (LastSeen.of previous).metricUnit != data.metricUnit || (LastSeen.of previous).help != data.help

/-- The text of one block of the page. -/
def Announced.text (platform : WebPlatform) : Announced MetricData → Buffer
  | .announce previous data => platform.formatHeaders data (newUnit previous data)
  | .item data => platform.format data

/-- The bytes of a text are those of its parts. -/
theorem asciiBytes_append (text text' : String) :
    asciiBytes (text ++ text') = asciiBytes text ++ asciiBytes text' := by
  rw [asciiBytes, String.toList_append, List.map_append]
  rfl

/-- A client reads four lines from a header, the size among them, and nothing is left over. -/
theorem readHead_httpResponse (size : ℕ) :
    readHead [] (httpResponse size) =
      some ([asciiBytes "HTTP/1.1 200 OK", asciiBytes "Connection:keep-alive",
        asciiBytes "Content-Length:" ++ decimalBytes size,
        asciiBytes "Content-Type:text/plain;version=0.0.4"], []) := by
  have hfront : asciiBytes "HTTP/1.1 200 OK\r\nConnection:keep-alive\r\nContent-Length:" =
      asciiBytes "HTTP/1.1 200 OK" ++ 13 :: 10 :: (asciiBytes "Connection:keep-alive" ++ 13 :: 10 ::
        asciiBytes "Content-Length:") := by decide +kernel
  have hback : asciiBytes "\r\nContent-Type:text/plain;version=0.0.4\r\n\r\n" =
      13 :: 10 :: (asciiBytes "Content-Type:text/plain;version=0.0.4" ++ 13 :: 10 ::
        ([] ++ 13 :: 10 :: [])) := by decide +kernel
  have hlines : httpResponse size =
      asciiBytes "HTTP/1.1 200 OK" ++ 13 :: 10 :: (asciiBytes "Connection:keep-alive" ++ 13 :: 10 ::
        ((asciiBytes "Content-Length:" ++ decimalBytes size) ++ 13 :: 10 ::
          (asciiBytes "Content-Type:text/plain;version=0.0.4" ++ 13 :: 10 ::
            ([] ++ 13 :: 10 :: [])))) := by
    have hsize : asciiBytes (toString size) = decimalBytes size := rfl
    rw [httpResponse, asciiBytes_append, asciiBytes_append, hfront, hback, hsize]
    simp only [List.append_assoc, List.cons_append]
  have hdigits : 13 ∉ asciiBytes "Content-Length:" ++ decimalBytes size := by
    rw [List.mem_append, not_or]
    exact ⟨by decide, fun hcr => absurd (le_of_mem_decimalBytes hcr) (by decide)⟩
  rw [hlines, readHead_append _ _ _ (by decide), readHead_append _ _ _ (by decide),
    readHead_append _ _ _ hdigits, readHead_append _ _ _ (by decide),
    readHead_append _ _ _ (by decide)]
  rfl

/-- The size a client reads from a header is the one it was written with. -/
@[simp] theorem contentLength_httpResponse (size : ℕ) :
    contentLength (httpResponse size) = some size := by
  have hblank : (decimalBytes size).dropWhile (· = 32) = decimalBytes size := by
    cases hbytes : decimalBytes size with
    | nil => rfl
    | cons byte bytes =>
      have hdigit : 48 ≤ byte.toNat :=
        le_of_mem_decimalBytes (n := size) (by rw [hbytes]; exact List.mem_cons_self)
      have hne : byte ≠ 32 := by
        rintro rfl
        exact absurd hdigit (by decide)
      rw [List.dropWhile_cons_of_neg (by simpa using hne)]
  have hfield : headField (asciiBytes "Content-Length") (httpResponse size) =
      some ((decimalBytes size).dropWhile (· = 32)) := by
    rw [headField, readHead_httpResponse]
    rfl
  rw [contentLength, hfield, hblank]
  exact decimal_decimalBytes size

/-- The page for some samples visited after `previous`: a header block wherever the header data
changes. -/
def page (platform : WebPlatform) (previous : Option MetricData) (samples : List MetricData) :
    Buffer :=
  (announceChanges MetricData.headerKey previous samples).flatMap (Announced.text platform)

/-- The variables after a sample hold its fields, and its header block is written exactly when the
header data is not that of the sample before it. -/
theorem serializeMetrics_of (platform : WebPlatform) (previous : Option MetricData) (body : Buffer)
    (data : MetricData) :
    serializeMetrics platform (.of previous, body) data =
      (.of (some data), body ++
        ((if previous.map MetricData.headerKey = some data.headerKey then []
          else platform.formatHeaders data (newUnit previous data)) ++ platform.format data)) := by
  have hkeys : (previous.map MetricData.headerKey = some data.headerKey) ↔
      LastSeen.of previous = .of (some data) := by
    cases previous with
    | none => simp [LastSeen.of]
    | some before =>
      simp only [Option.map_some, Option.some.injEq, MetricData.headerKey, HeaderKey.mk.injEq,
        LastSeen.of, LastSeen.mk.injEq]
      constructor
      · intro hfields
        obtain ⟨hname, htype, hunit, hhelp⟩ := hfields
        exact ⟨hname, hhelp, htype, hunit⟩
      · intro hfields
        obtain ⟨hname, hhelp, htype, hunit⟩ := hfields
        exact ⟨hname, htype, hunit, hhelp⟩
  simp only [hkeys, newUnit]
  obtain ⟨id, help, metricType, metricUnit⟩ := LastSeen.of previous
  by_cases hid : id = some data.id.name <;> by_cases htype : metricType = data.metricType <;>
    by_cases hunit : metricUnit = data.metricUnit <;> by_cases hhelp : help = data.help <;>
    simp [serializeMetrics, LastSeen.of, hid, htype, hunit, hhelp]

/-- The page from one sample on. -/
theorem page_cons (platform : WebPlatform) (previous : Option MetricData) (data : MetricData)
    (samples : List MetricData) :
    page platform previous (data :: samples) =
      (if previous.map MetricData.headerKey = some data.headerKey then []
        else platform.formatHeaders data (newUnit previous data)) ++
        (platform.format data ++ page platform (some data) samples) := by
  unfold page
  rw [announceChanges, List.flatMap_append, List.flatMap_cons]
  split <;> simp [Announced.text]

/-- The page around one sample: its own text, with a header block if the sample is the first one
or has other header data than its immediate predecessor. -/
theorem page_append_cons (platform : WebPlatform) (before : List MetricData) (data : MetricData)
    (after : List MetricData) :
    page platform none (before ++ data :: after) =
      page platform none before ++
        ((if before.getLast?.map MetricData.headerKey = some data.headerKey then []
          else platform.formatHeaders data (newUnit before.getLast? data)) ++
          (platform.format data ++ page platform (some data) after)) := by
  rw [← page_cons]
  unfold page
  rw [announceChanges_append, List.flatMap_append, Option.or_none]

/-- Serialising samples one after the other appends their page to the body. -/
theorem foldl_serializeMetrics (platform : WebPlatform) (samples : List MetricData)
    (previous : Option MetricData) (body : Buffer) :
    (samples.foldl (serializeMetrics platform) (.of previous, body)).2 =
      body ++ page platform previous samples := by
  induction samples generalizing previous body with
  | nil => simp [page, announceChanges]
  | cons data samples ih =>
    rw [List.foldl_cons, serializeMetrics_of, ih, page_cons, List.append_assoc, List.append_assoc]

namespace PrometheusWebHandler

variable (platform : WebPlatform) (handler : PrometheusWebHandler)

/-- Visiting the cache appends the samples' page to the body and does nothing else. -/
theorem visit_eq (samples : List MetricData) :
    handler.visit platform samples =
      { handler with
        body := handler.body ++
          page platform none (if handler.metricCache then samples else []) } := by
  unfold visit
  split
  · rw [← foldl_serializeMetrics]
    rfl
  · simp [page, announceChanges]

@[simp] theorem body_formatHeader : handler.formatHeader.body = handler.body := by
  rw [formatHeader]

@[simp] theorem header_formatHeader :
    handler.formatHeader.header = httpResponse handler.body.length := by
  rw [formatHeader]

@[simp] theorem metricCache_formatHeader :
    handler.formatHeader.metricCache = handler.metricCache := by
  rw [formatHeader]

/-- From an empty body, a visit makes the page of the visited samples. -/
theorem body_visit_clearBody (samples : List MetricData) :
    ((handler.clearBody).visit platform samples).body =
      page platform none (if handler.metricCache then samples else []) := by
  simp only [visit_eq, clearBody, List.nil_append]

/-- After a GET the body is the page of the visited samples. -/
theorem body_doGet (samples : List MetricData) :
    (handler.doGet platform samples).1.body =
      page platform none (if handler.metricCache then samples else []) := by
  simp only [doGet, body_formatHeader, body_visit_clearBody]

/-- One GET that runs alone, on whatever earlier ones left in the buffers. It writes the page of
the visited samples after a header from which a client reads the page's size. The page has every
sample's text in visit order, after a header block just where a sample is the first one or has other
header data than its predecessor. If samples with equal header data are visited contiguously, each
header data has exactly one block, ahead of all its samples. -/
theorem doGet_writes (samples : List MetricData) :
    let visited := if handler.metricCache then samples else []
    (handler.doGet platform samples).2 =
        [httpResponse (page platform none visited).length, page platform none visited] ∧
      (handler.doGet platform samples).2.head?.bind contentLength =
        some (page platform none visited).length ∧
      (page platform none [] = [] ∧ ∀ before data after, visited = before ++ data :: after →
        page platform none visited = page platform none before ++
          ((if before.getLast?.map MetricData.headerKey = some data.headerKey then []
            else platform.formatHeaders data (newUnit before.getLast? data)) ++
            (platform.format data ++ page platform (some data) after))) ∧
      (Contiguous MetricData.headerKey visited → ∀ key ∈ visited.map MetricData.headerKey,
        ∃ before previous data after,
          announceChanges MetricData.headerKey none visited =
            before ++ .announce previous data :: after ∧
          data.headerKey = key ∧ (∀ block ∈ before, block.of.headerKey ≠ key) ∧
          ∀ block ∈ after, block.isAnnouncement = true → block.of.headerKey ≠ key) := by
  intro visited
  have hwritten : (handler.doGet platform samples).2 =
      [httpResponse (page platform none visited).length, page platform none visited] := by
    simp only [doGet, body_formatHeader, header_formatHeader, body_visit_clearBody]
    rfl
  refine ⟨hwritten, ?_, ⟨rfl, fun before data after hvisited => ?_⟩, fun hcontiguous key hkey =>
    announced_once MetricData.headerKey none visited key hcontiguous (by simp) hkey⟩
  · rw [hwritten, List.head?_cons, Option.bind_some, contentLength_httpResponse]
  · rw [hvisited]
    exact page_append_cons platform before data after

end PrometheusWebHandler

/-- Text functions that write the name and the value of a sample. -/
def WebPlatform.reference : WebPlatform where
  formatHeaders := fun data _ => asciiBytes ("# TYPE " ++ data.id.name ++ "\n")
  format := fun data => asciiBytes (data.id.name ++ " " ++ data.value ++ "\n")

/-- A cached sample. -/
def MetricData.temperature : MetricData where
  id := ⟨"Temperature", ""⟩
  labels := ∅
  help := ""
  metricType := ⟨2⟩
  metricUnit := .none
  value := "21.5"

/-- Two samples of one family and one of another, served by a handler with leftovers in both
buffers: two header blocks, and the size of the page in front. -/
theorem PrometheusWebHandler.doGet_writes_families :
    ∃ header body,
      ((⟨true, [1], [2]⟩ : PrometheusWebHandler).doGet .reference [.temperature, .temperature,
          { MetricData.temperature with id := ⟨"Outside", ""⟩ }]).2 = [header, body] ∧
        contentLength header = some 81 ∧
        body = asciiBytes ("# TYPE Temperature\nTemperature 21.5\nTemperature 21.5\n" ++
          "# TYPE Outside\nOutside 21.5\n") := by
  let text := "# TYPE Temperature\nTemperature 21.5\nTemperature 21.5\n" ++
    "# TYPE Outside\nOutside 21.5\n"
  have hpage : page .reference none [.temperature, .temperature,
      { MetricData.temperature with id := ⟨"Outside", ""⟩ }] = asciiBytes text := by
    decide +kernel
  have hsize : (asciiBytes text).length = 81 := by decide +kernel
  obtain ⟨hwritten, hlength, _⟩ := doGet_writes .reference ⟨true, [1], [2]⟩
    [.temperature, .temperature, { MetricData.temperature with id := ⟨"Outside", ""⟩ }]
  rw [if_pos rfl, hpage] at hwritten hlength
  rw [hsize] at hwritten hlength
  rw [hwritten, List.head?_cons, Option.bind_some] at hlength
  exact ⟨httpResponse 81, asciiBytes text, hwritten, hlength, rfl⟩

end MqttBridge
