import MtrxPeer.JsonText
import MtrxPeer.NetworkSchedule

/-! The GPU status that is read from the output of `intel_gpu_top`: the sample that is cut out of
the text, and the values that are taken from it. -/
namespace MtrxPeer.IntelGpuTop

/-! ## The sample -/

/-- Up to the first closing brace before the end of a line. -/
def throughBrokenLine : List Char → Option (List Char)
  | [] => none
  | c :: rest =>
    if c = '}' ∧ rest.head? = some '\n' then some [c] else (throughBrokenLine rest).map (c :: ·)

/-- Up to the brace at which all that were opened are closed; braces in strings count as others.
The depth is an `i32` in the program. -/
def throughCount (depth : Int) : List Char → Option (List Char)
  | [] => none
  | c :: rest =>
    if c = '{' then (throughCount (depth + 1) rest).map (c :: ·)
    else if c = '}' then if depth - 1 = 0 then some [c] else (throughCount (depth - 1) rest).map (c :: ·)
    else (throughCount depth rest).map (c :: ·)

/-- The block that is tried where the text is no JSON as a whole. -/
def firstBlock (trimmed : List Char) : Option (List Char) :=
  let block := trimmed.dropWhile (· ≠ '{')
  if block = [] then none else (throughBrokenLine block).or (throughCount 0 block)

/-- The value that the status is taken from. -/
def sampleBody (text : String) : Option Json :=
  let trimmed := (trim text).toList
  match Json.fromChars trimmed with
  | some body => some body
  | none => (firstBlock trimmed).bind Json.fromChars

/-! ## The status -/

structure GpuDeviceInfo where
  index : UInt8
  name : String
  producer : Option String
  architecture : Option String
  driverVersion : Option String
  pciBusId : Option String
  utilizationPct : UInt8
  memoryUtilizationPct : Option UInt8
  memoryUsedMb : Nat
  memoryTotalMb : Nat
  temperatureC : Option UInt8
  powerDrawW : Option Nat
  powerLimitW : Option Nat
  fanSpeedPct : Option UInt8
  deriving DecidableEq

structure GpuHostStatus where
  available : Bool
  utilizationPct : UInt8
  memoryUsedMb : Nat
  memoryTotalMb : Nat
  memoryFreeMb : Nat
  name : Option String
  producer : Option String
  architecture : Option String
  driverVersion : Option String
  cudaVersion : Option String
  deviceCount : Option UInt8
  temperatureC : Option UInt8
  memoryUtilizationPct : Option UInt8
  powerDrawW : Option Nat
  source : Option String
  sampledAtUnix : Option Nat
  devices : Option (List GpuDeviceInfo)
  deriving DecidableEq

/-- The `f64` operations that are used on the numbers of a sample. -/
structure F64Ops (F : Type) where
  /-- `Value::as_f64` of a number. -/
  ofNumber : Number → F
  /-- `str::parse::<f64>`. -/
  parse : String → Option F
  zero : F
  add : F → F → F
  /-- The quotient by a count, rounded and cast to `u64`. -/
  roundQuotient : F → Nat → Nat
  /-- `round().to_string()`. -/
  roundText : F → String

variable {F : Type} (ops : F64Ops F)

/-- `Value::pointer` along field names; these are no indices of arrays. -/
def pointer (path : List String) (json : Json) : Option Json :=
  path.foldl (fun found key => found.bind (·.get key)) (some json)

/-- `Value::as_f64`. -/
def asF64 : Json → Option F
  | .num number => some (ops.ofNumber number)
  | _ => none

/-- What `average_engine_busy` reads of an engine. -/
def engineBusy (engine : Json) : Option F :=
  ((engine.get "busy").or (engine.get "busy%")).bind fun v =>
    (asF64 ops v).or ((v.asStr).bind fun s => ops.parse (String.ofList (s.toList.reverse.dropWhile (· = '%')).reverse))

def averageEngineBusy (engines : Json) : Option UInt8 :=
  match engines with
  | .obj fields =>
    let busy := fields.filterMap fun field => engineBusy ops field.2
    if busy = [] then none
    else some (UInt8.ofNat (min (ops.roundQuotient (busy.foldl ops.add ops.zero) busy.length) 100))
  | _ => none

/-- `parse_optional_u8` and `parse_optional_u32` up to the parsing itself. -/
def givenText (raw : String) : Option (List Char) :=
  let trimmed := trim raw
  if trimmed = "" ∨ trimmed.toLower = "[n/a]" ∨ trimmed = "N/A" then none else some trimmed.toList

def parseOptionalU8 (raw : String) : Option UInt8 :=
  (givenText raw).bind fun text => ((parseU32 text).filter (· < 2 ^ 8)).map UInt8.ofNat

def parseOptionalU32 (raw : String) : Option Nat := (givenText raw).bind parseU32

def mbFromBytes (bytes : Nat) : Nat := bytes / (1024 * 1024)

/-- The memory of all clients; the sum wraps in a release build. -/
def clientsMemory (body : Json) : Nat :=
  match pointer ["clients"] body with
  | some (.obj clients) =>
    mbFromBytes ((clients.filterMap fun client =>
      ((pointer ["memory", "system", "total"] client.2).or (pointer ["memory", "local", "total"] client.2)).bind
        Json.asU64).foldl (fun sum bytes => (sum + bytes) % 2 ^ 64) 0)
  | _ => 0

def deviceInfo (body : Json) : GpuDeviceInfo where
  index := 0
  name := ((((body.get "name").or (body.get "device")).bind Json.asStr).getD "Intel GPU")
  producer := some "Intel"
  architecture := none
  driverVersion := none
  pciBusId := none
  utilizationPct :=
    (averageEngineBusy ops (((body.get "engines").or (pointer ["engines"] body)).getD .null)).getD 0
  memoryUtilizationPct := none
  memoryUsedMb := clientsMemory body
  memoryTotalMb := 0
  temperatureC := parseOptionalU8 (((body.get "temperature").bind Json.asStr).getD "")
  powerDrawW := parseOptionalU32
    (((((pointer ["power", "GPU"] body).or (pointer ["power", "gpu"] body)).bind (asF64 ops)).map
      ops.roundText).getD "")
  powerLimitW := none
  fanSpeedPct := none

/-- `aggregate_gpu_devices` of one device of which the producer is known. -/
def ofDevice (source : String) (unixNow : Nat) (device : GpuDeviceInfo) : GpuHostStatus where
  available := true
  utilizationPct := device.utilizationPct
  memoryUsedMb := device.memoryUsedMb
  memoryTotalMb := device.memoryTotalMb
  memoryFreeMb := device.memoryTotalMb - device.memoryUsedMb
  name := some device.name
  producer := device.producer
  architecture := device.architecture
  driverVersion := device.driverVersion
  cudaVersion := none
  deviceCount := some 1
  temperatureC := device.temperatureC
  memoryUtilizationPct :=
    if 0 < device.memoryTotalMb then
      some (UInt8.ofNat (min (device.memoryUsedMb * 100 / device.memoryTotalMb) 100))
    else none
  powerDrawW := device.powerDrawW.filter (0 < ·)
  source := some source
  sampledAtUnix := some unixNow
  devices := some [device]

/-- The status of a sample. -/
def sampleStatus (unixNow : Nat) (body : Json) : GpuHostStatus :=
  ofDevice "intel_gpu_top" unixNow (deviceInfo ops body)

/-- `parse_intel_gpu_top_json`. -/
def parseIntelGpuTopJson (unixNow : Nat) (text : String) : Option GpuHostStatus :=
  (sampleBody text).map (sampleStatus ops unixNow)

end MtrxPeer.IntelGpuTop
