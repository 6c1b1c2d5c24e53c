import DramScheduler.Config.Validation
import DramScheduler.Json.Parser

/-!
# Configuration documents

A configuration is written as a JSON document. A section is an object whose fields may come in
any order and be left out; fields that are not known are passed over, a known field that is
repeated is an error. A section may also be written as an array of its fields in their fixed
order, which may stop early. The word `null` is accepted in the optional fields alone, where
it says that there is no value; so a column spacing of `null` differs from one left out.

Field names are those of the documents. Each section lists them in the order of its array
form, and reads them from the record that `record?` made of either form.

## Main definitions

* `Config.ofValue?` — the configuration a JSON value stands for;
* `Config.parse?` — the same for a document;
* `Config.load` — a document that also has to pass validation.
-/

namespace DramScheduler

open Json (Value)

/-! ### Records and fields -/

/-- The fields of a section that are given, by the names they have in documents. -/
abbrev Record := List (String × Value)

/-- The given fields of an object. Members with other keys are dropped, and no field may be given
twice. Every key has to be made of characters. -/
def recordOfMembers? (names : List String) :
    List (Json.Text × Value) → Option Record
  | [] => some []
  | (key, value) :: rest => do
    let name ← key
    let record ← recordOfMembers? names rest
    if names.contains name then
      if record.any (·.1 == name) then none else some ((name, value) :: record)
    else some record

/-- The given fields of a section in either of its forms. An array gives its first fields, in the
order of the names. -/
def record? (names : List String) : Value → Option Record
  | .object members => recordOfMembers? names members
  | .array items => if items.length ≤ names.length then some (names.zip items) else none
  | _ => none

/-- A field of a record, or its default if it is not given. -/
def Record.field (r : Record) (name : String) (absent : α) (read : Value → Option α) :
    Option α :=
  match r.lookup name with
  | some value => read value
  | none => some absent

/-! ### Values of fields -/

/-- A word: a natural number of 32 bits at most. -/
def wordOfValue? : Value → Option Nat :=
  Value.nat? Word.top

/-- A number of requests, which may have 64 bits. -/
def countOfValue? : Value → Option Nat :=
  Value.nat? (1 <<< 64 - 1)

/-- A value of an optional field, where `null` stands for no value. -/
def optionOfValue? (read : Value → Option α) (v : Value) : Option (Option α) :=
  if v.isNull then some none else (read v).map some

/-- The word that names an alternative: a string, or an object with the word as its only key and
nothing as its value. -/
def choiceOfValue? : Value → Option String
  | .string text => text
  | .object [(key, .null)] => key
  | _ => none

/-- The name of a protocol generation in documents: its name in capitals, or as reported. -/
def memoryTypeOfValue? (v : Value) : Option MemoryType :=
  (choiceOfValue? v).bind fun word =>
    MemoryType.all.find? fun t => word == t.name || word == t.name.map Char.toUpper

/-- The name of a field order in documents. -/
def mappingOfValue? (v : Value) : Option AddressMapping :=
  (choiceOfValue? v).bind fun word =>
    if word == "ROW_BANK_COL" || word == "RowBankCol" then some .rowBankCol
    else if word == "ROW_COL_BANK" || word == "RowColBank" then some .rowColBank
    else none

/-! ### Sections -/

/-- The fields of the interface, in the order of their array form. -/
def Phy.fields : List String :=
  ["memtype", "databits", "nphases", "nranks", "rdphase", "wrphase", "rdcmdphase", "wrcmdphase",
    "cl", "cwl", "read_latency", "write_latency"]

/-- The interface that a value describes, with defaults for what is not given. It is none if any
field has a value of the wrong kind. -/
def Phy.ofValue? (v : Value) : Option Phy := do
  let r ← record? fields v
  let base : Phy := {}
  return {
    memoryType := ← r.field "memtype" base.memoryType memoryTypeOfValue?
    dataBits := ← r.field "databits" base.dataBits wordOfValue?
    phases := ← r.field "nphases" base.phases wordOfValue?
    ranks := ← r.field "nranks" base.ranks wordOfValue?
    readPhase := ← r.field "rdphase" base.readPhase wordOfValue?
    writePhase := ← r.field "wrphase" base.writePhase wordOfValue?
    readRowPhase := ← r.field "rdcmdphase" base.readRowPhase wordOfValue?
    writeRowPhase := ← r.field "wrcmdphase" base.writeRowPhase wordOfValue?
    casLatency := ← r.field "cl" base.casLatency wordOfValue?
    casWriteLatency := ← r.field "cwl" base.casWriteLatency wordOfValue?
    readLatency := ← r.field "read_latency" base.readLatency wordOfValue?
    writeLatency := ← r.field "write_latency" base.writeLatency wordOfValue? }

/-- The fields of the geometry, in the order of their array form. -/
def Geometry.fields : List String :=
  ["bankbits", "rowbits", "colbits"]

/-- The geometry that a value describes, with defaults for what is not given. -/
def Geometry.ofValue? (v : Value) : Option Geometry := do
  let r ← record? fields v
  let base : Geometry := {}
  return {
    bankBits := ← r.field "bankbits" base.bankBits wordOfValue?
    rowBits := ← r.field "rowbits" base.rowBits wordOfValue?
    colBits := ← r.field "colbits" base.colBits wordOfValue? }

/-- The fields of the timing set, in the order of their array form. -/
def Timing.fields : List String :=
  ["t_rp", "t_rcd", "t_wr", "t_wtr", "t_refi", "t_rfc", "t_faw", "t_ccd", "t_rrd", "t_rc",
    "t_ras", "t_zqcs", "t_rtw"]

/-- The timing set that a value describes, with defaults for what is not given. A parameter that is
given as `null` constrains nothing, whatever its default. -/
def Timing.ofValue? (v : Value) : Option Timing := do
  let r ← record? fields v
  let base : Timing := {}
  return {
    tRP := ← r.field "t_rp" base.tRP wordOfValue?
    tRCD := ← r.field "t_rcd" base.tRCD wordOfValue?
    tWR := ← r.field "t_wr" base.tWR wordOfValue?
    tWTR := ← r.field "t_wtr" base.tWTR wordOfValue?
    tREFI := ← r.field "t_refi" base.tREFI wordOfValue?
    tRFC := ← r.field "t_rfc" base.tRFC wordOfValue?
    tFAW := ← r.field "t_faw" base.tFAW (optionOfValue? wordOfValue?)
    tCCD := ← r.field "t_ccd" base.tCCD (optionOfValue? wordOfValue?)
    tRRD := ← r.field "t_rrd" base.tRRD (optionOfValue? wordOfValue?)
    tRC := ← r.field "t_rc" base.tRC (optionOfValue? wordOfValue?)
    tRAS := ← r.field "t_ras" base.tRAS (optionOfValue? wordOfValue?)
    tZQCS := ← r.field "t_zqcs" base.tZQCS (optionOfValue? wordOfValue?)
    tRTW := ← r.field "t_rtw" base.tRTW (optionOfValue? wordOfValue?) }

/-- The fields of the settings, in the order of their array form. -/
def Settings.fields : List String :=
  ["cmd_buffer_depth", "read_time", "write_time", "with_refresh", "with_auto_precharge",
    "with_bandwidth", "address_mapping", "refresh_postponing", "zqcs_interval",
    "bandwidth_period_bits"]

/-- The settings that a value describes, with defaults for what is not given, read as the interface
is. -/
def Settings.ofValue? (v : Value) : Option Settings := do
  let r ← record? fields v
  let base : Settings := {}
  return {
    bufferDepth := ← r.field "cmd_buffer_depth" base.bufferDepth countOfValue?
    readTime := ← r.field "read_time" base.readTime wordOfValue?
    writeTime := ← r.field "write_time" base.writeTime wordOfValue?
    refreshEnabled := ← r.field "with_refresh" base.refreshEnabled Value.bool?
    autoPrecharge := ← r.field "with_auto_precharge" base.autoPrecharge Value.bool?
    bandwidthEnabled := ← r.field "with_bandwidth" base.bandwidthEnabled Value.bool?
    mapping := ← r.field "address_mapping" base.mapping mappingOfValue?
    postponing := ← r.field "refresh_postponing" base.postponing wordOfValue?
    zqcsInterval := ← r.field "zqcs_interval" base.zqcsInterval (optionOfValue? wordOfValue?)
    bandwidthPeriodBits :=
      ← r.field "bandwidth_period_bits" base.bandwidthPeriodBits wordOfValue? }

/-- The fields of a port, in the order of their array form. -/
def PortConfig.fields : List String :=
  ["data_width", "clock_domain"]

/-- The port that a value describes, with defaults for what is not given. -/
def PortConfig.ofValue? (v : Value) : Option PortConfig := do
  let r ← record? fields v
  let base : PortConfig := {}
  return {
    dataWidth := ← r.field "data_width" base.dataWidth (optionOfValue? wordOfValue?)
    clockDomain := ← r.field "clock_domain" base.clockDomain Value.string? }

/-- The ports that an array describes, all of which have to be readable. -/
def portsOfValue? (v : Value) : Option (List PortConfig) :=
  v.array?.bind fun items => items.mapM PortConfig.ofValue?

/-! ### Documents -/

namespace Config

/-- The sections of a configuration, in the order of their array form. -/
def fields : List String :=
  ["phy", "geom", "timing", "controller", "ports"]

/-- The configuration that a value describes, with the default of every section that is not
given. -/
def ofValue? (v : Value) : Option Config := do
  let r ← record? fields v
  let base : Config := {}
  return {
    phy := ← r.field "phy" base.phy Phy.ofValue?
    geometry := ← r.field "geom" base.geometry Geometry.ofValue?
    timing := ← r.field "timing" base.timing Timing.ofValue?
    settings := ← r.field "controller" base.settings Settings.ofValue?
    ports := ← r.field "ports" base.ports portsOfValue? }

/-- The configuration a document describes, accepted or not. -/
def parse? (document : String) : Option Config :=
  (Value.parse? document).bind ofValue?

/-- The configuration a document describes, or what is wrong with it. It is accepted, so a
controller can be built for it. -/
def load (document : String) : Except ConfigError Config :=
  match parse? document with
  | none => .error .malformed
  | some c => do
    c.validate
    return c

end Config

end DramScheduler
