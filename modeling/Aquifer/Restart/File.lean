import Aquifer.Binary.File
import Aquifer.Columns.File
import Aquifer.Restart.Path

namespace Aquifer

inductive RestartFormat where
  | records
  | columns
  deriving DecidableEq, Repr

namespace RestartFormat

def name : RestartFormat → String
  | .records => "binary"
  | .columns => "hdf5"

def ending : RestartFormat → String
  | .records => ".aqr"
  | .columns => ".h5"

def ofName (name : String) : Except Fault RestartFormat :=
  match [records, columns].find? (·.name == name) with
  | some f => .ok f
  | none => .error (.unknownRestartFormat name)

end RestartFormat

def ByteOrder.sign : ByteOrder → String
  | .little => "<"
  | .big => ">"

def ByteOrder.ofSign (sign : String) : Except Fault ByteOrder :=
  match [little, big].find? (·.sign == sign) with
  | some o => .ok o
  | none => .error (.badByteOrder sign)

structure RestartFile where
  directory : Path
  fileName : String := "AQUIFERS"
  format : RestartFormat := .records
  compression : Option String := some "gzip"
  order : ByteOrder := .little
  deriving DecidableEq, Repr

inductive FileContent where
  | records (bytes : Bytes)
  | columns (store : Store)

abbrev Disk := Keyed Path FileContent

/-- The file to which a path leads; a null character leads nowhere. -/
def Disk.find? (d : Disk) (p : Path) : Option FileContent :=
  if p.hasNull then none else d.get? p.resolved

def Disk.listing (d : Disk) : List String :=
  ((d.keys.filter Path.isLocal).map Path.text).mergeSort

namespace RestartFile

def ofTexts (directory fileName format : String) (compression : Option String) (sign : String) :
    Except Fault RestartFile := do
  let format ← RestartFormat.ofName format
  let order ← ByteOrder.ofSign sign
  return ⟨Path.ofText directory, fileName, format, compression, order⟩

def fullName (f : RestartFile) : String :=
  if f.fileName.endsWith f.format.ending then f.fileName else f.fileName ++ f.format.ending

def path (f : RestartFile) : Path := f.directory.join (Path.ofText f.fullName)

def recordBytes (f : RestartFile) (c : Configuration) : Except Fault Bytes := do
  f.path.parent.check
  let bs ← c.encode f.order
  f.path.check
  return bs

def storePath (f : RestartFile) : Except Fault Path := do
  f.path.parent.check
  f.path.untilNull.check
  return f.path.untilNull

/-- Writes a configuration; the disk is given back also if that fails. -/
def write (f : RestartFile) (c : Configuration) (d : Disk) : Traced Path × Disk :=
  let note (r : Except Fault Unit) : Traced Path := do
    Traced.note (.writing f.format.name f.path.text)
    Traced.ofExcept r
    Traced.note (.wrote f.path.text)
    return f.path
  match f.format with
  | .records =>
    match f.recordBytes c with
    | .ok bs => (note (.ok ()), d.insert f.path.resolved (.records bs))
    | .error e => (note (.error e), d)
  | .columns =>
    match f.storePath with
    | .ok p =>
      let (r, s) := c.store f.compression
      (note r, d.insert p.resolved (.columns s))
    | .error e => (note (.error e), d)

def parse (f : RestartFormat) : FileContent → Except Fault Configuration
  | .records bs =>
    if f = .records then Configuration.decode bs else .error (.malformed .badMagic none)
  | .columns s => if f = .columns then s.configuration else .error (.malformed .badMagic none)

def read (f : RestartFile) (d : Disk) : Traced Configuration := do
  match d.find? f.path with
  | none => Traced.ofExcept (.error (.restartMissing f.path.text))
  | some content =>
    let c ← Traced.ofExcept (parse f.format content)
    Traced.note (.read f.path.text)
    return c

end RestartFile

inductive RestartCall where
  | write (c : Configuration)
  | read

/-- The disk after a run of calls, with the configuration of the last write that succeeded and, if
the last write of all failed, its configuration. -/
structure RestartRun where
  disk : Disk
  written : Option Configuration := none
  failed : Option Configuration := none

namespace RestartRun

def step (f : RestartFile) (r : RestartRun) : RestartCall → RestartRun
  | .read => r
  | .write c =>
    let (path, disk) := f.write c r.disk
    if path.result.isOk then { disk := disk, written := some c }
    else { disk := disk, written := r.written, failed := some c }

def run (f : RestartFile) (disk : Disk) (calls : List RestartCall) : RestartRun :=
  calls.foldl (step f) { disk := disk }

end RestartRun

end Aquifer
