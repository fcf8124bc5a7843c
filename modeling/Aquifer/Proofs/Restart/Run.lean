import Aquifer.Proofs.Binary.RoundTrip
import Aquifer.Proofs.Built
import Aquifer.Proofs.Columns.Failure
import Aquifer.Proofs.Restart.Path
import Aquifer.Restart.File

namespace Aquifer

theorem Path.untilNull_of_not_hasNull {p : Path} (h : p.hasNull = false) : p.untilNull = p := by
  obtain ⟨root, parts⟩ := p
  have hparts : ∀ s ∈ parts, Text.hasNull s = false := by
    simpa only [hasNull, List.any_eq_false, Bool.not_eq_true] using h
  show Path.mk root _ = ⟨root, parts⟩
  congr 1
  rcases List.eq_nil_or_concat' parts with rfl | ⟨init, s, rfl⟩
  · rfl
  · have hs := Text.untilNull_of_not_hasNull (hparts s (List.mem_append_right _ (by simp)))
    simp [hs]

theorem Disk.find?_insert {d : Disk} {p q : Path} (hq : p.hasNull = false → q = p)
    (x : FileContent) :
    Disk.find? (d.insert q.resolved x) p = if p.hasNull then none else some x := by
  cases hp : p.hasNull with
  | true => simp [Disk.find?, hp]
  | false => simp [Disk.find?, hp, hq hp, Keyed.get?_insert]

namespace RestartFile

variable {f : RestartFile} {c d : Configuration} {x : FileContent}

inductive Stored (f : RestartFile) (c : Configuration) : FileContent → Prop
  | records {bs : Bytes} (hf : f.format = .records) (h : c.encode f.order = .ok bs) :
      Stored f c (.records bs)
  | columns {s : Store} (hf : f.format = .columns) (h : c.store f.compression = (.ok (), s)) :
      Stored f c (.columns s)

inductive Broken (f : RestartFile) (c : Configuration) : FileContent → Prop
  | columns {p : Path} {s : Store} {e : Fault} (hf : f.format = .columns)
      (hpath : f.storePath = .ok p) (h : c.store f.compression = (.error e, s)) :
      Broken f c (.columns s)

theorem Stored.parse (h : f.Stored c x) (hc : c.OwnKeys) (hp : c.OwnParts) :
    RestartFile.parse f.format x = .ok c := by
  cases h with
  | records hf h =>
    obtain ⟨-, hdecode⟩ :=
      Binary.decode_append_of_restores (Codec.restores_configuration hc) h []
    rw [List.append_nil] at hdecode
    rw [RestartFile.parse, if_pos hf]
    exact hdecode
  | columns hf h =>
    rw [RestartFile.parse, if_pos hf]
    obtain ⟨s, ⟨hstore, hread⟩ | ⟨e, hstore, -⟩⟩ := Configuration.store_cases hc hp f.compression
    · cases h.symm.trans hstore
      exact hread
    · exact nomatch h.symm.trans hstore

theorem Broken.parse (h : f.Broken c x) (hc : c.OwnKeys) (hp : c.OwnParts)
    (hd : RestartFile.parse f.format x = .ok d) :
    c.influx.Overlong f.compression ∧ d = { c with influx := ∅ } := by
  obtain ⟨hf, -, h⟩ := h
  rw [RestartFile.parse, if_pos hf] at hd
  obtain ⟨s, ⟨hstore, -⟩ | ⟨e, hstore, hnone | ⟨hlong, hread⟩⟩⟩ :=
    Configuration.store_cases hc hp f.compression
  · exact nomatch h.symm.trans hstore
  · cases h.symm.trans hstore
    exact absurd hd (hnone d)
  · cases h.symm.trans hstore
    exact ⟨hlong, Except.ok.inj (hd.symm.trans hread)⟩

theorem write_records (hf : f.format = .records) (c : Configuration) (disk : Disk) :
    (∃ bs, f.recordBytes c = .ok bs ∧ (f.write c disk).1.result = .ok f.path ∧
      (f.write c disk).2 = disk.insert f.path.resolved (.records bs)) ∨
    ∃ e, (f.write c disk).1.result = .error e ∧ (f.write c disk).2 = disk := by
  simp only [write, hf]
  cases f.recordBytes c with
  | ok bs => exact Or.inl ⟨bs, rfl, rfl, rfl⟩
  | error e => exact Or.inr ⟨e, rfl, rfl⟩

theorem write_columns (hf : f.format = .columns) (c : Configuration) (disk : Disk) :
    (∃ p, f.storePath = .ok p ∧
      (f.write c disk).1.result = (c.store f.compression).1.map (fun _ ↦ f.path) ∧
      (f.write c disk).2 = disk.insert p.resolved (.columns (c.store f.compression).2)) ∨
    ∃ e, f.storePath = .error e ∧ (f.write c disk).1.result = .error e ∧
      (f.write c disk).2 = disk := by
  simp only [write, hf]
  cases f.storePath with
  | ok p =>
    refine Or.inl ⟨p, rfl, ?_, rfl⟩
    cases (c.store f.compression).1 <;> rfl
  | error e => exact Or.inr ⟨e, rfl, rfl, rfl⟩

theorem encode_of_recordBytes {bs : Bytes} (h : f.recordBytes c = .ok bs) :
    c.encode f.order = .ok bs := by
  obtain ⟨-, -, h⟩ := Except.bind_eq_ok_iff.mp h
  obtain ⟨bs, hencode, h⟩ := Except.bind_eq_ok_iff.mp h
  obtain ⟨-, -, h⟩ := Except.bind_eq_ok_iff.mp h
  exact Except.ok.inj h ▸ hencode

theorem eq_path_of_storePath {p : Path} (h : f.storePath = .ok p) (hp : f.path.hasNull = false) :
    p = f.path := by
  obtain ⟨-, -, h⟩ := Except.bind_eq_ok_iff.mp h
  obtain ⟨-, -, h⟩ := Except.bind_eq_ok_iff.mp h
  rw [← Except.ok.inj h, Path.untilNull_of_not_hasNull hp]

/-- A write that succeeds leaves a file that holds the configuration. One that fails leaves what is
left of the configuration or else the disk alone, and then no write leaves anything broken. -/
theorem write_cases (f : RestartFile) (c : Configuration) (disk : Disk) :
    (∃ x, f.Stored c x ∧ (f.write c disk).1.result = .ok f.path ∧
      (f.write c disk).2.find? f.path = if f.path.hasNull then none else some x) ∨
    ∃ e, (f.write c disk).1.result = .error e ∧
      ((∃ x, f.Broken c x ∧
          (f.write c disk).2.find? f.path = if f.path.hasNull then none else some x) ∨
        (f.write c disk).2 = disk ∧ ∀ d x, ¬f.Broken d x) := by
  cases hf : f.format with
  | records =>
    rcases write_records hf c disk with ⟨bs, hbs, hresult, hdisk⟩ | ⟨e, hresult, hdisk⟩
    · refine Or.inl ⟨_, .records hf (encode_of_recordBytes hbs), hresult, ?_⟩
      rw [hdisk, Disk.find?_insert fun _ ↦ rfl]
    · refine Or.inr ⟨e, hresult, Or.inr ⟨hdisk, ?_⟩⟩
      rintro d x ⟨hf', -, -⟩
      exact nomatch hf.symm.trans hf'
  | columns =>
    rcases write_columns hf c disk with ⟨p, hp, hresult, hdisk⟩ | ⟨e, hp, hresult, hdisk⟩
    · have hfind : (f.write c disk).2.find? f.path =
          if f.path.hasNull then none else some (.columns (c.store f.compression).2) := by
        rw [hdisk, Disk.find?_insert (eq_path_of_storePath hp)]
      cases hstore : (c.store f.compression).1 with
      | ok _ =>
        rw [hstore] at hresult
        exact Or.inl ⟨_, .columns hf (Prod.ext hstore rfl), hresult, hfind⟩
      | error e =>
        rw [hstore] at hresult
        exact Or.inr ⟨e, hresult, Or.inl ⟨_, .columns hf hp (Prod.ext hstore rfl), hfind⟩⟩
    · refine Or.inr ⟨e, hresult, Or.inr ⟨hdisk, ?_⟩⟩
      rintro d x ⟨-, hp', -⟩
      exact nomatch hp.symm.trans hp'

theorem result_read_eq_ok_iff {disk : Disk} : (f.read disk).result = .ok c ↔
    ∃ x, disk.find? f.path = some x ∧ RestartFile.parse f.format x = .ok c := by
  rw [read]
  cases disk.find? f.path with
  | none => simp
  | some x =>
    simp only [Traced.result_bind, Traced.result_ofExcept, Except.bind_eq_ok_iff]
    constructor
    · intro h
      obtain ⟨d, hd, -, -, h⟩ := h
      exact ⟨x, rfl, Except.ok.inj h ▸ hd⟩
    · intro h
      obtain ⟨y, hy, hc⟩ := h
      cases hy
      exact ⟨c, hc, (), rfl, rfl⟩

end RestartFile

namespace RestartRun

variable {f : RestartFile} {r : RestartRun}

theorem step_of_result_ok {c : Configuration} {p : Path}
    (h : (f.write c r.disk).1.result = .ok p) :
    step f r (.write c) = { disk := (f.write c r.disk).2, written := some c } := by
  simp only [step, h]
  rfl

theorem step_of_result_error {c : Configuration} {e : Fault}
    (h : (f.write c r.disk).1.result = .error e) :
    step f r (.write c) =
      { disk := (f.write c r.disk).2, written := r.written, failed := some c } := by
  simp only [step, h]
  rfl

/-- Whatever is found in the file is the configuration of the last write that succeeded, or what is
left of that of the last write, which failed; and the former is found, unless a failure could take
its place. -/
structure Sound (f : RestartFile) (r : RestartRun) : Prop where
  found : ∀ x, r.disk.find? f.path = some x → ∃ c : Configuration, c.Built ∧
    ((r.written = some c ∧ f.Stored c x) ∨ (r.failed = some c ∧ f.Broken c x))
  kept : ∀ c, r.written = some c → f.format = .records ∨ r.failed = none →
    c.Built ∧ (f.path.hasNull = false → ∃ x, r.disk.find? f.path = some x ∧ f.Stored c x)

theorem Sound.step (h : Sound f r) {call : RestartCall}
    (hcall : ∀ c, call = .write c → c.Built) : Sound f (step f r call) := by
  cases call with
  | read => exact h
  | write c =>
    have hc := hcall c rfl
    rcases f.write_cases c r.disk with ⟨x, hstored, hresult, hfind⟩ |
      ⟨e, hresult, ⟨x, hbroken, hfind⟩ | ⟨hdisk, hnone⟩⟩
    · rw [step_of_result_ok hresult]
      constructor
      · intro y hy
        rw [hfind, Option.ite_none_left_eq_some] at hy
        exact ⟨c, hc, Or.inl ⟨rfl, Option.some.inj hy.2 ▸ hstored⟩⟩
      · rintro _ ⟨⟩ -
        exact ⟨hc, fun hnull ↦ ⟨x, by rw [hfind, hnull]; rfl, hstored⟩⟩
    · rw [step_of_result_error hresult]
      constructor
      · intro y hy
        rw [hfind, Option.ite_none_left_eq_some] at hy
        exact ⟨c, hc, Or.inr ⟨rfl, Option.some.inj hy.2 ▸ hbroken⟩⟩
      · rintro b - (hf | hfailed)
        · obtain ⟨hf', -, -⟩ := hbroken
          exact nomatch hf.symm.trans hf'
        · exact nomatch hfailed
    · rw [step_of_result_error hresult, hdisk]
      constructor
      · intro y hy
        -- the file is as it was before, but the last write is now this one
        obtain ⟨b, hb, hstored | ⟨-, hbroken⟩⟩ := h.found y hy
        · exact ⟨b, hb, Or.inl hstored⟩
        · exact absurd hbroken (hnone b y)
      · rintro b hwritten (hf | hfailed)
        · exact h.kept b hwritten (Or.inl hf)
        · exact nomatch hfailed

theorem sound_run {disk : Disk} (h : disk.find? f.path = none) {calls : List RestartCall}
    (hcalls : ∀ c, .write c ∈ calls → c.Built) : Sound f (run f disk calls) := by
  have hstart : Sound f { disk := disk } :=
    ⟨fun x hx ↦ (nomatch h.symm.trans hx), fun c hc ↦ nomatch hc⟩
  rw [run]
  generalize ({ disk := disk } : RestartRun) = r at hstart
  induction calls generalizing r with
  | nil => exact hstart
  | cons call calls ih =>
    refine ih (fun c hc ↦ hcalls c (List.mem_cons_of_mem _ hc)) _ (hstart.step ?_)
    rintro c rfl
    exact hcalls c (List.mem_cons_self ..)

/-- After any run on a restart file that was not there before, a configuration that is read is that
of the last write that succeeded, with one exception: if the last write of all failed on too many
influx cells in a store of columns, its configuration is read without them. The configuration of the
last write that succeeded is read, unless a later write into a store of columns failed. -/
theorem read_run {disk : Disk} (hdisk : disk.find? f.path = none) {calls : List RestartCall}
    (hcalls : ∀ c, .write c ∈ calls → c.Built) (c : Configuration) :
    ((f.read (run f disk calls).disk).result = .ok c →
      (run f disk calls).written = some c ∨ (f.format = .columns ∧
        ∃ d, (run f disk calls).failed = some d ∧ d.influx.Overlong f.compression ∧
          c = { d with influx := ∅ })) ∧
    ((run f disk calls).written = some c →
      f.format = .records ∨ (run f disk calls).failed = none → f.path.hasNull = false →
        (f.read (run f disk calls).disk).result = .ok c) := by
  have hsound := sound_run hdisk hcalls
  constructor
  · intro h
    obtain ⟨x, hx, hparse⟩ := RestartFile.result_read_eq_ok_iff.mp h
    obtain ⟨d, hd, ⟨hwritten, hstored⟩ | ⟨hfailed, hbroken⟩⟩ := hsound.found x hx
    · obtain ⟨hkeys, hparts⟩ := hd.own
      cases (hstored.parse hkeys hparts).symm.trans hparse
      exact Or.inl hwritten
    · obtain ⟨hkeys, hparts⟩ := hd.own
      obtain ⟨hlong, rfl⟩ := hbroken.parse hkeys hparts hparse
      obtain ⟨hf, -, -⟩ := hbroken
      exact Or.inr ⟨hf, d, hfailed, hlong, rfl⟩
  · intro hwritten hlast hnull
    obtain ⟨hc, hkept⟩ := hsound.kept c hwritten hlast
    obtain ⟨x, hx, hstored⟩ := hkept hnull
    obtain ⟨hkeys, hparts⟩ := hc.own
    exact RestartFile.result_read_eq_ok_iff.mpr ⟨x, hx, hstored.parse hkeys hparts⟩

section Kept

def keptFile : RestartFile where
  directory := ⟨.here, []⟩

theorem path_keptFile : keptFile.path = ⟨.here, ["AQUIFERS.aqr"]⟩ := by
  have hname : keptFile.fullName = "AQUIFERS.aqr" := by decide +kernel
  rw [RestartFile.path, hname, Path.ofText_eq]
  decide +kernel

theorem recordBytes_keptFile (c : Configuration) : keptFile.recordBytes c = c.encode .little := by
  have hparent : keptFile.path.parent.check = .ok () := by rw [path_keptFile]; rfl
  have hpath : keptFile.path.check = .ok () := by rw [path_keptFile]; rfl
  have horder : keptFile.order = .little := rfl
  rw [RestartFile.recordBytes, hparent, hpath, horder]
  cases c.encode .little <;> rfl

theorem result_write_keptFile (c : Configuration) (disk : Disk) :
    (keptFile.write c disk).1.result = (c.encode .little).map fun _ ↦ keptFile.path := by
  have hformat : keptFile.format = .records := rfl
  simp only [RestartFile.write, hformat, recordBytes_keptFile]
  cases c.encode .little <;> rfl

theorem run_keptFile {c d : Configuration} {bs : Bytes} {e : Fault}
    (hc : c.encode .little = .ok bs) (hd : d.encode .little = .error e) :
    (run keptFile ∅ [.write c, .write d, .read]).written = some c ∧
      (run keptFile ∅ [.write c, .write d, .read]).failed = some d := by
  have hok := result_write_keptFile c ∅
  have herror := result_write_keptFile d (keptFile.write c ∅).2
  rw [hc] at hok
  rw [hd] at herror
  have hfirst := step_of_result_ok (r := { disk := ∅ }) hok
  have hsecond := step_of_result_error
    (r := { disk := (keptFile.write c ∅).2, written := some c }) herror
  rw [run, List.foldl_cons, hfirst, List.foldl_cons, hsecond]
  exact ⟨rfl, rfl⟩

def numberedCase (id : Int) : Configuration where
  fetkovich := (∅ : Collection Fetkovich).add ⟨id, ⟨1⟩, ⟨2⟩, ⟨3⟩, ⟨4⟩, 1, none, ⟨5⟩, some ⟨6⟩⟩
  constantFlux := (∅ : Collection ConstantFlux).add ⟨3, ⟨4⟩, ⟨5⟩, none, some ⟨6⟩⟩

theorem built_numberedCase (id : Int) : (numberedCase id).Built :=
  .addConstantFlux (.addFetkovich .empty _) _

/-- A write of a number that is too large for a file of records leaves what was written before. -/
theorem read_run_kept :
    let r := run keptFile ∅ [.write (numberedCase 7), .write (numberedCase (2 ^ 64)), .read]
    r.written = some (numberedCase 7) ∧ r.failed = some (numberedCase (2 ^ 64)) ∧
      (keptFile.read r.disk).result = .ok (numberedCase 7) := by
  have hdisk : Disk.find? ∅ keptFile.path = none := by
    rw [path_keptFile]
    rfl
  have hbuilt : ∀ c, RestartCall.write c ∈ [RestartCall.write (numberedCase 7),
      .write (numberedCase (2 ^ 64)), .read] → c.Built := by
    simp only [List.mem_cons, RestartCall.write.injEq, reduceCtorEq, List.not_mem_nil, or_false]
    rintro c (rfl | rfl)
    · exact built_numberedCase 7
    · exact built_numberedCase (2 ^ 64)
  have hfits : ((numberedCase 7).encode .little).isOk = true := by decide +kernel
  have hlarge : ((numberedCase (2 ^ 64)).encode .little).isOk = false := by decide +kernel
  obtain ⟨bs, hbs⟩ := Except.exists_of_isOk hfits
  obtain ⟨e, he⟩ := Except.exists_of_isOk_eq_false hlarge
  obtain ⟨hwritten, hfailed⟩ := run_keptFile hbs he
  obtain ⟨-, hkept⟩ := read_run hdisk hbuilt (numberedCase 7)
  refine ⟨hwritten, hfailed, hkept hwritten (Or.inl rfl) ?_⟩
  rw [path_keptFile]
  decide +kernel

end Kept

section Lost

/-- A row of active cells, one more than are stored without compression. -/
def longGrid : Grid where
  dims := ⟨101, 1, 1, by decide, Nat.one_pos, Nat.one_pos⟩
  dx := Vector.replicate _ ⟨1⟩
  dy := Vector.replicate _ ⟨1⟩
  dz := Vector.replicate _ ⟨1⟩
  tops := Vector.replicate _ ⟨1⟩
  active := Vector.replicate _ true

def longDeck : Deck := .ofRows .metric [(.aquancon, [.claim 7 ⟨1, 1, 1⟩ ⟨101, 1, 1⟩ "J-"])]

def lostFile : RestartFile where
  directory := ⟨.here, []⟩
  format := .columns
  compression := some "zstd"

theorem path_lostFile : lostFile.path = ⟨.here, ["AQUIFERS.h5"]⟩ := by
  have hname : lostFile.fullName = "AQUIFERS.h5" := by decide +kernel
  rw [RestartFile.path, hname, Path.ofText_eq]
  decide +kernel

theorem hasNull_lostFile : lostFile.path.hasNull = false := by
  rw [path_lostFile]
  decide +kernel

theorem storePath_lostFile : lostFile.storePath = .ok lostFile.path := by
  rw [RestartFile.storePath, path_lostFile]
  rfl

theorem read_lostFile {c d : Configuration} {r : Except Fault Unit} {s : Store}
    (hstore : c.store (some "zstd") = (r, s)) (hread : s.configuration = .ok d) :
    (lostFile.write c ∅).1.result = r.map (fun _ ↦ lostFile.path) ∧
      (lostFile.read (lostFile.write c ∅).2).result = .ok d := by
  rcases RestartFile.write_columns (f := lostFile) rfl c ∅ with
    ⟨p, hp, hresult, hdisk⟩ | ⟨e, he, -⟩
  · cases storePath_lostFile.symm.trans hp
    have hcompression : lostFile.compression = some "zstd" := rfl
    rw [hcompression, hstore] at hresult hdisk
    refine ⟨hresult, RestartFile.result_read_eq_ok_iff.mpr ⟨.columns s, ?_, hread⟩⟩
    rw [hdisk, Disk.find?_insert fun _ ↦ rfl, hasNull_lostFile]
    rfl
  · exact nomatch storePath_lostFile.symm.trans he

theorem store_empty : ∃ s, (∅ : Configuration).store (some "zstd") = (.ok (), s) ∧
    s.configuration = .ok ∅ := by
  have hok : ((∅ : Configuration).store (some "zstd")).1 = .ok () := rfl
  obtain ⟨hkeys, hparts⟩ := Configuration.Built.empty.own
  obtain ⟨s, h | ⟨e, hstore, -⟩⟩ := Configuration.store_cases hkeys hparts (some "zstd")
  · exact ⟨s, h⟩
  · exact nomatch hok.symm.trans (congrArg Prod.fst hstore)

theorem exists_long : ∃ x cols, (Influx.ofDeck longDeck longGrid).result = .ok x ∧
    Compression.threshold < x.size ∧ Table.influxCell.columns x.toList = .ok cols := by
  have hlong : (match (Influx.ofDeck longDeck longGrid).result with
      | .ok x => decide (Compression.threshold < x.size) &&
        (Table.influxCell.columns x.toList).isOk
      | .error _ => false) = true := by decide +kernel
  cases hx : (Influx.ofDeck longDeck longGrid).result with
  | error e =>
    rw [hx] at hlong
    exact nomatch hlong
  | ok x =>
    rw [hx, Bool.and_eq_true, decide_eq_true_eq] at hlong
    cases hcols : Table.influxCell.columns x.toList with
    | error e =>
      rw [hcols] at hlong
      exact nomatch hlong.2
    | ok cols => exact ⟨x, cols, rfl, hlong.1, hcols⟩

theorem not_accepted_zstd : ¬Compression.Accepted (some "zstd") := by
  rintro (h | h | ⟨c, h⟩)
  · exact nomatch h
  · exact absurd h (by decide)
  · cases c <;> exact absurd h (by decide)

/-- Of a configuration that is written once, and in vain, all but the influx cells are read. -/
theorem read_run_lost : ∃ c : Configuration, c.Built ∧ c ≠ ∅ ∧
    (run lostFile ∅ [.write c]).written = none ∧
    (lostFile.read (run lostFile ∅ [.write c]).disk).result = .ok ∅ := by
  obtain ⟨x, cols, hx, hlong, hcols⟩ := exists_long
  have hbuilt : Configuration.Built { influx := x } := by
    exact .loadInflux .empty (Configuration.loadInflux_eq_ok_iff.mpr ⟨x, hx, rfl⟩)
  obtain ⟨hkeys, hparts⟩ := hbuilt.own
  obtain ⟨s, hstore, -⟩ := store_empty
  obtain ⟨e, t, hstore, hread⟩ := Configuration.store_of_overlong hkeys hparts hcols
    (Or.inl ⟨hlong, not_accepted_zstd⟩) hstore
  obtain ⟨hresult, hread⟩ := read_lostFile hstore hread
  have hrun : run lostFile ∅ [.write { influx := x }] =
      { disk := (lostFile.write { influx := x } ∅).2, failed := some { influx := x } } :=
    step_of_result_error (r := { disk := ∅ }) hresult
  refine ⟨_, hbuilt, ?_, ?_, ?_⟩
  · intro h
    cases h
    exact absurd hlong (by decide)
  · rw [hrun]
  · rw [hrun]
    exact hread

end Lost

end RestartRun

end Aquifer
