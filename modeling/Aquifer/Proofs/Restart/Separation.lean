import Aquifer.Proofs.Restart.Path
import Aquifer.Proofs.Restart.Run

namespace Aquifer

theorem Text.endsWith_iff {s t : String} : s.endsWith t = true ↔ ∃ stem, s = stem ++ t := by
  rw [← String.endsWith_toSlice, String.Slice.endsWith_string_iff, String.copy_toSlice]
  constructor
  · intro h
    obtain ⟨cs, hcs⟩ := h
    refine ⟨.ofList cs, ?_⟩
    rw [← String.toList_inj, ← hcs, String.toList_append, String.toList_ofList]
  · intro h
    obtain ⟨stem, rfl⟩ := h
    rw [String.toList_append]
    exact List.suffix_append _ _

namespace RestartFormat

variable {a b : RestartFormat} {s t : String}

theorem getLast?_append_ending (a : RestartFormat) (s : String) :
    (s ++ a.ending).toList.getLast? = a.ending.toList.getLast? := by
  rw [String.toList_append, List.getLast?_append]
  cases a <;> rfl

theorem ending_injective (h : s ++ a.ending = t ++ b.ending) : a = b := by
  have hlast := congrArg (fun s ↦ s.toList.getLast?) h
  simp only [getLast?_append_ending] at hlast
  revert hlast
  cases a <;> cases b <;> decide

theorem append_ending_ne (h : t.toList.getLast? ≠ a.ending.toList.getLast?) :
    s ++ a.ending ≠ t := by
  rintro rfl
  exact h (getLast?_append_ending a s)

theorem keeps_append_ending (a : RestartFormat) (s : String) :
    Path.keeps (s ++ a.ending) = true := by
  rw [Path.keeps, Bool.and_eq_true, decide_eq_true_eq, decide_eq_true_eq]
  constructor <;> exact append_ending_ne (by cases a <;> decide)

theorem append_ending_ne_up (a : RestartFormat) (s : String) : s ++ a.ending ≠ ".." :=
  append_ending_ne (by cases a <;> decide)

theorem slashless_ending (a : RestartFormat) : '/' ∉ a.ending.toList := by
  cases a <;> decide

theorem head?_ending_ne (a : RestartFormat) : a.ending.toList.head? ≠ some '/' := by
  cases a <;> decide

theorem hasNull_append_ending (a : RestartFormat) (s : String) :
    Text.hasNull (s ++ a.ending) = Text.hasNull s := by
  have hending : '\x00' ∉ a.ending.toList := by cases a <;> decide
  rw [Bool.eq_iff_iff, Text.hasNull_iff, Text.hasNull_iff, String.toList_append, List.mem_append,
    or_iff_left hending]

theorem ofName_name (a : RestartFormat) : ofName a.name = .ok a := by
  cases a <;> decide

end RestartFormat

theorem ByteOrder.ofSign_sign (o : ByteOrder) : ofSign o.sign = .ok o := by
  cases o <;> decide

namespace RestartFile

variable {f g : RestartFile} {s : String}

theorem fullName_of_eq_append (h : f.fileName = s ++ f.format.ending) : f.fullName = f.fileName :=
  if_pos (Text.endsWith_iff.mpr ⟨s, h⟩)

theorem exists_fullName_eq (f : RestartFile) : ∃ stem, f.fullName = stem ++ f.format.ending := by
  rw [fullName]
  split
  · rename_i h
    exact Text.endsWith_iff.mp h
  · exact ⟨f.fileName, rfl⟩

/-- The last name of the path ends as the format asks. -/
theorem exists_last_path (f : RestartFile) : ∃ stem,
    f.path.parts.getLast? = some (stem ++ f.format.ending) ∧
      Path.IsName (stem ++ f.format.ending) := by
  obtain ⟨s, hs⟩ := f.exists_fullName_eq
  obtain ⟨stem, hstem⟩ := Path.exists_getLast?_ofText_append f.format.slashless_ending
    f.format.keeps_append_ending s
  rw [← hs] at hstem
  exact ⟨stem, Path.getLast?_join hstem, Path.normal_ofText _ _ (List.mem_of_getLast? hstem)⟩

theorem normal_path (h : f.directory.Normal) : f.path.Normal :=
  h.join (Path.normal_ofText f.fullName)

theorem text_ne_of_format_ne (h : g.format ≠ f.format) : g.path.text ≠ f.path.text := by
  obtain ⟨s, hs, -⟩ := f.exists_last_path
  obtain ⟨t, ht, -⟩ := g.exists_last_path
  obtain ⟨before, hf⟩ := Path.exists_text_eq_append hs
  obtain ⟨before', hg⟩ := Path.exists_text_eq_append ht
  intro htext
  rw [hf, hg, ← String.append_assoc, ← String.append_assoc] at htext
  exact h (RestartFormat.ending_injective htext)

theorem resolved_ne_of_format_ne (h : g.format ≠ f.format) :
    g.path.resolved ≠ f.path.resolved := by
  obtain ⟨s, hs, -⟩ := f.exists_last_path
  obtain ⟨t, ht, -⟩ := g.exists_last_path
  have hf := Path.getLast?_resolved hs (f.format.append_ending_ne_up s)
  have hg := Path.getLast?_resolved ht (g.format.append_ending_ne_up t)
  intro hresolved
  rw [hresolved, hf] at hg
  exact h (RestartFormat.ending_injective (Option.some.inj hg)).symm

theorem hasNull_path (f : RestartFile) : f.path.hasNull =
    (decide ((Path.ofText f.fileName).root = .here) && f.directory.hasNull ||
      Text.hasNull f.fileName) := by
  rw [path, Path.hasNull_join, Path.hasNull_ofText, fullName]
  split
  · rfl
  · rw [Path.root_ofText_append f.format.head?_ending_ne, f.format.hasNull_append_ending]

theorem read_congr {d e : Disk} (h : d.find? f.path = e.find? f.path) : f.read d = f.read e := by
  rw [read, read, h]

/-- Writing a restart file leaves that of the other format with the same name alone. -/
theorem read_write_of_format_ne (hdirectory : g.directory = f.directory)
    (hname : g.fileName = f.fileName) (hformat : g.format ≠ f.format) (c : Configuration)
    (disk : Disk) : g.read (f.write c disk).2 = g.read disk := by
  have hnull : g.path.hasNull = f.path.hasNull := by
    rw [hasNull_path, hasNull_path, hdirectory, hname]
  -- a name with a null character is found in neither format; any other is that of the store itself
  have hinsert : ∀ p : Path, (f.path.hasNull = false → p = f.path) → ∀ x,
      Disk.find? (disk.insert p.resolved x) g.path = disk.find? g.path := by
    intro p hp x
    rw [Disk.find?, Disk.find?, hnull]
    cases hf : f.path.hasNull with
    | true => rfl
    | false =>
      rw [hp hf, Keyed.get?_insert, if_neg (resolved_ne_of_format_ne hformat)]
  apply read_congr
  cases hf : f.format with
  | records =>
    rcases write_records hf c disk with ⟨bs, -, -, hdisk⟩ | ⟨e, -, hdisk⟩
    · rw [hdisk, hinsert f.path fun _ ↦ rfl]
    · rw [hdisk]
  | columns =>
    rcases write_columns hf c disk with ⟨p, hp, -, hdisk⟩ | ⟨e, -, -, hdisk⟩
    · rw [hdisk, hinsert p (eq_path_of_storePath hp)]
    · rw [hdisk]

/-- The path of a restart file, whatever its directory and its name, has a last name, which ends as
its format asks. No restart file of another format has the same path, nor one that reads the same or
leads to the same place, and that with the same directory and name is not changed by a write. The
file of the same format with the last name of the path in its parent has the same path; if the
directory was given as a text, so can the parent be. -/
theorem path_separates_formats (f : RestartFile) :
    (f.path.parts.getLast? = some f.path.name ∧ ∃ stem, f.path.name = stem ++ f.format.ending) ∧
    (∀ g : RestartFile, g.format ≠ f.format →
      g.path ≠ f.path ∧ g.path.text ≠ f.path.text ∧ g.path.resolved ≠ f.path.resolved ∧
      (g.directory = f.directory → g.fileName = f.fileName →
        ∀ c disk, g.read (f.write c disk).2 = g.read disk)) ∧
    (∀ compression order,
      path ⟨f.path.parent, f.path.name, f.format, compression, order⟩ = f.path) ∧
    ∀ text, f.directory = Path.ofText text → ∀ compression order,
      ofTexts f.path.parent.text f.path.name f.format.name compression order.sign =
        .ok ⟨f.path.parent, f.path.name, f.format, compression, order⟩ := by
  obtain ⟨stem, hlast, hisName⟩ := f.exists_last_path
  have hname := Path.name_eq hlast
  refine ⟨⟨?_, stem, hname⟩, ?_, ?_, ?_⟩
  · rw [hname]
    exact hlast
  · intro g hg
    have htext := text_ne_of_format_ne hg
    refine ⟨fun h ↦ htext (congrArg Path.text h), htext, resolved_ne_of_format_ne hg, ?_⟩
    intro hdirectory hfileName c disk
    exact read_write_of_format_ne hdirectory hfileName hg c disk
  · intro compression order
    rw [path, fullName_of_eq_append hname, hname]
    exact Path.join_parent_ofText hlast hisName
  · intro text hdirectory compression order
    have hnormal : f.directory.Normal := by
      rw [hdirectory]
      exact Path.normal_ofText text
    rw [ofTexts, f.format.ofName_name, order.ofSign_sign,
      Path.ofText_text (normal_path hnormal).parent]
    rfl

def doubleEnded : RestartFile where
  directory := .ofText "//run/./out/"
  fileName := "base.h5"

theorem path_doubleEnded : doubleEnded.path = ⟨.doubleSlash, ["run", "out", "base.h5.aqr"]⟩ := by
  have hname : doubleEnded.fullName = "base.h5.aqr" := by decide +kernel
  rw [path, hname, doubleEnded, Path.ofText_eq, Path.ofText_eq]
  decide

theorem path_separates_formats_doubleEnded :
    RestartFormat.columns ≠ doubleEnded.format ∧
    path { doubleEnded with format := .columns } ≠ doubleEnded.path ∧
    (∀ c disk, read { doubleEnded with format := .columns } (doubleEnded.write c disk).2 =
      read { doubleEnded with format := .columns } disk) ∧
    ofTexts "//run/out" "base.h5.aqr" "binary" none "<" =
      .ok ⟨⟨.doubleSlash, ["run", "out"]⟩, "base.h5.aqr", .records, none, .little⟩ := by
  have hformat : RestartFormat.columns ≠ doubleEnded.format := by decide
  obtain ⟨-, hapart, -, htexts⟩ := path_separates_formats doubleEnded
  obtain ⟨hpath, -, -, hwrite⟩ := hapart { doubleEnded with format := .columns } hformat
  have hgiven := htexts "//run/./out/" rfl none .little
  rw [path_doubleEnded] at hgiven
  exact ⟨hformat, hpath, hwrite rfl rfl, hgiven⟩

end RestartFile

end Aquifer
