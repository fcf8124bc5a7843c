import Aquifer.Proofs.Deck.Record
import Aquifer.Proofs.Keyed
import Aquifer.Proofs.Written
import Mathlib.Data.List.Nodup
import Mathlib.Data.List.Sort

namespace Aquifer

open Except

variable {keyword name : String} {row : Row} {schema : KeywordSchema} {s : ItemSchema}
  {i : Item} {x : Raw} {e : Fault}

namespace Row

def Gives (row : Row) (name : String) (x : Raw) : Prop := row.get? name = some x ∧ x ≠ .missing

theorem given?_eq_some_iff : row.given? name = some x ↔ row.Gives name x := by
  have hother : ∀ {y : Raw}, y ≠ .missing → (some y = some x ↔ some y = some x ∧ x ≠ .missing) := by
    intro y hy
    refine (and_iff_left_of_imp fun h ↦ ?_).symm
    rw [← Option.some.inj h]
    exact hy
  rw [given?, Gives]
  cases row.get? name with
  | none => exact ⟨nofun, fun h ↦ nomatch h.1⟩
  | some y =>
    cases y with
    | missing => exact ⟨nofun, fun h ↦ absurd (Option.some.inj h.1).symm h.2⟩
    | flag b => exact hother nofun
    | int n => exact hother nofun
    | real y => exact hother nofun
    | text s => exact hother nofun
    | list xs => exact hother nofun

theorem Gives.unique {y : Raw} (hx : row.Gives name x) (hy : row.Gives name y) : x = y :=
  Option.some.inj (hx.1.symm.trans hy.1)

theorem given?_eq_none_iff : row.given? name = none ↔ ∀ x, ¬row.Gives name x := by
  rw [Option.eq_none_iff_forall_ne_some]
  exact forall_congr' fun _ ↦ not_congr given?_eq_some_iff

theorem gives_or (row : Row) (name : String) :
    (∃ x, row.Gives name x) ∨ ∀ x, ¬row.Gives name x := by
  rw [← not_exists]
  exact Classical.em _

/-- Every name in the row is that of an item of the schema. -/
def Within (row : Row) (schema : KeywordSchema) : Prop :=
  ∀ name ∈ row.keys, ∃ s ∈ schema.items, s.name = name

instance : Decidable (row.Within schema) :=
  inferInstanceAs (Decidable (∀ name ∈ row.keys, ∃ s ∈ schema.items, s.name = name))

theorem mem_unknown :
    name ∈ row.unknown schema ↔ name ∈ row.keys ∧ ∀ s ∈ schema.items, s.name ≠ name := by
  simp [unknown, List.mem_mergeSort, List.mem_filter]

/-- The unknown names are in increasing order, each of them once. -/
theorem pairwise_unknown (row : Row) (schema : KeywordSchema) :
    (row.unknown schema).Pairwise (· < ·) := by
  have hsorted : (row.unknown schema).Pairwise (· ≤ ·) := by
    refine (List.pairwise_mergeSort ?_ ?_ _).imp of_decide_eq_true
    · intro a b c hab hbc
      exact decide_eq_true (String.le_trans (of_decide_eq_true hab) (of_decide_eq_true hbc))
    · intro a b
      simpa using String.le_total a b
  have hnodup : (row.unknown schema).Nodup :=
    (List.mergeSort_perm _ _).nodup_iff.mpr (row.nodup_keys.filter _)
  exact (hsorted.and hnodup).imp fun h ↦ Std.lt_of_le_of_ne h.1 h.2

theorem unknown_eq_nil_iff : row.unknown schema = [] ↔ row.Within schema := by
  rw [List.eq_nil_iff_forall_not_mem, Within]
  simp only [mem_unknown, not_and, not_forall, not_not, exists_prop]

end Row

/-- An integer is the text of its digits, if it does not have too many. -/
theorem ItemType.convert_text_of_writable {n : Int} (h : Number.Writable n) :
    text.convert (.int n) = .ok (.text (toString n)) := by
  have htext : (Raw.int n).toText = Text.written (Number.intText? n) := rfl
  rw [convert, htext, Number.intText?_of_writable h]
  rfl

theorem ItemType.convert_text_of_not_writable {n : Int} (h : ¬Number.Writable n) :
    text.convert (.int n) = .error .notANumber := by
  have htext : (Raw.int n).toText = Text.written (Number.intText? n) := rfl
  rw [convert, htext, Number.intText?_of_not_writable h]
  rfl

namespace ItemSchema

/-- What the row says about the item will do: it gives the item if that must be given, and a value
that it gives converts. -/
structure Admits (s : ItemSchema) (row : Row) : Prop where
  given : s.required = true → ∃ x, row.Gives s.name x
  converts : ∀ x, row.Gives s.name x → ∃ v, s.type.convert x = .ok v

inductive Refuses (s : ItemSchema) (keyword : String) (row : Row) : Fault → Prop
  | leftOut (hrequired : s.required = true) (h : ∀ x, ¬row.Gives s.name x) :
      Refuses s keyword row (.itemRequired keyword s.name)
  | unconvertible {x : Raw} {e : Fault} (hx : row.Gives s.name x)
      (h : s.type.convert x = .error e) : Refuses s keyword row e

theorem resolve_of_gives (hx : row.Gives s.name x) : s.resolve keyword row =
    (s.type.convert x).map fun v ↦ ⟨s.name, some v, false, s.dimension⟩ := by
  rw [resolve, Row.given?_eq_some_iff.mpr hx]

theorem resolve_of_leftOut (h : ∀ x, ¬row.Gives s.name x) : s.resolve keyword row =
    if s.required then .error (.itemRequired keyword s.name)
    else .ok ⟨s.name, s.fallback, true, s.dimension⟩ := by
  rw [resolve, Row.given?_eq_none_iff.mpr h]

/-- An item is resolved to the value that is given, or to its default. -/
theorem resolve_eq_ok_iff : s.resolve keyword row = .ok i ↔
    (∃ x v, row.Gives s.name x ∧ s.type.convert x = .ok v ∧
      i = ⟨s.name, some v, false, s.dimension⟩) ∨
    (∀ x, ¬row.Gives s.name x) ∧ s.required = false ∧
      i = ⟨s.name, s.fallback, true, s.dimension⟩ := by
  rcases row.gives_or s.name with ⟨x, hx⟩ | hnone
  · rw [resolve_of_gives hx, map_eq_ok_iff]
    constructor
    · intro h
      obtain ⟨v, hv, rfl⟩ := h
      exact Or.inl ⟨x, v, hx, hv, rfl⟩
    · rintro (⟨y, v, hy, hv, rfl⟩ | ⟨hnone, -⟩)
      · cases hx.unique hy
        exact ⟨v, hv, rfl⟩
      · exact absurd hx (hnone x)
  · rw [resolve_of_leftOut hnone]
    constructor
    · intro h
      split at h
      · cases h
      · rename_i hrequired
        cases h
        exact Or.inr ⟨hnone, Bool.not_eq_true _ ▸ hrequired, rfl⟩
    · rintro (⟨x, v, hx, -⟩ | ⟨-, hrequired, rfl⟩)
      · exact absurd hx (hnone x)
      · rw [hrequired]
        rfl

theorem resolve_eq_error_iff : s.resolve keyword row = .error e ↔ s.Refuses keyword row e := by
  rcases row.gives_or s.name with ⟨x, hx⟩ | hnone
  · rw [resolve_of_gives hx, map_eq_error_iff]
    constructor
    · exact .unconvertible hx
    · intro h
      cases h with
      | leftOut _ hnone => exact absurd hx (hnone x)
      | unconvertible hy h =>
        cases hx.unique hy
        exact h
  · rw [resolve_of_leftOut hnone]
    constructor
    · intro h
      split at h
      · rename_i hrequired
        cases h
        exact .leftOut hrequired hnone
      · cases h
    · intro h
      cases h with
      | leftOut hrequired _ => rw [hrequired]; rfl
      | unconvertible hx _ => exact absurd hx (hnone _)

theorem exists_resolve_iff (keyword : String) :
    (∃ i, s.resolve keyword row = .ok i) ↔ s.Admits row := by
  simp only [resolve_eq_ok_iff]
  constructor
  · rintro ⟨i, ⟨x, v, hx, hv, -⟩ | ⟨hnone, hrequired, -⟩⟩
    · refine ⟨fun _ ↦ ⟨x, hx⟩, fun y hy ↦ ?_⟩
      cases hx.unique hy
      exact ⟨v, hv⟩
    · exact ⟨fun h ↦ absurd (hrequired.symm.trans h) nofun, fun x hx ↦ absurd hx (hnone x)⟩
  · intro h
    rcases row.gives_or s.name with ⟨x, hx⟩ | hnone
    · obtain ⟨v, hv⟩ := h.converts x hx
      exact ⟨_, Or.inl ⟨x, v, hx, hv, rfl⟩⟩
    · refine ⟨_, Or.inr ⟨hnone, ?_, rfl⟩⟩
      rw [← Bool.not_eq_true]
      intro hrequired
      obtain ⟨x, hx⟩ := h.given hrequired
      exact hnone x hx

instance : Decidable (s.Admits row) :=
  decidable_of_iff ((s.resolve s.name row).isOk = true) <| by
    rw [← exists_resolve_iff s.name]
    cases s.resolve s.name row with
    | ok i => exact ⟨fun _ ↦ ⟨i, rfl⟩, fun _ ↦ rfl⟩
    | error e => exact ⟨nofun, nofun⟩

end ItemSchema

namespace KeywordSchema

/-- What is reported about the row: the names that no item has, in increasing order, if there are
any; or else what is reported about the first item that the row does not do for. -/
inductive Refuses (schema : KeywordSchema) (row : Row) : Fault → Prop
  | unknown {names : List String} (hnames : names ≠ []) (hsorted : names.Pairwise (· < ·))
      (h : ∀ name, name ∈ names ↔ name ∈ row.keys ∧ ∀ s ∈ schema.items, s.name ≠ name) :
      Refuses schema row (.unknownItems schema.name names)
  | item {before after : List ItemSchema} {s : ItemSchema} {e : Fault}
      (hwithin : row.Within schema) (hitems : schema.items = before ++ s :: after)
      (hbefore : ∀ t ∈ before, t.Admits row) (h : s.Refuses schema.name row e) :
      Refuses schema row e

theorem name_of_find? (hs : find? keyword = some schema) : schema.name = keyword := by
  rw [find?] at hs
  have hname := List.find?_some hs
  exact beq_iff_eq.mp hname

theorem nodup_names (hs : find? keyword = some schema) : (schema.items.map (·.name)).Nodup := by
  have hall : ∀ schema ∈ all, (schema.items.map (·.name)).Nodup := by decide
  exact hall schema (List.mem_of_find?_eq_some hs)

end KeywordSchema

namespace Record

variable {r : Record} {u : UnitSystem}

theorem ofRow_of_within (hs : KeywordSchema.find? keyword = some schema)
    (h : row.Within schema) (u : UnitSystem) : ofRow keyword row u =
      (schema.items.mapM (ItemSchema.resolve keyword row)).map fun items ↦ ⟨keyword, items, u⟩ := by
  simp only [ofRow, hs, Row.unknown_eq_nil_iff.mpr h]
  rfl

theorem ofRow_of_not_within (hs : KeywordSchema.find? keyword = some schema)
    (h : ¬row.Within schema) (u : UnitSystem) :
    ofRow keyword row u = .error (.unknownItems keyword (row.unknown schema)) := by
  rw [← Row.unknown_eq_nil_iff, ← List.isEmpty_iff, Bool.not_eq_true] at h
  simp only [ofRow, hs, h]
  rfl

theorem ofRow_eq_ok_iff (hs : KeywordSchema.find? keyword = some schema) :
    ofRow keyword row u = .ok r ↔ row.Within schema ∧
      schema.items.mapM (ItemSchema.resolve keyword row) = .ok r.items ∧ r.keyword = keyword ∧
      r.units = u := by
  by_cases hwithin : row.Within schema
  · rw [ofRow_of_within hs hwithin, map_eq_ok_iff]
    constructor
    · intro h
      obtain ⟨items, hitems, rfl⟩ := h
      exact ⟨hwithin, hitems, rfl, rfl⟩
    · intro h
      obtain ⟨-, hitems, rfl, rfl⟩ := h
      exact ⟨r.items, hitems, rfl⟩
  · rw [ofRow_of_not_within hs hwithin]
    exact ⟨nofun, fun h ↦ absurd h.1 hwithin⟩

/-- A row makes a record just if it has no unknown names and will do for each item. -/
theorem exists_ofRow_iff (hs : KeywordSchema.find? keyword = some schema) :
    (∃ r, ofRow keyword row u = .ok r) ↔ row.Within schema ∧ ∀ s ∈ schema.items, s.Admits row := by
  simp only [ofRow_eq_ok_iff hs, ← ItemSchema.exists_resolve_iff keyword]
  constructor
  · intro h
    obtain ⟨r, hwithin, hitems, -⟩ := h
    refine ⟨hwithin, fun s hmem ↦ ?_⟩
    obtain ⟨i, -, hi⟩ := (exists_of_mem_mapM hitems).1 s hmem
    exact ⟨i, hi⟩
  · intro h
    obtain ⟨items, hitems⟩ := exists_mapM_eq_ok h.2
    exact ⟨⟨keyword, items, u⟩, h.1, hitems, rfl, rfl⟩

theorem ofRow_eq_error_iff (hs : KeywordSchema.find? keyword = some schema) :
    ofRow keyword row u = .error e ↔ schema.Refuses row e := by
  have hname := KeywordSchema.name_of_find? hs
  constructor
  · intro h
    by_cases hwithin : row.Within schema
    · rw [ofRow_of_within hs hwithin, map_eq_error_iff, mapM_eq_error_iff, ← hname] at h
      obtain ⟨before, s, after, hitems, hbefore, h⟩ := h
      refine .item hwithin hitems (fun t ht ↦ ?_) (ItemSchema.resolve_eq_error_iff.mp h)
      exact (ItemSchema.exists_resolve_iff _).mp (hbefore t ht)
    · rw [ofRow_of_not_within hs hwithin, ← hname] at h
      cases h
      exact .unknown (mt Row.unknown_eq_nil_iff.mp hwithin) (row.pairwise_unknown schema)
        fun _ ↦ Row.mem_unknown
  · intro h
    cases h with
    | @unknown names hnames hsorted h =>
      -- lists in increasing order are known by what is in them
      have heq : row.unknown schema = names :=
        (row.pairwise_unknown schema).eq_of_mem_iff hsorted fun name ↦
          Row.mem_unknown.trans (h name).symm
      have hwithin : ¬row.Within schema := by
        rw [← Row.unknown_eq_nil_iff, heq]
        exact hnames
      rw [ofRow_of_not_within hs hwithin, heq, hname]
    | @item before after s e hwithin hitems hbefore h =>
      rw [ofRow_of_within hs hwithin, map_eq_error_iff, mapM_eq_error_iff, ← hname]
      refine ⟨before, s, after, hitems, fun t ht ↦ ?_, ItemSchema.resolve_eq_error_iff.mpr h⟩
      exact (ItemSchema.exists_resolve_iff _).mpr (hbefore t ht)

def givenEntries (items : List Item) : List (String × Raw) :=
  items.filterMap fun i ↦ if i.defaulted then none else i.value.map fun v ↦ (i.name, v.raw)

def givenRow (r : Record) : Row := .ofList (givenEntries r.items)

theorem mem_givenEntries {items : List Item} : (name, x) ∈ givenEntries items ↔
    ∃ i ∈ items, i.name = name ∧ i.defaulted = false ∧ ∃ v, i.value = some v ∧ x = v.raw := by
  rw [givenEntries, List.mem_filterMap]
  refine exists_congr fun i ↦ and_congr_right fun _ ↦ ?_
  cases hd : i.defaulted <;> cases hv : i.value <;> simp [eq_comm]

theorem sublist_names (items : List Item) :
    ((givenEntries items).map Prod.fst).Sublist (items.map (·.name)) := by
  induction items with
  | nil => exact .refl _
  | cons i items ih =>
    rw [givenEntries, List.filterMap_cons]
    split
    · exact ih.cons _
    · rename_i e he
      obtain ⟨v, -, rfl⟩ := Option.map_eq_some_iff.mp (Option.ite_none_left_eq_some.mp he).2
      exact ih.cons_cons _

theorem entries_givenRow (hr : (r.items.map (·.name)).Nodup) :
    r.givenRow.entries = givenEntries r.items :=
  Keyed.entries_ofList (hr.sublist (sublist_names r.items))

theorem givenRow_gives_iff (hr : (r.items.map (·.name)).Nodup) : r.givenRow.Gives name x ↔
    ∃ i ∈ r.items, i.name = name ∧ i.defaulted = false ∧ ∃ v, i.value = some v ∧ x = v.raw := by
  have hentries := entries_givenRow hr
  rw [← mem_givenEntries, ← hentries]
  constructor
  · exact fun h ↦ Keyed.mem_of_get? h.1
  · intro h
    refine ⟨Keyed.get?_of_mem h, ?_⟩
    rw [hentries, mem_givenEntries] at h
    obtain ⟨i, -, -, -, v, -, rfl⟩ := h
    cases v <;> exact nofun

theorem item_of_mem (hr : (r.items.map (·.name)).Nodup) (hi : i ∈ r.items) :
    r.item i.name = .ok i := by
  have hsome : (r.items.find? (·.name == i.name)).isSome = true := by
    rw [List.find?_isSome]
    exact ⟨i, hi, beq_self_eq_true i.name⟩
  obtain ⟨j, hj⟩ := Option.isSome_iff_exists.mp hsome
  have hname := List.find?_some hj
  rw [beq_iff_eq] at hname
  rw [item, hj, List.inj_on_of_nodup_map hr (List.mem_of_find?_eq_some hj) hi hname]

/-- What was made of the items of a record's row is made again of what was given. -/
theorem resolve_givenRow (hr : (r.items.map (·.name)).Nodup) (hi : i ∈ r.items)
    (h : s.resolve keyword row = .ok i) : s.resolve keyword r.givenRow = .ok i := by
  rw [ItemSchema.resolve_eq_ok_iff] at h ⊢
  simp only [givenRow_gives_iff hr]
  rcases h with ⟨x, v, -, hv, rfl⟩ | ⟨-, hrequired, rfl⟩
  · refine Or.inl ⟨v.raw, v, ⟨_, hi, rfl, rfl, v, rfl, rfl⟩, ?_, rfl⟩
    rw [← type_of_convert hv, convert_raw]
  · refine Or.inr ⟨fun x h ↦ ?_, hrequired, rfl⟩
    obtain ⟨j, hj, hname, hgiven, -⟩ := h
    rw [List.inj_on_of_nodup_map hr hj hi hname] at hgiven
    cases hgiven

/-- The record has the items of the schema, in order: those that the row gives with the values that
they convert to, and those that are left out with their defaults. -/
structure Follows (r : Record) (schema : KeywordSchema) (row : Row) (u : UnitSystem) : Prop where
  keyword : r.keyword = schema.name
  units : r.units = u
  items : r.items.map (fun i ↦ (i.name, i.dimension)) =
    schema.items.map fun s ↦ (s.name, s.dimension)
  given : ∀ s ∈ schema.items, ∀ x, row.Gives s.name x → r.defaulted s.name = .ok false ∧
    ∃ v, s.type.convert x = .ok v ∧ r.get s.name = .ok v
  leftOut : ∀ s ∈ schema.items, (∀ x, ¬row.Gives s.name x) → r.defaulted s.name = .ok true ∧
    r.get s.name = s.fallback.elim (.error (.itemUnset schema.name s.name)) .ok

theorem items_eq_of_mapM {items : List Item}
    (h : schema.items.mapM (ItemSchema.resolve keyword row) = .ok items) :
    items.map (fun i ↦ (i.name, i.dimension)) = schema.items.map fun s ↦ (s.name, s.dimension) := by
  symm
  rw [← List.forall₂_eq_eq_eq, List.forall₂_map_left_iff, List.forall₂_map_right_iff]
  refine (mapM_eq_ok_iff.mp h).imp fun s i hi ↦ ?_
  rcases ItemSchema.resolve_eq_ok_iff.mp hi with ⟨x, v, -, -, rfl⟩ | ⟨-, -, rfl⟩ <;> rfl

theorem nodup_of_ofRow (hs : KeywordSchema.find? keyword = some schema)
    (h : ofRow keyword row u = .ok r) : (r.items.map (·.name)).Nodup := by
  have hnames := congrArg (List.map Prod.fst) (items_eq_of_mapM (items_of_ofRow h hs))
  rw [List.map_map, List.map_map] at hnames
  exact hnames ▸ KeywordSchema.nodup_names hs

theorem follows_of_ofRow (hs : KeywordSchema.find? keyword = some schema)
    (h : ofRow keyword row u = .ok r) : r.Follows schema row u := by
  have hnodup := nodup_of_ofRow hs h
  obtain ⟨-, hitems, hkeyword, hunits⟩ := (ofRow_eq_ok_iff hs).mp h
  have hname := KeywordSchema.name_of_find? hs
  refine ⟨hkeyword.trans hname.symm, hunits, items_eq_of_mapM hitems, fun s hmem x hx ↦ ?_,
    fun s hmem hnone ↦ ?_⟩
  · obtain ⟨i, hi, hresolve⟩ := (exists_of_mem_mapM hitems).1 s hmem
    rw [ItemSchema.resolve_of_gives hx] at hresolve
    obtain ⟨v, hv, rfl⟩ := map_eq_ok_iff.mp hresolve
    have hitem := item_of_mem hnodup hi
    rw [defaulted, get, hitem]
    exact ⟨rfl, v, hv, rfl⟩
  · obtain ⟨i, hi, hresolve⟩ := (exists_of_mem_mapM hitems).1 s hmem
    rw [ItemSchema.resolve_of_leftOut hnone] at hresolve
    split at hresolve
    · cases hresolve
    · cases hresolve
      have hitem := item_of_mem hnodup hi
      rw [defaulted, get, hitem, hname, hkeyword]
      refine ⟨rfl, ?_⟩
      cases s.fallback <;> rfl

/-- What was given for a record makes the same record again. -/
theorem ofRow_givenRow (hs : KeywordSchema.find? keyword = some schema)
    (h : ofRow keyword row u = .ok r) : ofRow keyword r.givenRow u = .ok r := by
  have hnodup := nodup_of_ofRow hs h
  obtain ⟨-, hitems, hkeyword, hunits⟩ := (ofRow_eq_ok_iff hs).mp h
  refine (ofRow_eq_ok_iff hs).mpr ⟨fun name hname ↦ ?_, ?_, hkeyword, hunits⟩
  · rw [Keyed.keys, entries_givenRow hnodup] at hname
    obtain ⟨⟨_, x⟩, he, rfl⟩ := List.mem_map.mp hname
    obtain ⟨i, hi, rfl, -⟩ := mem_givenEntries.mp he
    obtain ⟨s, hmem, hresolve⟩ := (exists_of_mem_mapM hitems).2 i hi
    exact ⟨s, hmem, (ItemSchema.conforms_of_resolve hresolve).name.symm⟩
  · have hagain : ∀ s ∈ schema.items, s.resolve keyword r.givenRow = s.resolve keyword row := by
      intro s hmem
      obtain ⟨i, hi, hresolve⟩ := (exists_of_mem_mapM hitems).1 s hmem
      rw [hresolve, resolve_givenRow hnodup hi hresolve]
    rw [mapM_eq_ok_iff] at hitems ⊢
    exact ((List.forall₂_and_left _ _).mpr ⟨hagain, hitems⟩).imp fun s i h ↦ h.1.trans h.2

/-- A row makes a record just if it has no unknown names, gives what must be given, and what it
gives converts. The record follows the schema and the row, and is made again of what was given for
it. Otherwise the unknown names are reported if there are any, or else the first item that is at
fault. -/
theorem ofRow_resolves (hs : KeywordSchema.find? keyword = some schema) (row : Row)
    (u : UnitSystem) :
    ((∃ r, ofRow keyword row u = .ok r) ↔
      row.Within schema ∧ ∀ s ∈ schema.items, s.Admits row) ∧
    (∀ r, ofRow keyword row u = .ok r → r.Follows schema row u ∧
      ofRow keyword r.givenRow u = .ok r) ∧
    ∀ e, ofRow keyword row u = .error e ↔ schema.Refuses row e :=
  ⟨exists_ofRow_iff hs, fun _ h ↦ ⟨follows_of_ofRow hs h, ofRow_givenRow hs h⟩,
    fun _ ↦ ofRow_eq_error_iff hs⟩

def numberedFace (n : Int) : Row :=
  .ofList [("AQUIFER_ID", .int 1), ("I1", .int 1), ("I2", .int 1), ("J1", .int 1), ("J2", .int 1),
    ("K1", .int 1), ("K2", .int 1), ("FACE", .int n)]

/-- Two names that no item has are reported even if one has no value, and an item that is left out
before one that does not convert. A number is a text unless it has too many digits. -/
theorem ofRow_resolves_flux :
    (∃ r, ofRow "AQUFLUX" (.ofList [("FLUX", .real 1.0), ("AQUIFER_ID", .text " +7 "),
        ("SC_0", .missing)]) .field = .ok r ∧ r.get "AQUIFER_ID" = .ok (.int 7) ∧
      r.defaulted "SC_0" = .ok true ∧ ofRow "AQUFLUX" r.givenRow .field = .ok r) ∧
    ofRow "AQUFLUX" (.ofList [("Z", .missing), ("FLUX", .text "x"), ("B", .int 1)]) .field =
      .error (.unknownItems "AQUFLUX" ["B", "Z"]) ∧
    ofRow "AQUFLUX" (.ofList [("FLUX", .text "x")]) .field =
      .error (.itemRequired "AQUFLUX" "AQUIFER_ID") ∧
    (∃ n : Nat, n = 10 ^ Number.maxDigits ∧
      ofRow "AQUANCON" (numberedFace n) .metric = .error .notANumber) ∧
    ∃ r, ofRow "AQUANCON" (numberedFace 7) .metric = .ok r ∧ r.get "FACE" = .ok (.text "7") := by
  have hs : KeywordSchema.find? "AQUFLUX" = some .aquflux := rfl
  have hface : KeywordSchema.find? "AQUANCON" = some .aquancon := rfl
  refine ⟨?_, ?_, ?_, ?_, ?_⟩
  · obtain ⟨hok, hrecord, -⟩ := ofRow_resolves hs (.ofList [("FLUX", .real 1.0),
      ("AQUIFER_ID", .text " +7 "), ("SC_0", .missing)]) .field
    obtain ⟨r, hr⟩ := hok.mpr ⟨by decide, by decide⟩
    obtain ⟨hfollows, hagain⟩ := hrecord r hr
    obtain ⟨-, v, hv, hget⟩ := hfollows.given _ (.head _) (.text " +7 ") ⟨rfl, nofun⟩
    cases hv
    refine ⟨r, hr, hget, ?_, hagain⟩
    refine (hfollows.leftOut _ (.tail _ (.tail _ (.head _))) fun x hx ↦ hx.2 ?_).1
    exact (Option.some.inj hx.1).symm
  · refine ((ofRow_resolves hs _ .field).2.2 _).mpr (.unknown (by decide) (by decide) ?_)
    have hin : ∀ name ∈ ["B", "Z"], name ∈ ["Z", "FLUX", "B"] ∧
        ∀ s ∈ KeywordSchema.aquflux.items, s.name ≠ name := by decide
    have hout : ∀ name ∈ ["Z", "FLUX", "B"], (∀ s ∈ KeywordSchema.aquflux.items, s.name ≠ name) →
        name ∈ ["B", "Z"] := by decide
    exact fun name ↦ ⟨hin name, fun h ↦ hout name h.1 h.2⟩
  · refine ((ofRow_resolves hs _ .field).2.2 _).mpr
      (.item (by decide) (List.nil_append _).symm nofun (.leftOut rfl fun x hx ↦ nomatch hx.1))
  · have hlong := Number.not_writable_pow
    generalize 10 ^ Number.maxDigits = n at hlong
    refine ⟨n, rfl, ((ofRow_resolves hface _ .metric).2.2 _).mpr ?_⟩
    have hitems : KeywordSchema.aquancon.items = KeywordSchema.aquancon.items.take 7 ++
        KeywordSchema.word "FACE" :: KeywordSchema.aquancon.items.drop 8 := rfl
    exact .item (of_decide_eq_true rfl) hitems (of_decide_eq_true rfl)
      (.unconvertible ⟨rfl, nofun⟩ (ItemType.convert_text_of_not_writable hlong))
  · obtain ⟨hok, hrecord, -⟩ := ofRow_resolves hface (numberedFace 7) .metric
    obtain ⟨r, hr⟩ := hok.mpr ⟨by decide, by decide⟩
    have hword : KeywordSchema.word "FACE" ∈ KeywordSchema.aquancon.items := by
      simp [KeywordSchema.aquancon]
    obtain ⟨-, v, hv, hget⟩ := (hrecord r hr).1.given _ hword (.int 7) ⟨rfl, nofun⟩
    have hshort : Number.Writable 7 := Number.lt_pow_maxDigits (by decide)
    cases (ItemType.convert_text_of_writable hshort).symm.trans hv
    exact ⟨r, hr, hget⟩

end Record

end Aquifer
