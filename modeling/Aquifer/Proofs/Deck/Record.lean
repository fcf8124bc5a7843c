import Aquifer.Deck.Basic
import Aquifer.Grid.Face
import Aquifer.Proofs.Outcome

namespace Aquifer

structure Item.Conforms (i : Item) (s : ItemSchema) : Prop where
  name : i.name = s.name
  dimension : i.dimension = s.dimension
  given : i.defaulted = false → ∃ v, i.value = some v ∧ v.type = s.type
  leftOut : i.defaulted = true → s.required = false ∧ i.value = s.fallback

def ItemSchema.filled (s : ItemSchema) : Bool := s.required || s.fallback.any (·.type == s.type)

theorem ItemSchema.conforms_of_resolve {s : ItemSchema} {keyword : String} {row : Row} {i : Item}
    (h : s.resolve keyword row = .ok i) : i.Conforms s := by
  rw [ItemSchema.resolve] at h
  split at h
  · obtain ⟨v, hv, rfl⟩ := Except.map_eq_ok_iff.mp h
    exact ⟨rfl, rfl, fun _ ↦ ⟨v, rfl, type_of_convert hv⟩, nofun⟩
  · split at h
    · exact nomatch h
    · rename_i hrequired
      cases Except.ok.inj h
      exact ⟨rfl, rfl, nofun, fun _ ↦ ⟨Bool.not_eq_true _ ▸ hrequired, rfl⟩⟩

theorem Item.Conforms.exists_value {i : Item} {s : ItemSchema} (h : i.Conforms s)
    (hv : s.filled = true ∨ i.defaulted = false) : ∃ v, i.value = some v ∧ v.type = s.type := by
  cases hd : i.defaulted with
  | false => exact h.given hd
  | true =>
    obtain ⟨hrequired, hvalue⟩ := h.leftOut hd
    rw [hd] at hv
    have hfilled : s.filled = true := hv.resolve_right nofun
    rw [ItemSchema.filled, hrequired, Bool.false_or, Option.any_eq_true] at hfilled
    obtain ⟨v, hfallback, htype⟩ := hfilled
    exact ⟨v, hvalue.trans hfallback, beq_iff_eq.mp htype⟩

def ItemSchema.wellTyped (s : ItemSchema) : Bool := s.fallback.all (·.type == s.type)

theorem Item.Conforms.type_eq {i : Item} {s : ItemSchema} (h : i.Conforms s)
    (hs : s.wellTyped = true) {v : Value} (hv : i.value = some v) : v.type = s.type := by
  cases hd : i.defaulted with
  | false =>
    obtain ⟨w, hw, htype⟩ := h.given hd
    cases hw.symm.trans hv
    exact htype
  | true =>
    have hfallback := (h.leftOut hd).2.symm.trans hv
    rw [ItemSchema.wellTyped, hfallback, Option.all_some] at hs
    exact beq_iff_eq.mp hs

section Value

variable {v : Value}

theorem Value.exists_int (h : v.type = .int) : ∃ n, v = .int n := by
  cases v with
  | int n => exact ⟨n, rfl⟩
  | real _ | text _ => cases h

theorem Value.exists_real (h : v.type = .real) : ∃ x, v = .real x := by
  cases v with
  | real x => exact ⟨x, rfl⟩
  | int _ | text _ => cases h

theorem Value.exists_text (h : v.type = .text) : ∃ t, v = .text t := by
  cases v with
  | text t => exact ⟨t, rfl⟩
  | int _ | real _ => cases h

end Value

def Row.resolves (s : KeywordSchema) (row : Row) : Bool :=
  (row.keys.all fun name ↦ s.items.any (·.name == name)) &&
    s.items.all fun i ↦ (i.resolve s.name row).isOk

namespace Record

def HasInt (r : Record) (name : String) (n : Int) : Prop := r.get name = .ok (.int n)

def HasReal (r : Record) (name : String) (x : Double) : Prop := r.get name = .ok (.real x)

def HasText (r : Record) (name s : String) : Prop := r.get name = .ok (.text s)

/-- The item of the record is a quantity of this dimension, and this is its value in SI. -/
def Measures (r : Record) (name : String) (d : Dimension) (x : Double) : Prop :=
  ∃ y, r.HasReal name y ∧ x = r.units.toSI d y

/-- The value is the item's own if the item was given, and the fallback if not. -/
def Fills {α : Type} (r : Record) (name : String) (own : α → Prop) (fallback : Except Fault α)
    (a : α) : Prop :=
  r.defaulted name = .ok false ∧ own a ∨ r.defaulted name = .ok true ∧ fallback = .ok a

def MeasuresIfGiven (r : Record) (name : String) (d : Dimension) (x : Option Double) : Prop :=
  r.Fills name (fun x ↦ ∃ y, x = some y ∧ r.Measures name d y) (.ok none) x

def Conforms (r : Record) (schema : KeywordSchema) : Prop :=
  List.Forall₂ (fun s i ↦ Item.Conforms i s) schema.items r.items

variable {r : Record} {schema : KeywordSchema} {s : ItemSchema}

theorem eq_of_ofRow {keyword : String} {row : Row} {u : UnitSystem}
    (h : ofRow keyword row u = .ok r) (hs : KeywordSchema.find? keyword = some schema) :
    ∃ items, schema.items.mapM (·.resolve keyword row) = .ok items ∧ r = ⟨keyword, items, u⟩ := by
  simp only [ofRow, hs] at h
  split at h
  · exact nomatch h
  · obtain ⟨items, hitems, h⟩ := Except.bind_eq_ok_iff.mp h
    exact ⟨items, hitems, (Except.ok.inj h).symm⟩

theorem items_of_ofRow {keyword : String} {row : Row} {u : UnitSystem}
    (h : ofRow keyword row u = .ok r) (hs : KeywordSchema.find? keyword = some schema) :
    schema.items.mapM (·.resolve keyword row) = .ok r.items := by
  obtain ⟨items, hitems, rfl⟩ := eq_of_ofRow h hs
  exact hitems

theorem conforms_of_ofRow {keyword : String} {row : Row} {u : UnitSystem}
    (h : ofRow keyword row u = .ok r) (hs : KeywordSchema.find? keyword = some schema) :
    r.Conforms schema :=
  (Except.mapM_eq_ok_iff.mp (items_of_ofRow h hs)).imp fun _ _ ↦ ItemSchema.conforms_of_resolve

/-- A row makes a record if it has only items of the schema, and these can be resolved. -/
theorem ofRow_eq_ok {keyword : String} {row : Row} {u : UnitSystem} {items : List Item}
    (hs : KeywordSchema.find? keyword = some schema)
    (hknown : (row.keys.filter fun n ↦ !schema.items.any (·.name == n)) = [])
    (hitems : schema.items.mapM (·.resolve keyword row) = .ok items) :
    ofRow keyword row u = .ok ⟨keyword, items, u⟩ := by
  simp only [ofRow, hs, Row.unknown, hknown, List.mergeSort_nil, hitems]
  rfl

theorem value_of_get {name : String} {i : Item} {v : Value} (hi : r.item name = .ok i)
    (hv : r.get name = .ok v) : i.value = some v := by
  rw [get, hi, Except.ok_bind] at hv
  split at hv
  · rename_i w hw
    exact hw.trans (congrArg some (Except.ok.inj hv))
  · exact nomatch hv

theorem Conforms.exists_item (h : r.Conforms schema) (name : String)
    (hs : schema.items.find? (·.name == name) = some s) :
    ∃ i, r.item name = .ok i ∧ i.Conforms s := by
  have hfind : ∀ {ss : List ItemSchema} {is : List Item},
      List.Forall₂ (fun s i ↦ Item.Conforms i s) ss is → ss.find? (·.name == name) = some s →
      ∃ i, is.find? (·.name == name) = some i ∧ i.Conforms s := by
    intro ss is h hs
    induction h with
    | nil => exact nomatch hs
    | @cons t i ss is hi _ ih =>
      rw [List.find?_cons] at hs ⊢
      rw [hi.name]
      split at hs
      · cases hs
        exact ⟨i, rfl, hi⟩
      · exact ih hs
  obtain ⟨i, hi, hconforms⟩ := hfind h hs
  exact ⟨i, by rw [item, hi], hconforms⟩

theorem Conforms.exists_defaulted (h : r.Conforms schema) (name : String)
    (hs : schema.items.find? (·.name == name) = some s) : ∃ b, r.defaulted name = .ok b := by
  obtain ⟨i, hi, -⟩ := h.exists_item name hs
  exact ⟨i.defaulted, by rw [defaulted, hi]; rfl⟩

/-- An item that always has a value, or was given, can be read. -/
theorem Conforms.exists_get (h : r.Conforms schema) (name : String)
    (hs : schema.items.find? (·.name == name) = some s)
    (hv : s.filled = true ∨ r.defaulted name = .ok false) :
    ∃ v, r.get name = .ok v ∧ v.type = s.type := by
  obtain ⟨i, hi, hconforms⟩ := h.exists_item name hs
  rw [defaulted, hi] at hv
  obtain ⟨v, hvalue, htype⟩ := hconforms.exists_value (hv.imp_right Except.ok.inj)
  refine ⟨v, ?_, htype⟩
  rw [get, hi, Except.ok_bind, hvalue]

theorem Conforms.type_of_get (h : r.Conforms schema) {name : String}
    (hs : schema.items.find? (·.name == name) = some s) (hw : s.wellTyped = true) {v : Value}
    (hv : r.get name = .ok v) : v.type = s.type := by
  obtain ⟨i, hi, hconforms⟩ := h.exists_item name hs
  exact hconforms.type_eq hw (value_of_get hi hv)

/-- Integers are never converted again when they are read. -/
theorem Conforms.hasInt_of_int (h : r.Conforms schema) (name : String)
    (hs : schema.items.find? (·.name == name) = some s) (ht : s.type = .int)
    (hw : s.wellTyped = true) {n : Int} (hn : r.int name = .ok n) : r.HasInt name n := by
  obtain ⟨v, hget, hn⟩ := Except.bind_eq_ok_iff.mp hn
  obtain ⟨m, rfl⟩ := Value.exists_int ((h.type_of_get hs hw hget).trans ht)
  cases hn
  exact hget

theorem Conforms.hasReal_of_real (h : r.Conforms schema) (name : String)
    (hs : schema.items.find? (·.name == name) = some s) (ht : s.type = .real)
    (hw : s.wellTyped = true) {x : Double} (hx : r.real name = .ok x) : r.HasReal name x := by
  obtain ⟨v, hget, hx⟩ := Except.bind_eq_ok_iff.mp hx
  obtain ⟨y, rfl⟩ := Value.exists_real ((h.type_of_get hs hw hget).trans ht)
  cases hx
  exact hget

theorem Conforms.exists_hasText (h : r.Conforms schema) (name : String)
    (hs : schema.items.find? (·.name == name) = some s) (ht : s.type = .text)
    (hw : s.wellTyped = true) {u : String} (hu : r.trimmed name = .ok u) :
    ∃ t, r.HasText name t ∧ Text.trim t = u := by
  simp only [trimmed, Except.bind_eq_ok_iff] at hu
  obtain ⟨v, hget, t, htext, hu⟩ := hu
  obtain ⟨t, rfl⟩ := Value.exists_text ((h.type_of_get hs hw hget).trans ht)
  cases htext
  exact ⟨t, hget, Except.ok.inj hu⟩

/-- What is read in SI is the number that the record holds, turned from the units of the record by
the dimension that the schema gives. -/
theorem Conforms.measures_of_si (h : r.Conforms schema) (name : String)
    (hs : schema.items.find? (·.name == name) = some s) (ht : s.type = .real)
    (hw : s.wellTyped = true) {d : Dimension} (hd : s.dimension = d) {x : Double}
    (hx : r.si name = .ok x) : r.Measures name d x := by
  obtain ⟨i, hi, hconforms⟩ := h.exists_item name hs
  simp only [si, hi, Except.ok_bind, Except.bind_eq_ok_iff] at hx
  obtain ⟨y, hy, hx⟩ := hx
  refine ⟨y, h.hasReal_of_real name hs ht hw hy, ?_⟩
  rw [← hd, ← hconforms.dimension]
  exact (Except.ok.inj hx).symm

theorem Conforms.exists_int (h : r.Conforms schema) (name : String)
    (hs : schema.items.find? (·.name == name) = some s) (ht : s.type = .int)
    (hv : s.filled = true ∨ r.defaulted name = .ok false) : ∃ n, r.int name = .ok n := by
  obtain ⟨v, hget, htype⟩ := h.exists_get name hs hv
  obtain ⟨n, rfl⟩ := Value.exists_int (htype.trans ht)
  exact ⟨n, by rw [int, hget, Except.ok_bind]; rfl⟩

theorem Conforms.exists_real (h : r.Conforms schema) (name : String)
    (hs : schema.items.find? (·.name == name) = some s) (ht : s.type = .real)
    (hv : s.filled = true ∨ r.defaulted name = .ok false) : ∃ x, r.real name = .ok x := by
  obtain ⟨v, hget, htype⟩ := h.exists_get name hs hv
  obtain ⟨x, rfl⟩ := Value.exists_real (htype.trans ht)
  exact ⟨x, by rw [real, hget, Except.ok_bind]; rfl⟩

theorem Conforms.exists_si (h : r.Conforms schema) (name : String)
    (hs : schema.items.find? (·.name == name) = some s) (ht : s.type = .real)
    (hv : s.filled = true ∨ r.defaulted name = .ok false) : ∃ x, r.si name = .ok x := by
  obtain ⟨i, hi, -⟩ := h.exists_item name hs
  obtain ⟨x, hx⟩ := h.exists_real name hs ht hv
  exact ⟨_, by rw [si, hi, Except.ok_bind, hx]; rfl⟩

/-- An item can be read or replaced if it can be read where it was given, and replaced where not. -/
theorem Conforms.exists_givenOr (h : r.Conforms schema) (name : String)
    (hs : schema.items.find? (·.name == name) = some s) {α : Type}
    {read : String → Except Fault α} {fallback : Except Fault α}
    (hread : r.defaulted name = .ok false → ∃ a, read name = .ok a)
    (hfallback : r.defaulted name = .ok true → ∃ a, fallback = .ok a) :
    ∃ a, r.givenOr name read fallback = .ok a := by
  obtain ⟨b, hb⟩ := h.exists_defaulted name hs
  rw [givenOr, hb, Except.ok_bind]
  cases b with
  | false => exact hread hb
  | true => exact hfallback hb

theorem Conforms.exists_givenOr_none (h : r.Conforms schema) (name : String)
    (hs : schema.items.find? (·.name == name) = some s) (ht : s.type = .real) :
    ∃ x, r.givenOr name (fun name ↦ some <$> r.si name) (.ok none) = .ok x := by
  refine h.exists_givenOr name hs (fun hgiven ↦ ?_) fun _ ↦ ⟨none, rfl⟩
  obtain ⟨x, hx⟩ := h.exists_si name hs ht (Or.inr hgiven)
  exact ⟨some x, by rw [hx]; rfl⟩

theorem fills_of_givenOr {α : Type} {name : String} {read : String → Except Fault α}
    {own : α → Prop} {fallback : Except Fault α} {a : α} (hread : ∀ b, read name = .ok b → own b)
    (h : r.givenOr name read fallback = .ok a) : r.Fills name own fallback a := by
  rw [givenOr, Except.bind_eq_ok_iff] at h
  obtain ⟨_ | _, hb, h⟩ := h
  · exact Or.inl ⟨hb, hread a h⟩
  · exact Or.inr ⟨hb, h⟩

theorem Conforms.measuresIfGiven_of_givenOr (h : r.Conforms schema) (name : String)
    (hs : schema.items.find? (·.name == name) = some s) (ht : s.type = .real)
    (hw : s.wellTyped = true) {d : Dimension} (hd : s.dimension = d) {x : Option Double}
    (hx : r.givenOr name (fun name ↦ some <$> r.si name) (.ok none) = .ok x) :
    r.MeasuresIfGiven name d x := by
  refine fills_of_givenOr (fun y hy ↦ ?_) hx
  obtain ⟨z, hz, rfl⟩ := Except.map_eq_ok_iff.mp hy
  exact ⟨z, rfl, h.measures_of_si name hs ht hw hd hz⟩

section Fills

variable {α : Type} {name : String} {own : α → Prop} {fallback : Except Fault α} {a : α}

end Fills

def ofItems (row : Row) (s : KeywordSchema) (u : UnitSystem := .metric) : Record :=
  ⟨s.name, s.items.filterMap fun i ↦ (i.resolve s.name row).toOption, u⟩

theorem ofRow_of_resolves (s : KeywordSchema) (hs : KeywordSchema.find? s.name = some s) {row : Row}
    (h : row.resolves s = true) (u : UnitSystem) :
    ofRow s.name row u = .ok (.ofItems row s u) := by
  rw [Row.resolves, Bool.and_eq_true, List.all_eq_true, List.all_eq_true] at h
  refine ofRow_eq_ok hs ?_ (Except.mapM_eq_ok_filterMap h.2)
  exact List.filter_eq_nil_iff.mpr fun name hname ↦ by rw [h.1 name hname]; decide

def HasFace (r : Record) (name : String) : Prop :=
  ∃ t f, r.trimmed name = .ok t ∧ Face.ofText t = .ok f

def HasFlag (r : Record) (name : String) : Prop :=
  ∃ t b, r.trimmed name = .ok t ∧ readFlag t = .ok b

end Record

namespace Deck

inductive Built : Deck → Prop
  | empty (u : UnitSystem) : Built { units := u }
  | add {d e : Deck} {keyword : String} {rows : List Row} :
      Built d → d.add keyword rows = .ok e → Built e

theorem Addition.step_of_ok {x : Addition} {d : Deck} {records : List Record}
    (h : x.rows.mapM (Record.ofRow x.keyword · d.units) = .ok records) :
    x.step d = .ok () ⟨d.occurrences ++ [⟨x.keyword, records⟩], d.units⟩ := by
  rw [step, EStateM.bind_of_ok (rfl : (get : Attempt Deck Deck) d = .ok d d), h]
  rfl

theorem Addition.step_of_error {x : Addition} {d : Deck} {e : Fault}
    (h : x.rows.mapM (Record.ofRow x.keyword · d.units) = .error e) : x.step d = .error e d := by
  rw [step, EStateM.bind_of_ok (rfl : (get : Attempt Deck Deck) d = .ok d d), h]
  rfl

theorem add_eq_ok_iff {d e : Deck} {keyword : String} {rows : List Row} :
    d.add keyword rows = .ok e ↔ ∃ records,
      rows.mapM (Record.ofRow keyword · d.units) = .ok records ∧
        e = ⟨d.occurrences ++ [⟨keyword, records⟩], d.units⟩ := by
  cases hrows : rows.mapM (Record.ofRow keyword · d.units) with
  | ok records =>
    rw [add, Addition.step_of_ok hrows]
    constructor
    · exact fun h ↦ ⟨records, rfl, (Except.ok.inj h).symm⟩
    · rintro ⟨_, ⟨⟩, rfl⟩
      rfl
  | error f =>
    rw [add, Addition.step_of_error hrows]
    exact ⟨nofun, fun ⟨_, h, _⟩ ↦ nomatch h⟩

theorem Built.concat {occurrences : List Occurrence} {u : UnitSystem} (h : Built ⟨occurrences, u⟩)
    {keyword : String} (rows : List Row) {records : List Record}
    (hrows : rows.mapM (Record.ofRow keyword · u) = .ok records) :
    Built ⟨occurrences ++ [⟨keyword, records⟩], u⟩ :=
  .add h (add_eq_ok_iff.mpr ⟨records, hrows, rfl⟩)

def ofRows (u : UnitSystem) (rows : List (KeywordSchema × List Row)) : Deck where
  occurrences := rows.map fun x ↦ ⟨x.1.name, x.2.map (Record.ofItems · x.1 u)⟩
  units := u

theorem built_ofRows {u : UnitSystem} {rows : List (KeywordSchema × List Row)}
    (hs : (rows.map fun x ↦ KeywordSchema.find? x.1.name) = rows.map fun x ↦ some x.1)
    (h : (rows.all fun x ↦ x.2.all (Row.resolves x.1)) = true) : (ofRows u rows).Built := by
  rw [List.map_inj_left] at hs
  induction rows using List.reverseRecOn with
  | nil => exact .empty u
  | append_singleton rows x ih =>
    rw [List.forall_mem_append, List.forall_mem_singleton] at hs
    rw [List.all_append, Bool.and_eq_true, List.all_cons, List.all_nil, Bool.and_true] at h
    rw [ofRows, List.map_append]
    refine (ih hs.1 h.1).concat x.2 (Except.mapM_eq_ok_map fun row hrow ↦ ?_)
    exact Record.ofRow_of_resolves x.1 hs.2 (List.all_eq_true.mp h.2 row hrow) u

theorem records_append (occurrences : List Occurrence) (u : UnitSystem) (o : Occurrence)
    (keyword : String) :
    records ⟨occurrences ++ [o], u⟩ keyword =
      records ⟨occurrences, u⟩ keyword ++ if o.keyword = keyword then o.records else [] := by
  simp only [records, occurrencesOf, List.filter_append, List.flatMap_append]
  by_cases h : o.keyword = keyword <;> simp [h]

theorem Built.exists_row {d : Deck} (h : d.Built) {keyword : String} {r : Record}
    (hr : r ∈ d.records keyword) : ∃ row, Record.ofRow keyword row d.units = .ok r := by
  induction h with
  | empty u => exact nomatch hr
  | @add d e other rows _ hadd ih =>
    obtain ⟨records, hrecords, rfl⟩ := add_eq_ok_iff.mp hadd
    rw [records_append, List.mem_append] at hr
    rcases hr with hr | hr
    · exact ih hr
    · split at hr
      · rename_i hkeyword
        cases hkeyword
        obtain ⟨row, -, hrow⟩ := (Except.exists_of_mem_mapM hrecords).2 r hr
        exact ⟨row, hrow⟩
      · exact nomatch hr

/-- Every record of a deck conforms to the schema of its keyword. -/
theorem Built.conforms {d : Deck} (h : d.Built) {schema : KeywordSchema} {keyword : String}
    (hs : KeywordSchema.find? keyword = some schema) {r : Record} (hr : r ∈ d.records keyword) :
    r.Conforms schema := by
  obtain ⟨row, hrow⟩ := h.exists_row hr
  exact Record.conforms_of_ofRow hrow hs

end Deck

end Aquifer
