import Aquifer.Proofs.Numerical.Registry

namespace Aquifer

inductive CellIssue (g : Grid) (before : List (Int × Coord)) (e : Int × Coord) : IssueCause → Prop
  | outside : g.dims.contains e.2 = false →
      CellIssue g before e (.unusableCell s!"is outside grid of size {shapeText g.dims.shape}")
  | inactive : g.dims.contains e.2 = true → g.cellActive e.2 = .ok false →
      CellIssue g before e (.unusableCell "is not active")
  | taken {owner : Int} : g.Active e.2 → (owner, e.2) ∈ before →
      CellIssue g before e (.cellTaken owner)

structure Usable (g : Grid) (es : List (Int × Coord)) : Prop where
  active : ∀ e ∈ es, g.Active e.2
  cells : (es.map Prod.snd).Nodup

def CoupledOnce (ys : List Coupling) : Prop := (ys.map fun y ↦ (y.aquifer, y.place)).Nodup

/-- The first issue of declared cells and generated couplings: one with a cell, one with a coupling
where there is none with a cell, and one with an aquifer where there is neither. -/
inductive FirstIssue (g : Grid) (es : List (Int × Coord)) (ys : List Coupling) : Issue → Prop
  | cell {before after : List (Int × Coord)} {e : Int × Coord} {cause : IssueCause} :
      es = before ++ e :: after → Usable g before → CellIssue g before e cause →
      FirstIssue g es ys ⟨e.1, some e.2.oneBased, cause⟩
  | coupling {before after : List Coupling} {y : Coupling} : Usable g es →
      ys = before ++ y :: after → CoupledOnce before →
      (∃ x ∈ before, x.aquifer = y.aquifer ∧ x.place = y.place) →
      FirstIssue g es ys ⟨y.aquifer, some y.place.oneBased, .coupledTwice⟩
  | aquifer {before after : List Int} {id : Int} : Usable g es → CoupledOnce ys →
      (es.map Prod.fst).eraseDups = before ++ id :: after →
      (∀ i ∈ before, ∃ y ∈ ys, y.aquifer = i) → (∀ y ∈ ys, y.aquifer ≠ id) →
      FirstIssue g es ys ⟨id, none, .nothingDeclared "connections"⟩

variable {g : Grid} {p : Properties} {override : Option ActiveMap} {es before : List (Int × Coord)}
  {e : Int × Coord} {xs : List StorageCell} {ys : List Coupling} {b : Builder} {f : Fault}

/-- A cell can be used after others if it is an active one of the grid that is not among them. -/
def Fresh (g : Grid) (before : List (Int × Coord)) (e : Int × Coord) : Prop :=
  g.Active e.2 ∧ e.2 ∉ before.map Prod.snd

theorem eachAfter_fresh_iff : EachAfter (Fresh g) es ↔ Usable g es := by
  have hsplit : EachAfter (Fresh g) es ↔ (∀ e ∈ es, g.Active e.2) ∧ (es.map Prod.snd).Nodup := by
    rw [← eachAfter_iff_nodup, ← eachAfter_iff_forall]
    exact eachAfter_and
  rw [hsplit]
  exact ⟨fun h ↦ ⟨h.1, h.2⟩, fun h ↦ ⟨h.active, h.cells⟩⟩

theorem CellIssue.not_fresh {cause : IssueCause} (h : CellIssue g before e cause) :
    ¬Fresh g before e := by
  rintro ⟨hactive, hnew⟩
  cases h with
  | outside hout => exact absurd (hout.symm.trans hactive.1) Bool.false_ne_true
  | inactive _ hinactive => exact nomatch hinactive.symm.trans hactive.2
  | taken _ howner => exact hnew (List.mem_map.mpr ⟨_, howner, rfl⟩)

theorem CellIssue.unique {cause cause' : IssueCause} (hbefore : (before.map Prod.snd).Nodup)
    (h : CellIssue g before e cause) (h' : CellIssue g before e cause') : cause = cause' := by
  cases h with
  | outside hout =>
    cases h' with
    | outside => rfl
    | inactive hin => exact absurd (hout.symm.trans hin) Bool.false_ne_true
    | taken hactive => exact absurd (hout.symm.trans hactive.1) Bool.false_ne_true
  | inactive hin hinactive =>
    cases h' with
    | outside hout => exact absurd (hout.symm.trans hin) Bool.false_ne_true
    | inactive => rfl
    | taken hactive => exact nomatch hinactive.symm.trans hactive.2
  | taken hactive howner =>
    cases h' with
    | outside hout => exact absurd (hout.symm.trans hactive.1) Bool.false_ne_true
    | inactive _ hinactive => exact nomatch hinactive.symm.trans hactive.2
    | taken _ howner' =>
      cases List.inj_on_of_nodup_map hbefore howner howner' rfl
      rfl

namespace Builder

def HasCells (g : Grid) (es : List (Int × Coord)) (b : Builder) : Prop :=
  ∃ xs, b.Holds xs ∧ xs.map (fun c ↦ (c.aquifer, c.place)) = es ∧
    ∀ c ∈ xs, g.dims.Numbers c.place c.index

structure Declares (p : Properties) (r : Record) (e : Int × Coord) : Prop where
  conforms : r.Conforms .aqunum
  storage : r.storage = .ok e
  porosity : r.defaulted "PORO" = .ok true → p.hasReal "PORO" = true

variable {r : Record}

theorem HasCells.exists_addRecord (hp : p.Fits g) (hr : Declares p r e) (hb : HasCells g before b)
    (he : Fresh g before e) : ∃ d, addRecord g p b r = .ok d ∧ HasCells g (before ++ [e]) d := by
  obtain ⟨xs, hholds, rfl, hnumbers⟩ := hb
  obtain ⟨c, hc⟩ := StorageCell.exists_ofRecord hr.conforms hp hr.porosity hr.storage he.1
  obtain ⟨rfl, hnumber⟩ := StorageCell.place_of_ofRecord hr.storage hc
  have hnew : c.index ∉ xs.map (·.index) := by
    intro h
    obtain ⟨o, ho, hindex⟩ := List.mem_map.mp h
    have hplace := ((hnumbers o ho).eq_iff hnumber).mp hindex
    apply he.2
    rw [List.map_map]
    exact List.mem_map.mpr ⟨o, ho, hplace⟩
  obtain ⟨d, hd, hholds⟩ := hholds.addCell hnew
  refine ⟨d, ?_, xs ++ [c], hholds, List.map_append, ?_⟩
  · rw [Builder.addRecord, (check_eq_ok_iff hr.storage).mpr he.1, Except.ok_bind, hc,
      Except.ok_bind, hd]
    rfl
  · rw [List.forall_mem_append, List.forall_mem_singleton]
    exact ⟨hnumbers, hnumber⟩

theorem HasCells.nodup (hb : HasCells g es b) : (es.map Prod.snd).Nodup := by
  obtain ⟨xs, hholds, rfl, hnumbers⟩ := hb
  have hindex : (xs.map (·.index)).Nodup := hholds.owner_keys ▸ b.owner.nodup_keys
  rw [List.map_map]
  refine (nodup_map_iff fun c hc d hd ↦ ?_).mp hindex
  exact (hnumbers c hc).eq_iff (hnumbers d hd)

theorem HasCells.addRecord_fails (hp : p.Fits g) (hr : Declares p r e) (hb : HasCells g before b)
    (he : ¬Fresh g before e) : ∃ cause, CellIssue g before e cause ∧
      Builder.addRecord g p b r = .error (.issue ⟨e.1, some e.2.oneBased, cause⟩) := by
  by_cases hactive : g.Active e.2
  · obtain ⟨xs, hholds, rfl, hnumbers⟩ := hb
    obtain ⟨c, hc⟩ := StorageCell.exists_ofRecord hr.conforms hp hr.porosity hr.storage hactive
    obtain ⟨rfl, hnumber⟩ := StorageCell.place_of_ofRecord hr.storage hc
    have hknown : c.place ∈ (xs.map fun c ↦ (c.aquifer, c.place)).map Prod.snd := by
      by_contra hnew
      exact he ⟨hactive, hnew⟩
    rw [List.map_map] at hknown
    obtain ⟨o, ho, hplace⟩ := List.mem_map.mp hknown
    -- cells are told apart by their numbers, so the cell at the place is found as the owner
    have hindex := ((hnumbers o ho).eq_iff hnumber).mpr hplace
    refine ⟨.cellTaken o.aquifer, .taken hactive ?_, ?_⟩
    · exact List.mem_map.mpr ⟨o, ho, Prod.ext rfl hplace⟩
    · rw [addRecord, (check_eq_ok_iff hr.storage).mpr hactive, Except.ok_bind, hc, Except.ok_bind,
        hholds.addCell_error ho hindex]
      rfl
  · rw [addRecord, check_eq hr.storage]
    by_cases hin : g.dims.contains e.2 = true
    · have hinactive := Grid.cellActive_of_not_active hin hactive
      rw [if_pos hin, hinactive]
      exact ⟨_, .inactive hin hinactive, rfl⟩
    · rw [if_neg hin]
      exact ⟨_, .outside (eq_false_of_ne_true hin), rfl⟩

/-- Adding the cells of records fails with what is wrong with the first that cannot be added. -/
theorem ofRecords_eq_error_iff {rs : List Record} (hp : p.Fits g)
    (hrs : List.Forall₂ (Declares p) rs es) : ofRecords g p rs = .error f ↔
      ∃ before e after cause, es = before ++ e :: after ∧ Usable g before ∧
        CellIssue g before e cause ∧ f = .issue ⟨e.1, some e.2.oneBased, cause⟩ := by
  have hfirst : ofRecords g p rs = .error f ↔ ∃ before e after, es = before ++ e :: after ∧
      EachAfter (Fresh g) before ∧ ¬Fresh g before e ∧ ∃ cause, CellIssue g before e cause ∧
        f = .issue ⟨e.1, some e.2.oneBased, cause⟩ := by
    refine Except.foldlM_eq_error_iff (I := HasCells g) (P := Fresh g) (Q := fun before e f ↦
      ∃ cause, CellIssue g before e cause ∧ f = Fault.issue ⟨e.1, some e.2.oneBased, cause⟩)
      ?step ?fail ⟨[], holds_empty, rfl, nofun⟩ hrs
    case step =>
      intro before b r e hr hb he
      exact hb.exists_addRecord hp hr he
    case fail =>
      intro before b r e hr hb he
      obtain ⟨cause, hcause, herror⟩ := hb.addRecord_fails hp hr he
      refine ⟨_, herror, fun f ↦ ⟨?_, fun h ↦ ⟨cause, hcause, h⟩⟩⟩
      rintro ⟨cause', hcause', rfl⟩
      rw [hcause'.unique hb.nodup hcause]
  rw [hfirst]
  constructor
  · rintro ⟨before, e, after, hes, hbefore, -, cause, hcause, hf⟩
    exact ⟨before, e, after, cause, hes, eachAfter_fresh_iff.mp hbefore, hcause, hf⟩
  · rintro ⟨before, e, after, cause, hes, husable, hcause, hf⟩
    exact ⟨before, e, after, hes, eachAfter_fresh_iff.mpr husable, hcause.not_fresh, cause, hcause,
      hf⟩

theorem handedOver_eq_error_iff {problem : Option Issue} :
    Registry.handedOver (b, problem) = .error f ↔ ∃ i, problem = some i ∧ f = .issue i := by
  cases problem with
  | none => exact ⟨nofun, fun ⟨_, hi, _⟩ ↦ nomatch hi⟩
  | some i =>
    constructor
    · intro h
      cases h
      exact ⟨i, rfl, rfl⟩
    · rintro ⟨_, hi, rfl⟩
      cases hi
      rfl

/-- Attaching couplings fails with the first aquifer with cells that has none. -/
theorem attachAll_eq_error_iff {cs : Couplings} (hb : b.Holds xs)
    (hes : xs.map (fun c ↦ (c.aquifer, c.place)) = es) (h : cs.Holds ys) :
    ((b.attachAll cs).result >>= Registry.handedOver) = .error f ↔
      ∃ before id after, (es.map Prod.fst).eraseDups = before ++ id :: after ∧
        (∀ i ∈ before, ∃ y ∈ ys, y.aquifer = i) ∧ (∀ y ∈ ys, y.aquifer ≠ id) ∧
          f = .issue ⟨id, none, .nothingDeclared "connections"⟩ := by
  have hnone {id : Int} : (!cs.has id) = true ↔ ∀ y ∈ ys, y.aquifer ≠ id := by
    rw [Bool.not_eq_true', ← Bool.not_eq_true, h.has_iff]
    simp
  rw [attachAll, result_attachAquifers, Except.ok_bind, uncoupled,
    Registry.keys_cells hb hes, handedOver_eq_error_iff]
  simp only [Option.map_eq_some_iff, List.find?_eq_some_iff_append, hnone]
  constructor
  · rintro ⟨_, ⟨id, ⟨hid, before, after, hsplit, hbefore⟩, rfl⟩, hf⟩
    refine ⟨before, id, after, hsplit, fun i hi ↦ ?_, hid, hf⟩
    have hhas := hbefore i hi
    rwa [Bool.not_not, h.has_iff] at hhas
  · rintro ⟨before, id, after, hsplit, hbefore, hid, hf⟩
    refine ⟨_, ⟨id, ⟨hid, before, after, hsplit, fun i hi ↦ ?_⟩, rfl⟩, hf⟩
    rw [Bool.not_not, h.has_iff]
    exact hbefore i hi

end Builder

namespace Couplings

/-- Adding couplings fails with the first that couples a cell to an aquifer again. -/
theorem addAll_eq_error_iff (hys : ∀ y ∈ ys, g.dims.Numbers y.place y.index) :
    addAll ∅ ys = .error f ↔ ∃ before y after, ys = before ++ y :: after ∧ CoupledOnce before ∧
      (∃ x ∈ before, x.aquifer = y.aquifer ∧ x.place = y.place) ∧
        f = .issue ⟨y.aquifer, some y.place.oneBased, .coupledTwice⟩ := by
  have hfirst : addAll ∅ ys = .error f ↔ ∃ before y after, ys = before ++ y :: after ∧
      EachAfter (fun xs x ↦ key x ∉ xs.map key) before ∧ ¬key y ∉ before.map key ∧
        f = .issue ⟨y.aquifer, some y.place.oneBased, .coupledTwice⟩ := by
    refine Except.foldlM_eq_error_iff (R := Eq) (I := fun xs (cs : Couplings) ↦ cs.Holds xs)
      (P := fun xs x ↦ key x ∉ xs.map key) (Q := fun _ y f ↦
        f = Fault.issue ⟨y.aquifer, some y.place.oneBased, .coupledTwice⟩)
      ?step ?fail holds_empty (List.forall₂_refl ys)
    case step =>
      rintro before cs y _ rfl h hnew
      obtain ⟨ds, hds, hholds⟩ := h.add hnew
      exact ⟨ds, by rw [hds]; rfl, hholds⟩
    case fail =>
      rintro before cs y _ rfl h hknown
      exact ⟨_, by rw [h.add_error (not_not.mp hknown)]; rfl, fun f ↦ Iff.rfl⟩
  rw [hfirst]
  refine exists_congr fun before ↦ exists_congr fun y ↦ exists_congr fun after ↦
    and_congr_right fun hsplit ↦ ?_
  rw [hsplit, List.forall_mem_append, List.forall_mem_cons] at hys
  obtain ⟨hbefore, hy, -⟩ := hys
  rw [eachAfter_iff_nodup, Registry.nodup_key_iff hbefore, not_not, CoupledOnce, List.mem_map]
  refine and_congr_right fun _ ↦ and_congr_left fun _ ↦ exists_congr fun x ↦
    and_congr_right fun hx ↦ ?_
  exact key_eq_iff (hbefore x hx) hy

end Couplings

namespace Registry

structure Readable (d : Deck) (g : Grid) (p : Properties) (override : Option ActiveMap)
    (es : List (Int × Coord)) (css : List (List Coupling)) : Prop where
  fits : p.Fits g
  conforms : ∀ r ∈ d.records "AQUNUM", r.Conforms .aqunum
  porosity : ∀ r ∈ d.records "AQUNUM", r.defaulted "PORO" = .ok true → p.hasReal "PORO" = true
  storage : (d.records "AQUNUM").mapM Record.storage = .ok es
  couplings : (d.records "AQUCON").mapM (Coupling.ofRecord g override) = .ok css
  numbers : ∀ y ∈ css.flatten, g.dims.Numbers y.place y.index

variable {d : Deck} {css : List (List Coupling)}

theorem Readable.declares (h : Readable d g p override es css) :
    List.Forall₂ (Builder.Declares p) (d.records "AQUNUM") es := by
  have hall := (List.forall₂_and_left _ _).mpr
    ⟨fun r hr ↦ And.intro (h.conforms r hr) (h.porosity r hr), Except.mapM_eq_ok_iff.mp h.storage⟩
  exact hall.imp fun _ _ hr ↦ ⟨hr.1.1, hr.2, hr.1.2⟩

theorem Readable.exists_builder (h : Readable d g p override es css) (hes : Usable g es) :
    ∃ b, Builder.ofRecords g p (d.records "AQUNUM") = .ok b :=
  Builder.exists_ofRecords h.conforms h.fits h.porosity h.storage hes.active hes.cells

theorem Readable.usable (h : Readable d g p override es css)
    (hb : Builder.ofRecords g p (d.records "AQUNUM") = .ok b) :
    Usable g es ∧ ∃ xs, b.Holds xs ∧ xs.map (fun c ↦ (c.aquifer, c.place)) = es := by
  obtain ⟨hactive, hcells, xs, hxs, hholds⟩ := Builder.holds_of_ofRecords h.storage hb
  exact ⟨⟨hactive, hcells⟩, xs, hholds, (Builder.places_of_mapM h.storage hxs).1⟩

theorem Readable.result_ofDeck (h : Readable d g p override es css) (hhas : d.has "AQUNUM" = true) :
    (ofDeck d g p override).result = Builder.ofRecords g p (d.records "AQUNUM") >>= fun b ↦
      Couplings.addAll ∅ css.flatten >>= fun cs ↦ (b.attachAll cs).result >>= handedOver := by
  rw [result_ofDeck_of_has hhas, Couplings.result_ofDeck_of_mapM h.couplings]

/-- The stage that fails tells the kind of the first issue. -/
theorem Readable.firstIssue (h : Readable d g p override es css) (hhas : d.has "AQUNUM" = true)
    (hf : (ofDeck d g p override).result = .error f) :
    ∃ i, f = .issue i ∧ FirstIssue g es css.flatten i := by
  rw [h.result_ofDeck hhas] at hf
  rcases Except.bind_eq_error_iff.mp hf with hcell | ⟨b, hb, hf⟩
  · obtain ⟨before, e, after, cause, hsplit, hbefore, hcause, rfl⟩ :=
      (Builder.ofRecords_eq_error_iff h.fits h.declares).mp hcell
    exact ⟨_, rfl, .cell hsplit hbefore hcause⟩
  · obtain ⟨husable, xs, hholds, hplaces⟩ := h.usable hb
    rcases Except.bind_eq_error_iff.mp hf with hcoupling | ⟨cs, hcs, hattach⟩
    · obtain ⟨before, y, after, hsplit, hbefore, hknown, rfl⟩ :=
        (Couplings.addAll_eq_error_iff h.numbers).mp hcoupling
      exact ⟨_, rfl, .coupling husable hsplit hbefore hknown⟩
    · obtain ⟨hkeys, hcouplings⟩ := Couplings.holds_of_addAll hcs
      have honce : CoupledOnce css.flatten := (nodup_key_iff h.numbers).mp hkeys
      obtain ⟨before, id, after, hsplit, hbefore, hid, rfl⟩ :=
        (Builder.attachAll_eq_error_iff hholds hplaces hcouplings).mp hattach
      exact ⟨_, rfl, .aquifer husable honce hsplit hbefore hid⟩

/-- A stage whose issue is the first is reached, and fails with it. -/
theorem Readable.fails (h : Readable d g p override es css) (hhas : d.has "AQUNUM" = true)
    {i : Issue} (hi : FirstIssue g es css.flatten i) :
    (ofDeck d g p override).result = .error (.issue i) := by
  rw [h.result_ofDeck hhas]
  cases hi with
  | cell hsplit hbefore hcause =>
    apply Except.bind_eq_error_iff.mpr
    exact Or.inl ((Builder.ofRecords_eq_error_iff h.fits h.declares).mpr
      ⟨_, _, _, _, hsplit, hbefore, hcause, rfl⟩)
  | coupling husable hsplit hbefore hknown =>
    obtain ⟨b, hb⟩ := h.exists_builder husable
    rw [hb, Except.ok_bind]
    apply Except.bind_eq_error_iff.mpr
    exact Or.inl ((Couplings.addAll_eq_error_iff h.numbers).mpr
      ⟨_, _, _, hsplit, hbefore, hknown, rfl⟩)
  | aquifer husable honce hsplit hbefore hid =>
    obtain ⟨b, hb⟩ := h.exists_builder husable
    obtain ⟨-, xs, hholds, hplaces⟩ := h.usable hb
    obtain ⟨cs, hcs, hcouplings⟩ := Couplings.exists_addAll ((nodup_key_iff h.numbers).mpr honce)
    rw [hb, Except.ok_bind, hcs, Except.ok_bind]
    exact (Builder.attachAll_eq_error_iff hholds hplaces hcouplings).mpr
      ⟨_, _, _, hsplit, hbefore, hid, rfl⟩

/-- Where all faces and flags of couplings can be read and porosities are given or can be looked up,
a deck with storage cells fails just if there is a first issue, and with no other. -/
theorem ofDeck_fails_iff (hd : d.Built) {reals tables : Keyed String Raw}
    (hp : Properties.ofArrays g reals tables = .ok p)
    (ho : ∀ m ∈ override, m.size = g.dims.size)
    (hcoupled : ∀ r ∈ d.records "AQUCON",
      r.HasFace "CONNECT_FACE" ∧ r.HasFlag "ALLOW_INTERNAL_CELLS")
    (hporo : ∀ r ∈ d.records "AQUNUM", r.defaulted "PORO" = .ok true → p.hasReal "PORO" = true) :
    ∃ es css, (d.records "AQUNUM").mapM Record.storage = .ok es ∧
      (d.records "AQUCON").mapM (Coupling.ofRecord g override) = .ok css ∧
      ∀ f, (ofDeck d g p override).result = .error f ↔
        d.has "AQUNUM" = true ∧ ∃ i, f = .issue i ∧ FirstIssue g es css.flatten i := by
  have hconforms : ∀ r ∈ d.records "AQUNUM", r.Conforms .aqunum := fun r hr ↦ hd.conforms rfl hr
  obtain ⟨es, hes⟩ := Except.exists_mapM_eq_ok fun r hr ↦ (hconforms r hr).exists_storage
  obtain ⟨css, hcss, hys⟩ := Couplings.exists_generated hd ho hcoupled
  have hreadable : Readable d g p override es css :=
    ⟨Properties.fits_of_ofArrays hp, hconforms, hporo, hes, hcss, hys⟩
  refine ⟨es, css, hes, hcss, fun f ↦ ?_⟩
  cases hhas : d.has "AQUNUM" with
  | false =>
    rw [result_ofDeck_of_not_has hhas]
    exact ⟨nofun, fun h ↦ absurd h.1 Bool.false_ne_true⟩
  | true =>
    constructor
    · exact fun hf ↦ ⟨rfl, hreadable.firstIssue hhas hf⟩
    · rintro ⟨-, i, rfl, hi⟩
      exact hreadable.fails hhas hi

section Crowded

/-- A deck that declares one cell twice, then one outside the grid, and couples a cell twice. -/
def crowdedDeck : Deck :=
  .ofRows .metric [(.aqunum, [.storage 1 ⟨2, 1, 1⟩, .storage 7 ⟨2, 1, 1⟩, .storage 9 ⟨5, 1, 1⟩]),
    (.aqucon, [.coupling 1 ⟨1, 1, 1⟩ ⟨1, 1, 1⟩ "I-", .coupling 1 ⟨1, 1, 1⟩ ⟨1, 1, 1⟩ "I-"])]

theorem built_crowdedDeck : crowdedDeck.Built := Deck.built_ofRows rfl rfl

/-- Of all that is wrong, the second record is reported, with the owner of its cell. -/
theorem ofDeck_fails_iff_crowded : (ofDeck crowdedDeck .pair pairProperties none).result =
    .error (.issue ⟨7, some ⟨2, 1, 1⟩, .cellTaken 1⟩) := by
  have hp : Properties.ofArrays .pair ∅ ∅ = .ok pairProperties := rfl
  have ho : ∀ m ∈ (none : Option ActiveMap), m.size = Grid.pair.dims.size := nofun
  have hcoupled : ∀ r ∈ crowdedDeck.records "AQUCON",
      r.HasFace "CONNECT_FACE" ∧ r.HasFlag "ALLOW_INTERNAL_CELLS" :=
    List.forall_mem_cons.mpr ⟨⟨⟨_, _, rfl, rfl⟩, ⟨_, _, rfl, rfl⟩⟩,
      List.forall_mem_singleton.mpr ⟨⟨_, _, rfl, rfl⟩, ⟨_, _, rfl, rfl⟩⟩⟩
  have hporo : ∀ r ∈ crowdedDeck.records "AQUNUM",
      r.defaulted "PORO" = .ok true → pairProperties.hasReal "PORO" = true :=
    List.forall_mem_cons.mpr ⟨nofun, List.forall_mem_cons.mpr ⟨nofun,
      List.forall_mem_singleton.mpr nofun⟩⟩
  obtain ⟨es, css, hes, hcss, hiff⟩ := ofDeck_fails_iff built_crowdedDeck hp ho hcoupled hporo
  cases Except.ok.inj hes
  have hfirst : Usable .pair [(1, ⟨1, 0, 0⟩)] :=
    ⟨List.forall_mem_singleton.mpr ⟨rfl, rfl⟩, by decide⟩
  have htaken : CellIssue .pair [(1, ⟨1, 0, 0⟩)] (7, ⟨1, 0, 0⟩) (.cellTaken 1) :=
    .taken ⟨rfl, rfl⟩ (List.mem_singleton_self _)
  exact (hiff _).mpr ⟨rfl, _, rfl, .cell rfl hfirst htaken⟩

end Crowded

end Registry

end Aquifer
