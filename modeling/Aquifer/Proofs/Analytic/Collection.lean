import Aquifer.Proofs.Refusal

namespace Aquifer

open Except

namespace Collection

variable {α : Type} [AnalyticKind α] {c d : Collection α} {as bs : List α} {a : α} {id : Int}

def latest (as : List α) (id : Int) : Option α :=
  (as.filter fun a ↦ AnalyticKind.id a = id).getLast?

theorem latest_concat (as : List α) (a : α) (id : Int) :
    latest (as ++ [a]) id = if id = AnalyticKind.id a then some a else latest as id := by
  rw [latest, List.filter_append]
  by_cases h : id = AnalyticKind.id a
  · simp [h]
  · simp [latest, h, Ne.symm h]

theorem latest_eq_none_iff : latest as id = none ↔ id ∉ as.map AnalyticKind.id := by
  simp [latest]

theorem id_of_latest (h : latest as id = some a) : AnalyticKind.id a = id := by
  have hmem := List.mem_of_getLast? h
  rw [List.mem_filter, decide_eq_true_eq] at hmem
  exact hmem.2

theorem ofList_concat (as : List α) (a : α) : ofList (as ++ [a]) = (ofList as).add a :=
  List.foldl_concat _ _ _ _

theorem foldl_add (as bs : List α) : bs.foldl add (ofList as) = ofList (as ++ bs) := by
  rw [ofList, ofList, List.foldl_append]

theorem keys_ofList (as : List α) :
    (ofList as).aquifers.keys = (as.map AnalyticKind.id).eraseDups := by
  induction as using List.reverseRecOn with
  | nil => rfl
  | append_singleton as a ih =>
    rw [ofList_concat, add, Keyed.keys_insert, ih, List.map_append, List.map_singleton,
      Keyed.eraseDups_concat]
    simp only [List.mem_eraseDups]

theorem get?_ofList (as : List α) (id : Int) : (ofList as).aquifers.get? id = latest as id := by
  induction as using List.reverseRecOn with
  | nil => rfl
  | append_singleton as a ih => rw [ofList_concat, add, Keyed.get?_insert, ih, latest_concat]

/-- The collection shows each number of the given aquifers once, in the order of the first aquifers
with them, and under a number the last aquifer with it. -/
structure Holds (c : Collection α) (as : List α) : Prop where
  ids : c.toList.map AnalyticKind.id = (as.map AnalyticKind.id).eraseDups
  toList : c.toList = (as.map AnalyticKind.id).eraseDups.filterMap (latest as)
  get : ∀ id, c.get id = (latest as id).elim (.error .noSuchKey) .ok
  has : ∀ id, c.has id = true ↔ id ∈ as.map AnalyticKind.id
  size : c.size = (as.map AnalyticKind.id).eraseDups.length

theorem holds_ofList (as : List α) : (ofList as).Holds as where
  ids := by
    rw [← keys_ofList, Collection.toList, Keyed.values, Keyed.keys, List.map_map]
    exact List.map_congr_left (ownKeys_ofList as)
  toList := by
    rw [← keys_ofList, Collection.toList, Keyed.values, Keyed.entries_eq_filterMap,
      List.map_filterMap]
    refine List.filterMap_congr fun id _ ↦ ?_
    rw [get?_ofList, Option.map_map]
    exact Option.map_id'
  get id := by
    rw [Collection.get, get?_ofList]
    cases latest as id <;> rfl
  has id := by
    rw [Collection.has, ← Keyed.mem_keys_iff, keys_ofList, List.mem_eraseDups]
  size := by
    rw [← keys_ofList, Keyed.keys, List.length_map]
    rfl

omit [AnalyticKind α] in
theorem has_iff_get (c : Collection α) (id : Int) :
    c.has id = true ↔ (c.get id).toOption.toList ≠ [] := by
  rw [Collection.has, Keyed.contains, Collection.get]
  cases c.aquifers.get? id with
  | none => exact ⟨fun h ↦ absurd h Bool.false_ne_true, fun h ↦ absurd rfl h⟩
  | some a => exact ⟨fun _ ↦ List.cons_ne_nil a [], fun _ ↦ rfl⟩

/-- Searching the aquifers for a number finds what is held under it. -/
theorem Holds.filter_id (h : c.Holds as) (id : Int) :
    (c.toList.filter fun a ↦ AnalyticKind.id a = id) = (c.get id).toOption.toList := by
  have hget : (c.get id).toOption = latest as id := by
    rw [h.get]
    cases latest as id <;> rfl
  rw [hget]
  by_cases hid : id ∈ (as.map AnalyticKind.id).eraseDups
  · have hids : ((as.map AnalyticKind.id).eraseDups.map fun id ↦ id).Nodup := by
      rw [List.map_id', ← keys_ofList]
      exact Keyed.nodup_keys _
    rw [h.toList, List.filterMap_eq_flatMap_toList]
    refine Keyed.filter_flatMap hids (fun id _ a ha ↦ ?_) hid
    exact id_of_latest (Option.mem_toList.mp ha)
  · have hnone : latest as id = none := by
      rwa [latest_eq_none_iff, ← List.mem_eraseDups]
    rw [hnone, Option.toList_none, List.filter_eq_nil_iff]
    intro a ha hkey
    rw [← h.ids] at hid
    exact hid (of_decide_eq_true hkey ▸ List.mem_map_of_mem ha)

variable {build : Record → Except Fault α} {rs : List Record} {r : Record}

theorem ofRecords_concat (build : Record → Except Fault α) (rs : List Record) (r : Record) :
    ofRecords build (rs ++ [r]) = ofRecords build rs >>= fun c ↦ (build r).map c.add := by
  rw [ofRecords, List.foldlM_append]
  refine congrArg _ (funext fun c ↦ ?_)
  rw [List.foldlM_cons]
  cases build r <;> rfl

theorem holds_of_ofRecords (h : ofRecords build rs = .ok c) :
    ∃ as, rs.mapM build = .ok as ∧ ∀ later : List α, (later.foldl add c).Holds (as ++ later) := by
  obtain ⟨as, has, rfl⟩ := ofRecords_eq_ok_iff.mp h
  refine ⟨as, has, fun later ↦ ?_⟩
  rw [foldl_add]
  exact holds_ofList _

namespace FluxCall

def aquifer : FluxCall → Except Fault ConstantFlux
  | .add a => .ok a
  | .schedule r => ConstantFlux.ofRecord r

def brought (calls : List FluxCall) : List ConstantFlux :=
  calls.filterMap (·.aquifer.toOption)

/-- A call adds its aquifer; without one it fails and changes nothing. -/
theorem step_eq (c : Collection ConstantFlux) (call : FluxCall) :
    call.step c = match call.aquifer with
      | .ok a => .ok () (c.add a)
      | .error e => .error e c := by
  cases call with
  | add a => rfl
  | schedule r =>
    show Attempt.assign (c.schedule r) c = _
    rw [Collection.schedule, aquifer]
    cases ConstantFlux.ofRecord r <;> rfl

theorem after_ofList (as : List ConstantFlux) (call : FluxCall) :
    after (ofList as) call = ofList (as ++ brought [call]) := by
  rw [after, Attempt.leaves, step_eq, brought, List.filterMap_cons]
  cases call.aquifer with
  | ok a => exact (ofList_concat as a).symm
  | error e => exact congrArg ofList (List.append_nil as).symm

theorem foldl_after (calls : List FluxCall) (as : List ConstantFlux) :
    calls.foldl after (ofList as) = ofList (as ++ brought calls) := by
  induction calls generalizing as with
  | nil => exact congrArg ofList (List.append_nil as).symm
  | cons call calls ih =>
    rw [List.foldl_cons, after_ofList, ih, List.append_assoc, brought, brought, brought,
      ← List.filterMap_append, List.singleton_append]

end FluxCall

end Collection

namespace Configuration

open Collection

variable {c : Configuration} {as : List Fetkovich} {bs : List CarterTracy} {cs : List ConstantFlux}

/-- The analytic aquifers with a number are those that their collections have under it. -/
theorem analyticWith_eq (hf : c.fetkovich.Holds as) (hct : c.carterTracy.Holds bs)
    (hcf : c.constantFlux.Holds cs) (id : Int) : c.analyticWith id =
      (c.fetkovich.get id).toOption.toList.map .fetkovich ++
        (c.carterTracy.get id).toOption.toList.map .carterTracy ++
        (c.constantFlux.get id).toOption.toList.map .constantFlux := by
  rw [← hf.filter_id, ← hct.filter_id, ← hcf.filter_id, analyticWith, analytic,
    List.filter_append, List.filter_append, List.filter_map, List.filter_map, List.filter_map]
  rfl

theorem has_iff (hf : c.fetkovich.Holds as) (hct : c.carterTracy.Holds bs)
    (hcf : c.constantFlux.Holds cs) (id : Int) :
    c.has id = true ↔ c.analyticWith id ≠ [] ∨ c.numerical.has id = true := by
  rw [analyticWith_eq hf hct hcf, Configuration.has]
  simp only [Bool.or_eq_true, has_iff_get, ne_eq, List.append_eq_nil_iff, List.map_eq_nil_iff,
    not_and_or]

end Configuration

open Collection in
/-- A collection that is read of a deck, and that aquifers are added to, holds for each number the
last aquifer with it, in the order of the first; the aquifers are as their records describe them. A
record that is scheduled counts as one at the end of the deck, and a call that fails changes
nothing. Looking a number up in such collections and searching all aquifers for it come to the
same. -/
theorem Collection.holds_of_deck (d : Deck) (tables : Option InfluenceTables)
    (ht : ∀ source ∈ tables, ∀ n, ∃ t, source n = .ok t) :
    (d.Built → (∃ c, d.fetkovich = .ok c) ∧ (∃ c, d.carterTracy tables = .ok c) ∧
      ∃ c, d.constantFlux = .ok c) ∧
    (∀ c, d.fetkovich = .ok c → ∃ as, (d.records "AQUFETP").mapM Fetkovich.ofRecord = .ok as ∧
      (d.Built → List.Forall₂ (fun r a ↦ Fetkovich.Describes a r) (d.records "AQUFETP") as) ∧
      ∀ later : List Fetkovich, (later.foldl add c).Holds (as ++ later)) ∧
    (∀ c, d.carterTracy tables = .ok c → ∃ as,
      (d.records "AQUCT").mapM (CarterTracy.ofRecord tables) = .ok as ∧
      (d.Built → List.Forall₂ (fun r a ↦ CarterTracy.Describes a tables r) (d.records "AQUCT") as) ∧
      ∀ later : List CarterTracy, (later.foldl add c).Holds (as ++ later)) ∧
    (∀ c, d.constantFlux = .ok c → ∃ as,
      (d.records "AQUFLUX").mapM ConstantFlux.ofRecord = .ok as ∧
      (d.Built → List.Forall₂ (fun r a ↦ ConstantFlux.Describes a r) (d.records "AQUFLUX") as) ∧
      (∀ calls : List FluxCall,
        (calls.foldl FluxCall.after c).Holds (as ++ FluxCall.brought calls)) ∧
      ∀ call e c', FluxCall.step call c = .error e c' → c' = c) ∧
    (∀ r (e : Deck), e.records "AQUFLUX" = d.records "AQUFLUX" ++ [r] →
      e.constantFlux = d.constantFlux >>= fun c ↦ c.schedule r) ∧
    (∀ row u r, Record.ofRow "AQUFLUX" row u = .ok r → ∀ c : Collection ConstantFlux,
      ∃ a, a.Describes r ∧ c.schedule r = .ok (c.add a)) ∧
    ∀ (c : Configuration) as bs cs, c.fetkovich.Holds as → c.carterTracy.Holds bs →
      c.constantFlux.Holds cs → ∀ id,
      c.analyticWith id = (c.fetkovich.get id).toOption.toList.map .fetkovich ++
        (c.carterTracy.get id).toOption.toList.map .carterTracy ++
        (c.constantFlux.get id).toOption.toList.map .constantFlux ∧
      (c.has id = true ↔ c.analyticWith id ≠ [] ∨ c.numerical.has id = true) := by
  refine ⟨fun hd ↦ ⟨?_, ?_, ?_⟩, fun c h ↦ ?fetkovich, fun c h ↦ ?carterTracy,
    fun c h ↦ ?constantFlux, ?appended, ?scheduled, fun c as bs cs hf hct hcf id ↦
    ⟨Configuration.analyticWith_eq hf hct hcf id, Configuration.has_iff hf hct hcf id⟩⟩
  · exact exists_ofRecords fun r hr ↦ Fetkovich.exists_ofRecord (hd.conforms rfl hr)
  · refine exists_ofRecords fun r hr ↦
      CarterTracy.exists_ofRecord_of_influence (hd.conforms rfl hr) fun n ↦ ?_
    cases tables with
    | none => exact ⟨_, rfl⟩
    | some source => exact ht source rfl n
  · exact exists_ofRecords fun r hr ↦ ConstantFlux.exists_ofRecord (hd.conforms rfl hr)
  case fetkovich =>
    obtain ⟨as, has, hholds⟩ := holds_of_ofRecords h
    exact ⟨as, has, fun hd ↦ forall₂_of_mapM has fun r hr a ha ↦
      Fetkovich.describes_of_ofRecord (hd.conforms rfl hr) ha, hholds⟩
  case carterTracy =>
    obtain ⟨as, has, hholds⟩ := holds_of_ofRecords h
    exact ⟨as, has, fun hd ↦ forall₂_of_mapM has fun r hr a ha ↦
      CarterTracy.describes_of_ofRecord (hd.conforms rfl hr) ha, hholds⟩
  case constantFlux =>
    obtain ⟨as, has, rfl⟩ := ofRecords_eq_ok_iff.mp h
    refine ⟨as, has, fun hd ↦ forall₂_of_mapM has fun r hr a ha ↦
      ConstantFlux.describes_of_ofRecord (hd.conforms rfl hr) ha, fun calls ↦ ?_, ?_⟩
    · rw [FluxCall.foldl_after]
      exact holds_ofList _
    · intro call e c' hc'
      rw [FluxCall.step_eq] at hc'
      split at hc'
      · exact nomatch hc'
      · cases hc'
        rfl
  case appended =>
    intro r e he
    rw [Deck.constantFlux, he, ofRecords_concat]
    rfl
  case scheduled =>
    intro row u r hr c
    have hconforms := Record.conforms_of_ofRow hr rfl
    obtain ⟨a, ha⟩ := ConstantFlux.exists_ofRecord hconforms
    exact ⟨a, ConstantFlux.describes_of_ofRecord hconforms ha, by rw [schedule, ha]; rfl⟩

def fetkovichRow (id : Int) (depth : Double) : Row :=
  .ofList [("AQUIFER_ID", .int id), ("DAT_DEPTH", .real depth), ("V0", .real 2.0),
    ("C_T", .real 3.0), ("PI", .real 4.0)]

def carterTracyRow (id : Int) (radius : Double) : Row :=
  .ofList [("AQUIFER_ID", .int id), ("DAT_DEPTH", .real 1.0), ("PERM_AQ", .real 2.0),
    ("C_T", .real 3.0), ("RAD", .real radius), ("THICKNESS_AQ", .real 4.0)]

def fluxRow (id : Int) : Row := .ofList [("AQUIFER_ID", .int id), ("FLUX", .real 5.0)]

def repeatedDeck : Deck :=
  .ofRows .field [(.aqufetp, [fetkovichRow 6 7.0, fetkovichRow 4 8.0, fetkovichRow 6 9.0]),
    (.aquct, [carterTracyRow 5 7.0, carterTracyRow 5 8.0, carterTracyRow 4 9.0]),
    (.aquflux, [fluxRow 2, fluxRow 1, fluxRow 2])]

def repeatedCalls : List Collection.FluxCall :=
  [.add ⟨3, ⟨4⟩, ⟨5⟩, none, none⟩, .schedule ⟨"AQUFLUX", [], .metric⟩,
    .add ⟨1, ⟨6⟩, ⟨7⟩, none, none⟩]

open Collection in
theorem Collection.holds_of_deck_repeated :
    ∃ f t q, repeatedDeck.fetkovich = .ok f ∧ repeatedDeck.carterTracy none = .ok t ∧
      repeatedDeck.constantFlux = .ok q ∧
      f.toList.map (fun a ↦ (a.id, a.datumDepth)) =
        [(6, 9.0 * UnitSystem.foot + 0.0), (4, 8.0 * UnitSystem.foot + 0.0)] ∧
      t.toList.map (fun a ↦ (a.id, a.innerRadius)) =
        [(5, 8.0 * UnitSystem.foot + 0.0), (4, 9.0 * UnitSystem.foot + 0.0)] ∧
      let later := repeatedCalls.foldl FluxCall.after q
      later.toList.map (·.id) = [2, 1, 3] ∧ later.get 1 = .ok ⟨1, ⟨6⟩, ⟨7⟩, none, none⟩ ∧
      (Configuration.analyticWith { fetkovich := f, carterTracy := t, constantFlux := later } 4).map
        AnalyticAquifer.id = [4, 4] := by
  have hbuilt : repeatedDeck.Built := Deck.built_ofRows rfl rfl
  obtain ⟨hexists, hfetkovich, hcarterTracy, hflux, -, -, hconfiguration⟩ :=
    Collection.holds_of_deck repeatedDeck none nofun
  obtain ⟨⟨f, hf⟩, ⟨t, ht⟩, q, hq⟩ := hexists hbuilt
  obtain ⟨as, has, -, hf'⟩ := hfetkovich f hf
  obtain ⟨bs, hbs, -, ht'⟩ := hcarterTracy t ht
  obtain ⟨cs, hcs, -, hq', -⟩ := hflux q hq
  cases has
  cases hbs
  cases hcs
  have hfetkovich : f.Holds _ := hf' []
  have hcarterTracy : t.Holds _ := ht' []
  have hlater := hq' repeatedCalls
  refine ⟨f, t, q, hf, ht, hq, ?_, ?_, hlater.ids, hlater.get 1, ?_⟩
  · exact (congrArg _ hfetkovich.toList).trans rfl
  · exact (congrArg _ hcarterTracy.toList).trans rfl
  · rw [(hconfiguration _ _ _ _ hfetkovich hcarterTracy hlater 4).1,
      hfetkovich.get, hcarterTracy.get, hlater.get]
    rfl

end Aquifer
