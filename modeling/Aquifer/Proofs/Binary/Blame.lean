import Aquifer.Binary.File
import Aquifer.Proofs.Binary.Layout

namespace Aquifer

namespace Binary

/-- The stream `t` is what is left of `s` behind whole records with these payloads. -/
def Passes (o : ByteOrder) (ps : List Bytes) (s t : Source) : Prop :=
  t.records = s.records + ps.length ∧
    ∃ bs, Codec.payload.writeList o ps = .ok bs ∧ s.rest = bs ++ t.rest

theorem Passes.refl (o : ByteOrder) (s : Source) : Passes o [] s s := ⟨rfl, [], rfl, rfl⟩

theorem Passes.one {o : ByteOrder} {p : Bytes} {s t : Source} (h : readFrame o s = .ok p t) :
    Passes o [p] s t := by
  obtain ⟨bs, hbs, hrest, hrecords⟩ := readFrame_eq_ok_iff.mp h
  refine ⟨hrecords, bs ++ [], ?_, by rw [List.append_nil, hrest]⟩
  simp only [Codec.writeList, Codec.payload, hbs]
  rfl

theorem Passes.trans {o : ByteOrder} {ps qs : List Bytes} {s t u : Source}
    (hst : Passes o ps s t) (htu : Passes o qs t u) : Passes o (ps ++ qs) s u := by
  obtain ⟨hps, bs, hbs, hs⟩ := hst
  obtain ⟨hqs, cs, hcs, ht⟩ := htu
  refine ⟨?_, bs ++ cs, Codec.writeList_append hbs hcs, ?_⟩
  · rw [hqs, hps, List.length_append, Nat.add_assoc]
  · rw [hs, ht, List.append_assoc]

def Content.groups : Content → List Nat
  | .configuration => [4, 6]
  | .solutions => [5, 3]

/-- The last payloads that were read do not suit what is read from them in a file of a kind, which
shows as a fault. Only the faces of influx cells are tested late, behind the record that follows. -/
inductive Unsuits (k : Content) (o : ByteOrder) : List Bytes → Fault → Prop where
  | width {p : Bytes} : p.length ≠ 8 → Unsuits k o [p] .recordWidth
  | parts {p : Bytes} : p.length % 8 ≠ 0 → Unsuits k o [p] .entryCount
  | count {p : Bytes} {n m : Nat} : n ∈ k.groups → p.length = 8 * m → m ≠ n →
      Unsuits k o [p] .entryCount
  | text {p : Bytes} : String.fromUTF8? ⟨p.toArray⟩ = none → Unsuits k o [p] .notUtf8
  | face {p : Bytes} {c : Int} : k = .configuration → p.length = 8 * 6 →
      c ∈ (Codec.eights p).map (ofWord o) → (∀ f : Face, f.code ≠ c) →
      Unsuits k o [p] (.badFaceCode c)
  | column {p q : Bytes} {c : Int} : k = .configuration → p.length = q.length →
      c ∈ (Codec.eights p).map (ofWord o) → (∀ f : Face, f.code ≠ c) →
      Unsuits k o [p, q] (.badFaceCode c)
  | kind {p : Bytes} {c : Int} : k = .solutions → p.length = 8 → ofWord o p = c →
      (∀ l : SolutionKind, l.code ≠ c) → Unsuits k o [p] (.badSolutionCode c)

/-- A fault is explained by the records before it: the stream ends or is broken behind them, or the
last of them do not suit. -/
def Explains (k : Content) (o : ByteOrder) (ps : List Bytes) (n : Nat) (e : Fault) : Prop :=
  e = .endOfStream ∨ (∃ cause, e = .malformed cause (some n)) ∨ ∃ qs, qs <:+ ps ∧ Unsuits k o qs e

theorem Explains.of_unsuits {k : Content} {o : ByteOrder} {ps : List Bytes} {e : Fault}
    (h : Unsuits k o ps e) (n : Nat) : Explains k o ps n e :=
  Or.inr (Or.inr ⟨ps, List.suffix_refl ps, h⟩)

theorem Explains.append {k : Content} {o : ByteOrder} {qs : List Bytes} {n : Nat} {e : Fault}
    (h : Explains k o qs n e) (ps : List Bytes) : Explains k o (ps ++ qs) n e := by
  obtain h | h | ⟨rs, hrs, h⟩ := h
  · exact Or.inl h
  · exact Or.inr (Or.inl h)
  · exact Or.inr (Or.inr ⟨rs, hrs.trans (List.suffix_append ps qs), h⟩)

end Binary

namespace Read

open Binary

variable {α β : Type} {k : Content} {o : ByteOrder} {x : Read α} {f : α → Read β}

/-- A reading takes whole records, and if it fails, these records explain why. -/
structure Blames (k : Content) (o : ByteOrder) (x : Read α) : Prop where
  passes : ∀ {s a t}, x s = .ok a t → ∃ ps, Passes o ps s t
  explains : ∀ {s e t}, x s = .error e t →
    ∃ ps rest, Passes o ps s ⟨rest, t.records⟩ ∧ Explains k o ps t.records e

theorem blames_pure (a : α) : (pure a : Read α).Blames k o where
  passes := by
    intro s b t h
    cases h
    exact ⟨[], .refl o _⟩
  explains h := nomatch h

theorem Blames.bind (hx : x.Blames k o) (hf : ∀ a, (f a).Blames k o) : (x >>= f).Blames k o where
  passes := by
    intro s b u h
    obtain ⟨a, t, hxs, hft⟩ := EStateM.bind_eq_ok_iff.mp h
    obtain ⟨ps, hps⟩ := hx.passes hxs
    obtain ⟨qs, hqs⟩ := (hf a).passes hft
    exact ⟨ps ++ qs, hps.trans hqs⟩
  explains := by
    intro s e u h
    obtain h | ⟨a, t, hxs, hft⟩ := EStateM.bind_eq_error_iff.mp h
    · exact hx.explains h
    · obtain ⟨ps, hps⟩ := hx.passes hxs
      obtain ⟨qs, rest, hqs, he⟩ := (hf a).explains hft
      exact ⟨ps ++ qs, rest, hps.trans hqs, he.append ps⟩

theorem Blames.ite {p : Prop} [Decidable p] {y : Read α} (hx : x.Blames k o) (hy : y.Blames k o) :
    (if p then x else y).Blames k o := by
  split
  · exact hx
  · exact hy

theorem blames_malformed (cause : Malformation) :
    (malformed cause : Read α).Blames k o where
  passes h := nomatch h
  explains := by
    intro s e t h
    cases h
    exact ⟨[], s.rest, .refl o s, Or.inr (Or.inl ⟨cause, rfl⟩)⟩

theorem Blames.guard {p : Prop} [Decidable p] {cause : Malformation} {g : PUnit → Read α}
    (hg : ∀ u, (g u).Blames k o) : (if p then malformed cause >>= g else g ⟨⟩).Blames k o :=
  .ite (.bind (blames_malformed cause) hg) (hg ⟨⟩)

theorem Blames.orMalformed (hx : x.Blames k o) (cause : Malformation) :
    (orMalformed cause x).Blames k o where
  passes h := hx.passes (orMalformed_eq_ok_iff.mp h)
  explains := by
    intro s e t h
    rw [Binary.orMalformed] at h
    split at h
    · rename_i u hu
      cases h
      obtain ⟨ps, rest, hps, -⟩ := hx.explains hu
      exact ⟨ps, rest, hps, Or.inr (Or.inl ⟨cause, rfl⟩)⟩
    · exact hx.explains h

theorem Blames.readMany (hx : x.Blames k o) (n : Nat) : (readMany x n).Blames k o := by
  induction n with
  | zero => exact blames_pure []
  | succ n ih => exact hx.bind fun a ↦ ih.bind fun as ↦ blames_pure (a :: as)

theorem blames_readFrame (k : Content) (o : ByteOrder) : (readFrame o).Blames k o where
  passes h := ⟨_, .one h⟩
  explains := by
    intro s e t h
    obtain ⟨hrecords, -, he⟩ := of_readFrame_error h
    refine ⟨[], s.rest, ⟨hrecords, [], rfl, rfl⟩, ?_⟩
    rw [hrecords]
    exact he.imp And.right fun hbroken ↦ Or.inl hbroken.2

/-- A record that is tested before it is used. -/
theorem Blames.of_record {p : Bytes → Prop} [DecidablePred p] {e : Fault} {g : Bytes → α}
    (h : ∀ bs, ¬p bs → Unsuits k o [bs] e) :
    (do
      let bs ← readFrame o
      if p bs then return g bs else throw e : Read α).Blames k o where
  passes := by
    intro s a t hread
    obtain ⟨bs, u, hbs, hread⟩ := EStateM.bind_eq_ok_iff.mp hread
    split at hread
    · cases hread
      exact ⟨[bs], .one hbs⟩
    · exact nomatch hread
  explains := by
    intro s d t hread
    obtain hread | ⟨bs, u, hbs, hread⟩ := EStateM.bind_eq_error_iff.mp hread
    · exact (blames_readFrame k o).explains hread
    · split at hread
      · exact nomatch hread
      · rename_i hp
        cases hread
        exact ⟨[bs], t.rest, .one hbs, .of_unsuits (h bs hp) _⟩

end Read

namespace Codec

variable {α β : Type} {a : Codec α} {b : Codec β} {k : Binary.Content}

def Blames (k : Binary.Content) (a : Codec α) : Prop := ∀ o, (a.read o).Blames k o

/-- What is read follows by `R` from the payloads of the records that it is read from. -/
def Spells (R : ByteOrder → List Bytes → α → Prop) (a : Codec α) : Prop :=
  ∀ o s x t, a.read o s = .ok x t → ∃ ps, Binary.Passes o ps s t ∧ R o ps x

theorem blames_payload : payload.Blames k := Read.blames_readFrame k

theorem spells_payload : payload.Spells fun _ ps bs ↦ ps = [bs] :=
  fun _ _ bs _ h ↦ ⟨[bs], .one h, rfl⟩

theorem blames_int : int.Blames k := fun _ ↦ .of_record fun _ ↦ .width

theorem spells_int :
    int.Spells fun o ps n ↦ ∃ p, ps = [p] ∧ p.length = 8 ∧ Binary.ofWord o p = n := by
  intro o s n t h
  obtain ⟨bs, u, hbs, h⟩ := EStateM.bind_eq_ok_iff.mp h
  split at h
  · rename_i hlength
    cases h
    exact ⟨[bs], .one hbs, bs, rfl, hlength, rfl⟩
  · exact nomatch h

theorem blames_real : real.Blames k := fun _ ↦ .of_record fun _ ↦ .width

section Words

variable (write : ByteOrder → α → Bytes) (read : ByteOrder → Bytes → α)

theorem blames_words : (words write read).Blames k := fun _ ↦ .of_record fun _ ↦ .parts

def InWords (o : ByteOrder) (ps : List Bytes) (xs : List α) : Prop :=
  ∃ p, ps = [p] ∧ p.length = 8 * xs.length ∧ xs = (eights p).map (read o)

theorem spells_words : (words write read).Spells (InWords read) := by
  intro o s xs t h
  obtain ⟨bs, u, hbs, h⟩ := EStateM.bind_eq_ok_iff.mp h
  split at h
  · rename_i hparts
    cases h
    have hlength : (eights bs).length = bs.length / 8 := eights_length_eq (by omega)
    refine ⟨[bs], .one hbs, bs, rfl, ?_, rfl⟩
    rw [List.length_map, hlength]
    omega
  · exact nomatch h

end Words

theorem blames_reals : reals.Blames k := blames_words realWord ofRealWord

theorem blames_ints : ints.Blames k :=
  fun o ↦ blames_words (Binary.word · 8) Binary.ofWord o

theorem spells_ints : ints.Spells (InWords Binary.ofWord) := by
  intro o s xs t h
  have hread : (words (Binary.word · 8) Binary.ofWord).read o s = .ok xs t := h
  exact spells_words _ _ o s xs t hread

theorem Blames.pair (ha : a.Blames k) (hb : b.Blames k) : (a.pair b).Blames k :=
  fun o ↦ .bind (ha o) fun _ ↦ .bind (hb o) fun _ ↦ Read.blames_pure _

theorem Spells.pair {R : ByteOrder → List Bytes → α → Prop} {S : ByteOrder → List Bytes → β → Prop}
    (ha : a.Spells R) (hb : b.Spells S) : (a.pair b).Spells fun o ps x ↦
      ∃ qs rs, ps = qs ++ rs ∧ R o qs x.1 ∧ S o rs x.2 := by
  intro o s x t h
  obtain ⟨y, u, hy, h⟩ := EStateM.bind_eq_ok_iff.mp h
  obtain ⟨z, v, hz, h⟩ := EStateM.bind_eq_ok_iff.mp h
  cases h
  obtain ⟨qs, hqs, hR⟩ := ha o s y u hy
  obtain ⟨rs, hrs, hS⟩ := hb o u z t hz
  exact ⟨qs ++ rs, hqs.trans hrs, qs, rs, rfl, hR, hS⟩

theorem Blames.map {form : α → β} {unform : β → α} (ha : a.Blames k) :
    (a.map form unform).Blames k :=
  fun o ↦ .bind (ha o) fun _ ↦ Read.blames_pure _

/-- A form that is refused has to be explained by the records that its value was read from. -/
theorem Blames.refine {R : ByteOrder → List Bytes → α → Prop} {form : Nat → α → Except Fault β}
    {unform : β → α} (ha : a.Blames k) (hR : a.Spells R)
    (hform : ∀ {o ps n x e}, R o ps x → form n x = .error e → Binary.Explains k o ps n e) :
    (a.refine form unform).Blames k := by
  intro o
  constructor
  case passes =>
    intro s y t h
    obtain ⟨x, hx, -⟩ := of_read_refine h
    exact (ha o).passes hx
  case explains =>
    intro s e t h
    obtain h | ⟨x, hx, he⟩ := of_read_refine_error h
    · exact (ha o).explains h
    · obtain ⟨ps, hps, hspelled⟩ := hR o s x t hx
      exact ⟨ps, t.rest, hps, hform hspelled he⟩

theorem Blames.optional (ha : a.Blames k) : (optional a).Blames k :=
  fun o ↦ .bind (blames_int.map o) fun _ ↦
    .ite (.bind (ha o) fun _ ↦ Read.blames_pure _) (Read.blames_pure none)

theorem Blames.counted (ha : a.Blames k) : (counted a).Blames k :=
  fun o ↦ .bind (blames_int o) fun n ↦ (ha o).readMany n.toNat

theorem blames_text : text.Blames k := by
  refine blames_payload.refine spells_payload ?_
  intro o ps n p e hps h
  rw [ofTextBytes] at h
  split at h
  · cases h
  · rename_i hp
    cases h
    rw [hps]
    exact .of_unsuits (.text hp) n

/-- Numbers that stand together in one record: their number is all that can be wrong. -/
theorem Blames.group {read : ByteOrder → Bytes → α} {a : Codec (List α)} {n : Nat}
    {form : Nat → List α → Except Fault β} {unform : β → List α} (hn : n ∈ k.groups)
    (ha : a.Blames k) (hR : a.Spells (InWords read))
    (hform : ∀ {m xs e}, form m xs = .error e → e = .entryCount ∧ xs.length ≠ n) :
    (a.refine form unform).Blames k := by
  refine ha.refine hR ?_
  intro o ps m xs e hps h
  obtain ⟨p, rfl, hlength, -⟩ := hps
  obtain ⟨rfl, hxs⟩ := hform h
  exact .of_unsuits (.count hn hlength hxs) m

theorem blames_cellNumbers : cellNumbers.Blames .configuration := by
  refine .group (by decide : 4 ∈ _) blames_ints spells_ints ?_
  intro m xs e h
  split at h
  · exact nomatch h
  · rename_i hxs
    refine ⟨(Except.error.inj h).symm, fun hlength ↦ ?_⟩
    match xs, hlength with
    | [i, j, k, n], _ => exact hxs i j k n rfl

theorem blames_couplingNumbers : couplingNumbers.Blames .configuration := by
  refine blames_ints.refine spells_ints ?_
  intro o ps m xs e hps h
  obtain ⟨p, rfl, hlength, hwords⟩ := hps
  split at h
  · rename_i i j k n f option
    obtain h | ⟨_, _, h⟩ := Except.bind_eq_error_iff.mp h
    · obtain ⟨rfl, hf⟩ := Face.of_ofCode_error h
      have hmem : f ∈ (eights p).map (Binary.ofWord o) := by
        rw [← hwords]
        simp
      exact .of_unsuits (.face rfl hlength hmem hf) m
    · exact nomatch h
  · rename_i hxs
    cases h
    have hsix : xs.length ≠ 6 := by
      intro hlength
      match xs, hlength with
      | [i, j, k, n, f, option], _ => exact hxs i j k n f option rfl
    exact .of_unsuits (.count (by decide : 6 ∈ _) hlength hsix) m

theorem exists_bad_face {aquifer : Int} {ns fs : List Int} {xs : List Double} {e : Fault}
    (h : influxRows aquifer ns fs xs = .error e) : ∃ f ∈ fs, Face.ofCode f = .error e := by
  fun_induction influxRows aquifer ns fs xs with
  | case1 n ns f fs x xs ih =>
    obtain h | ⟨_, _, h⟩ := Except.bind_eq_error_iff.mp h
    · exact ⟨f, List.mem_cons_self, h⟩
    obtain h | ⟨_, _, h⟩ := Except.bind_eq_error_iff.mp h
    · obtain ⟨g, hg, hbad⟩ := ih h
      exact ⟨g, List.mem_cons_of_mem f hg, hbad⟩
    · exact nomatch h
  | case2 => exact nomatch h

theorem blames_influxColumns : influxColumns.Blames .configuration := by
  have hspells := spells_int.pair (spells_ints.pair (spells_ints.pair
    (spells_words realWord ofRealWord)))
  refine .refine (.pair blames_int <| .pair blames_ints <| .pair blames_ints blames_reals)
    hspells ?_
  intro o ps n x e hps h
  obtain ⟨ps₁, _, rfl, -, ps₂, _, rfl, -, _, _, rfl, ⟨p, rfl, hp, hfaces⟩, q, rfl, hq, -⟩ := hps
  dsimp only at h
  split at h
  · rename_i heven
    obtain h | ⟨_, _, h⟩ := Except.bind_eq_error_iff.mp h
    · obtain ⟨f, hf, hbad⟩ := exists_bad_face h
      obtain ⟨rfl, hcode⟩ := Face.of_ofCode_error hbad
      have hlength : p.length = q.length := by rw [hp, hq, heven.2]
      rw [hfaces] at hf
      exact ((Binary.Explains.of_unsuits (.column rfl hlength hf hcode) n).append ps₂).append ps₁
    · exact nomatch h
  · cases h
    exact Or.inr (Or.inl ⟨_, rfl⟩)

theorem blames_solutionKind : solutionKind.Blames .solutions := by
  refine blames_int.refine spells_int ?_
  intro o ps m n e hps h
  obtain ⟨p, rfl, hlength, hp⟩ := hps
  obtain ⟨rfl, hcode⟩ := SolutionKind.of_ofCode_error h
  exact .of_unsuits (.kind rfl hlength hp hcode) m

theorem blames_solutionValues : solutionValues.Blames .solutions := by
  refine .group (by decide : 5 ∈ _) blames_reals (spells_words realWord ofRealWord) ?_
  intro m xs e h
  split at h
  · exact nomatch h
  · rename_i hxs
    refine ⟨(Except.error.inj h).symm, fun hlength ↦ ?_⟩
    match xs, hlength with
    | [p, q, v, p₀, d], _ => exact hxs p q v p₀ d rfl

theorem blames_fetkovichConstants : fetkovichConstants.Blames .solutions := by
  refine .group (by decide : 3 ∈ _) blames_reals (spells_words realWord ofRealWord) ?_
  intro m xs e h
  split at h
  · exact nomatch h
  · rename_i hxs
    refine ⟨(Except.error.inj h).symm, fun hlength ↦ ?_⟩
    match xs, hlength with
    | [v, j, t], _ => exact hxs v j t rfl

theorem compositional_blames (k : Binary.Content) : Compositional fun _ ↦ Blames k where
  int := blames_int
  real := blames_real
  reals := blames_reals
  pair := Blames.pair
  map := Blames.map
  optional := Blames.optional
  counted := Blames.counted

theorem blames_configuration : configuration.Blames .configuration :=
  (compositional_blames .configuration).configuration blames_cellNumbers blames_couplingNumbers
    blames_influxColumns

theorem blames_solutions : solutions.Blames .solutions :=
  (compositional_blames .solutions).solutions blames_solutionKind blames_solutionValues
    blames_fetkovichConstants

end Codec

end Aquifer
