import Aquifer.Binary.Codec
import Aquifer.Proofs.Binary.Record

namespace Aquifer

namespace Codec

variable {α β : Type} {a : Codec α} {b : Codec β}

def Writes (a : Codec α) (x : α) : Prop := ∀ o, ∃ bs, a.write o x = .ok bs

def Restores (a : Codec α) (x : α) : Prop :=
  ∀ o bs, a.write o x = .ok bs → ∃ k, ∀ rest n, a.read o ⟨bs ++ rest, n⟩ = .ok x ⟨rest, n + k⟩

theorem frame_of_length_lt (o : ByteOrder) {bs : Bytes} (h : bs.length < 2 ^ 31) :
    ∃ cs, Binary.frame o bs = .ok cs :=
  ⟨_, Binary.frame_eq_ok_iff.mpr ⟨(Binary.fits_four_iff _).mpr h, rfl⟩⟩

theorem Writes.pair {x : α × β} (ha : a.Writes x.1) (hb : b.Writes x.2) : (a.pair b).Writes x := by
  intro o
  obtain ⟨bs, hbs⟩ := ha o
  obtain ⟨cs, hcs⟩ := hb o
  exact ⟨bs ++ cs, by simp only [Codec.pair, hbs, hcs]; rfl⟩

theorem Restores.pair {x : α × β} (ha : a.Restores x.1) (hb : b.Restores x.2) :
    (a.pair b).Restores x := by
  intro o bs h
  simp only [Codec.pair, Except.bind_eq_ok_iff] at h
  obtain ⟨us, hus, vs, hvs, huv⟩ := h
  cases Except.ok.inj huv
  obtain ⟨k, hk⟩ := ha o us hus
  obtain ⟨l, hl⟩ := hb o vs hvs
  refine ⟨k + l, fun rest n ↦ ?_⟩
  rw [List.append_assoc]
  simp only [Codec.pair, EStateM.bind_of_ok (hk _ n), EStateM.bind_of_ok (hl rest _), Nat.add_assoc]
  rfl

theorem Writes.map {form : α → β} {unform : β → α} {y : β} (h : a.Writes (unform y)) :
    (a.map form unform).Writes y :=
  h

theorem Restores.map {form : α → β} {unform : β → α} {y : β} (h : a.Restores (unform y))
    (hy : form (unform y) = y) : (a.map form unform).Restores y := by
  intro o bs hbs
  obtain ⟨k, hk⟩ := h o bs hbs
  refine ⟨k, fun rest n ↦ ?_⟩
  simp only [Codec.map, EStateM.bind_of_ok (hk rest n), hy]
  rfl

theorem Writes.refine {form : Nat → α → Except Fault β} {unform : β → α} {y : β}
    (h : a.Writes (unform y)) : (a.refine form unform).Writes y :=
  h

theorem read_refine {form : Nat → α → Except Fault β} {unform : β → α} {o : ByteOrder}
    {s t : Source} {x : α} {y : β} (hx : a.read o s = .ok x t) (hy : form t.records x = .ok y) :
    (a.refine form unform).read o s = .ok y t := by
  have hget : (get : Read Source) t = .ok t t := rfl
  simp only [Codec.refine, EStateM.bind_of_ok hx, EStateM.bind_of_ok hget, hy]
  rfl

theorem of_read_refine {form : Nat → α → Except Fault β} {unform : β → α} {o : ByteOrder}
    {s t : Source} {y : β} (h : (a.refine form unform).read o s = .ok y t) :
    ∃ x, a.read o s = .ok x t ∧ form t.records x = .ok y := by
  obtain ⟨x, u, hx, h⟩ := EStateM.bind_eq_ok_iff.mp h
  obtain ⟨_, _, hget, h⟩ := EStateM.bind_eq_ok_iff.mp h
  cases hget
  cases hform : form u.records x with
  | ok z =>
    rw [hform] at h
    cases h
    exact ⟨x, hx, hform⟩
  | error e =>
    rw [hform] at h
    exact nomatch h

theorem of_read_refine_error {form : Nat → α → Except Fault β} {unform : β → α} {o : ByteOrder}
    {s t : Source} {e : Fault} (h : (a.refine form unform).read o s = .error e t) :
    a.read o s = .error e t ∨ ∃ x, a.read o s = .ok x t ∧ form t.records x = .error e := by
  obtain h | ⟨x, u, hx, h⟩ := EStateM.bind_eq_error_iff.mp h
  · exact Or.inl h
  obtain h | ⟨_, _, hget, h⟩ := EStateM.bind_eq_error_iff.mp h
  · exact nomatch h
  cases hget
  cases hform : form u.records x with
  | ok z =>
    rw [hform] at h
    exact nomatch h
  | error d =>
    rw [hform] at h
    cases h
    exact Or.inr ⟨x, hx, hform⟩

/-- An optional value is read as its flag, and as the value if the flag is set. -/
theorem of_read_optional {o : ByteOrder} {s t : Source} {x : Option α}
    (h : (optional a).read o s = .ok x t) : x = none ∧ flag.read o s = .ok false t ∨
      ∃ y u, x = some y ∧ flag.read o s = .ok true u ∧ a.read o u = .ok y t := by
  obtain ⟨present, u, hflag, h⟩ := EStateM.bind_eq_ok_iff.mp h
  cases present with
  | false =>
    cases h
    exact Or.inl ⟨rfl, hflag⟩
  | true =>
    obtain ⟨y, _, hy, h⟩ := EStateM.bind_eq_ok_iff.mp h
    cases h
    exact Or.inr ⟨y, u, rfl, hflag, hy⟩

theorem Restores.refine {form : Nat → α → Except Fault β} {unform : β → α} {y : β}
    (h : a.Restores (unform y)) (hy : ∀ n, form n (unform y) = .ok y) :
    (a.refine form unform).Restores y := by
  intro o bs hbs
  obtain ⟨k, hk⟩ := h o bs hbs
  exact ⟨k, fun rest n ↦ read_refine (hk rest n) (hy _)⟩

theorem read_payload_append {o : ByteOrder} {bs cs : Bytes} (h : payload.write o bs = .ok cs)
    (rest : Bytes) (n : Nat) : payload.read o ⟨cs ++ rest, n⟩ = .ok bs ⟨rest, n + 1⟩ := by
  simp only [payload] at h ⊢
  exact Binary.readFrame_append h rest n

theorem writes_int {n : Int} (h : Binary.fits 8 n = true) : int.Writes n := by
  intro o
  simp only [int, h, if_true]
  exact frame_of_length_lt o (by rw [Binary.word_length]; decide)

theorem read_int_append {o : ByteOrder} {n : Int} {bs : Bytes} (h : int.write o n = .ok bs)
    (rest : Bytes) (m : Nat) : int.read o ⟨bs ++ rest, m⟩ = .ok n ⟨rest, m + 1⟩ := by
  simp only [int] at h
  split at h
  · rename_i hn
    simp only [int, EStateM.bind_of_ok (Binary.readFrame_append h rest m), Binary.word_length,
      if_true, Binary.ofWord_word hn]
    rfl
  · exact nomatch h

theorem restores_int (n : Int) : int.Restores n := fun _ _ h ↦ ⟨1, read_int_append h⟩

theorem realWord_length (o : ByteOrder) (x : Double) : (realWord o x).length = 8 :=
  Binary.word_length o 8 _

theorem ofRealWord_realWord (o : ByteOrder) (x : Double) : ofRealWord o (realWord o x) = x := by
  have hx := x.bits.toNat_lt
  have hcount : (Binary.wordCount 8 : Int) = 2 ^ 64 := rfl
  have hword := Binary.ofWordUnsigned_word o 8 x.bits.toNat
  rw [hcount] at hword
  have hnat : Binary.ofWordUnsigned o (Binary.word o 8 x.bits.toNat) = x.bits.toNat := by omega
  rw [ofRealWord, realWord, hnat, UInt64.ofNat_toNat]

theorem writes_real (x : Double) : real.Writes x := by
  intro o
  simp only [real]
  exact frame_of_length_lt o (by rw [realWord_length]; decide)

theorem restores_real (x : Double) : real.Restores x := by
  intro o bs h
  simp only [real] at h
  refine ⟨1, fun rest n ↦ ?_⟩
  simp only [real, EStateM.bind_of_ok (Binary.readFrame_append h rest n), realWord_length, if_true,
    ofRealWord_realWord]
  rfl

theorem writes_flag (b : Bool) : flag.Writes b :=
  Writes.map (writes_int (by cases b <;> decide))

theorem restores_flag (b : Bool) : flag.Restores b :=
  Restores.map (restores_int _) (by cases b <;> rfl)

theorem eights_append {bs : Bytes} (h : bs.length = 8) (rest : Bytes) :
    eights (bs ++ rest) = bs :: eights rest := by
  obtain ⟨b₀, b₁, b₂, b₃, b₄, b₅, b₆, b₇, rfl⟩ :
      ∃ b₀ b₁ b₂ b₃ b₄ b₅ b₆ b₇, bs = [b₀, b₁, b₂, b₃, b₄, b₅, b₆, b₇] := by
    match bs, h with
    | [b₀, b₁, b₂, b₃, b₄, b₅, b₆, b₇], _ => exact ⟨b₀, b₁, b₂, b₃, b₄, b₅, b₆, b₇, rfl⟩
  rfl

theorem eights_length_eq {n : Nat} {bs : Bytes} (h : bs.length = 8 * n) :
    (eights bs).length = n := by
  induction n generalizing bs with
  | zero =>
    rw [List.length_eq_zero_iff.mp h]
    rfl
  | succ n ih =>
    have htake : (bs.take 8).length = 8 := by
      rw [List.length_take]
      omega
    have hdrop : (bs.drop 8).length = 8 * n := by
      rw [List.length_drop]
      omega
    rw [← List.take_append_drop 8 bs, eights_append htake, List.length_cons, ih hdrop]

section Words

variable {write : ByteOrder → α → Bytes} {read : ByteOrder → Bytes → α} {xs : List α}

theorem flatMap_words_length (hw : ∀ o x, (write o x).length = 8) (o : ByteOrder) (xs : List α) :
    (xs.flatMap (write o)).length = 8 * xs.length := by
  induction xs with
  | nil => rfl
  | cons x xs ih =>
    rw [List.flatMap_cons, List.length_append, hw, ih, List.length_cons]
    omega

theorem eights_words (hw : ∀ o x, (write o x).length = 8) (o : ByteOrder) (xs : List α) :
    eights (xs.flatMap (write o)) = xs.map (write o) := by
  induction xs with
  | nil => rfl
  | cons x xs ih => rw [List.flatMap_cons, eights_append (hw o x), ih, List.map_cons]

theorem writes_words (hw : ∀ o x, (write o x).length = 8) (h : 8 * xs.length < 2 ^ 31) :
    (words write read).Writes xs := by
  intro o
  simp only [words]
  exact frame_of_length_lt o (by rw [flatMap_words_length hw]; exact h)

theorem restores_words (hw : ∀ o x, (write o x).length = 8)
    (hr : ∀ o, ∀ x ∈ xs, read o (write o x) = x) : (words write read).Restores xs := by
  intro o bs h
  have hread : (xs.map (write o)).map (read o) = xs := by
    rw [List.map_map]
    exact (List.map_congr_left (hr o)).trans (List.map_id xs)
  simp only [words] at h
  refine ⟨1, fun rest n ↦ ?_⟩
  simp only [words, EStateM.bind_of_ok (Binary.readFrame_append h rest n), flatMap_words_length hw,
    Nat.mul_mod_right, if_true, eights_words hw, hread]
  rfl

end Words

theorem writes_reals {xs : List Double} (h : 8 * xs.length < 2 ^ 31) : reals.Writes xs :=
  writes_words realWord_length h

theorem restores_reals (xs : List Double) : reals.Restores xs :=
  restores_words realWord_length fun o x _ ↦ ofRealWord_realWord o x

theorem writes_ints {xs : List Int} (hx : ∀ n ∈ xs, Binary.fits 8 n = true)
    (h : 8 * xs.length < 2 ^ 31) : ints.Writes xs := by
  have hwords : (words (Binary.word · 8) Binary.ofWord).Writes xs :=
    writes_words (fun o ↦ Binary.word_length o 8) h
  intro o
  obtain ⟨bs, hbs⟩ := hwords o
  exact ⟨bs, by simp only [ints, List.all_eq_true.mpr hx, if_true, hbs]⟩

theorem restores_ints (xs : List Int) : ints.Restores xs := by
  intro o bs h
  simp only [ints] at h
  split at h
  · rename_i hx
    exact restores_words (fun o ↦ Binary.word_length o 8)
      (fun o n hn ↦ Binary.ofWord_word (List.all_eq_true.mp hx n hn)) o bs h
  · exact nomatch h

theorem ofTextBytes_textBytes (s : String) : ofTextBytes (textBytes s) = .ok s := by
  have hbytes : (⟨s.toUTF8.data.toList.toArray⟩ : ByteArray) = s.toByteArray := by
    rw [Array.toArray_toList, String.toUTF8_eq_toByteArray]
  have hvalid : String.fromUTF8? s.toByteArray = some s := by
    rw [String.fromUTF8?, dif_pos s.isValidUTF8]
    rfl
  rw [ofTextBytes, textBytes, hbytes, hvalid]

theorem read_text_append {o : ByteOrder} {s : String} {bs : Bytes} (h : text.write o s = .ok bs)
    (rest : Bytes) (n : Nat) : text.read o ⟨bs ++ rest, n⟩ = .ok s ⟨rest, n + 1⟩ := by
  simp only [text, Codec.refine] at h
  exact read_refine (read_payload_append h rest n) (ofTextBytes_textBytes s)

theorem Writes.optional {x : Option α} (h : ∀ y ∈ x, a.Writes y) : (optional a).Writes x := by
  intro o
  cases x with
  | none =>
    obtain ⟨us, hus⟩ := writes_flag false o
    exact ⟨us, by simp only [Codec.optional, hus]⟩
  | some y =>
    obtain ⟨us, hus⟩ := writes_flag true o
    obtain ⟨vs, hvs⟩ := h y rfl o
    exact ⟨us ++ vs, by simp only [Codec.optional, hus, hvs]; rfl⟩

theorem Restores.optional {x : Option α} (h : ∀ y ∈ x, a.Restores y) :
    (optional a).Restores x := by
  intro o bs hbs
  cases x with
  | none =>
    simp only [Codec.optional] at hbs
    obtain ⟨k, hk⟩ := restores_flag false o bs hbs
    refine ⟨k, fun rest n ↦ ?_⟩
    simp only [Codec.optional, EStateM.bind_of_ok (hk rest n)]
    rfl
  | some y =>
    simp only [Codec.optional, Except.bind_eq_ok_iff] at hbs
    obtain ⟨us, hus, vs, hvs, huv⟩ := hbs
    cases Except.ok.inj huv
    obtain ⟨k, hk⟩ := restores_flag true o us hus
    obtain ⟨l, hl⟩ := h y rfl o vs hvs
    refine ⟨k + l, fun rest n ↦ ?_⟩
    rw [List.append_assoc]
    simp only [Codec.optional, EStateM.bind_of_ok (hk _ n), if_true, EStateM.bind_of_ok (hl rest _),
      Nat.add_assoc]
    rfl

theorem writeList_of_writes {xs : List α} (h : ∀ x ∈ xs, a.Writes x) (o : ByteOrder) :
    ∃ bs, a.writeList o xs = .ok bs := by
  induction xs with
  | nil => exact ⟨[], rfl⟩
  | cons x xs ih =>
    obtain ⟨us, hus⟩ := h x (List.mem_cons_self ..) o
    obtain ⟨vs, hvs⟩ := ih fun y hy ↦ h y (List.mem_cons_of_mem _ hy)
    exact ⟨us ++ vs, by simp only [writeList, hus, hvs]; rfl⟩

theorem writeList_append {o : ByteOrder} {xs ys : List α}
    {bs cs : Bytes} (hxs : a.writeList o xs = .ok bs) (hys : a.writeList o ys = .ok cs) :
    a.writeList o (xs ++ ys) = .ok (bs ++ cs) := by
  induction xs generalizing bs with
  | nil =>
    cases Except.ok.inj hxs
    exact hys
  | cons x xs ih =>
    simp only [writeList, Except.bind_eq_ok_iff] at hxs
    obtain ⟨us, hus, vs, hvs, huv⟩ := hxs
    cases Except.ok.inj huv
    simp only [List.cons_append, writeList, hus, ih hvs, List.append_assoc]
    rfl

theorem readMany_of_restores {xs : List α} (h : ∀ x ∈ xs, a.Restores x) {o : ByteOrder}
    {bs : Bytes} (hbs : a.writeList o xs = .ok bs) : ∃ k, ∀ rest n,
      Binary.readMany (a.read o) xs.length ⟨bs ++ rest, n⟩ = .ok xs ⟨rest, n + k⟩ := by
  induction xs generalizing bs with
  | nil =>
    cases Except.ok.inj hbs
    exact ⟨0, fun rest n ↦ rfl⟩
  | cons x xs ih =>
    simp only [writeList, Except.bind_eq_ok_iff] at hbs
    obtain ⟨us, hus, vs, hvs, huv⟩ := hbs
    cases Except.ok.inj huv
    obtain ⟨k, hk⟩ := h x (List.mem_cons_self ..) o us hus
    obtain ⟨l, hl⟩ := ih (fun y hy ↦ h y (List.mem_cons_of_mem _ hy)) hvs
    refine ⟨k + l, fun rest n ↦ ?_⟩
    rw [List.append_assoc, List.length_cons, Binary.readMany, EStateM.bind_of_ok (hk _ n),
      EStateM.bind_of_ok (hl rest _), Nat.add_assoc]
    rfl

theorem Writes.counted {xs : List α} (hn : Binary.fits 8 xs.length = true)
    (h : ∀ x ∈ xs, a.Writes x) : (counted a).Writes xs := by
  intro o
  obtain ⟨us, hus⟩ := writes_int hn o
  obtain ⟨vs, hvs⟩ := writeList_of_writes h o
  exact ⟨us ++ vs, by simp only [Codec.counted, hus, hvs]; rfl⟩

theorem Restores.counted {xs : List α} (h : ∀ x ∈ xs, a.Restores x) :
    (counted a).Restores xs := by
  intro o bs hbs
  simp only [Codec.counted, Except.bind_eq_ok_iff] at hbs
  obtain ⟨us, hus, vs, hvs, huv⟩ := hbs
  cases Except.ok.inj huv
  obtain ⟨k, hk⟩ := restores_int _ o us hus
  obtain ⟨l, hl⟩ := readMany_of_restores h hvs
  refine ⟨k + l, fun rest n ↦ ?_⟩
  rw [List.append_assoc]
  simp only [Codec.counted, EStateM.bind_of_ok (hk _ n), Int.toNat_natCast, hl, Nat.add_assoc]

end Codec

end Aquifer
