import Aquifer.Configuration
import Aquifer.Proofs.Analytic.Influx
import Aquifer.Proofs.Deck.Record
import Aquifer.Proofs.Numerical.Registry

namespace Aquifer

namespace Deck

def Addition.accepted (u : UnitSystem) (x : Addition) : Bool :=
  (x.rows.mapM (Record.ofRow x.keyword · u)).isOk

/-- The rows that a keyword is given by the calls that are accepted, call by call. -/
def given (u : UnitSystem) (xs : List Addition) (keyword : String) : List Row :=
  (xs.filter fun x ↦ x.accepted u && x.keyword == keyword).flatMap (·.rows)

variable {u : UnitSystem} {xs ys : List Addition} {x : Addition} {d e : Deck} {keyword : String}

theorem accepted_iff : x.accepted u = true ↔
    ∀ row ∈ x.rows, ∃ r, Record.ofRow x.keyword row u = .ok r := by
  constructor
  · intro h row hrow
    cases hrows : x.rows.mapM (Record.ofRow x.keyword · u) with
    | ok rs =>
      obtain ⟨r, -, hr⟩ := (Except.exists_of_mem_mapM hrows).1 row hrow
      exact ⟨r, hr⟩
    | error f =>
      rw [Addition.accepted, hrows] at h
      exact nomatch h
  · intro h
    obtain ⟨rs, hrs⟩ := Except.exists_mapM_eq_ok h
    rw [Addition.accepted, hrs]
    rfl

theorem after_concat (u : UnitSystem) (xs : List Addition) (x : Addition) :
    after u (xs ++ [x]) = x.step.leaves (after u xs) :=
  List.foldl_concat _ _ _ _

theorem given_concat (u : UnitSystem) (xs : List Addition) (x : Addition) (keyword : String) :
    given u (xs ++ [x]) keyword =
      given u xs keyword ++ if x.accepted u && x.keyword == keyword then x.rows else [] := by
  simp only [given, List.filter_append, List.flatMap_append]
  by_cases h : x.accepted u && x.keyword == keyword
  · simp [h]
  · simp [h]

theorem has_append (occurrences : List Occurrence) (u : UnitSystem) (o : Occurrence)
    (keyword : String) :
    has ⟨occurrences ++ [o], u⟩ keyword =
      (has ⟨occurrences, u⟩ keyword || o.keyword == keyword) := by
  simp [has]

/-- A call is accepted with a record for each of its rows, or it fails and changes nothing. -/
theorem step_cases (d : Deck) (x : Addition) :
    (x.accepted d.units = true ∧ ∃ rs, x.rows.mapM (Record.ofRow x.keyword · d.units) = .ok rs ∧
      x.step d = .ok () ⟨d.occurrences ++ [⟨x.keyword, rs⟩], d.units⟩) ∨
    (x.accepted d.units = false ∧ ∃ f, x.step d = .error f d) := by
  cases hrows : x.rows.mapM (Record.ofRow x.keyword · d.units) with
  | ok rs =>
    exact Or.inl ⟨by rw [Addition.accepted, hrows]; rfl, rs, rfl, Addition.step_of_ok hrows⟩
  | error f =>
    exact Or.inr ⟨by rw [Addition.accepted, hrows]; rfl, f, Addition.step_of_error hrows⟩

theorem units_after (u : UnitSystem) (xs : List Addition) : (after u xs).units = u := by
  induction xs using List.reverseRecOn with
  | nil => rfl
  | append_singleton xs x ih =>
    rw [after_concat, Attempt.leaves]
    obtain ⟨-, rs, -, h⟩ | ⟨-, f, h⟩ := step_cases (after u xs) x
    · rw [h]
      exact ih
    · rw [h]
      exact ih

/-- What one more call does to a deck. -/
theorem after_cases (u : UnitSystem) (xs : List Addition) (x : Addition) :
    (x.accepted u = true ∧ ∃ rs, x.rows.mapM (Record.ofRow x.keyword · u) = .ok rs ∧
      x.step (after u xs) = .ok () (after u (xs ++ [x])) ∧
      after u (xs ++ [x]) = ⟨(after u xs).occurrences ++ [⟨x.keyword, rs⟩], u⟩) ∨
    (x.accepted u = false ∧ (∃ f, x.step (after u xs) = .error f (after u xs)) ∧
      after u (xs ++ [x]) = after u xs) := by
  have hcases := step_cases (after u xs) x
  rw [units_after] at hcases
  rw [after_concat, Attempt.leaves]
  obtain ⟨hx, rs, hrs, h⟩ | ⟨hx, f, h⟩ := hcases
  · rw [h]
    exact Or.inl ⟨hx, rs, hrs, rfl, rfl⟩
  · rw [h]
    exact Or.inr ⟨hx, ⟨f, rfl⟩, rfl⟩

theorem mapM_given (u : UnitSystem) (xs : List Addition) (keyword : String) :
    (given u xs keyword).mapM (Record.ofRow keyword · u) = .ok ((after u xs).records keyword) := by
  induction xs using List.reverseRecOn with
  | nil => rfl
  | append_singleton xs x ih =>
    rw [given_concat, List.mapM_append, ih]
    obtain ⟨hx, rs, hrs, -, h⟩ | ⟨hx, -, h⟩ := after_cases u xs x
    · rw [h, records_append, hx, Bool.true_and]
      by_cases hkeyword : x.keyword = keyword
      · subst hkeyword
        simp only [beq_self_eq_true, if_true, hrs]
        rfl
      · simp only [beq_eq_false_iff_ne.mpr hkeyword, Bool.false_eq_true, hkeyword, if_false]
        rfl
    · rw [h, hx, Bool.false_and, if_neg Bool.false_ne_true]
      exact congrArg Except.ok (List.append_nil _)

theorem has_after (u : UnitSystem) (xs : List Addition) (keyword : String) :
    (after u xs).has keyword = true ↔ ∃ x ∈ xs, x.accepted u = true ∧ x.keyword = keyword := by
  induction xs using List.reverseRecOn with
  | nil => exact iff_of_false nofun fun ⟨_, hx, _⟩ ↦ nomatch hx
  | append_singleton xs x ih =>
    simp only [List.mem_append, List.mem_singleton, or_and_right, exists_or, exists_eq_left, ← ih]
    obtain ⟨hx, rs, -, -, h⟩ | ⟨hx, -, h⟩ := after_cases u xs x
    · rw [h, has_append, Bool.or_eq_true, beq_iff_eq]
      exact or_congr_right (and_iff_right hx).symm
    · rw [h, hx]
      exact (or_iff_left fun hfalse ↦ nomatch hfalse.1).symm

/-- Two decks that have the same records for every keyword, however they are grouped, and agree on
whether cells of numerical aquifers are declared at all. -/
structure Regrouped (d e : Deck) : Prop where
  records : ∀ keyword, d.records keyword = e.records keyword
  declares : d.has "AQUNUM" = e.has "AQUNUM"

/-- Calls on decks in the same units that give every keyword the same rows. -/
theorem regrouped_after (hrows : ∀ keyword, given u xs keyword = given u ys keyword)
    (hdeclares : (after u xs).has "AQUNUM" = (after u ys).has "AQUNUM") :
    (after u xs).Regrouped (after u ys) where
  records := by
    intro keyword
    have hxs := mapM_given u xs keyword
    rw [hrows keyword, mapM_given u ys keyword] at hxs
    exact (Except.ok.inj hxs).symm
  declares := hdeclares

end Deck

variable {d e : Deck} {g : Grid} {p : Properties} {override : Option ActiveMap}

theorem Registry.ofDeck_congr (h : d.Regrouped e) :
    ofDeck d g p override = ofDeck e g p override := by
  simp only [ofDeck, Couplings.ofDeck, h.records, h.declares]

namespace Configuration

variable {tables : Option InfluenceTables}

/-- A configuration is declared by the records of each keyword, and by whether there are cells. -/
theorem ofDeck_congr (h : d.Regrouped e) : ofDeck d g p tables override =
    ofDeck e g p tables override := by
  simp only [ofDeck, Deck.fetkovich, Deck.carterTracy, Deck.constantFlux, h.records,
    Registry.ofDeck_congr h]

theorem loadInflux_congr (h : d.Regrouped e) (c : Configuration) :
    c.loadInflux d g = c.loadInflux e g := by
  simp only [loadInflux, Influx.ofDeck, h.records]

end Configuration

namespace Deck

/-- A call fails just if one of its rows is invalid, and then it adds nothing. The records of a
keyword are those of the rows that it was given by the other calls, in their order. Calls that give
every keyword the same rows, and agree on whether cells of numerical aquifers are declared at all,
lead to the same outcomes, with the same events. -/
theorem after_accumulates (u : UnitSystem) (xs : List Addition) :
    (∀ x : Addition, ((∃ f d, x.step (after u xs) = .error f d) ↔
        ∃ row ∈ x.rows, ∀ r, Record.ofRow x.keyword row u ≠ .ok r) ∧
      ∀ f d, x.step (after u xs) = .error f d →
        d = after u xs ∧ after u (xs ++ [x]) = after u xs) ∧
    (∀ keyword,
      (given u xs keyword).mapM (Record.ofRow keyword · u) = .ok ((after u xs).records keyword) ∧
      ((after u xs).has keyword = true ↔
        ∃ x ∈ xs, x.accepted u = true ∧ x.keyword = keyword)) ∧
    ∀ ys, (∀ keyword, given u xs keyword = given u ys keyword) →
      (after u xs).has "AQUNUM" = (after u ys).has "AQUNUM" → ∀ g : Grid,
      (∀ p tables override, Configuration.ofDeck (after u xs) g p tables override =
        Configuration.ofDeck (after u ys) g p tables override) ∧
      ∀ c : Configuration, c.loadInflux (after u xs) g = c.loadInflux (after u ys) g := by
  refine ⟨?_, ?_, ?_⟩
  · intro x
    have hinvalid := not_congr (accepted_iff (u := u) (x := x))
    push Not at hinvalid
    rw [← hinvalid]
    obtain ⟨hx, rs, -, hstep, -⟩ | ⟨hx, ⟨f, hfails⟩, hkept⟩ := after_cases u xs x
    · rw [hx, hstep]
      exact ⟨iff_of_false nofun nofun, nofun⟩
    · rw [hx]
      refine ⟨iff_of_true ⟨f, _, hfails⟩ Bool.false_ne_true, fun f' d hd ↦ ?_⟩
      cases hfails.symm.trans hd
      exact ⟨rfl, hkept⟩
  · intro keyword
    exact ⟨mapM_given u xs keyword, has_after u xs keyword⟩
  · intro ys hrows hdeclares g
    have h := regrouped_after hrows hdeclares
    exact ⟨fun p tables override ↦ Configuration.ofDeck_congr h, Configuration.loadInflux_congr h⟩

section Apart

def lowerClaim : Row := .claim 7 ⟨1, 1, 1⟩ ⟨1, 1, 1⟩ "K-"

def upperClaim : Row := .claim 7 ⟨3, 2, 2⟩ ⟨4, 3, 2⟩ "K+" (.real 6.0)

def bareRow : Row := ⟨[], by decide⟩

/-- Two claims in two calls, behind a call that fails in its second row and adds nothing. -/
def apart : List Addition :=
  [⟨"AQUANCON", [lowerClaim, bareRow]⟩, ⟨"AQUANCON", [lowerClaim]⟩, ⟨"AQUNUM", []⟩,
    ⟨"AQUANCON", [upperClaim]⟩]

def together : List Addition :=
  [⟨"AQUNUM", []⟩, ⟨"AQUANCON", [lowerClaim, upperClaim]⟩]

theorem accepted_claims : Addition.accepted .metric ⟨"AQUANCON", [lowerClaim, bareRow]⟩ = false ∧
    Addition.accepted .metric ⟨"AQUANCON", [lowerClaim]⟩ = true ∧
    Addition.accepted .metric ⟨"AQUANCON", [upperClaim]⟩ = true ∧
    Addition.accepted .metric ⟨"AQUANCON", [lowerClaim, upperClaim]⟩ = true := by
  have hclaim (row : Row) (h : row.resolves .aquancon = true) :
      Record.ofRow "AQUANCON" row .metric = .ok (.ofItems row .aquancon) :=
    Record.ofRow_of_resolves .aquancon rfl h .metric
  have hlower := hclaim lowerClaim rfl
  have hupper := hclaim upperClaim rfl
  have hbare : ∀ r, Record.ofRow "AQUANCON" bareRow .metric ≠ .ok r :=
    fun r hr ↦ nomatch Record.items_of_ofRow hr rfl
  refine ⟨?_, accepted_iff.mpr (by simp [hlower]), accepted_iff.mpr (by simp [hupper]),
    accepted_iff.mpr (by simp [hlower, hupper])⟩
  rw [← Bool.not_eq_true, accepted_iff]
  exact fun h ↦ (h bareRow (by simp)).elim hbare

theorem given_apart (keyword : String) :
    given .metric apart keyword = given .metric together keyword := by
  obtain ⟨hfails, hlower, hupper, hboth⟩ := accepted_claims
  have hcells : Addition.accepted .metric ⟨"AQUNUM", []⟩ = true := rfl
  cases hclaims : "AQUANCON" == keyword <;> cases hnum : "AQUNUM" == keyword <;>
    simp [given, apart, together, hfails, hlower, hupper, hboth, hcells, hclaims, hnum]

theorem after_accumulates_apart :
    (∃ f, Addition.step ⟨"AQUANCON", [lowerClaim, bareRow]⟩ (after .metric apart) =
      .error f (after .metric apart)) ∧
    (∀ keyword, given .metric apart keyword = given .metric together keyword) ∧
    (after .metric apart).has "AQUNUM" = (after .metric together).has "AQUNUM" ∧
    ∀ c : Configuration, c.loadInflux (after .metric apart) .block =
      c.loadInflux (after .metric together) .block := by
  have hcells : Addition.accepted .metric ⟨"AQUNUM", []⟩ = true := rfl
  have hdeclares : (after .metric apart).has "AQUNUM" = (after .metric together).has "AQUNUM" := by
    rw [(has_after .metric apart "AQUNUM").mpr ⟨⟨"AQUNUM", []⟩, by simp [apart], hcells, rfl⟩,
      (has_after .metric together "AQUNUM").mpr ⟨⟨"AQUNUM", []⟩, by simp [together], hcells, rfl⟩]
  obtain ⟨hfails, -, hsame⟩ := after_accumulates .metric apart
  obtain ⟨hiff, hkept⟩ := hfails ⟨"AQUANCON", [lowerClaim, bareRow]⟩
  obtain ⟨f, d, hf⟩ := hiff.mpr
    ⟨bareRow, by simp, fun r hr ↦ nomatch Record.items_of_ofRow hr rfl⟩
  obtain ⟨rfl, -⟩ := hkept f d hf
  exact ⟨⟨f, hf⟩, given_apart, hdeclares, (hsame together given_apart hdeclares .block).2⟩

end Apart

end Deck

end Aquifer
