import Mathlib.Data.List.Forall2
import Mathlib.Data.List.Induction
import Mathlib.Data.List.Perm.Basic

namespace Aquifer

/-- Every entry of a list is let through after the entries before it. -/
def EachAfter {α : Type} (through : List α → α → Prop) (xs : List α) : Prop :=
  ∀ ys x zs, xs = ys ++ x :: zs → through ys x

section EachAfter

variable {α κ : Type} {through : List α → α → Prop} {xs : List α} {x : α}

theorem eachAfter_nil : EachAfter through [] := by
  intro ys x zs h
  simp at h

theorem eachAfter_concat :
    EachAfter through (xs ++ [x]) ↔ EachAfter through xs ∧ through xs x := by
  constructor
  · intro h
    refine ⟨fun ys y zs hxs ↦ h ys y (zs ++ [x]) ?_, h xs x [] rfl⟩
    rw [hxs, List.append_assoc, List.cons_append]
  · rintro ⟨hxs, hx⟩ ys y zs h
    rcases List.eq_nil_or_concat' zs with rfl | ⟨zs, z, rfl⟩
    · obtain ⟨rfl, hy⟩ := List.append_inj' h rfl
      cases hy
      exact hx
    · rw [← List.cons_append, ← List.append_assoc] at h
      exact hxs ys y zs (List.append_inj' h rfl).1

theorem eachAfter_cons : EachAfter through (x :: xs) ↔
    through [] x ∧ EachAfter (fun ys y ↦ through (x :: ys) y) xs := by
  constructor
  · intro h
    refine ⟨h [] x xs rfl, fun ys y zs hxs ↦ h (x :: ys) y zs ?_⟩
    rw [hxs, List.cons_append]
  · rintro ⟨hx, hxs⟩ ys y zs h
    cases ys with
    | nil =>
      cases h
      exact hx
    | cons z ys =>
      obtain ⟨rfl, htail⟩ := List.cons.inj h
      exact hxs ys y zs htail

theorem eachAfter_and {P Q : List α → α → Prop} :
    EachAfter (fun ys x ↦ P ys x ∧ Q ys x) xs ↔ EachAfter P xs ∧ EachAfter Q xs := by
  constructor
  · intro h
    exact ⟨fun ys x zs hxs ↦ (h ys x zs hxs).1, fun ys x zs hxs ↦ (h ys x zs hxs).2⟩
  · intro h ys x zs hxs
    exact ⟨h.1 ys x zs hxs, h.2 ys x zs hxs⟩

theorem eachAfter_iff_forall {p : α → Prop} : EachAfter (fun _ x ↦ p x) xs ↔ ∀ x ∈ xs, p x := by
  constructor
  · intro h x hx
    obtain ⟨ys, zs, hxs⟩ := List.append_of_mem hx
    exact h ys x zs hxs
  · intro h ys x zs hxs
    apply h
    rw [hxs]
    exact List.mem_append_right _ List.mem_cons_self

/-- Entries that each bring a new key are entries with different keys. -/
theorem eachAfter_iff_nodup {key : α → κ} :
    EachAfter (fun ys x ↦ key x ∉ ys.map key) xs ↔ (xs.map key).Nodup := by
  induction xs using List.reverseRecOn with
  | nil => exact ⟨fun _ ↦ List.nodup_nil, fun _ ↦ eachAfter_nil⟩
  | append_singleton xs x ih =>
    rw [eachAfter_concat, ih, List.map_append, List.map_singleton, List.nodup_append]
    constructor
    · intro h
      obtain ⟨hxs, hx⟩ := h
      refine ⟨hxs, List.pairwise_singleton _ _, fun k hk l hl ↦ ?_⟩
      rw [List.mem_singleton.mp hl]
      exact fun hkey ↦ hx (hkey ▸ hk)
    · intro h
      obtain ⟨hxs, -, hne⟩ := h
      exact ⟨hxs, fun hx ↦ hne _ hx _ (List.mem_singleton_self _) rfl⟩

/-- Either all entries are let through, or there is a first one that is not. -/
theorem eachAfter_or_exists (through : List α → α → Prop) (xs : List α) :
    EachAfter through xs ∨
      ∃ ys x zs, xs = ys ++ x :: zs ∧ EachAfter through ys ∧ ¬through ys x := by
  induction xs using List.reverseRecOn with
  | nil => exact Or.inl eachAfter_nil
  | append_singleton xs x ih =>
    rcases ih with h | ⟨ys, y, zs, rfl, hys, hy⟩
    · by_cases hx : through xs x
      · exact Or.inl (eachAfter_concat.mpr ⟨h, hx⟩)
      · exact Or.inr ⟨xs, x, [], rfl, h, hx⟩
    · refine Or.inr ⟨ys, y, zs ++ [x], ?_, hys, hy⟩
      rw [List.append_assoc, List.cons_append]

end EachAfter

theorem foldlM_flatten {m : Type → Type} [Monad m] [LawfulMonad m] {α σ : Type}
    (step : σ → α → m σ) (xss : List (List α)) (s : σ) :
    xss.flatten.foldlM step s = xss.foldlM (fun s xs ↦ xs.foldlM step s) s := by
  induction xss generalizing s with
  | nil => rfl
  | cons xs xss ih =>
    rw [List.flatten_cons, List.foldlM_append, List.foldlM_cons]
    simp only [ih]

end Aquifer

namespace EStateM

variable {ε σ α β : Type} {x : EStateM ε σ α} {f : α → EStateM ε σ β} {s t u : σ} {a : α} {b : β}
  {e : ε}

theorem bind_of_ok (h : x s = .ok a t) : (x >>= f) s = f a t := by
  show EStateM.bind x f s = f a t
  simp only [EStateM.bind, h]

theorem bind_of_error (h : x s = .error e t) : (x >>= f) s = .error e t := by
  show EStateM.bind x f s = .error e t
  simp only [EStateM.bind, h]

theorem bind_eq_ok_iff : (x >>= f) s = .ok b u ↔ ∃ a t, x s = .ok a t ∧ f a t = .ok b u := by
  constructor
  · intro h
    cases hx : x s with
    | ok a t =>
      rw [bind_of_ok hx] at h
      exact ⟨a, t, rfl, h⟩
    | error e t =>
      rw [bind_of_error hx] at h
      exact nomatch h
  · intro h
    obtain ⟨a, t, hx, hf⟩ := h
    rw [bind_of_ok hx, hf]

theorem bind_eq_error_iff : (x >>= f) s = .error e u ↔
    x s = .error e u ∨ ∃ a t, x s = .ok a t ∧ f a t = .error e u := by
  constructor
  · intro h
    cases hx : x s with
    | ok a t =>
      rw [bind_of_ok hx] at h
      exact Or.inr ⟨a, t, rfl, h⟩
    | error e t =>
      rw [bind_of_error hx] at h
      cases h
      exact Or.inl rfl
  · rintro (h | ⟨a, t, hx, hf⟩)
    · exact bind_of_error h
    · rw [bind_of_ok hx, hf]

end EStateM

namespace Except

open Aquifer

variable {ε α β σ : Type}

theorem ok_bind (a : α) (f : α → Except ε β) : .ok a >>= f = f a := rfl

theorem bind_eq_ok_iff {x : Except ε α} {f : α → Except ε β} {b : β} :
    x >>= f = .ok b ↔ ∃ a, x = .ok a ∧ f a = .ok b := by
  constructor
  · intro h
    cases x with
    | ok a => exact ⟨a, rfl, h⟩
    | error e => exact nomatch h
  · intro h
    obtain ⟨a, rfl, h⟩ := h
    exact h

theorem bind_eq_error_iff {x : Except ε α} {f : α → Except ε β} {e : ε} :
    x >>= f = .error e ↔ x = .error e ∨ ∃ a, x = .ok a ∧ f a = .error e := by
  constructor
  · intro h
    cases x with
    | ok a => exact Or.inr ⟨a, rfl, h⟩
    | error d =>
      cases h
      exact Or.inl rfl
  · rintro (rfl | ⟨a, rfl, h⟩)
    · rfl
    · exact h

theorem map_eq_ok_iff {x : Except ε α} {f : α → β} {b : β} :
    x.map f = .ok b ↔ ∃ a, x = .ok a ∧ f a = b := by
  constructor
  · intro h
    cases x with
    | ok a => exact ⟨a, rfl, Except.ok.inj h⟩
    | error e => exact nomatch h
  · intro h
    obtain ⟨a, rfl, rfl⟩ := h
    rfl

theorem map_eq_error_iff {x : Except ε α} {f : α → β} {e : ε} :
    x.map f = .error e ↔ x = .error e := by
  cases x with
  | ok a => exact ⟨nofun, nofun⟩
  | error d =>
    exact ⟨fun h ↦ congrArg _ (Except.error.inj h), fun h ↦ congrArg _ (Except.error.inj h)⟩

theorem mapError_eq_ok_iff {ε' : Type} {x : Except ε α} {f : ε → ε'} {a : α} :
    x.mapError f = .ok a ↔ x = .ok a := by
  cases x with
  | ok b => exact ⟨fun h ↦ congrArg _ (Except.ok.inj h), fun h ↦ congrArg _ (Except.ok.inj h)⟩
  | error e => exact ⟨nofun, nofun⟩

theorem exists_of_isOk {x : Except ε α} (h : x.isOk = true) : ∃ a, x = .ok a := by
  cases x with
  | ok a => exact ⟨a, rfl⟩
  | error e => exact nomatch h

theorem exists_of_isOk_eq_false {x : Except ε α} (h : x.isOk = false) : ∃ e, x = .error e := by
  cases x with
  | ok a => exact nomatch h
  | error e => exact ⟨e, rfl⟩

theorem mapM_eq_ok_iff {f : α → Except ε β} {xs : List α} {ys : List β} :
    xs.mapM f = .ok ys ↔ List.Forall₂ (fun x y ↦ f x = .ok y) xs ys := by
  induction xs generalizing ys with
  | nil =>
    rw [List.mapM_nil, List.forall₂_nil_left_iff]
    exact ⟨fun h ↦ (Except.ok.inj h).symm, fun h ↦ h ▸ rfl⟩
  | cons x xs ih =>
    rw [List.mapM_cons, bind_eq_ok_iff, List.forall₂_cons_left_iff]
    constructor
    · intro h
      obtain ⟨y, hy, h⟩ := h
      obtain ⟨ys, hys, h⟩ := bind_eq_ok_iff.mp h
      cases Except.ok.inj h
      exact ⟨y, ys, hy, ih.mp hys, rfl⟩
    · intro h
      obtain ⟨y, ys, hy, hys, rfl⟩ := h
      exact ⟨y, hy, bind_eq_ok_iff.mpr ⟨ys, ih.mpr hys, rfl⟩⟩

/-- Computing entries one after another fails with the first failure. -/
theorem mapM_eq_error_iff {f : α → Except ε β} {xs : List α} {e : ε} :
    xs.mapM f = .error e ↔
      ∃ ys x zs, xs = ys ++ x :: zs ∧ (∀ y ∈ ys, ∃ b, f y = .ok b) ∧ f x = .error e := by
  induction xs with
  | nil =>
    constructor
    · exact nofun
    · intro h
      obtain ⟨ys, x, zs, h, -⟩ := h
      exact absurd h.symm (by simp)
  | cons x xs ih =>
    rw [List.mapM_cons, bind_eq_error_iff]
    constructor
    · rintro (hx | ⟨b, hb, h⟩)
      · exact ⟨[], x, xs, rfl, List.forall_mem_nil _, hx⟩
      · rcases bind_eq_error_iff.mp h with h | ⟨_, -, h⟩
        · obtain ⟨ys, y, zs, rfl, hys, hy⟩ := ih.mp h
          exact ⟨x :: ys, y, zs, rfl, List.forall_mem_cons.mpr ⟨⟨b, hb⟩, hys⟩, hy⟩
        · cases h
    · intro h
      obtain ⟨ys, y, zs, hxs, hys, hy⟩ := h
      cases ys with
      | nil =>
        cases hxs
        exact Or.inl hy
      | cons w ys =>
        cases hxs
        obtain ⟨⟨b, hb⟩, hys⟩ := List.forall_mem_cons.mp hys
        refine Or.inr ⟨b, hb, ?_⟩
        rw [ih.mpr ⟨ys, y, zs, rfl, hys, hy⟩]
        rfl

theorem exists_mapM_eq_ok {f : α → Except ε β} {xs : List α} (h : ∀ x ∈ xs, ∃ y, f x = .ok y) :
    ∃ ys, xs.mapM f = .ok ys := by
  induction xs with
  | nil => exact ⟨[], rfl⟩
  | cons x xs ih =>
    rw [List.forall_mem_cons] at h
    obtain ⟨⟨y, hy⟩, hxs⟩ := h
    obtain ⟨ys, hys⟩ := ih hxs
    exact ⟨y :: ys, mapM_eq_ok_iff.mpr (.cons hy (mapM_eq_ok_iff.mp hys))⟩

theorem exists_getElem?_of_mapM {f : α → Except ε β} {xs : List α} {ys : List β}
    (h : xs.mapM f = .ok ys) {n : Nat} {x : α} (hx : xs[n]? = some x) :
    ∃ y, ys[n]? = some y ∧ f x = .ok y := by
  obtain ⟨hlength, hget⟩ := List.forall₂_iff_get.mp (mapM_eq_ok_iff.mp h)
  obtain ⟨hn, rfl⟩ := List.getElem?_eq_some_iff.mp hx
  exact ⟨_, List.getElem?_eq_getElem (hlength ▸ hn), hget n hn (hlength ▸ hn)⟩

theorem exists_of_mem_mapM {f : α → Except ε β} {xs : List α} {ys : List β}
    (h : xs.mapM f = .ok ys) :
    (∀ x ∈ xs, ∃ y ∈ ys, f x = .ok y) ∧ ∀ y ∈ ys, ∃ x ∈ xs, f x = .ok y := by
  rw [mapM_eq_ok_iff] at h
  induction h with
  | nil => exact ⟨List.forall_mem_nil _, List.forall_mem_nil _⟩
  | @cons x y xs ys hx _ ih =>
    simp only [List.forall_mem_cons, List.exists_mem_cons_iff]
    exact ⟨⟨Or.inl hx, fun z hz ↦ Or.inr (ih.1 z hz)⟩, Or.inl hx, fun z hz ↦ Or.inr (ih.2 z hz)⟩

/-- Entries in another order are computed just as well, with the outcomes in that order. -/
theorem forall₂_of_mapM {f : α → Except ε β} {xs : List α} {ys : List β} {R : α → β → Prop}
    (h : xs.mapM f = .ok ys) (hR : ∀ x ∈ xs, ∀ y, f x = .ok y → R x y) : List.Forall₂ R xs ys := by
  rw [mapM_eq_ok_iff] at h
  induction h with
  | nil => exact .nil
  | cons hx _ ih =>
    rw [List.forall_mem_cons] at hR
    exact .cons (hR.1 _ hx) (ih hR.2)

theorem mapM_perm {f : α → Except ε β} {xs xs' : List α} {ys : List β} (h : xs.Perm xs')
    (hys : xs.mapM f = .ok ys) : ∃ ys', xs'.mapM f = .ok ys' ∧ ys.Perm ys' := by
  obtain ⟨ys', hys', hperm⟩ := List.perm_comp_forall₂ h.symm (mapM_eq_ok_iff.mp hys)
  exact ⟨ys', mapM_eq_ok_iff.mpr hys', hperm.symm⟩

theorem mapM_eq_ok_map {f : α → Except ε β} {g : α → β} {xs : List α}
    (h : ∀ x ∈ xs, f x = .ok (g x)) : xs.mapM f = .ok (xs.map g) := by
  rw [mapM_eq_ok_iff, List.forall₂_map_right_iff, List.forall₂_same]
  exact h

theorem mapM_eq_ok_filterMap {f : α → Except ε β} {xs : List α}
    (h : ∀ x ∈ xs, (f x).isOk = true) : xs.mapM f = .ok (xs.filterMap fun x ↦ (f x).toOption) := by
  induction xs with
  | nil => rfl
  | cons x xs ih =>
    rw [List.forall_mem_cons] at h
    rw [List.mapM_cons, ih h.2]
    cases hx : f x with
    | ok y => rw [List.filterMap_cons, hx]; rfl
    | error e =>
      rw [hx] at h
      exact nomatch h.1

theorem filterM_eq_ok {f : α → Except ε Bool} {p : α → Bool} (h : ∀ x, f x = .ok (p x))
    (xs : List α) : xs.filterM f = .ok (xs.filter p) := by
  have haux : ∀ ys, xs.filterAuxM f ys = .ok ((xs.filter p).reverse ++ ys) := by
    induction xs with
    | nil => exact fun _ ↦ rfl
    | cons x xs ih =>
      intro ys
      rw [List.filterAuxM, h, ok_bind, ih, List.filter_cons]
      cases p x
      · rfl
      · simp only [cond_true, if_true, List.reverse_cons, List.append_assoc,
          List.singleton_append]
  rw [List.filterM, haux, ok_bind, List.append_nil, List.reverse_reverse]
  rfl

section Loop

/-- A loop that computes each entry and takes a step with it succeeds if all entries can be computed
and the steps can be taken. -/
theorem foldlM_bind_eq_ok_iff {f : α → Except ε β} {step : σ → β → Except ε σ} {xs : List α}
    {s t : σ} :
    xs.foldlM (fun s x ↦ f x >>= step s) s = .ok t ↔
      ∃ ys, xs.mapM f = .ok ys ∧ ys.foldlM step s = .ok t := by
  induction xs generalizing s with
  | nil =>
    constructor
    · exact fun h ↦ ⟨[], rfl, h⟩
    · intro h
      obtain ⟨ys, hys, h⟩ := h
      cases Except.ok.inj hys
      exact h
  | cons x xs ih =>
    simp only [List.foldlM_cons, List.mapM_cons, bind_eq_ok_iff, ih]
    constructor
    · intro h
      obtain ⟨u, ⟨y, hy, hu⟩, ys, hys, h⟩ := h
      refine ⟨y :: ys, ⟨y, hy, ys, hys, rfl⟩, ?_⟩
      rw [List.foldlM_cons, hu]
      exact h
    · intro h
      obtain ⟨_, ⟨y, hy, ys, hys, hcons⟩, h⟩ := h
      cases Except.ok.inj hcons
      rw [List.foldlM_cons] at h
      obtain ⟨u, hu, h⟩ := bind_eq_ok_iff.mp h
      exact ⟨u, ⟨y, hy, hu⟩, ys, hys, h⟩

/-- If all entries can be computed, it runs as the loop over what is computed. -/
theorem foldlM_of_mapM {f : α → Except ε β} {xs : List α} {ys : List β} (h : xs.mapM f = .ok ys)
    (step : σ → β → Except ε σ) (s : σ) :
    xs.foldlM (fun s x ↦ f x >>= step s) s = ys.foldlM step s := by
  rw [mapM_eq_ok_iff] at h
  induction h generalizing s with
  | nil => rfl
  | cons hx _ ih =>
    rw [List.foldlM_cons, hx, ok_bind, List.foldlM_cons]
    simp only [ih]

variable {step : σ → α → Except ε σ} {I : List α → σ → Prop} {through : List α → α → Prop}
  {xs : List α} {s : σ}

/-- What every step keeps, a loop keeps. -/
theorem foldlM_keeps {P : σ → Prop} (hstep : ∀ t x u, P t → step t x = .ok u → P u) (hs : P s)
    {t : σ} (h : xs.foldlM step s = .ok t) : P t := by
  induction xs generalizing s with
  | nil => exact Except.ok.inj h ▸ hs
  | cons x xs ih =>
    rw [List.foldlM_cons] at h
    obtain ⟨u, hu, h⟩ := bind_eq_ok_iff.mp h
    exact ih (hstep s x u hs hu) h

/-- A loop whose steps succeed on the entries that are let through, and keep the invariant, runs
over a list of such entries. -/
theorem foldlM_of_eachAfter
    (hstep : ∀ ys t x, I ys t → through ys x → ∃ u, step t x = .ok u ∧ I (ys ++ [x]) u)
    (hs : I [] s) (h : EachAfter through xs) : ∃ t, xs.foldlM step s = .ok t ∧ I xs t := by
  induction xs using List.reverseRecOn with
  | nil => exact ⟨s, rfl, hs⟩
  | append_singleton xs x ih =>
    obtain ⟨hxs, hx⟩ := eachAfter_concat.mp h
    obtain ⟨t, ht, hI⟩ := ih hxs
    obtain ⟨u, hu, hI⟩ := hstep xs t x hI hx
    refine ⟨u, ?_, hI⟩
    rw [List.foldlM_append, ht, ok_bind, List.foldlM_cons, hu]
    rfl

/-- If moreover the step of every entry that is not let through fails, then the loop runs over such
lists only. -/
theorem eachAfter_of_foldlM_eq_ok
    (hstep : ∀ ys t x, I ys t → through ys x → ∃ u, step t x = .ok u ∧ I (ys ++ [x]) u)
    (hfail : ∀ ys t x, I ys t → ¬through ys x → ∃ e, step t x = .error e) (hs : I [] s) {t : σ}
    (h : xs.foldlM step s = .ok t) : EachAfter through xs ∧ I xs t := by
  rcases eachAfter_or_exists through xs with hxs | ⟨ys, x, zs, rfl, hys, hx⟩
  · obtain ⟨u, hu, hI⟩ := foldlM_of_eachAfter hstep hs hxs
    cases Except.ok.inj (h.symm.trans hu)
    exact ⟨hxs, hI⟩
  · obtain ⟨u, hu, hI⟩ := foldlM_of_eachAfter hstep hs hys
    obtain ⟨e, he⟩ := hfail ys u x hI hx
    rw [List.foldlM_append, hu, ok_bind, List.foldlM_cons, he] at h
    exact nomatch h

/-- A loop fails with what is said about the first entry that is not let through. What is let
through, and what is said, may depend on a view of each entry. -/
theorem foldlM_eq_error_iff {R : α → β → Prop} {vs : List β} {I : List β → σ → Prop}
    {P : List β → β → Prop} {Q : List β → β → ε → Prop} {e : ε}
    (hstep : ∀ ws t x v, R x v → I ws t → P ws v → ∃ u, step t x = .ok u ∧ I (ws ++ [v]) u)
    (hfail : ∀ ws t x v, R x v → I ws t → ¬P ws v → ∃ d, step t x = .error d ∧
      ∀ e, Q ws v e ↔ e = d)
    (hs : I [] s) (hxs : List.Forall₂ R xs vs) :
    xs.foldlM step s = .error e ↔
      ∃ ws v zs, vs = ws ++ v :: zs ∧ EachAfter P ws ∧ ¬P ws v ∧ Q ws v e := by
  induction hxs generalizing I P Q s with
  | nil =>
    constructor
    · exact nofun
    · rintro ⟨ws, v, zs, h, -⟩
      exact absurd h.symm (by simp)
  | @cons x v xs vs hx _ ih =>
    rw [List.foldlM_cons]
    by_cases hv : P [] v
    · obtain ⟨u, hu, hI⟩ := hstep [] s x v hx hs hv
      -- what holds after the first view takes the place of what holds at the start
      rw [hu, ok_bind, ih (I := fun ws ↦ I (v :: ws)) (P := fun ws ↦ P (v :: ws))
        (Q := fun ws ↦ Q (v :: ws)) (fun ws ↦ hstep (v :: ws)) (fun ws ↦ hfail (v :: ws)) hI]
      constructor
      · rintro ⟨ws, w, zs, rfl, hws, h⟩
        exact ⟨v :: ws, w, zs, rfl, eachAfter_cons.mpr ⟨hv, hws⟩, h⟩
      · rintro ⟨ws, w, zs, h, hws, hw⟩
        cases ws with
        | nil =>
          cases h
          exact absurd hv hw.1
        | cons y ws =>
          obtain ⟨rfl, htail⟩ := List.cons.inj h
          exact ⟨ws, w, zs, htail, (eachAfter_cons.mp hws).2, hw⟩
    · obtain ⟨d, hd, hQ⟩ := hfail [] s x v hx hs hv
      rw [hd]
      constructor
      · intro h
        cases h
        exact ⟨[], v, vs, rfl, eachAfter_nil, hv, (hQ e).mpr rfl⟩
      · rintro ⟨ws, w, zs, h, hws, hw⟩
        cases ws with
        | nil =>
          cases h
          rw [(hQ e).mp hw.2]
          rfl
        | cons y ws =>
          obtain ⟨rfl, -⟩ := List.cons.inj h
          exact absurd (eachAfter_cons.mp hws).1 hv

end Loop

section Distinct

variable {ε' κ : Type} {f : σ → α → Except ε σ} {wrap : ε → ε'} {key : α → κ}
  {I : σ → List α → Prop} {xs : List α} {s : σ}

/-- A loop that takes entries with new keys, and keeps the invariant, runs over entries with
different keys. -/
theorem foldlM_of_nodup
    (hnew : ∀ ys t x, I t ys → key x ∉ ys.map key → ∃ u, f t x = .ok u ∧ I u (ys ++ [x]))
    (hs : I s []) (h : (xs.map key).Nodup) :
    ∃ t, xs.foldlM (fun t x ↦ (f t x).mapError wrap) s = .ok t ∧ I t xs := by
  refine foldlM_of_eachAfter (I := fun ys t ↦ I t ys) ?_ hs (eachAfter_iff_nodup.mpr h)
  intro ys t x hI hx
  obtain ⟨u, hu, hI⟩ := hnew ys t x hI hx
  exact ⟨u, by rw [hu]; rfl, hI⟩

/-- If moreover it refuses entries with known keys, then it runs over such entries only. -/
theorem nodup_of_foldlM_eq_ok
    (hnew : ∀ ys t x, I t ys → key x ∉ ys.map key → ∃ u, f t x = .ok u ∧ I u (ys ++ [x]))
    (hknown : ∀ ys t x, I t ys → key x ∈ ys.map key → ∃ e, f t x = .error e) (hs : I s []) {t : σ}
    (h : xs.foldlM (fun t x ↦ (f t x).mapError wrap) s = .ok t) : (xs.map key).Nodup ∧ I t xs := by
  rw [← eachAfter_iff_nodup]
  refine eachAfter_of_foldlM_eq_ok (I := fun ys t ↦ I t ys) ?_ ?_ hs h
  · intro ys t x hI hx
    obtain ⟨u, hu, hI⟩ := hnew ys t x hI hx
    exact ⟨u, by rw [hu]; rfl, hI⟩
  · intro ys t x hI hx
    obtain ⟨e, he⟩ := hknown ys t x hI (not_not.mp hx)
    exact ⟨wrap e, by rw [he]; rfl⟩

end Distinct

section FailsWith

/-- Whatever the computation fails with has the property. -/
def FailsWith (P : ε → Prop) (x : Except ε α) : Prop := ∀ e, x = .error e → P e

variable {P Q : ε → Prop} {x : Except ε α} {xs : List α}

theorem FailsWith.of_ok (h : ∃ a, x = .ok a) : x.FailsWith P := by
  obtain ⟨a, rfl⟩ := h
  exact nofun

theorem FailsWith.mono (h : x.FailsWith P) (hPQ : ∀ e, P e → Q e) : x.FailsWith Q :=
  fun e he ↦ hPQ e (h e he)

theorem FailsWith.bind {f : α → Except ε β} (hx : x.FailsWith P)
    (hf : ∀ a, x = .ok a → (f a).FailsWith P) : (x >>= f).FailsWith P := by
  cases x with
  | ok a => exact hf a rfl
  | error e =>
    intro e' he
    cases he
    exact hx e rfl

theorem FailsWith.foldlM {step : σ → α → Except ε σ} (h : ∀ s, ∀ x ∈ xs, (step s x).FailsWith P)
    (s : σ) : (xs.foldlM step s).FailsWith P := by
  induction xs generalizing s with
  | nil => exact .of_ok ⟨s, rfl⟩
  | cons x xs ih =>
    rw [List.foldlM_cons]
    refine .bind (h s x (List.mem_cons_self ..)) fun t _ ↦ ih (fun s y hy ↦ ?_) t
    exact h s y (List.mem_cons_of_mem x hy)

end FailsWith

end Except
