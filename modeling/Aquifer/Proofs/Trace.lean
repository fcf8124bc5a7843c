import Aquifer.Trace
import Aquifer.Proofs.Outcome

namespace Aquifer

namespace Traced

variable {α β γ σ : Type}

theorem ofExcept_ok_bind (a : α) (f : α → Traced β) : ofExcept (.ok a) >>= f = f a := by
  show Traced.mk ([] ++ (f a).events) (f a).result = f a
  rw [List.nil_append]

theorem bind_pure_id (x : Traced α) : (x >>= fun a ↦ pure a) = x := by
  obtain ⟨es, _ | a⟩ := x
  · rfl
  · show Traced.mk (es ++ []) (.ok a) = _
    rw [List.append_nil]

theorem bind_bind (x : Traced α) (f : α → Traced β) (h : β → Traced γ) :
    x >>= f >>= h = x >>= fun a ↦ f a >>= h := by
  obtain ⟨es, _ | a⟩ := x
  · rfl
  · show bind ⟨es ++ (f a).events, (f a).result⟩ h =
      ⟨es ++ (bind (f a) h).events, (bind (f a) h).result⟩
    rcases hf : f a with ⟨fs, _ | b⟩
    · rfl
    · show Traced.mk (es ++ fs ++ (h b).events) (h b).result =
        ⟨es ++ (fs ++ (h b).events), (h b).result⟩
      rw [List.append_assoc]

instance : LawfulMonad Traced :=
  LawfulMonad.mk' Traced bind_pure_id ofExcept_ok_bind bind_bind

theorem bind_of_result {x : Traced α} {a : α} (h : x.result = .ok a) (f : α → Traced β) :
    x >>= f = ⟨x.events ++ (f a).events, (f a).result⟩ := by
  obtain ⟨es, r⟩ := x
  cases h
  rfl

theorem result_foldlM (step : σ → α → Traced σ) (s : σ) (xs : List α) :
    (xs.foldlM step s).result = xs.foldlM (fun s x ↦ (step s x).result) s := by
  induction xs generalizing s with
  | nil => rfl
  | cons x xs ih =>
    rw [List.foldlM_cons, List.foldlM_cons, result_bind]
    simp only [ih]

/-- A loop that computes each entry and takes a step with it is a loop over what is computed, if all
entries can be computed. -/
theorem foldlM_of_mapM {f : α → Except Fault β} {step : σ → β → Traced σ} {xs : List α}
    {ys : List β} (h : xs.mapM f = .ok ys) (s : σ) :
    xs.foldlM (fun s x ↦ ofExcept (f x) >>= step s) s = ys.foldlM step s := by
  rw [Except.mapM_eq_ok_iff] at h
  induction h generalizing s with
  | nil => rfl
  | cons hx _ ih =>
    rw [List.foldlM_cons, hx, ofExcept_ok_bind, List.foldlM_cons]
    simp only [ih]

end Traced

end Aquifer
